import BuildOrder.Command.Run

/-!
# What is said about errors

An error is said as a chain of texts, from the outermost down to its cause. A cause that has a text of its own is
said again after the error that quotes it.
-/

namespace BuildOrder

def ManifestError.chain (e : ManifestError) : List String :=
  e.message :: match e with
    | .unreadable _ fault => [fault.message]
    | .json error => [error.message]
    | .toml error => [error.message]
    | .invalidNode => [Json.Cause.noMatchingVariant.text]
    | _ => []

def WriteError.chain : WriteError → List String
  | .full => ["writer full"]
  | .fullInArray => ["Failed to serialize order", "writer full"]

def RunError.chain : RunError → List String
  | .manifest (.path path) e => s!"Failed to load manifest {path}" :: e.chain
  | .manifest .standardInput e => "Failed to load manifest from stdin" :: e.chain
  | .write e => e.chain

def EnvFileError.chain (e : EnvFileError) : List String :=
  e.message :: match e.fault with
    | .line fault => [fault.message]
    | .unreadable fault => [fault.message, fault.message]

def SettingsError.chain (e : SettingsError) : List String :=
  e.message :: match e with
    | .duplicateVariable v => [v.duplicateReason]
    | .invalid _ => []

/-! ### Reports -/

/-- A text with blanks behind each of its line feeds. -/
def hanging (blanks : Nat) (text : String) : String :=
  String.ofList (text.toList.flatMap fun c => if c = '\n' then '\n' :: List.replicate blanks ' ' else [c])

/-- A cause among several, with its number. -/
def numbered (cause : String × Nat) : String :=
  let number := toString cause.2
  String.ofList (List.replicate (5 - number.length) ' ') ++ number ++ ": " ++ hanging 7 cause.1

/-- The report of an error: its outermost text, and its causes indented below. -/
def report : List String → String
  | [] => ""
  | [outermost] => s!"Error: {outermost}\n"
  | [outermost, cause] => s!"Error: {outermost}\n\nCaused by:\n    {hanging 4 cause}\n"
  | outermost :: causes =>
    s!"Error: {outermost}\n\nCaused by:\n" ++ "\n".intercalate (causes.zipIdx.map numbered) ++ "\n"

end BuildOrder
