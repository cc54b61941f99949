import BuildOrder.Command.Process
import BuildOrder.Log.Clock
import Std.Time.DateTime.Timestamp

/-!
# The command line

Collects what a run is called with, carries it out, and writes what it leaves behind.

A run is described for variables that are texts, and what it does about others is left open. Here they are dropped,
as if they were not set.
-/

namespace BuildOrder.Main

/-- The bytes behind a path, or why there are none. -/
def readFile (path : String) : IO (Except ReadFault ByteArray) := do
  try
    return .ok (← IO.FS.readBinFile path)
  catch
    | .noFileOrDirectory .. => return .error .notFound
    | .inappropriateType _ code _ => return .error (if code = 21 ∨ code = 0 - 21 then .isDirectory else .notDirectory)
    | e => return .error (.broken (toString e))

/-- A variable from its name, an equals sign, and its value. -/
def entryOf? (entry : List UInt8) : Option (String × String) :=
  match ((String.fromUTF8? ⟨entry.toArray⟩).getD "").splitOn "=" with
  | name :: value :: rest => some (name, "=".intercalate (value :: rest))
  | _ => none

/-- The variables in front of null bytes, behind the bytes of one so far, which are kept last first. -/
def entriesOf (entry : List UInt8) : List UInt8 → List (String × String)
  | [] => []
  | b :: bs => if b = 0 then (entryOf? entry.reverse).toList ++ entriesOf [] bs else entriesOf (b :: entry) bs

/-- The variables of this process. One that is no text is dropped, though it is set. -/
def readEnvironment : IO Environment := do
  let .ok bytes ← readFile "/proc/self/environ" | return .empty
  return ⟨entriesOf [] bytes.toList⟩

def isFile (path : String) : IO Bool := do
  try
    let place ← IO.FS.realPath path
    let data ← place.metadata
    return data.type == .file
  catch _ => return false

/-- The directories from one up to the root, given by the names that lead up. -/
def upward : List String → List String
  | [] => ["/"]
  | name :: names => ("/" ++ "/".intercalate (name :: names).reverse ++ "/") :: upward names

/-- The nearest file of a name, at or above the working directory. -/
def findFile (name : String) : IO (Option (String × Except ReadFault ByteArray)) := do
  let here ← IO.currentDir
  let names := (here.toString.splitOn "/").filter (· ≠ "")
  for directory in upward names.reverse do
    let path := directory ++ name
    if ← isFile path then return some (path, ← readFile path)
  return none

def findEnvFiles : IO (List (String × Option (String × Except ReadFault ByteArray))) :=
  EnvFile.names.mapM fun name => return (name, ← findFile name)

partial def readInput (stdin : IO.FS.Stream) (read : ByteArray) : IO ByteArray := do
  let chunk ← stdin.read 65536
  if chunk.isEmpty then return read else readInput stdin (read ++ chunk)

/-- What the run is called with, the manifest read if it asks for one. -/
def readInvocation (arguments : List String) : IO Invocation := do
  let environment ← readEnvironment
  let found ← findEnvFiles
  let nearest? := fun name => (found.find? (·.1 == name)).bind Prod.snd
  let bare : Invocation := ⟨arguments, environment, { Files.none with nearest? := nearest? }, .ends⟩
  match bare.origin? with
  | none => return bare
  | some .standardInput =>
    return { bare with input := .gives (← readInput (← IO.getStdin) .empty) .ends }
  | some (.path path) =>
    let content ← readFile path
    return { bare with files := ⟨fun _ => content, nearest?⟩ }

def now : IO String := do
  let time ← Std.Time.Timestamp.now
  return Log.timestamp (time.toNanosecondsSinceUnixEpoch.val / 1000).toNat

end BuildOrder.Main

def main (arguments : List String) : IO UInt32 := do
  let invocation ← BuildOrder.Main.readInvocation arguments
  let outcome := invocation.run (← BuildOrder.Main.now)
  let stdout ← IO.getStdout
  stdout.write outcome.output
  stdout.flush
  let stderr ← IO.getStderr
  stderr.putStr outcome.errors
  stderr.flush
  return outcome.code
