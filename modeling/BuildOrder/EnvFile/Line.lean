import BuildOrder.Files.Basic
import BuildOrder.Text.Blank

/-!
# Lines of environment files

A line goes on behind its end while a quote is open or a backslash stands before the end. A number sign behind a
blank begins a comment, unless it is quoted. Lines that begin with a number sign are left out.

A file is read line by line, so what stands before a line that is no text still counts.
-/

namespace BuildOrder.EnvFile

/-- What the characters of a line have led to. -/
inductive LineState where
  | plain
  /-- Behind a blank. -/
  | blank
  | escaped
  | double
  | doubleEscaped
  | single
  | singleEscaped
deriving DecidableEq

namespace LineState

/-- What a character outside quotes leads to. -/
def enter (c : Char) : LineState :=
  if c = '\\' then .escaped else if c = '"' then .double else if c = '\'' then .single else .plain

def step (c : Char) : LineState → LineState
  | .plain => if Text.isBlank c ∧ c ≠ '\n' ∧ c ≠ '\r' then .blank else enter c
  | .blank => enter c
  | .escaped => .plain
  | .double => if c = '\\' then .doubleEscaped else if c = '"' then .plain else .double
  | .doubleEscaped => .double
  | .single => if c = '\\' then .singleEscaped else if c = '\'' then .plain else .single
  | .singleEscaped => .single

end LineState

/-- How a line ends: in a state, or with a comment behind some of its characters. -/
inductive LineEnd where
  | within (state : LineState)
  | comment (before : List Char)

/-- How a line ends, given the characters before these, last first. -/
def lineEnd (state : LineState) (before : List Char) : List Char → LineEnd
  | [] => .within state
  | c :: r => if state = .blank ∧ c = '#' then .comment before.reverse else lineEnd (state.step c) (c :: before) r

/-- Bytes cut behind every line feed, behind the bytes of a line so far, which are kept last first. -/
def cutLines (line : List UInt8) : List UInt8 → List (List UInt8)
  | [] => if line.isEmpty then [] else [line.reverse]
  | b :: bs => if b = 10 then (b :: line).reverse :: cutLines [] bs else cutLines (b :: line) bs

/-- Bytes without a byte order mark at their start. -/
def dropMark : List UInt8 → List UInt8
  | 0xEF :: 0xBB :: 0xBF :: bs => bs
  | bs => bs

/-- The lines of a file as it holds them; a line that is no text is none. -/
def physicalLines (bytes : ByteArray) : List (Option (List Char)) :=
  (cutLines [] (dropMark bytes.toList)).map fun l => (String.fromUTF8? ⟨l.toArray⟩).map String.toList

inductive Line where
  | text (cs : List Char)
  /-- The file ends within a line. -/
  | unfinished (cs : List Char)
  | notText

/-- A line without the line feed that ends it. -/
def dropLineFeed (cs : List Char) : List Char :=
  match cs.reverse with
  | '\n' :: '\r' :: r => r.reverse
  | '\n' :: r => r.reverse
  | _ => cs

/-- Lines joined as far as they go on, behind the start of a line. -/
def joinLines (state : LineState) (start : List Char) : List (Option (List Char)) → List Line
  | [] => if state = .plain then [] else [.unfinished start]
  | none :: _ => [.notText]
  | some cs :: rest =>
    let all := start ++ cs
    if (Text.trimStart all).head? = some '#' then joinLines .plain [] rest
    else
      match lineEnd state [] cs with
      | .comment before => .text (start ++ before) :: joinLines .plain [] rest
      | .within .plain => .text (dropLineFeed all) :: joinLines .plain [] rest
      | .within state => joinLines state all rest

def lines (bytes : ByteArray) : List Line := joinLines .plain [] (physicalLines bytes)

end BuildOrder.EnvFile
