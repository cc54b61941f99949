import BuildOrder.EnvFile.Line
import BuildOrder.Settings.Environment
import BuildOrder.Text.Alphanumeric
import BuildOrder.Text.Position

/-!
# Assignments in environment files

A line assigns a value to a variable: `NAME=value`, perhaps with `export` before it. In a value single quotes keep
everything as it is; elsewhere there are escapes, and `$NAME` and `${NAME}` stand for variables that are set
already. A name behind `$` ends at the first character that is no letter or digit, which is then taken as it is,
be it a quote. Behind a blank outside quotes there is nothing but a comment.

A variable that is not set stands for the empty text.
-/

namespace BuildOrder.EnvFile

/-- A line that is refused: what is quoted of it, and where it went wrong. -/
structure LineFault where
  text : String
  index : Nat
deriving DecidableEq

def LineFault.message (f : LineFault) : String :=
  s!"Error parsing line: '{f.text}', error at line index: {f.index}"

/-! ### Values -/

/-- What the next character of a value means. -/
inductive ValueState where
  | bare
  | single
  | double
  /-- Behind a backslash, in double quotes or not. -/
  | escaped (quoted : Bool)
  /-- In a name behind `$`; its characters are kept last first. -/
  | name (quoted : Bool) (name : List Char)
  /-- In a name between braces. -/
  | braced (quoted : Bool) (name : List Char)
  /-- Behind the value. -/
  | behind

namespace ValueState

/-- Outside names and escapes. -/
def within (quoted : Bool) : ValueState := if quoted then .double else .bare

def isOpen : ValueState → Bool
  | .bare => false
  | .single => true
  | .double => true
  | .escaped quoted => quoted
  | .name quoted _ => quoted
  | .braced _ _ => true
  | .behind => false

end ValueState

def escape? (c : Char) : Option Char :=
  if c = 'n' then some '\n' else if "\\'\"$ ".toList.contains c then some c else none

/-- The value of a variable, last character first; the name is given last first too. -/
def substitute (env : Environment) (name : List Char) : List Char :=
  ((env.get? (String.ofList name.reverse)).getD "").toList.reverse

inductive ValueStep where
  /-- It goes on, with characters to be added, last first. -/
  | next (state : ValueState) (added : List Char)
  | stop
  | refused

/-- What a character of a value does. -/
def valueStep (env : Environment) (c : Char) : ValueState → ValueStep
  | .bare =>
    if c = '$' then .next (.name false []) []
    else if c = '\'' then .next .single []
    else if c = '"' then .next .double []
    else if c = '\\' then .next (.escaped false) []
    else if c = ' ' ∨ c = '\t' then .next .behind []
    else .next .bare [c]
  | .single => if c = '\'' then .next .bare [] else .next .single [c]
  | .double =>
    if c = '$' then .next (.name true []) []
    else if c = '"' then .next .bare []
    else if c = '\\' then .next (.escaped true) []
    else .next .double [c]
  | .escaped quoted =>
    match escape? c with
    | some d => .next (.within quoted) [d]
    | none => .refused
  | .name quoted name =>
    if Text.isAlphanumeric c then .next (.name quoted (c :: name)) []
    else if c = '\x7b' ∧ name = [] then .next (.braced quoted []) []
    else if c = '$' then .next (.name quoted []) (substitute env name)
    else .next (.within quoted) (c :: substitute env name)
  | .braced quoted name =>
    if c = '\x7d' then .next (.within quoted) (substitute env name)
    else .next (.braced quoted (c :: name)) []
  | .behind => if c = ' ' ∨ c = '\t' then .next .behind [] else if c = '#' then .stop else .refused

/-- The end of a value, given what is left open. -/
def endValue (env : Environment) (input : List Char) (state : ValueState) (out : List Char) :
    Except LineFault String :=
  if state.isOpen then .error ⟨String.ofList input, Text.byteCount input - 1⟩
  else match state with
    | .name _ name => .ok (String.ofList (substitute env name ++ out).reverse)
    | _ => .ok (String.ofList out.reverse)

/-- A value from its character `index` on, behind what has been read of it, last character first. -/
def readValueFrom (env : Environment) (input : List Char) (index : Nat) (state : ValueState) (out : List Char) :
    List Char → Except LineFault String
  | [] => endValue env input state out
  | c :: r =>
    match valueStep env c state with
    | .next state added => readValueFrom env input (index + 1) state (added ++ out) r
    | .stop => endValue env input state out
    | .refused => .error ⟨String.ofList input, index⟩

def readValue (env : Environment) (input : List Char) : Except LineFault String :=
  readValueFrom env input 0 .bare [] input

/-! ### Lines -/

def isKeyStart (c : Char) : Bool := c.isAlpha || c == '_'

def isKeyChar (c : Char) : Bool := c.isAlphanum || c == '_' || c == '.'

/-- Nothing, or a comment. -/
def isOver : List Char → Bool
  | [] => true
  | c :: _ => c == '#'

/-- The name of a variable, and what follows it and blanks. -/
def takeKey (s : List Char) : Except (List Char) (String × List Char) :=
  if s.head?.any isKeyStart then
    .ok (String.ofList (s.takeWhile isKeyChar), Text.trimStart (s.dropWhile isKeyChar))
  else .error s

/-- What follows an equals sign and blanks. -/
def takeEquals : List Char → Except (List Char) (List Char)
  | '=' :: r => .ok (Text.trimStart r)
  | s => .error s

/-- The name of a variable and the text of its value. The error is what is left where the line goes wrong. -/
def takeNameAndValue (s : List Char) : Except (List Char) (String × List Char) := do
  let (key, s) ← takeKey s
  match key, takeEquals s with
  | _, .ok value => return (key, value)
  | "export", .error s =>
    let (key, s) ← takeKey s
    return (key, ← takeEquals s)
  | _, .error s => .error s

/-- The variable that a line assigns to, if it does, and the value. -/
def assignment (env : Environment) (line : List Char) : Except LineFault (Option (String × String)) :=
  let body := Text.trimEnd line
  let s := Text.trimStart body
  if isOver s then .ok none
  else
    match takeNameAndValue s with
    | .error rest => .error ⟨String.ofList line, Text.byteCount body - Text.byteCount rest⟩
    | .ok (key, value) =>
      if isOver value then .ok (some (key, ""))
      else (readValue env value).map fun value => some (key, value)

end BuildOrder.EnvFile
