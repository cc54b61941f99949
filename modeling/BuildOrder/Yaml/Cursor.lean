import BuildOrder.Yaml.Fault

/-!
# A place in a YAML text

A cursor knows what is left of the text, its line and column, and whether only blanks stand before it on its line.
Every line ends with one line feed: `normalized` replaces the other line ends.
-/

namespace BuildOrder.Yaml

/-! ### Characters -/

def isBlank (c : Char) : Bool := c == ' ' || c == '\t'

/-- A character that opens, closes or separates the parts of a flow collection. -/
def isFlow (c : Char) : Bool := c == ',' || c == '[' || c == ']' || c == '\x7b' || c == '\x7d'

/-- Nothing, a line feed or a blank comes next. -/
def atGap : List Char → Bool
  | [] => true
  | c :: _ => isBlank c || c == '\n'

/-- Nothing or a line feed comes next. -/
def atLineEnd : List Char → Bool
  | [] => true
  | c :: _ => c == '\n'

/-- A character of a flow collection comes next. -/
def atFlow : List Char → Bool
  | [] => false
  | c :: _ => isFlow c

/-- A text with every line ended by a line feed, up to its first null character. -/
def normalized : List Char → List Char
  | [] => []
  | '\r' :: '\n' :: r => '\n' :: normalized r
  | c :: r => if c = '\x00' then [] else (if c = '\r' then '\n' else c) :: normalized r

/-! ### Cursors -/

structure Cursor where
  rest : List Char
  line : Nat
  column : Nat
  /-- The number of characters left. -/
  left : Nat
  /-- Only blanks stand before the cursor on its line. -/
  fresh : Bool

namespace Cursor

def start (text : List Char) : Cursor := ⟨text, 1, 0, text.length, true⟩

def next (c : Cursor) : Cursor :=
  match c.rest with
  | [] => c
  | x :: r =>
    if x = '\n' then ⟨r, c.line + 1, 0, c.left - 1, true⟩
    else ⟨r, c.line, c.column + 1, c.left - 1, c.fresh && isBlank x⟩

def skip : Nat → Cursor → Cursor
  | 0, c => c
  | n + 1, c => skip n c.next

def peek? (c : Cursor) : Option Char := c.rest.head?

def skipWhile (p : Char → Bool) (c : Cursor) : Cursor := c.skip (c.rest.takeWhile p).length

def skipLine (c : Cursor) : Cursor := c.skipWhile (· ≠ '\n')

def fault {α : Type} (cause : Cause) (c : Cursor) : Except Fault α := .error (.before cause c.rest)

/-- The fault of a loop that does not go on. -/
def stuck (c : Cursor) : Fault := .before .unexpected c.rest

/-- Three characters and a gap come next. -/
def atMarker (mark : Char) (c : Cursor) : Bool :=
  match c.rest with
  | x :: y :: z :: r => x == mark && y == mark && z == mark && atGap r
  | _ => false

/-- A line of a document marker comes next. -/
def atDocumentMarker (c : Cursor) : Bool := c.atMarker '-' || c.atMarker '.'

/-- What blanks in front of the end of a line were made of. -/
structure Blanks where
  tab : Bool
  space : Bool

/-- Past blanks and a comment, up to the end of the line or to content. A comment needs a blank before it. -/
def skipBlanks (c : Cursor) : Except Fault (Cursor × Blanks) :=
  let blanks := c.rest.takeWhile isBlank
  let c := c.skip blanks.length
  match c.peek? with
  | some '#' =>
    if blanks.isEmpty then c.fault .comment else .ok (c.skipLine, ⟨blanks.contains '\t', blanks.contains ' '⟩)
  | _ => .ok (c, ⟨blanks.contains '\t', blanks.contains ' '⟩)

end Cursor

end BuildOrder.Yaml
