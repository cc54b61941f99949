/-!
# Places in a text

A reader works on the characters that are left, so it says where it failed by the number of bytes still unread.
`Fault.locate` turns that into a line and a column of the whole text. Lines start at 1; a column counts the
bytes after the last line feed.
-/

namespace BuildOrder.Text

def byteCount (cs : List Char) : Nat := cs.foldl (fun n c => n + c.utf8Size) 0

structure Position where
  line : Nat
  column : Nat
deriving DecidableEq

namespace Position

def start : Position := ⟨1, 0⟩

/-- The position after `bytes` more bytes. -/
def advance (p : Position) (bytes : Nat) : List Char → Position
  | [] => p
  | c :: r =>
    if bytes = 0 then p
    else if c = '\n' then advance ⟨p.line + 1, 0⟩ (bytes - 1) r
    else if c.utf8Size ≤ bytes then advance { p with column := p.column + c.utf8Size } (bytes - c.utf8Size) r
    else { p with column := p.column + bytes }

def text (p : Position) : String := s!"line {p.line} column {p.column}"

end Position

structure Located (κ : Type) where
  cause : κ
  position : Position

/-- Why reading stopped, and how many bytes were unread by then. -/
structure Fault (κ : Type) where
  cause : κ
  unread : Nat

namespace Fault

variable {κ : Type}

/-- Reading stopped before `rest`. -/
def before (cause : κ) (rest : List Char) : Fault κ := ⟨cause, byteCount rest⟩

/-- Reading stopped at the first byte of `rest`, or at the end. -/
def on (cause : κ) (rest : List Char) : Fault κ := ⟨cause, byteCount rest - 1⟩

/-- The text ends too early. -/
def atEnd (cause : κ) : Fault κ := ⟨cause, 0⟩

def locate (f : Fault κ) (text : List Char) : Located κ :=
  ⟨f.cause, Position.start.advance (byteCount text - f.unread) text⟩

end Fault

end BuildOrder.Text
