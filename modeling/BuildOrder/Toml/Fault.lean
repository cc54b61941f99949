import BuildOrder.Text.Position
import BuildOrder.Text.Rest

/-!
# What is wrong with a TOML text

The causes for which a text is refused, and what is said about each. The wording is this library's own, and no result
depends on it.
-/

namespace BuildOrder.Toml

inductive Cause where
  | unexpectedEnd
  | unexpected
  | expectedKey
  | expectedEquals
  | expectedNewline
  | invalidControl
  | invalidEscape
  | invalidValue
  | tooDeep
  | cannotAdd

def Cause.text : Cause → String
  | .unexpectedEnd => "unexpected end of the text"
  | .unexpected => "unexpected character"
  | .expectedKey => "expected a key"
  | .expectedEquals => "expected `=`"
  | .expectedNewline => "expected the end of the line"
  | .invalidControl => "invalid control character"
  | .invalidEscape => "invalid escape"
  | .invalidValue => "invalid value"
  | .tooDeep => "nested too deeply"
  | .cannotAdd => "key cannot be added here"

abbrev Fault := Text.Fault Cause

abbrev Error := Text.Located Cause

def Error.message (e : Error) : String := s!"{e.cause.text} at {e.position.text}"

/-- A reader either fails or takes at least one character. -/
abbrev Reader (α : Type) := (s : List Char) → Except Fault (α × Rest s.length)

/-- What is left after characters that may be none. -/
abbrev Remaining (s : List Char) := { r : List Char // r.length ≤ s.length }

def later {α : Type} {m n : Nat} (h : m ≤ n) : Except Fault (α × Rest m) → Except Fault (α × Rest n)
  | .ok (a, rest) => .ok (a, rest.widen h)
  | .error e => .error e

end BuildOrder.Toml
