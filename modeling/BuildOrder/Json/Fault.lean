import BuildOrder.Value.Basic
import BuildOrder.Value.Printer
import BuildOrder.Text.Position
import BuildOrder.Text.Visible

/-!
# What is wrong with a JSON text

The causes for which a text is refused, and what is said about each.
-/

namespace BuildOrder.Json

/-- What a reader of a certain kind of data asks for. -/
inductive Expected where
  | sequence
  | configuration
  | byte
  | string
  | nothing
  | name
deriving DecidableEq

def Expected.text : Expected → String
  | .sequence => "a sequence"
  | .configuration => "struct AppConfig"
  | .byte => "u8"
  | .string => "a string"
  | .nothing => "unit"
  | .name => "variant identifier"

/-- What stands where something else was asked for. -/
inductive Found where
  | null
  | bool (b : Bool)
  | num (n : Number)
  | str (s : String)
  | arr
  | obj

def Found.text : Found → String
  | .null => "null"
  | .bool true => "boolean `true`"
  | .bool false => "boolean `false`"
  | .num (.int i) => s!"integer `{i.val}`"
  | .num (.float x) => s!"floating point `{Value.floatText x}`"
  | .str s => s!"string {Text.visible s}"
  | .arr => "sequence"
  | .obj => "map"

inductive Cause where
  | endInValue
  | endInList
  | endInObject
  | endInString
  | expectedValue
  | expectedIdent
  | expectedListSeparator
  | expectedObjectSeparator
  | expectedColon
  | keyNotString
  | trailingComma
  | trailingCharacters
  | invalidNumber
  | numberOutOfRange
  | invalidEscape
  | endOfHexEscape
  | loneSurrogate
  | controlCharacter
  | recursionLimit
  | invalidType (found : Found) (expected : Expected)
  | invalidValue (i : Int) (expected : Expected)
  | unknownVariant (name : String) (expected : List String)
  | duplicateField (name : String)
  | noMatchingVariant

/-- Names as alternatives: two with `or`, more as a list. -/
def alternatives : List String → String
  | [a, b] => s!"expected `{a}` or `{b}`"
  | names => "expected one of " ++ ", ".intercalate (names.map fun n => s!"`{n}`")

def Cause.text : Cause → String
  | .endInValue => "EOF while parsing a value"
  | .endInList => "EOF while parsing a list"
  | .endInObject => "EOF while parsing an object"
  | .endInString => "EOF while parsing a string"
  | .expectedValue => "expected value"
  | .expectedIdent => "expected ident"
  | .expectedListSeparator => "expected `,` or `]`"
  | .expectedObjectSeparator => "expected `,` or `\x7d`"
  | .expectedColon => "expected `:`"
  | .keyNotString => "key must be a string"
  | .trailingComma => "trailing comma"
  | .trailingCharacters => "trailing characters"
  | .invalidNumber => "invalid number"
  | .numberOutOfRange => "number out of range"
  | .invalidEscape => "invalid escape"
  | .endOfHexEscape => "unexpected end of hex escape"
  | .loneSurrogate => "lone leading surrogate in hex escape"
  | .controlCharacter => "control character (\\u0000-\\u001F) found while parsing a string"
  | .recursionLimit => "recursion limit exceeded"
  | .invalidType found expected => s!"invalid type: {found.text}, expected {expected.text}"
  | .invalidValue i expected => s!"invalid value: integer `{i}`, expected {expected.text}"
  | .unknownVariant name expected => s!"unknown variant `{name}`, {alternatives expected}"
  | .duplicateField name => s!"duplicate field `{name}`"
  | .noMatchingVariant => "data did not match any variant of untagged enum DepNode"

abbrev Fault := Text.Fault Cause

/-- A refused text: the cause and the place. -/
abbrev Error := Text.Located Cause

def Error.message (e : Error) : String := s!"{e.cause.text} at {e.position.text}"

end BuildOrder.Json
