import BuildOrder.Yaml.Cursor

/-!
# Tokens of a YAML text

What the layout of a text says, without its blanks, comments and columns. Indentation has become tokens that
open and close blocks, and the keys of mappings are marked as such. Where a text goes wrong its tokens end with
the fault.
-/

namespace BuildOrder.Yaml

/-- How a tag is written: a handle that stands for a beginning, and the rest. -/
structure TagName where
  handle : String
  suffix : String

inductive Token where
  | version
  /-- A handle of tags, and the beginning it stands for. -/
  | tagHandle (handle beginning : String)
  /-- A directive that says nothing to this reader. -/
  | reserved
  | documentStart
  | documentEnd
  | blockSequence
  | blockMapping
  | blockEnd
  | blockEntry
  | flowSequence
  | flowSequenceEnd
  | flowMapping
  | flowMappingEnd
  | flowEntry
  | key
  | value
  | alias (name : String)
  | anchor (name : String)
  | tag (name : TagName)
  | scalar (plain : Bool) (text : String)
  | textEnd
  /-- No further token can be told. -/
  | broken (fault : Fault)

structure Lexeme where
  token : Token
  cursor : Cursor

end BuildOrder.Yaml
