import BuildOrder.Text.Loop
import BuildOrder.Text.Position

/-!
# What is wrong with a YAML text

The causes for which a text is refused, and what is said about each. The wording is this library's own, and no result
depends on it.
-/

namespace BuildOrder.Yaml

inductive Cause where
  | unexpectedEnd
  | unexpected
  | indentation
  | tab
  | keyExpected
  | valueNotAllowed
  | entryNotAllowed
  | tooDeep
  | documentMarker
  | directive
  | blockHeader
  | escape
  | quoteEnd
  | comment
  | name
  | tag
  | nodeExpected
  | separatorExpected
  | unknownAlias
  | keyNotText
  | duplicateKey
  | mergeValue
  | severalDocuments

def Cause.text : Cause → String
  | .unexpectedEnd => "unexpected end of the text"
  | .unexpected => "unexpected character"
  | .indentation => "invalid indentation"
  | .tab => "a tab cannot indent"
  | .keyExpected => "expected a key with its `:`"
  | .valueNotAllowed => "a value is not allowed here"
  | .entryNotAllowed => "an entry is not allowed here"
  | .tooDeep => "nested too deeply"
  | .documentMarker => "unexpected document marker"
  | .directive => "invalid directive"
  | .blockHeader => "invalid header of a block"
  | .escape => "invalid escape"
  | .quoteEnd => "unexpected text behind a quote"
  | .comment => "a comment needs a blank before it"
  | .name => "expected the name of an anchor"
  | .tag => "invalid tag"
  | .nodeExpected => "expected a value"
  | .separatorExpected => "expected a separator or the end"
  | .unknownAlias => "unknown anchor"
  | .keyNotText => "a key must be text"
  | .duplicateKey => "duplicate key"
  | .mergeValue => "only mappings can be merged"
  | .severalDocuments => "more than one document"

abbrev Fault := Text.Fault Cause

abbrev Error := Text.Located Cause

def Error.message (e : Error) : String := s!"{e.cause.text} at {e.position.text}"

end BuildOrder.Yaml
