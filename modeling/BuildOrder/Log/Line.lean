import BuildOrder.Log.Format
import BuildOrder.Value.Printer

/-!
# Events as text

An event in each format of a log, given the time. With colour the parts of a line are marked by escape sequences;
JSON is never coloured.

Characters of a message that could steer a terminal are written out, except for line feeds and blanks.
-/

namespace BuildOrder

def Level.label : Level → String
  | .error => "ERROR"
  | .warning => "WARN"
  | .info => "INFO"
  | .debug => "DEBUG"
  | .trace => "TRACE"

/-- The label, with a blank in front if it is short. -/
def Level.paddedLabel (level : Level) : String :=
  if level.label.length < 5 then " " ++ level.label else level.label

def Level.hue : Level → String
  | .error => "31"
  | .warning => "33"
  | .info => "32"
  | .debug => "34"
  | .trace => "35"

namespace Log

def style (codes : String) : String := "\x1b[" ++ codes ++ "m"

def styled (codes text : String) : String := style codes ++ text ++ style "0"

/-- A character of a message as it is written. -/
def shown (c : Char) : List Char :=
  let hex := fun (n : Nat) => [Value.hexDigit (n / 16), Value.hexDigit (n % 16)]
  if c = '\x07' ∨ c = '\x08' ∨ c = '\x0c' ∨ c = '\x1b' ∨ c = '\x7f' then '\\' :: 'x' :: hex c.toNat
  else if 0x80 ≤ c.toNat ∧ c.toNat ≤ 0x9f then "\\u\x7b".toList ++ hex c.toNat ++ ['\x7d']
  else [c]

def message (e : Event) : String := String.ofList (e.message.toList.flatMap shown)

/-- One line: the fields stand behind the message. -/
def plainLine (time : String) (e : Event) : String :=
  time ++ " " ++ e.level.paddedLabel ++ " " ++ e.source.path ++ ": " ++ message e
    ++ String.join (e.fields.map fun (k, v) => " " ++ k ++ "=" ++ v.text) ++ "\n"

def colorLine (time : String) (e : Event) : String :=
  styled "2" time ++ " " ++ styled e.level.hue e.level.paddedLabel ++ " " ++ styled "2" e.source.path
    ++ styled "2" ":" ++ " " ++ message e
    ++ String.join (e.fields.map fun (k, v) => " " ++ styled "3" k ++ styled "2" "=" ++ v.text) ++ "\n"

/-- A short paragraph: the fields stand behind the message, each behind a comma. -/
def plainParagraph (time : String) (e : Event) : String :=
  "  " ++ time ++ " " ++ e.level.paddedLabel ++ " " ++ e.source.path ++ ": " ++ message e
    ++ String.join (e.fields.map fun (k, v) => ", " ++ k ++ ": " ++ v.text) ++ "\n\n"

def colorParagraph (time : String) (e : Event) : String :=
  let hue := e.level.hue
  let bold := fun text => styled ("1;" ++ hue) text
  "  " ++ styled "2" time ++ " " ++ styled hue e.level.paddedLabel ++ " " ++ bold e.source.path ++ style hue ++ ": "
    ++ style hue ++ message e
    ++ String.join (e.fields.map fun (k, v) => ", " ++ bold k ++ style hue ++ ": " ++ v.text) ++ style "0" ++ "\n\n"

def fieldJson : FieldValue → String
  | .name s => String.ofList (Value.quoted s)
  | v => v.text

def jsonObject (fields : List (String × String)) : String :=
  "\x7b" ++ ",".intercalate (fields.map fun (k, v) => String.ofList (Value.quoted k) ++ ":" ++ v) ++ "\x7d"

def jsonLine (time : String) (e : Event) : String :=
  let text := fun (s : String) => String.ofList (Value.quoted s)
  jsonObject [("timestamp", text time), ("level", text e.level.label),
    ("fields", jsonObject (("message", text e.message) :: e.fields.map fun (k, v) => (k, fieldJson v))),
    ("target", text e.source.path)] ++ "\n"

end Log

def Event.render (format : LogFormat) (colored : Bool) (time : String) (e : Event) : String :=
  match format, colored with
  | .text, false => Log.plainLine time e
  | .text, true => Log.colorLine time e
  | .yaml, false => Log.plainParagraph time e
  | .yaml, true => Log.colorParagraph time e
  | .json, _ => Log.jsonLine time e

end BuildOrder
