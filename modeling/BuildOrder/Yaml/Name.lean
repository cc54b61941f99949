import BuildOrder.Yaml.Quoted
import BuildOrder.Yaml.Token

/-!
# Names in a YAML text

The names of anchors, tags, and the directives that stand before a document. A tag is written in full between
angle brackets, or as a handle and a rest; octets of it may be written as a percent sign and two digits.
-/

namespace BuildOrder.Yaml

/-! ### Anchors -/

def isAnchorChar (c : Char) : Bool := !isBlank c && c != '\n' && !isFlow c

def readName (c : Cursor) : Except Fault (String × Cursor) :=
  let name := c.next.rest.takeWhile isAnchorChar
  if name.isEmpty then c.fault .name else .ok (String.ofList name, c.next.skip name.length)

/-! ### Tags -/

def isWordChar (c : Char) : Bool := c.isAlphanum || c == '-'

def isHandleChar (c : Char) : Bool := isWordChar c || c == '_'

/-- A character of a tag written in full. -/
def isUriChar (c : Char) : Bool := isWordChar c || "#;/?:@&=+$,_.!~*'()[]%".toList.contains c

/-- A character of a tag behind its handle. -/
def isSuffixChar (c : Char) : Bool := isUriChar c && !isFlow c && c != '!'

/-- The octets that the characters of a tag stand for. -/
def tagOctets : List Char → Option (List UInt8)
  | [] => some []
  | '%' :: a :: b :: r =>
    match hexNumber? 2 [a, b], tagOctets r with
    | some n, some octets => some (n.toUInt8 :: octets)
    | _, _ => none
  | '%' :: _ => none
  | c :: r => (tagOctets r).map ((String.ofList [c]).toUTF8.toList ++ ·)

def tagText? (cs : List Char) : Option String :=
  (tagOctets cs).bind fun octets => String.fromUTF8? (ByteArray.mk octets.toArray)

/-- The part of a tag made of characters of a kind. -/
def readTagPart (p : Char → Bool) (c : Cursor) : Except Fault (String × Cursor) :=
  let cs := c.rest.takeWhile p
  match tagText? cs with
  | some text => .ok (text, c.skip cs.length)
  | none => c.fault .tag

/-- A tag written in full, from behind its opening bracket on. -/
def readFullTag (c : Cursor) : Except Fault (TagName × Cursor) :=
  match readTagPart isUriChar c with
  | .error f => .error f
  | .ok (text, d) => if d.peek? = some '>' then .ok (⟨"", text⟩, d.next) else d.fault .tag

/-- A tag made of a handle and a rest, from behind its exclamation mark on. A mark alone is a tag. -/
def readShortTag (c : Cursor) : Except Fault (TagName × Cursor) :=
  let word := c.rest.takeWhile isHandleChar
  let d := c.skip word.length
  if d.peek? = some '!' then
    match readTagPart isSuffixChar d.next with
    | .error f => .error f
    | .ok (suffix, e) => .ok (⟨String.ofList ('!' :: word ++ ['!']), suffix⟩, e)
  else
    match readTagPart isSuffixChar c with
    | .error f => .error f
    | .ok (suffix, e) => .ok (if suffix = "" then ⟨"", "!"⟩ else ⟨"!", suffix⟩, e)

def readTag (inFlow : Bool) (c : Cursor) : Except Fault (TagName × Cursor) :=
  let read := if c.next.peek? = some '<' then readFullTag c.next.next else readShortTag c.next
  match read with
  | .error f => .error f
  | .ok (name, d) => if atGap d.rest || (inFlow && atFlow d.rest) then .ok (name, d) else d.fault .tag

/-! ### Directives -/

/-- A number of at most nine digits. -/
def skipVersionNumber (c : Cursor) : Except Fault Cursor :=
  let digits := c.rest.takeWhile Char.isDigit
  if digits.isEmpty || decide (9 < digits.length) then c.fault .directive else .ok (c.skip digits.length)

/-- The version of the format: two numbers with a point between them. -/
def skipVersion (c : Cursor) : Except Fault Cursor :=
  match skipVersionNumber (c.skipWhile isBlank) with
  | .error f => .error f
  | .ok c => if c.peek? = some '.' then skipVersionNumber c.next else c.fault .directive

/-- The beginning that a handle stands for. -/
def readBeginning (c : Cursor) : Except Fault (String × Cursor) :=
  match c.rest with
  | [] => c.fault .directive
  | x :: r =>
    if x ≠ '!' ∧ !isSuffixChar x then c.fault .directive
    else
      let cs := x :: r.takeWhile isUriChar
      match tagText? cs with
      | some text => if atGap (c.skip cs.length).rest then .ok (text, c.skip cs.length) else c.fault .directive
      | none => c.fault .tag

def readTagHandle (c : Cursor) : Except Fault (Token × Cursor) :=
  let c := c.skipWhile isBlank
  if c.peek? ≠ some '!' then c.fault .directive
  else
    let word := c.next.rest.takeWhile isHandleChar
    let d := c.next.skip word.length
    let handle? : Option (String × Cursor) :=
      if d.peek? = some '!' then some (String.ofList ('!' :: word ++ ['!']), d.next)
      else if word.isEmpty then some ("!", d)
      else none
    match handle? with
    | none => d.fault .directive
    | some (handle, d) =>
      match readBeginning (d.skipWhile isBlank) with
      | .error f => .error f
      | .ok (beginning, e) => .ok (.tagHandle handle beginning, e)

def readDirective (c : Cursor) : Except Fault (Token × Cursor) :=
  let name := c.rest.takeWhile isHandleChar
  let d := c.skip name.length
  if name.isEmpty || !atGap d.rest then c.fault .directive
  else
    let read : Except Fault (Token × Cursor) :=
      if name = ['Y', 'A', 'M', 'L'] then (skipVersion d).map fun d => (.version, d)
      else if name = ['T', 'A', 'G'] then readTagHandle d
      else .ok (.reserved, d.skipLine)
    match read with
    | .error f => .error f
    | .ok (token, d) =>
      match d.skipBlanks with
      | .error f => .error f
      | .ok (d, _) => if atLineEnd d.rest then .ok (token, d.next) else d.fault .directive

end BuildOrder.Yaml
