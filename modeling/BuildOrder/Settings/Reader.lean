import BuildOrder.Settings.Partial
import BuildOrder.Json.Reader
import BuildOrder.Json.Skip

/-!
# Settings as JSON

Settings are written as an object with a field for each setting, or as an array of their values. What is not
given has its default. Fields of other names are skipped; a field that comes twice is refused. A choice is written
by its name, or as an object that gives its name the value null.

An array is read until it ends or has given every setting; more elements are refused.
-/

namespace BuildOrder

namespace Json

/-- Go on at the first character behind blanks; the end of the text is refused. -/
def atValue {α : Type} (one : (c : Char) → (r : List Char) → Except Fault (α × Rest (r.length + 1))) : Reader α :=
  fun s =>
    match h : skipBlank s with
    | [] => .error (.atEnd .endInValue)
    | c :: r => later id (lt_of_skipBlank h) (one c r)

def readText (expected : Expected) : Reader String :=
  atValue fun c r =>
    if c = '"' then readString r (length_lt_succ r) [] else refuse expected c r

def readByte : Reader UInt8 :=
  atValue fun c r =>
    if c = '-' ∨ c.isDigit then
      match readNumber (c :: r) with
      | .error f => .error f
      | .ok (.float x, rest) => .error (.before (.invalidType (.num (.float x)) .byte) rest.1)
      | .ok (.int i, rest) =>
        if 0 ≤ i.val ∧ i.val < 256 then .ok (i.val.toNat.toUInt8, rest)
        else .error (.before (.invalidValue i.val .byte) rest.1)
    else refuse .byte c r

def readName (α : Type) [Choice α] : Reader α := fun s =>
  match readText .name s with
  | .error f => .error f
  | .ok (name, rest) =>
    match Choice.named? α name with
    | some v => .ok (v, rest)
    | none => .error (.before (.unknownVariant name (Choice.names α)) rest.1)

def readNull : Reader Unit :=
  atValue fun c r => if c = 'n' then word ['u', 'l', 'l'] () r else refuse .nothing c r

def readColon : Reader Unit := fun s =>
  match h : skipBlank s with
  | [] => .error (.atEnd .endInObject)
  | c :: r =>
    if c = ':' then .ok ((), ⟨r, lt_of_skipBlank h⟩)
    else .error (.on .expectedColon (c :: r))

/-- The closing brace of a choice that is written as an object. -/
def readChoiceEnd : Reader Unit := fun s =>
  match h : skipBlank s with
  | [] => .error (.atEnd .endInObject)
  | c :: r =>
    if c = '\x7d' then .ok ((), ⟨r, lt_of_skipBlank h⟩)
    else .error (.before .expectedValue (c :: r))

def Reader.andThen {α β : Type} (first : Reader α) (second : α → Reader β) : Reader β := fun s =>
  match first s with
  | .error f => .error f
  | .ok (a, rest) => later id rest.length_le (second a rest.1)

def Reader.map {α β : Type} (f : α → β) (one : Reader α) : Reader β := fun s => later f (length_le_self s) (one s)

def readChoice (α : Type) [Choice α] : Reader α :=
  atValue fun c r =>
    if c = '\x7b' then
      later id (length_le_succ r) ((readName α).andThen (fun v => readColon.andThen fun _ => readNull.andThen fun _ =>
        readChoiceEnd.map fun _ => v) r)
    else if c = '"' then readName α (c :: r)
    else .error (.on .expectedValue (c :: r))

def readSetting (p : PartialSettings) : Setting → Reader PartialSettings
  | .manifestKey => (readText .string).map fun v => { p with manifestKey := some v }
  | .logLevel => readByte.map fun v => { p with logLevel := some v }
  | .logFormat => (readChoice LogFormat).map fun v => { p with logFormat := some v }
  | .logStream => (readChoice LogStream).map fun v => { p with logStream := some v }
  | .color => (readChoice Color).map fun v => { p with color := some v }

/-- Where a field stands that comes twice: past the closing brace if it comes next. -/
def afterDuplicate (s : List Char) : List Char :=
  match skipBlank s with
  | '\x7d' :: r => r
  | r => r

/-- One field, from behind the quote of its key on. -/
def readField (p : PartialSettings) : Reader PartialSettings := fun s =>
  match readString s (length_lt_succ s) [] with
  | .error f => .error f
  | .ok (key, rest) =>
    match Setting.ofField? key with
    | some setting =>
      if p.has setting then .error (.before (.duplicateField key) (afterDuplicate rest.1))
      else later id (Nat.le_of_lt_succ rest.2) (readColon.andThen (fun _ => readSetting p setting) rest.1)
    | none => later id (Nat.le_of_lt_succ rest.2) (readColon.andThen (fun _ => skipValue.map fun _ => p) rest.1)

/-- The fields of an object from behind the quote of a key on. -/
def settingFields {n : Nat} (p : PartialSettings) (s : List Char) (h : s.length < n) :
    Except Fault (PartialSettings × Rest n) :=
  match readField p s with
  | .error f => .error f
  | .ok (p, rest) =>
    match hr : skipBlank rest.1 with
    | [] => .error (.atEnd .endInObject)
    | c :: r =>
      have hc : r.length < s.length := lt_of_skipBlank_rest hr
      if c = '\x7d' then .ok (p, ⟨r, Nat.lt_trans hc h⟩)
      else if c ≠ ',' then .error (.on .expectedObjectSeparator (c :: r))
      else
        match ht : skipBlank r with
        | [] => .error (.atEnd .endInValue)
        | d :: t =>
          have hd : t.length < s.length := by
            have h1 := length_skipBlank_le r
            rw [ht] at h1
            simp at h1
            omega
          if d = '\x7d' then .error (.on .trailingComma (d :: t))
          else if d ≠ '"' then .error (.on .keyNotString (d :: t))
          else settingFields p t (Nat.lt_trans hd h)
termination_by s.length

/-- The fields of an object behind its opening brace. -/
def readSettingFields (s : List Char) : Except Fault (PartialSettings × Rest (s.length + 1)) :=
  match h : skipBlank s with
  | [] => .error (.atEnd .endInObject)
  | c :: r =>
    have hr : r.length < s.length + 1 := lt_succ_of_skipBlank h
    if c = '\x7d' then .ok (.empty, ⟨r, hr⟩)
    else if c = '"' then settingFields .empty r hr
    else .error (.on .keyNotString (c :: r))

/-- The end of an array that has given every setting. -/
def endSettings : Reader Unit := fun s =>
  match h : skipBlank s with
  | [] => .error (.atEnd .endInList)
  | c :: r =>
    if c = ']' then .ok ((), ⟨r, lt_of_skipBlank h⟩)
    else if c = ',' then
      match skipBlank r with
      | ']' :: t => .error (.on .trailingComma (']' :: t))
      | t => .error (.on .trailingCharacters t)
    else .error (.on .trailingCharacters (c :: r))

/-- What stands behind an element: the closing bracket, or a comma and another element. -/
inductive Continuation where
  | closed
  | more

/-- The closing bracket, or a comma with an element behind it. -/
def readContinuation : Reader Continuation := fun s =>
  match h : skipBlank s with
  | [] => .error (.atEnd .endInList)
  | c :: r =>
    have hr : r.length < s.length := lt_of_skipBlank h
    if c = ']' then .ok (.closed, ⟨r, hr⟩)
    else if c ≠ ',' then .error (.on .expectedListSeparator (c :: r))
    else
      match skipBlank r with
      | [] => .error (.atEnd .endInValue)
      | ']' :: t => .error (.on .trailingComma (']' :: t))
      | _ => .ok (.more, ⟨r, hr⟩)

/-- The elements from the given settings on, behind an element. -/
def settingElements (p : PartialSettings) : List Setting → Reader PartialSettings
  | [] => endSettings.map fun _ => p
  | setting :: more => fun s =>
    match readContinuation s with
    | .error f => .error f
    | .ok (.closed, rest) => .ok (p, rest)
    | .ok (.more, rest) =>
      later id rest.length_le
        ((readSetting p setting).andThen (fun p => settingElements p more) rest.1)

/-- The elements of an array behind its opening bracket. -/
def readSettingElements (s : List Char) : Except Fault (PartialSettings × Rest (s.length + 1)) :=
  match h : skipBlank s with
  | [] => .error (.atEnd .endInList)
  | c :: r =>
    if c = ']' then
      .ok (.empty, ⟨r, lt_succ_of_skipBlank h⟩)
    else
      later id (length_le_succ s) ((readSetting .empty .manifestKey).andThen
        (fun p => settingElements p [.logLevel, .logFormat, .logStream, .color]) s)

def readSettings : Reader PartialSettings :=
  atValue fun c r =>
    if c = '[' then readSettingElements r
    else if c = '\x7b' then readSettingFields r
    else refuse .configuration c r

end Json

def Settings.parse (text : String) : Except Json.Error Settings :=
  (Json.readAll Json.readSettings text.toList).map PartialSettings.settings

end BuildOrder
