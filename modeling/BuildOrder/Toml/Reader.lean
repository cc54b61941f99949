import BuildOrder.Toml.Quoted
import BuildOrder.Toml.Scalar
import BuildOrder.Toml.Table

/-!
# Reading TOML

A document is a list of lines: headers, and keys with values. Arrays and inline tables may span lines and end
with a comma; the recursion into them goes down a budget of nesting levels.

A date may have a blank between it and its time, so an unquoted value may hold one blank.
-/

namespace BuildOrder.Toml

/-- The deepest nesting of arrays and inline tables that is read, and the most parts of a dotted key. -/
def depthLimit : Nat := 80

/-! ### Blanks, lines and comments -/

def skipSpace (s : List Char) : Remaining s := ⟨s.dropWhile isSpace, length_dropWhile_le _ s⟩

/-- Blanks, line feeds and comments. Before the end of a line `inComment` tells whether a comment has begun. -/
def skipTriviaFrom (inComment : Bool) : (s : List Char) → Except Fault (Remaining s)
  | [c] =>
    if c = '\n' ∨ isSpace c ∨ c = '#' ∨ (inComment ∧ isPlain c) then .ok ⟨[], Nat.zero_le _⟩
    else if inComment then .error (.on .invalidControl [c])
    else .ok ⟨[c], length_cons_le_self c []⟩
  | c :: d :: r =>
    let further (inComment : Bool) : Except Fault (Remaining (c :: d :: r)) :=
      match skipTriviaFrom inComment (d :: r) with
      | .ok rest => .ok ⟨rest.1, Nat.le_succ_of_le rest.2⟩
      | .error f => .error f
    if c = '\n' then further false
    else if c = '\r' ∧ d = '\n' then further false
    else if inComment then
      if isPlain c then further true else .error (.on .invalidControl (c :: d :: r))
    else if isSpace c then further false
    else if c = '#' then further true
    else .ok ⟨c :: d :: r, length_cons_le_self c (d :: r)⟩
  | t => .ok ⟨t, length_le_self t⟩

def skipTrivia (s : List Char) : Except Fault (Remaining s) := skipTriviaFrom false s

/-- Nothing more stands on the line, a comment apart. -/
def expectLineEnd (s : List Char) : Except Fault (Remaining s) :=
  let rest := skipSpace s
  match rest.1 with
  | [] => .ok rest
  | c :: r => if c = '#' ∨ startsNewline (c :: r) then .ok rest else .error (.on .expectedNewline (c :: r))

/-! ### Keys -/

def isBareKey (c : Char) : Bool := c.isAlphanum || c == '-' || c == '_'

def readKeyPart : Reader String
  | [] => .error (.atEnd .expectedKey)
  | c :: r =>
    if c = '"' ∨ c = '\'' then readLine (c :: r)
    else if isBareKey c then
      .ok (String.ofList (c :: r.takeWhile isBareKey),
        ⟨r.dropWhile isBareKey, Nat.lt_succ_of_le (length_dropWhile_le _ r)⟩)
    else .error (.on .expectedKey (c :: r))

/-- A dotted key: the path to its table, and its last part. -/
structure DottedKey where
  path : List String
  last : String

/-- A dotted key from the start of a part on, behind the parts read so far. Blanks behind it are taken along. -/
def readKeyFrom {n : Nat} (s : List Char) (h : s.length ≤ n) (acc : List String) :
    Except Fault (DottedKey × Rest n) :=
  match readKeyPart s with
  | .error f => .error f
  | .ok (part, rest) =>
    let after := skipSpace rest.1
    have hAfter : after.1.length < s.length := Nat.lt_of_le_of_lt after.2 rest.2
    match hs : after.1 with
    | '.' :: r =>
      let next := skipSpace r
      have hNext : next.1.length < s.length := by
        have := next.2
        rw [hs] at hAfter
        simp at hAfter
        omega
      readKeyFrom next.1 (by omega) (part :: acc)
    | r => .ok (⟨acc.reverse, part⟩, ⟨r, by rw [hs] at hAfter; omega⟩)
termination_by s.length

/-- A dotted key, of at most as many parts as values may be nested. -/
def readKey : Reader DottedKey := fun s =>
  match readKeyFrom s (length_le_self s) [] with
  | .ok (key, rest) => if depthLimit ≤ key.path.length then .error (.before .tooDeep s) else .ok (key, rest)
  | .error f => .error f

/-! ### Values -/

/-- The characters that end an unquoted value. -/
def endsBare (c : Char) : Bool :=
  c == ',' || c == '=' || c == '[' || c == ']' || c == '\x7b' || c == '\x7d' || c == '#' || c == '\n' || c == '\r'
    || isSpace c

/-- A text is a date, and what follows is a blank and a digit. -/
def continuesDate (cs rest : List Char) : Bool :=
  match Date.take? cs, rest with
  | some (_, []), ' ' :: d :: _ => d.isDigit
  | _, _ => false

def takeBare (s : List Char) : List Char × Remaining s :=
  let bare := fun c => !endsBare c
  let cs := s.takeWhile bare
  let rest := s.dropWhile bare
  if continuesDate cs rest then
    (cs ++ ' ' :: (rest.drop 1).takeWhile bare, ⟨(rest.drop 1).dropWhile bare, by
      have h1 := length_dropWhile_le bare (rest.drop 1)
      have h2 : (rest.drop 1).length ≤ rest.length := by simp only [List.length_drop]; omega
      exact Nat.le_trans h1 (Nat.le_trans h2 (length_dropWhile_le bare s))⟩)
  else (cs, ⟨rest, length_dropWhile_le bare s⟩)

def readBare : Reader Value := fun s =>
  let (cs, rest) := takeBare s
  match scalar? cs with
  | none => .error (.before .invalidValue s)
  | some v => if h : rest.1.length < s.length then .ok (v, ⟨rest.1, h⟩) else .error (.before .invalidValue s)

/-- The elements of an array behind its opening bracket, behind those read so far. -/
def elementsFrom (one : Reader Value) {n : Nat} (s : List Char) (h : s.length < n) (acc : List Value) :
    Except Fault (List Value × Rest n) :=
  match skipTrivia s with
  | .error f => .error f
  | .ok ⟨[], _⟩ => .error (.atEnd .unexpectedEnd)
  | .ok ⟨c :: r, hc⟩ =>
    if c = ']' then .ok (acc.reverse, ⟨r, by simp at hc; omega⟩)
    else
      match one (c :: r) with
      | .error f => .error f
      | .ok (v, rest) =>
        match skipTrivia rest.1 with
        | .error f => .error f
        | .ok ⟨[], _⟩ => .error (.atEnd .unexpectedEnd)
        | .ok ⟨d :: t, hd⟩ =>
          have ht : t.length < s.length := by
            have := rest.2
            simp at hc hd this
            omega
          if d = ']' then .ok ((v :: acc).reverse, ⟨t, Nat.lt_trans ht h⟩)
          else if d = ',' then elementsFrom one t (Nat.lt_trans ht h) (v :: acc)
          else .error (.on .unexpected (d :: t))
termination_by s.length

def readField (one : Reader Value) : Reader (DottedKey × Value) := fun s =>
  match readKey s with
  | .error f => .error f
  | .ok (_, ⟨[], _⟩) => .error (.atEnd .expectedEquals)
  | .ok (key, ⟨c :: r, h⟩) =>
    if c = '=' then
      let t := skipSpace r
      match one t.1 with
      | .error f => .error f
      | .ok (v, rest) => .ok ((key, v), rest.widen (by have := t.2; simp at h; omega))
    else .error (.on .expectedEquals (c :: r))

/-- The fields of an inline table behind its opening brace, added to those read so far. -/
def fieldsFrom (one : Reader Value) {n : Nat} (s : List Char) (h : s.length < n) (acc : Table) :
    Except Fault (Table × Rest n) :=
  match skipTrivia s with
  | .error f => .error f
  | .ok ⟨[], _⟩ => .error (.atEnd .unexpectedEnd)
  | .ok ⟨c :: r, hc⟩ =>
    if c = '\x7d' then .ok (acc, ⟨r, by simp at hc; omega⟩)
    else
      match readField one (c :: r) with
      | .error f => .error f
      | .ok ((key, v), rest) =>
        match acc.insertAt key.path key.last v with
        | none => .error (.before .cannotAdd (c :: r))
        | some acc =>
          match skipTrivia rest.1 with
          | .error f => .error f
          | .ok ⟨[], _⟩ => .error (.atEnd .unexpectedEnd)
          | .ok ⟨d :: t, hd⟩ =>
            have ht : t.length < s.length := by
              have := rest.2
              simp at hc hd this
              omega
            if d = '\x7d' then .ok (acc, ⟨t, Nat.lt_trans ht h⟩)
            else if d = ',' then fieldsFrom one t (Nat.lt_trans ht h) acc
            else .error (.on .unexpected (d :: t))
termination_by s.length

/-- A value, nested at most `budget` levels deep. -/
def readValue : (budget : Nat) → Reader Value
  | _, [] => .error (.atEnd .unexpectedEnd)
  | budget, c :: r =>
    if c = '[' then
      match budget with
      | 0 => .error (.on .tooDeep (c :: r))
      | budget + 1 =>
        (elementsFrom (readValue budget) r (length_lt_succ r) []).map fun (vs, rest) => (.array vs, rest)
    else if c = '\x7b' then
      match budget with
      | 0 => .error (.on .tooDeep (c :: r))
      | budget + 1 =>
        (fieldsFrom (readValue budget) r (length_lt_succ r) .document).map fun (t, rest) =>
          (.table t.values, rest)
    else if c = '"' ∨ c = '\'' then
      (readQuoted (c :: r)).map fun (s, rest) => (.str s, rest)
    else readBare (c :: r)

/-! ### Documents -/

/-- A document under construction: its tables, and the path of the header that is in force. -/
structure Draft where
  document : Table
  header : List String

/-- The key of a header and its closing brackets. -/
def readHeaderKey (twice : Bool) : Reader DottedKey := fun s =>
  let t := skipSpace s
  match readKey t.1 with
  | .error f => .error f
  | .ok (key, ⟨r, h⟩) =>
    have hr : r.length < s.length := Nat.lt_of_lt_of_le h t.2
    match twice, r with
    | false, ']' :: u => .ok (key, ⟨u, Nat.lt_of_succ_lt hr⟩)
    | true, ']' :: ']' :: u => .ok (key, ⟨u, by simp at hr; omega⟩)
    | _, u => .error (.on .unexpected u)

/-- What a header does: it defines a table, or it opens one more table of an array. -/
inductive Header where
  | define (key : DottedKey)
  | append (key : DottedKey)

def Header.key : Header → DottedKey
  | .define key => key
  | .append key => key

/-- A header behind its first bracket. -/
def readHeader : Reader Header
  | '[' :: r => later (length_le_succ r) ((readHeaderKey true r).map fun (key, rest) => (.append key, rest))
  | s => (readHeaderKey false s).map fun (key, rest) => (.define key, rest)

def Draft.head (d : Draft) (h : Header) : Option Draft :=
  let document? := match h with
    | .define key => d.document.define key.path key.last
    | .append key => d.document.append key.path key.last
  document?.map fun document => ⟨document, h.key.path ++ [h.key.last]⟩

def Draft.insert (d : Draft) (key : DottedKey) (v : Value) : Option Draft :=
  (d.document.insertUnder d.header key.path key.last v).map fun document => { d with document := document }

/-- A line that is not blank: a header, or a key with its value. -/
def readEntry (d : Draft) : Reader Draft
  | '[' :: r =>
    match readHeader r with
    | .error f => .error f
    | .ok (header, rest) =>
      match d.head header with
      | some d => .ok (d, rest.widen (length_le_succ r))
      | none => .error (.before .cannotAdd r)
  | s =>
    match readField (readValue depthLimit) s with
    | .error f => .error f
    | .ok ((key, v), rest) =>
      match d.insert key v with
      | some d => .ok (d, rest)
      | none => .error (.before .cannotAdd s)

def readEntries (d : Draft) (s : List Char) : Except Fault Table :=
  match skipTrivia s with
  | .error f => .error f
  | .ok ⟨[], _⟩ => .ok d.document
  | .ok ⟨c :: r, hc⟩ =>
    match readEntry d (c :: r) with
    | .error f => .error f
    | .ok (d, rest) =>
      match expectLineEnd rest.1 with
      | .error f => .error f
      | .ok after =>
        have : after.1.length < s.length := Nat.lt_of_le_of_lt after.2 (Nat.lt_of_lt_of_le rest.2 hc)
        readEntries d after.1
termination_by s.length

/-- A text without a byte order mark at its start. -/
def dropMark : List Char → List Char
  | '\uFEFF' :: r => r
  | s => s

def parse (text : String) : Except Error (List (String × Value)) :=
  match readEntries ⟨.document, []⟩ (dropMark text.toList) with
  | .ok t => .ok t.values
  | .error f => .error (f.locate text.toList)

end BuildOrder.Toml
