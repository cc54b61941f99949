import BuildOrder.Json.Lexeme

/-!
# Reading JSON values

The recursion goes down a budget of nesting levels: opening an array or object with an empty budget is a
fault. The loops over elements and fields end because every element and every field takes characters.

The elements of an array can be asked to be of some kind. The first element that is not of that kind is a
fault, whose place is found by going on to the next element or past the end of the array.
-/

namespace BuildOrder.Json

/-- The deepest nesting of arrays and objects that is read. -/
def depthLimit : Nat := 127

/-- What is left after an element that was refused: past the closing bracket, or past the next comma. -/
def afterRefused (s : List Char) : List Char :=
  match skipBlank s with
  | ']' :: r => r
  | ',' :: r => skipBlank r
  | r => r

/-- The elements of an array from the start of an element on, behind those read so far. -/
def elementsFrom {α β : Type} (one : Reader α) (take? : α → Option β) {n : Nat} (s : List Char)
    (h : s.length < n) (acc : List β) : Except Fault (List β × Rest n) :=
  match one s with
  | .error f => .error f
  | .ok (a, rest) =>
    match take? a with
    | none => .error (.before .noMatchingVariant (afterRefused rest.1))
    | some b =>
      match hr : skipBlank rest.1 with
      | [] => .error (.atEnd .endInList)
      | c :: r =>
        have hc : r.length < s.length := lt_of_skipBlank_rest hr
        if c = ']' then .ok ((b :: acc).reverse, ⟨r, by omega⟩)
        else if c = ',' then
          match ht : skipBlank r with
          | [] => .error (.atEnd .endInValue)
          | d :: t =>
            if d = ']' then .error (.on .trailingComma (d :: t))
            else
              have hd : (d :: t).length < s.length := by
                have h1 := length_skipBlank_le r
                rw [ht] at h1
                omega
              elementsFrom one take? (d :: t) (by omega) (b :: acc)
        else .error (.on .expectedListSeparator (c :: r))
termination_by s.length

def elements {α β : Type} (one : Reader α) (take? : α → Option β) : (s : List Char) →
    Except Fault (List β × Rest (s.length + 1)) := fun s =>
  match h : skipBlank s with
  | [] => .error (.atEnd .endInList)
  | c :: r =>
    have hs : (c :: r).length < s.length + 1 := by
      have := length_skipBlank_le s
      rw [h] at this
      omega
    if c = ']' then .ok ([], ⟨r, by simp at hs; omega⟩)
    else elementsFrom one take? (c :: r) hs []

/-- The fields of an object from after the quote of a key on, added to those read so far. -/
def fieldsFrom (one : Reader Value) {n : Nat} (s : List Char) (h : s.length < n)
    (acc : List (String × Value)) : Except Fault (List (String × Value) × Rest n) :=
  match readString s (length_lt_succ s) [] with
  | .error f => .error f
  | .ok (key, rest) =>
    match hc : skipBlank rest.1 with
    | [] => .error (.atEnd .endInObject)
    | c :: r =>
      if c ≠ ':' then .error (.on .expectedColon (c :: r))
      else
        match one r with
        | .error f => .error f
        | .ok (v, rest') =>
          match hr : skipBlank rest'.1 with
          | [] => .error (.atEnd .endInObject)
          | d :: t =>
            have ht : t.length < s.length := by
              have h1 := length_skipBlank_le rest.1
              have h2 := rest.2
              have h3 := length_skipBlank_le rest'.1
              have h4 := rest'.2
              rw [hc] at h1
              rw [hr] at h3
              simp at h1 h3
              omega
            if d = '\x7d' then .ok (Value.insertField key v acc, ⟨t, by omega⟩)
            else if d = ',' then
              match hu : skipBlank t with
              | [] => .error (.atEnd .endInValue)
              | e :: u =>
                if e = '\x7d' then .error (.on .trailingComma (e :: u))
                else if e = '"' then
                  have hlt : u.length < s.length := by
                    have h1 := length_skipBlank_le t
                    rw [hu] at h1
                    simp at h1
                    omega
                  fieldsFrom one u (by omega) (Value.insertField key v acc)
                else .error (.on .keyNotString (e :: u))
            else .error (.on .expectedObjectSeparator (d :: t))
termination_by s.length

def fields (one : Reader Value) : (s : List Char) →
    Except Fault (List (String × Value) × Rest (s.length + 1)) := fun s =>
  match h : skipBlank s with
  | [] => .error (.atEnd .endInObject)
  | c :: r =>
    have hs : (c :: r).length < s.length + 1 := by
      have := length_skipBlank_le s
      rw [h] at this
      omega
    if c = '\x7d' then .ok ([], ⟨r, by simp at hs; omega⟩)
    else if c = '"' then fieldsFrom one r (by simp at hs; omega) []
    else .error (.on .keyNotString (c :: r))

/-- A value that is no array and no object, from its first character on. -/
def readScalar (c : Char) (r : List Char) : Except Fault (Value × Rest (r.length + 1)) :=
  if c = 'n' then word ['u', 'l', 'l'] .null r
  else if c = 't' then word ['r', 'u', 'e'] (.bool true) r
  else if c = 'f' then word ['a', 'l', 's', 'e'] (.bool false) r
  else if c = '"' then later .str (length_lt_succ r) (readString r (length_lt_succ r) [])
  else if c = '-' ∨ c.isDigit then later .num (length_cons_le_self c r) (readNumber (c :: r))
  else .error (.on .expectedValue (c :: r))

/-- A value after blanks, nested at most `budget` levels deep. -/
def readValue : (budget : Nat) → Reader Value
  | budget, s =>
    match h : skipBlank s with
    | [] => .error (.atEnd .endInValue)
    | c :: r =>
      have hs : r.length + 1 ≤ s.length := lt_of_skipBlank h
      if c = '[' then
        match budget with
        | 0 => .error (.on .recursionLimit (c :: r))
        | budget + 1 => later .arr hs (elements (readValue budget) some r)
      else if c = '\x7b' then
        match budget with
        | 0 => .error (.on .recursionLimit (c :: r))
        | budget + 1 => later .obj hs (fields (readValue budget) r)
      else later id hs (readScalar c r)

/-- The text ends here, blanks apart. -/
def expectEnd {α : Type} (a : α) (s : List Char) : Except Fault α :=
  match skipBlank s with
  | [] => .ok a
  | r => .error (.on .trailingCharacters r)

def readAll {α : Type} (one : Reader α) (text : List Char) : Except Error α :=
  match one text with
  | .error f => .error (f.locate text)
  | .ok (a, rest) =>
    match expectEnd a rest.1 with
    | .ok a => .ok a
    | .error f => .error (f.locate text)

def parse (text : String) : Except Error Value := readAll (readValue depthLimit) text.toList

/-! ### Sequences of dependency trees -/

/-- What a scalar is called where something else was asked for. -/
def Found.ofValue : Value → Found
  | .null => .null
  | .bool b => .bool b
  | .num n => .num n
  | .str s => .str s
  | .arr _ => .arr
  | .obj _ => .obj

/-- Something else stands where `expected` was asked for: a scalar is read first, an array or an object is
not. -/
def refuse {α : Type} (expected : Expected) (c : Char) (r : List Char) : Except Fault α :=
  if c = '[' then .error (.before (.invalidType .arr expected) (c :: r))
  else if c = '\x7b' then .error (.before (.invalidType .obj expected) (c :: r))
  else match readScalar c r with
    | .error f => .error f
    | .ok (v, rest) => .error (.before (.invalidType (.ofValue v) expected) rest.1)

def readNodes {α : Type} (item? : Value → Option α) : Reader (List (Node α)) := fun s =>
  match h : skipBlank s with
  | [] => .error (.atEnd .endInValue)
  | c :: r =>
    have hs : r.length + 1 ≤ s.length := lt_of_skipBlank h
    if c = '[' then
      later id hs (elements (readValue (depthLimit - 1)) (Node.decode? item?) r)
    else refuse .sequence c r

def parseNodes {α : Type} (item? : Value → Option α) (text : String) : Except Error (List (Node α)) :=
  readAll (readNodes item?) text.toList

def parseNode {α : Type} (item? : Value → Option α) (text : String) : Except Error (Node α) :=
  readAll (fun s => match readValue depthLimit s with
    | .error f => .error f
    | .ok (v, rest) =>
      match Node.decode? item? v with
      | some n => .ok (n, rest)
      | none => .error (.before .noMatchingVariant rest.1)) text.toList

end BuildOrder.Json
