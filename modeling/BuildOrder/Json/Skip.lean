import BuildOrder.Json.Lexeme

/-!
# Skipping JSON values

A value that nobody asks for is skipped. Its brackets are kept in a list, so it may be nested to any depth, and
it is held to fewer rules than a value that is read: escapes need only have the right shape, numbers may be of
any size, and a comma before a closing bracket is reported as a missing value or key.
-/

namespace BuildOrder.Json

/-- What an open bracket encloses. -/
inductive Frame where
  | list
  | object
deriving DecidableEq

namespace Frame

def closing : Frame → Char
  | .list => ']'
  | .object => '\x7d'

def endCause : Frame → Cause
  | .list => .endInList
  | .object => .endInObject

/-- Something other than a comma or the closing bracket stands behind a value. -/
def separatorCause : Frame → Cause
  | .list => .expectedListSeparator
  | .object => .expectedObjectSeparator

end Frame

/-- What comes next: a value, what may stand behind one, or nothing. The frames are innermost first. -/
inductive Awaited where
  | value (frames : List Frame)
  | separator (frame : Frame) (frames : List Frame)
  | nothing

def Awaited.behind : List Frame → Awaited
  | [] => .nothing
  | f :: fs => .separator f fs

/-- What follows a backslash: a known letter, or four digits. -/
def skipEscape : Reader Unit
  | [] => .error (.atEnd .endInString)
  | c :: r =>
    if c = 'u' then
      match readHex4 r with
      | .error f => .error f
      | .ok (_, rest) => .ok ((), rest.widen (length_le_succ r))
    else if (escapeLetter? c).isSome then .ok ((), ⟨r, length_lt_succ r⟩)
    else .error (.on .invalidEscape (c :: r))

/-- The rest of a string after its opening quote. -/
def skipString {n : Nat} (s : List Char) (h : s.length < n) : Except Fault (Rest n) :=
  match s with
  | [] => .error (.atEnd .endInString)
  | c :: r =>
    if c = '"' then .ok ⟨r, length_tail_lt h⟩
    else if c = '\\' then
      match skipEscape r with
      | .error f => .error f
      | .ok (_, rest) => skipString rest.1 (rest.lt_of_cons h)
    else if c.toNat < 0x20 then .error (.before .controlCharacter (c :: r))
    else skipString r (length_tail_lt h)
termination_by s.length
decreasing_by
  · have := rest.2; simp; omega
  · simp

def dropSign : List Char → List Char
  | c :: r => if c = '+' ∨ c = '-' then r else c :: r
  | [] => []

theorem length_dropSign_le (s : List Char) : (dropSign s).length ≤ s.length := by
  unfold dropSign
  split <;> (try split) <;> simp

/-- What is left behind digits, of which there must be one. -/
def skipDigits (s : List Char) : Except Fault { r : List Char // r.length ≤ s.length } :=
  match s with
  | [] => .error (.atEnd .invalidNumber)
  | c :: r =>
    if c.isDigit then .ok ⟨r.dropWhile Char.isDigit, Nat.le_succ_of_le (length_dropWhile_le _ r)⟩
    else .error (.on .invalidNumber (c :: r))

/-- The exponent of a number, if there is one. -/
def skipExponent (s : List Char) : Except Fault { r : List Char // r.length ≤ s.length } :=
  match s with
  | e :: r =>
    if e = 'e' ∨ e = 'E' then
      match skipDigits (dropSign r) with
      | .error f => .error f
      | .ok t => .ok ⟨t.1, Nat.le_succ_of_le (Nat.le_trans t.2 (length_dropSign_le r))⟩
    else .ok ⟨e :: r, length_cons_le_self e r⟩
  | t => .ok ⟨t, length_le_self t⟩

/-- The fraction and the exponent of a number, if there are any. -/
def skipFraction (s : List Char) : Except Fault { r : List Char // r.length ≤ s.length } :=
  match s with
  | '.' :: r =>
    match skipDigits r with
    | .error f => .error f
    | .ok t =>
      match skipExponent t.1 with
      | .error f => .error f
      | .ok u => .ok ⟨u.1, Nat.le_succ_of_le (Nat.le_trans u.2 t.2)⟩
  | s => skipExponent s

def skipUnsigned : Reader Unit
  | [] => .error (.atEnd .invalidNumber)
  | c :: r =>
    if !c.isDigit then .error (.on .invalidNumber (c :: r))
    else if c = '0' ∧ r.head?.any Char.isDigit then .error (.on .invalidNumber r)
    else
      let t := if c = '0' then r else r.dropWhile Char.isDigit
      have ht : t.length ≤ r.length := by
        simp only [t]
        split
        · exact Nat.le_refl _
        · exact length_dropWhile_le _ r
      match skipFraction t with
      | .error f => .error f
      | .ok u => .ok ((), ⟨u.1, Nat.lt_succ_of_le (Nat.le_trans u.2 ht)⟩)

/-- A value that is no array and no object, from its first character on. -/
def skipScalar (c : Char) (r : List Char) : Except Fault (Unit × Rest (r.length + 1)) :=
  if c = 'n' then word ['u', 'l', 'l'] () r
  else if c = 't' then word ['r', 'u', 'e'] () r
  else if c = 'f' then word ['a', 'l', 's', 'e'] () r
  else if c = '"' then (skipString r (length_lt_succ r)).map fun rest => ((), rest)
  else if c = '-' then later id (length_le_succ r) (skipUnsigned r)
  else if c.isDigit then later id (length_cons_le_self c r) (skipUnsigned (c :: r))
  else .error (.on .expectedValue (c :: r))

def skipKey : Reader Unit := fun s =>
  match h : skipBlank s with
  | [] => .error (.atEnd .endInObject)
  | c :: r =>
    have hs : r.length < s.length := lt_of_skipBlank h
    if c ≠ '"' then .error (.on .keyNotString (c :: r))
    else
      match skipString r (length_lt_succ r) with
      | .error f => .error f
      | .ok rest =>
        match hr : skipBlank rest.1 with
        | [] => .error (.atEnd .endInObject)
        | d :: t =>
          if d = ':' then
            .ok ((), ⟨t, by
              have h1 := length_skipBlank_le rest.1
              have h2 := rest.2
              rw [hr] at h1
              simp at h1
              omega⟩)
          else .error (.on .expectedColon (d :: t))

/-- Behind an opening bracket: past it if it is closed at once, else at the first value. -/
def openFrame (frame : Frame) (frames : List Frame) (s : List Char) :
    Except Fault (Awaited × Rest (s.length + 1)) :=
  match h : skipBlank s with
  | [] => .error (.atEnd frame.endCause)
  | c :: r =>
    have hs : r.length < s.length + 1 := lt_succ_of_skipBlank h
    if c = frame.closing then .ok (.behind frames, ⟨r, hs⟩)
    else match frame with
      | .list => .ok (.value (.list :: frames), ⟨s, length_lt_succ s⟩)
      | .object => later (fun _ => .value (.object :: frames)) (length_le_succ s) (skipKey s)

/-- A value after blanks, as far as the first bracket it opens. -/
def skipStart (frames : List Frame) : Reader Awaited := fun s =>
  match h : skipBlank s with
  | [] => .error (.atEnd .endInValue)
  | c :: r =>
    have hs : r.length + 1 ≤ s.length := lt_of_skipBlank h
    if c = '[' then later id hs (openFrame .list frames r)
    else if c = '\x7b' then later id hs (openFrame .object frames r)
    else later (fun _ => .behind frames) hs (skipScalar c r)

/-- What stands behind a value inside a frame: a comma and perhaps a key, or the closing bracket. -/
def skipSeparator (frame : Frame) (frames : List Frame) : Reader Awaited := fun s =>
  match h : skipBlank s with
  | [] => .error (.atEnd frame.endCause)
  | c :: r =>
    have hs : r.length < s.length := lt_of_skipBlank h
    if c = ',' then
      match frame with
      | .list => .ok (.value (.list :: frames), ⟨r, hs⟩)
      | .object => later (fun _ => .value (.object :: frames)) (Nat.le_of_lt hs) (skipKey r)
    else if c = frame.closing then .ok (.behind frames, ⟨r, hs⟩)
    else .error (.on frame.separatorCause (c :: r))

def skipAwaited {n : Nat} (a : Awaited) (s : List Char) (h : s.length < n) : Except Fault (Rest n) :=
  match a with
  | .nothing => .ok ⟨s, h⟩
  | .value frames =>
    match skipStart frames s with
    | .error f => .error f
    | .ok (a, rest) => skipAwaited a rest.1 (Nat.lt_trans rest.2 h)
  | .separator frame frames =>
    match skipSeparator frame frames s with
    | .error f => .error f
    | .ok (a, rest) => skipAwaited a rest.1 (Nat.lt_trans rest.2 h)
termination_by s.length
decreasing_by all_goals exact rest.2

def skipValue : Reader Unit := fun s =>
  match skipStart [] s with
  | .error f => .error f
  | .ok (a, rest) => (skipAwaited a rest.1 rest.2).map fun rest => ((), rest)

end BuildOrder.Json
