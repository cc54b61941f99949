import BuildOrder.Json.Fault
import BuildOrder.Number.Decimal
import BuildOrder.Text.Rest

/-!
# The pieces of a JSON text

Blanks, words, strings and numbers, each read from the front of what is left.

A number is read digit by digit into 64 bits. A digit that does not fit is dropped with all digits after it,
and what is dropped before the point counts for the exponent. The number is then rounded, multiplied or divided
by a power of ten and rounded again, so the result may differ from the nearest number in its last bit. Numbers
that become infinite are refused.
-/

namespace BuildOrder.Json

open Text (byteCount)

/-- A reader either fails or takes at least one character. -/
abbrev Reader (α : Type u) := (s : List Char) → Except Fault (α × Rest s.length)

/-- A result with its rest seen from an earlier place. -/
def later {α β : Type} {m n : Nat} (f : α → β) (h : m ≤ n) :
    Except Fault (α × Rest m) → Except Fault (β × Rest n)
  | .ok (a, rest) => .ok (f a, rest.widen h)
  | .error e => .error e

/-! ### Blanks and words -/

def isBlank (c : Char) : Bool := c == ' ' || c == '\n' || c == '\t' || c == '\r'

def skipBlank (s : List Char) : List Char := s.dropWhile isBlank

theorem length_skipBlank_le (s : List Char) : (skipBlank s).length ≤ s.length := length_dropWhile_le _ s

theorem lt_of_skipBlank {s : List Char} {c : Char} {r : List Char} (h : skipBlank s = c :: r) :
    r.length < s.length := by
  have := length_skipBlank_le s
  rw [h] at this
  exact this

theorem lt_succ_of_skipBlank {s : List Char} {c : Char} {r : List Char} (h : skipBlank s = c :: r) :
    r.length < s.length + 1 := Nat.lt_succ_of_lt (lt_of_skipBlank h)

theorem lt_of_skipBlank_rest {s : List Char} {rest : Rest s.length} {c : Char} {r : List Char}
    (h : skipBlank rest.1 = c :: r) : r.length < s.length := Nat.lt_trans (lt_of_skipBlank h) rest.2

/-- The text goes on with the given letters. -/
def expectLetters : List Char → (s : List Char) → Except Fault { r : List Char // r.length ≤ s.length }
  | [], s => .ok ⟨s, length_le_self s⟩
  | _ :: _, [] => .error (.atEnd .endInValue)
  | c :: cs, d :: s =>
    if c = d then
      match expectLetters cs s with
      | .ok r => .ok ⟨r.1, Nat.le_succ_of_le r.2⟩
      | .error f => .error f
    else .error (.on .expectedIdent (d :: s))

/-- A word after its first letter. -/
def word {α : Type} (letters : List Char) (a : α) (r : List Char) : Except Fault (α × Rest (r.length + 1)) :=
  match expectLetters letters r with
  | .ok rest => .ok (a, ⟨rest.1, Nat.lt_succ_of_le rest.2⟩)
  | .error f => .error f

/-! ### Strings -/

def hexValue? (c : Char) : Option Nat :=
  if '0' ≤ c ∧ c ≤ '9' then some (c.toNat - '0'.toNat)
  else if 'a' ≤ c ∧ c ≤ 'f' then some (c.toNat - 'a'.toNat + 10)
  else if 'A' ≤ c ∧ c ≤ 'F' then some (c.toNat - 'A'.toNat + 10)
  else none

def hexValue4? (a b c d : Char) : Option Nat :=
  match hexValue? a, hexValue? b, hexValue? c, hexValue? d with
  | some a, some b, some c, some d => some (((a * 16 + b) * 16 + c) * 16 + d)
  | _, _, _, _ => none

/-- Why the next four bytes are no number in base sixteen. -/
def hexFault (s : List Char) : Fault :=
  if byteCount s < 4 then .atEnd .endInString else ⟨.invalidEscape, byteCount s - 4⟩

def readHex4 : Reader Nat
  | a :: b :: c :: d :: r =>
    match hexValue4? a b c d with
    | some n => .ok (n, ⟨r, by simp; omega⟩)
    | none => .error (hexFault (a :: b :: c :: d :: r))
  | s => .error (hexFault s)

/-- The second half of a surrogate pair, from its backslash on. -/
def readTrailing (high : Nat) : Reader Char
  | [] => .error (.atEnd .endInString)
  | '\\' :: [] => .error (.atEnd .endInString)
  | '\\' :: 'u' :: r =>
    match readHex4 r with
    | .error f => .error f
    | .ok (low, rest) =>
      if 0xDC00 ≤ low ∧ low ≤ 0xDFFF then
        .ok (Char.ofNat (0x10000 + (high - 0xD800) * 0x400 + (low - 0xDC00)), rest.widen (by simp; omega))
      else .error (.before .loneSurrogate rest.1)
  | '\\' :: c :: r => .error (.on .endOfHexEscape (c :: r))
  | c :: r => .error (.on .endOfHexEscape (c :: r))

/-- What follows `\u`. -/
def readUnicode : Reader Char := fun s =>
  match readHex4 s with
  | .error f => .error f
  | .ok (n, rest) =>
    if 0xDC00 ≤ n ∧ n ≤ 0xDFFF then .error (.before .loneSurrogate rest.1)
    else if 0xD800 ≤ n ∧ n ≤ 0xDBFF then
      match readTrailing n rest.1 with
      | .error f => .error f
      | .ok (c, rest') => .ok (c, rest'.widen rest.length_le)
    else .ok (Char.ofNat n, rest)

/-- The character that a letter after a backslash stands for. -/
def escapeLetter? (c : Char) : Option Char :=
  if c = '"' then some '"'
  else if c = '\\' then some '\\'
  else if c = '/' then some '/'
  else if c = 'b' then some '\x08'
  else if c = 'f' then some '\x0c'
  else if c = 'n' then some '\n'
  else if c = 'r' then some '\r'
  else if c = 't' then some '\t'
  else none

def readEscape : Reader Char
  | [] => .error (.atEnd .endInString)
  | c :: r =>
    match escapeLetter? c with
    | some d => .ok (d, ⟨r, length_lt_succ r⟩)
    | none =>
      if c = 'u' then
        match readUnicode r with
        | .error f => .error f
        | .ok (d, rest) => .ok (d, rest.widen (length_le_succ r))
      else .error (.on .invalidEscape (c :: r))

/-- The rest of a string after its opening quote, behind the characters read so far. -/
def readString {n : Nat} (s : List Char) (h : s.length < n) (acc : List Char) :
    Except Fault (String × Rest n) :=
  match s with
  | [] => .error (.atEnd .endInString)
  | c :: r =>
    if c = '"' then .ok (String.ofList acc.reverse, ⟨r, length_tail_lt h⟩)
    else if c = '\\' then
      match readEscape r with
      | .error f => .error f
      | .ok (d, rest) => readString rest.1 (rest.lt_of_cons h) (d :: acc)
    else if c.toNat < 0x20 then .error (.on .controlCharacter (c :: r))
    else readString r (length_tail_lt h) (c :: acc)
termination_by s.length
decreasing_by
  · have := rest.2; simp; omega
  · simp

/-! ### Numbers -/

/-- The greatest whole number that digits are collected into. -/
def collectLimit : Nat := 18446744073709551615

/-- Put digits behind the number `n` as long as it fits; the second part is the digits that are left. -/
def collect (n : Nat) : List Char → Nat × List Char
  | [] => (n, [])
  | c :: cs =>
    let m := 10 * n + digitValue c
    if m ≤ collectLimit then collect m cs else (n, c :: cs)

/-- The greatest explicit exponent. -/
def exponentLimit : Nat := 2147483647

/-- Read the digits of an exponent; nothing if it exceeds the limit, with the digits behind the one that
did so. -/
def collectExponent (e : Nat) : List Char → Nat ⊕ List Char
  | [] => .inl e
  | c :: cs =>
    let m := 10 * e + digitValue c
    if m ≤ exponentLimit then collectExponent m cs else .inr cs

def rankOfPowerOfTen (k : Nat) : Nat := rankOfRatio (Nat.pow 10 k) 1

/-- Scale a magnitude by a power of ten, rounding after each step; nothing if it becomes too large. Powers
beyond the 308th are taken in several steps. -/
def scale (rank : Nat) (exponent : Int) : Option Nat :=
  if 0 ≤ exponent then
    if exponent ≤ 308 then
      let scaled := rankOfRatio (unitsOfRank rank * unitsOfRank (rankOfPowerOfTen exponent.toNat)) (Nat.pow 2 2148)
      if scaled < rankLimit then some scaled else none
    else if rank = 0 then some 0 else none
  else if -308 ≤ exponent then
    some (rankOfRatio (unitsOfRank rank) (unitsOfRank (rankOfPowerOfTen exponent.natAbs)))
  else if rank = 0 then some 0
  else scale (rankOfRatio (unitsOfRank rank) (unitsOfRank (rankOfPowerOfTen 308))) (exponent + 308)
termination_by exponent.natAbs
decreasing_by omega

/-- A number with a point or an exponent, or one too large for 64 bits. -/
def floatOfParts (negative : Bool) (significand : Nat) (exponent : Int) : Option Number :=
  match scale (rankOfRatio significand 1) exponent with
  | some rank => (Finite64.ofRank? negative rank).map .float
  | none => none

def wholeNumber (negative : Bool) (n : Nat) : Option Number :=
  if negative && n == 0 then floatOfParts true 0 0
  else match Integer.ofInt? (if negative then -(n : Int) else n) with
    | some i => some (.int i)
    | none => floatOfParts negative n 0

/-- An exponent after its letter: its value, or, if it exceeds the limit, its sign and what is left behind
the digit that did so. -/
def readExponent : Reader (Int ⊕ (Bool × List Char)) := fun s =>
  let (negative, t) : Bool × { t : List Char // t.length ≤ s.length } := match s with
    | '+' :: r => (false, ⟨r, length_le_succ r⟩)
    | '-' :: r => (true, ⟨r, length_le_succ r⟩)
    | r => (false, ⟨r, length_le_self r⟩)
  match t with
  | ⟨[], _⟩ => .error (.atEnd .endInValue)
  | ⟨c :: r, ht⟩ =>
    if c.isDigit then
      let rest : Rest s.length :=
        ⟨r.dropWhile Char.isDigit, by have := length_dropWhile_le Char.isDigit r; simp at ht; omega⟩
      match collectExponent 0 (c :: r.takeWhile Char.isDigit) with
      | .inl e => .ok (.inl (if negative then -(e : Int) else e), rest)
      | .inr more => .ok (.inr (negative, more ++ rest.1), rest)
    else .error (.on .invalidNumber (c :: r))

/-- The end of a number: the value, unless it is too large. -/
def finish {n : Nat} (value : Option Number) (rest : Rest n) : Except Fault (Number × Rest n) :=
  match value with
  | some x => .ok (x, rest)
  | none => .error (.before .numberOutOfRange rest.1)

/-- A number after its digits and its fraction: an exponent, if there is one. -/
def readScaled {n : Nat} (negative : Bool) (significand : Nat) (exponent : Int) (rest : Rest n) :
    Except Fault (Number × Rest n) :=
  match rest with
  | ⟨c :: r, h⟩ =>
    if c = 'e' ∨ c = 'E' then
      match readExponent r with
      | .error f => .error f
      | .ok (.inl e, rest) =>
        finish (floatOfParts negative significand (exponent + e)) (rest.widen (by simp at h; omega))
      | .ok (.inr (below, more), rest) =>
        if significand ≠ 0 ∧ !below then .error (.before .numberOutOfRange more)
        else finish (floatOfParts negative 0 0) (rest.widen (by simp at h; omega))
    else finish (floatOfParts negative significand exponent) ⟨c :: r, h⟩
  | ⟨[], h⟩ => finish (floatOfParts negative significand exponent) ⟨[], h⟩

/-- A number from its first digit on. -/
def readUnsigned (negative : Bool) : Reader Number
  | [] => .error (.atEnd .endInValue)
  | c :: r =>
    if !c.isDigit then .error (.on .invalidNumber (c :: r))
    else
      let ds := r.takeWhile Char.isDigit
      if c = '0' ∧ !ds.isEmpty then .error (.on .invalidNumber r)
      else
        let (whole, dropped) := collect 0 (c :: ds)
        match h : r.dropWhile Char.isDigit with
        | [] => finish (if dropped.isEmpty then wholeNumber negative whole
            else floatOfParts negative whole dropped.length) ⟨[], by simp⟩
        | d :: t =>
          have ht : t.length + 1 ≤ r.length := by
            have := length_dropWhile_le Char.isDigit r; rw [h] at this; simpa using this
          if d = '.' then
            let fs := t.takeWhile Char.isDigit
            match hd : t.dropWhile Char.isDigit with
            | [] =>
              if fs.isEmpty then .error (.atEnd .endInValue)
              else
                let (significand, left) := collect whole fs
                readScaled negative significand (dropped.length - (fs.length - left.length)) ⟨[], by simp⟩
            | f :: u =>
              if fs.isEmpty then .error (.on .invalidNumber (f :: u))
              else
                let (significand, left) := collect whole fs
                readScaled negative significand (dropped.length - (fs.length - left.length))
                  ⟨f :: u, by
                    have := length_dropWhile_le Char.isDigit t; rw [hd] at this; simp at this ⊢; omega⟩
          else if d = 'e' ∨ d = 'E' then
            readScaled negative whole dropped.length ⟨d :: t, by simp; omega⟩
          else finish (if dropped.isEmpty then wholeNumber negative whole
            else floatOfParts negative whole dropped.length) ⟨d :: t, by simp; omega⟩

def readNumber : Reader Number
  | '-' :: r =>
    match readUnsigned true r with
    | .error f => .error f
    | .ok (x, rest) => .ok (x, rest.widen (length_le_succ r))
  | s => readUnsigned false s

end BuildOrder.Json
