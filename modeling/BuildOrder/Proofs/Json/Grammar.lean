import BuildOrder.Json.Skip

/-!
# The grammar of JSON texts

Each notion of the grammar relates a text to what is left of it, so `Spells s cs t` says that the characters `cs`
are spelled from `s` on up to a closing quote, and `t` stands behind it. Values are derived by frames: an open bracket
is a frame, and behind a value inside a frame comes a comma with the next value, or the closing bracket.

A derivation may end before its text does: from `12` on there is the number 1, which leaves `2`. `EndsNumber` rules
this out for what is left.
-/

namespace BuildOrder.Json

/-- There are only blanks up to the second text. -/
inductive Blanks : List Char → List Char → Prop where
  | none {s : List Char} : Blanks s s
  | more {c : Char} {s t : List Char} : isBlank c = true → Blanks s t → Blanks (c :: s) t

/-! ### Strings -/

/-- What stands behind a backslash, and the character that it stands for. -/
inductive Escape : List Char → Char → List Char → Prop where
  | letter {l c : Char} {t : List Char} : escapeLetter? l = some c → Escape (l :: t) c t
  | unit {a b c d : Char} {n : Nat} {t : List Char} :
      hexValue4? a b c d = some n → ¬ (0xD800 ≤ n ∧ n ≤ 0xDFFF) → Escape ('u' :: a :: b :: c :: d :: t) (Char.ofNat n) t
  | pair {a b c d a' b' c' d' : Char} {high low : Nat} {t : List Char} :
      hexValue4? a b c d = some high → 0xD800 ≤ high ∧ high ≤ 0xDBFF →
      hexValue4? a' b' c' d' = some low → 0xDC00 ≤ low ∧ low ≤ 0xDFFF →
      Escape ('u' :: a :: b :: c :: d :: '\\' :: 'u' :: a' :: b' :: c' :: d' :: t)
        (Char.ofNat (0x10000 + (high - 0xD800) * 0x400 + (low - 0xDC00))) t

/-- The characters of a string, from behind its opening quote on. -/
inductive Spells : List Char → List Char → List Char → Prop where
  | close {t : List Char} : Spells ('"' :: t) [] t
  | plain {c : Char} {s cs t : List Char} :
      c ≠ '"' → c ≠ '\\' → ¬ c.toNat < 0x20 → Spells s cs t → Spells (c :: s) (c :: cs) t
  | escaped {c : Char} {s cs t u : List Char} : Escape s c u → Spells u cs t → Spells ('\\' :: s) (c :: cs) t

/-! ### Numbers -/

inductive Digits : List Char → List Char → Prop where
  | last {c : Char} {t : List Char} : c.isDigit = true → Digits (c :: t) t
  | more {c : Char} {s t : List Char} : c.isDigit = true → Digits s t → Digits (c :: s) t

/-- A whole number, with no zero in front of other digits. -/
inductive WholePart : List Char → List Char → Prop where
  | zero {t : List Char} : WholePart ('0' :: t) t
  | digits {c : Char} {s t : List Char} : c ≠ '0' → Digits (c :: s) t → WholePart (c :: s) t

inductive FractionPart : List Char → List Char → Prop where
  | absent {t : List Char} : FractionPart t t
  | digits {s t : List Char} : Digits s t → FractionPart ('.' :: s) t

inductive ExponentPart : List Char → List Char → Prop where
  | absent {t : List Char} : ExponentPart t t
  | digits {e : Char} {s t : List Char} : e = 'e' ∨ e = 'E' → Digits s t → ExponentPart (e :: s) t
  | signed {e sign : Char} {s t : List Char} :
      e = 'e' ∨ e = 'E' → sign = '+' ∨ sign = '-' → Digits s t → ExponentPart (e :: sign :: s) t

/-- A number without a sign. -/
inductive Unsigned : List Char → List Char → Prop where
  | parts {s u v t : List Char} : WholePart s u → FractionPart u v → ExponentPart v t → Unsigned s t

/-! ### Values -/

/-- A value that is no array and no object. -/
inductive Scalar : List Char → List Char → Prop where
  | word {w t : List Char} : w ∈ ["null".toList, "true".toList, "false".toList] → Scalar (w ++ t) t
  | string {s cs t : List Char} : Spells s cs t → Scalar ('"' :: s) t
  | number {s t : List Char} : Unsigned s t → Scalar s t
  | negative {s t : List Char} : Unsigned s t → Scalar ('-' :: s) t

def Frame.opening : Frame → Char
  | .list => '['
  | .object => '\x7b'

/-- What stands in front of a value inside a frame: nothing, or a key with its colon. -/
inductive Lead : Frame → List Char → List Char → Prop where
  | list {s : List Char} : Lead .list s s
  | object {s t u v key : List Char} : Blanks s ('"' :: u) → Spells u key v → Blanks v (':' :: t) → Lead .object s t

/-- What is derived: a value behind blanks, or what stands behind a value up to the end of its frame. -/
inductive Symbol where
  | value
  | tail (f : Frame)

inductive Derives : Symbol → List Char → List Char → Prop where
  | scalar {s t u : List Char} : Blanks s u → Scalar u t → Derives .value s t
  | empty {f : Frame} {s t u : List Char} :
      Blanks s (f.opening :: u) → Blanks u (f.closing :: t) → Derives .value s t
  | filled {f : Frame} {s t u v w : List Char} :
      Blanks s (f.opening :: u) → Lead f u v → Derives .value v w → Derives (.tail f) w t → Derives .value s t
  | close {f : Frame} {s t : List Char} : Blanks s (f.closing :: t) → Derives (.tail f) s t
  | next {f : Frame} {s t u v w : List Char} :
      Blanks s (',' :: u) → Lead f u v → Derives .value v w → Derives (.tail f) w t → Derives (.tail f) s t

/-! ### Blanks -/

theorem skipBlank_cons {c : Char} {r : List Char} (h : isBlank c = false) : skipBlank (c :: r) = c :: r :=
  List.dropWhile_cons_of_neg (Bool.eq_false_iff.mp h)

theorem Blanks.skipBlank_eq {s t : List Char} (h : Blanks s t) : skipBlank s = skipBlank t := by
  induction h with
  | none => rfl
  | more hc _ ih => exact (List.dropWhile_cons_of_pos hc).trans ih

theorem Blanks.skipBlank_eq_cons {s r : List Char} {c : Char} (h : Blanks s (c :: r)) (hc : isBlank c = false) :
    skipBlank s = c :: r := h.skipBlank_eq.trans (skipBlank_cons hc)

end BuildOrder.Json
