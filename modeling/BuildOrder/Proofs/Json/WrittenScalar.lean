import Mathlib.Data.String.Basic
import BuildOrder.Json.Reader
import BuildOrder.Proofs.Json.Grammar
import BuildOrder.Value.Printer

/-!
# Numbers and strings read back

The digits of a number that fits into 64 bits are all collected, and what they spell is the number. They end where
the next character cannot go on with a number, which is why what follows a value matters. A number that does not fit
is no whole number any more, so what is read as a whole number is what was written.

A string is read as the characters that its text spells. What is written for a string spells it, one character at a
time: `escaped` makes of a character what the grammar has for it.
-/

namespace BuildOrder.Json

open Value (digits intText escaped hexDigit)

/-- The outcome is `a`, and `rest` is left. -/
def Yields {α : Type} {n : Nat} (r : Except Fault (α × Rest n)) (a : α) (rest : List Char) : Prop :=
  ∃ h, r = .ok (a, ⟨rest, h⟩)

theorem Yields.later {α β : Type} {m n : Nat} {r : Except Fault (α × Rest m)} {a : α} {rest : List Char}
    (hr : Yields r a rest) (f : α → β) (h : m ≤ n) : Yields (later f h r) (f a) rest := by
  obtain ⟨hlt, rfl⟩ := hr
  exact ⟨Nat.lt_of_lt_of_le hlt h, rfl⟩

/-! ### Numbers -/

/-- The text does not go on with a number that ends before it. -/
def EndsNumber (rest : List Char) : Prop :=
  ∀ c ∈ rest.head?, c.isDigit = false ∧ c ≠ '.' ∧ c ≠ 'e' ∧ c ≠ 'E'

private theorem le_ofDigitChars (ds : List Char) (m : Nat) : m ≤ Nat.ofDigitChars 10 ds m := by
  induction ds generalizing m with
  | nil => exact Nat.le_refl m
  | cons d ds ih =>
    rw [Nat.ofDigitChars_cons]
    have hstep := ih (10 * m + (d.toNat - '0'.toNat))
    omega

private theorem collect_eq_ofDigitChars {ds : List Char} {m : Nat} (h : Nat.ofDigitChars 10 ds m ≤ collectLimit) :
    collect m ds = (Nat.ofDigitChars 10 ds m, []) := by
  induction ds generalizing m with
  | nil => rfl
  | cons d ds ih =>
    rw [Nat.ofDigitChars_cons] at h ⊢
    have hfits : 10 * m + digitValue d ≤ collectLimit := Nat.le_trans (le_ofDigitChars ds _) h
    rw [collect, if_pos hfits]
    exact ih h

theorem isDigit_of_mem_digits {n : Nat} {c : Char} (hc : c ∈ digits n) : c.isDigit = true :=
  Nat.isDigit_of_mem_toDigits (by decide) (by decide) hc

private theorem digits_head_ne_zero {n : Nat} (hn : n ≠ 0) : (digits n).head? ≠ some '0' := by
  induction n using Nat.strongRecOn with
  | ind n ih =>
    by_cases hsmall : n < 10
    · rw [digits, Nat.toDigits_of_lt_base hsmall, List.head?_cons]
      exact fun h => hn (Nat.digitChar_eq_zero.mp (Option.some.inj h))
    · have hfirst := ih (n / 10) (by omega) (by omega)
      rw [digits, Nat.toDigits_of_base_le (by decide) (Nat.le_of_not_lt hsmall),
        List.head?_append_of_ne_nil _ Nat.toDigits_ne_nil]
      exact hfirst

theorem exists_digits_eq_cons (n : Nat) :
    ∃ c ds, digits n = c :: ds ∧ c.isDigit = true ∧ (∀ d ∈ ds, d.isDigit = true) ∧ (c = '0' → ds = []) := by
  obtain ⟨c, ds, hds⟩ := List.exists_cons_of_ne_nil (Nat.toDigits_ne_nil (n := n) (b := 10))
  have hdigits : ∀ d ∈ c :: ds, d.isDigit = true := by
    rw [← hds]
    exact fun d hd => isDigit_of_mem_digits hd
  refine ⟨c, ds, hds, hdigits c (List.mem_cons_self ..), fun d hd => hdigits d (List.mem_cons_of_mem c hd), ?_⟩
  rintro rfl
  by_cases hn : n = 0
  · subst hn
    exact (List.cons.inj hds).2.symm
  · exact absurd (congrArg List.head? hds) (digits_head_ne_zero hn)

private theorem takeWhile_isDigit_append {ds rest : List Char} (hds : ∀ d ∈ ds, d.isDigit = true)
    (hrest : EndsNumber rest) :
    (ds ++ rest).takeWhile Char.isDigit = ds ∧ (ds ++ rest).dropWhile Char.isDigit = rest := by
  rw [List.takeWhile_append_of_pos hds, List.dropWhile_append_of_pos hds]
  cases rest with
  | nil => exact ⟨List.append_nil ds, rfl⟩
  | cons c r =>
    have hc : ¬ c.isDigit = true := Bool.eq_false_iff.mp (hrest c rfl).1
    rw [List.takeWhile_cons_of_neg hc, List.dropWhile_cons_of_neg hc]
    exact ⟨List.append_nil ds, rfl⟩

/-- What the digits of a number come to: the number, or its first digits that fit and a power of ten. -/
def collected (negative : Bool) (n : Nat) : Option Number :=
  let (whole, dropped) := collect 0 (digits n)
  if dropped.isEmpty then wholeNumber negative whole else floatOfParts negative whole dropped.length

theorem readUnsigned_digits_append (negative : Bool) (n : Nat) {rest : List Char} (hrest : EndsNumber rest) :
    ∃ h, readUnsigned negative (digits n ++ rest) = finish (collected negative n) ⟨rest, h⟩ := by
  obtain ⟨c, ds, hcons, hc, hds, hzero⟩ := exists_digits_eq_cons n
  obtain ⟨htake, hdrop⟩ := takeWhile_isDigit_append hds hrest
  have hnozero : ¬ (c = '0' ∧ (!ds.isEmpty) = true) := by
    rintro ⟨rfl, hmore⟩
    rw [hzero rfl] at hmore
    cases hmore
  have hlt : rest.length < (c :: ds ++ rest).length := by
    rw [List.length_append]
    exact Nat.lt_add_of_pos_left (Nat.succ_pos _)
  rw [collected, hcons, List.cons_append, readUnsigned]
  refine ⟨hlt, ?_⟩
  simp only [hc, htake, hnozero, Bool.not_true, Bool.false_eq_true, if_false]
  split
  · next hnil =>
    obtain rfl := hdrop.symm.trans hnil
    rfl
  · next d t hmore =>
    obtain rfl := hdrop.symm.trans hmore
    obtain ⟨-, hpoint, hlower, hupper⟩ := hrest d rfl
    rw [if_neg hpoint, if_neg (not_or.mpr ⟨hlower, hupper⟩)]

theorem ofDigitChars_digits (n : Nat) : Nat.ofDigitChars 10 (digits n) 0 = n := Nat.ofDigitChars_ten_toDigits

private theorem collected_of_le {n : Nat} (hn : n ≤ collectLimit) (negative : Bool) :
    collected negative n = wholeNumber negative n := by
  have hcollect : collect 0 (digits n) = (n, []) := by
    rw [collect_eq_ofDigitChars (by rwa [ofDigitChars_digits]), ofDigitChars_digits]
  rw [collected, hcollect]
  exact if_pos rfl

theorem wholeNumber_natAbs (i : Integer) : wholeNumber (decide (i.val < 0)) i.val.natAbs = some (.int i) := by
  obtain ⟨i, hle, hlt⟩ := i
  have hof : Integer.ofInt? i = some ⟨i, hle, hlt⟩ := dif_pos ⟨hle, hlt⟩
  by_cases hneg : i < 0
  · have hval : -(i.natAbs : Int) = i := by omega
    have hnonzero : (i.natAbs == 0) = false := beq_eq_false_iff_ne.mpr (by omega)
    rw [wholeNumber, decide_eq_true hneg, hnonzero, if_neg (by decide), if_pos rfl, hval, hof]
  · have hval : (i.natAbs : Int) = i := by omega
    rw [wholeNumber, decide_eq_false hneg, Bool.false_and, if_neg (by decide), if_neg (by decide), hval, hof]

/-- The sign of a number is read apart from its digits. -/
theorem readNumber_intText_append (i : Int) {rest : List Char} (hrest : EndsNumber rest) :
    ∃ h, readNumber (intText i ++ rest) = finish (collected (decide (i < 0)) i.natAbs) ⟨rest, h⟩ := by
  obtain ⟨h, hread⟩ := readUnsigned_digits_append (decide (i < 0)) i.natAbs hrest
  rw [intText]
  by_cases hneg : i < 0
  · rw [decide_eq_true hneg] at hread ⊢
    rw [if_pos hneg, List.cons_append, readNumber, hread]
    refine ⟨Nat.lt_of_lt_of_le h (length_le_succ _), ?_⟩
    cases collected true i.natAbs <;> rfl
  · rw [decide_eq_false hneg] at hread ⊢
    rw [if_neg hneg]
    -- A number without a sign does not start with a dash.
    obtain ⟨c, ds, hcons, hc, -⟩ := exists_digits_eq_cons i.natAbs
    have hdash : ∀ r, digits i.natAbs ++ rest ≠ '-' :: r := by
      rintro r heq
      rw [hcons] at heq
      obtain ⟨rfl, -⟩ := List.cons.inj heq
      cases hc
    exact ⟨h, (readNumber.eq_2 _ hdash).trans hread⟩

theorem collected_integer (i : Integer) : collected (decide (i.val < 0)) i.val.natAbs = some (.int i) := by
  have hfits : i.val.natAbs ≤ collectLimit := by
    have hle := i.le_val
    have hlt := i.val_lt
    rw [collectLimit]
    omega
  rw [collected_of_le hfits, wholeNumber_natAbs]

theorem readNumber_intText (i : Integer) {rest : List Char} (hrest : EndsNumber rest) :
    Yields (readNumber (intText i.val ++ rest)) (.int i) rest := by
  obtain ⟨h, hread⟩ := readNumber_intText_append i.val hrest
  rw [hread, collected_integer]
  exact ⟨h, rfl⟩

/-! ### Numbers that do not fit -/

private theorem collect_ne_nil {ds : List Char} {m : Nat} (hm : m ≤ collectLimit)
    (h : collectLimit < Nat.ofDigitChars 10 ds m) : (collect m ds).2 ≠ [] := by
  induction ds generalizing m with
  | nil => exact absurd h (Nat.not_lt.mpr hm)
  | cons d ds ih =>
    rw [Nat.ofDigitChars_cons] at h
    rw [collect]
    split
    · next hfits => exact ih hfits h
    · exact List.cons_ne_nil d ds

theorem floatOfParts_ne_int {negative : Bool} {significand : Nat} {exponent : Int} {i : Integer} :
    floatOfParts negative significand exponent ≠ some (.int i) := by
  rw [floatOfParts]
  split
  · next rank _ =>
    cases Finite64.ofRank? negative rank <;> simp
  · simp

theorem val_of_ofInt? {i : Int} {j : Integer} (h : Integer.ofInt? i = some j) : j.val = i := by
  rw [Integer.ofInt?] at h
  split at h
  · exact Option.some.inj h ▸ rfl
  · cases h

theorem wholeNumber_eq_int {negative : Bool} {n : Nat} {i : Integer} (h : wholeNumber negative n = some (.int i)) :
    i.val = if negative then -(n : Int) else n := by
  rw [wholeNumber] at h
  split at h
  · exact absurd h floatOfParts_ne_int
  · split at h
    · next j hj =>
      obtain rfl := Number.int.inj (Option.some.inj h)
      exact val_of_ofInt? hj
    · exact absurd h floatOfParts_ne_int

theorem collected_eq_int {i : Int} {j : Integer} (h : collected (decide (i < 0)) i.natAbs = some (.int j)) :
    j.val = i := by
  by_cases hfits : i.natAbs ≤ collectLimit
  · rw [collected_of_le hfits] at h
    rw [wholeNumber_eq_int h]
    by_cases hneg : i < 0
    · rw [if_pos (decide_eq_true hneg)]
      omega
    · rw [if_neg (by simpa using hneg)]
      omega
  · have hmore : (collect 0 (digits i.natAbs)).2 ≠ [] := by
      refine collect_ne_nil (Nat.zero_le _) ?_
      rw [ofDigitChars_digits]
      exact Nat.lt_of_not_le hfits
    rw [collected] at h
    dsimp only at h
    rw [if_neg (mt List.isEmpty_iff.mp hmore)] at h
    exact absurd h floatOfParts_ne_int

/-! ### Strings -/

section Escape

variable {s t : List Char}

theorem readHex4_cons {a b c d : Char} {n : Nat} (h : hexValue4? a b c d = some n) :
    Yields (readHex4 (a :: b :: c :: d :: t)) n t := by
  rw [readHex4, h]
  exact ⟨_, rfl⟩

private theorem readUnicode_unit {a b c d : Char} {n : Nat} (h : hexValue4? a b c d = some n)
    (hn : ¬ (0xD800 ≤ n ∧ n ≤ 0xDFFF)) : Yields (readUnicode (a :: b :: c :: d :: t)) (Char.ofNat n) t := by
  obtain ⟨hlt, hread⟩ := readHex4_cons (t := t) h
  have hlow : ¬ (0xDC00 ≤ n ∧ n ≤ 0xDFFF) := by omega
  have hhigh : ¬ (0xD800 ≤ n ∧ n ≤ 0xDBFF) := by omega
  rw [readUnicode, hread]
  dsimp only
  rw [if_neg hlow, if_neg hhigh]
  exact ⟨hlt, rfl⟩

private theorem readUnicode_pair {a b c d a' b' c' d' : Char} {high low : Nat} (h : hexValue4? a b c d = some high)
    (hhigh : 0xD800 ≤ high ∧ high ≤ 0xDBFF) (h' : hexValue4? a' b' c' d' = some low)
    (hlow : 0xDC00 ≤ low ∧ low ≤ 0xDFFF) :
    Yields (readUnicode (a :: b :: c :: d :: '\\' :: 'u' :: a' :: b' :: c' :: d' :: t))
      (Char.ofNat (0x10000 + (high - 0xD800) * 0x400 + (low - 0xDC00))) t := by
  obtain ⟨hlt, hread⟩ := readHex4_cons (t := '\\' :: 'u' :: a' :: b' :: c' :: d' :: t) h
  obtain ⟨hlt', hread'⟩ := readHex4_cons (t := t) h'
  have hnotlow : ¬ (0xDC00 ≤ high ∧ high ≤ 0xDFFF) := by omega
  rw [readUnicode, hread]
  dsimp only
  rw [if_neg hnotlow, if_pos hhigh, readTrailing, hread']
  dsimp only
  rw [if_pos hlow]
  exact ⟨_, rfl⟩

private theorem readEscape_letter {c d : Char} (h : escapeLetter? c = some d) (s : List Char) :
    Yields (readEscape (c :: s)) d s := by
  rw [readEscape, h]
  exact ⟨_, rfl⟩

theorem Escape.readEscape {c : Char} (h : Escape s c t) : Yields (readEscape s) c t := by
  have hunit : ∀ {r : List Char}, Yields (readUnicode r) c t → Yields (Json.readEscape ('u' :: r)) c t := by
    rintro r ⟨hlt, hread⟩
    rw [Json.readEscape, show escapeLetter? 'u' = none from rfl]
    dsimp only
    rw [if_pos rfl, hread]
    exact ⟨_, rfl⟩
  cases h with
  | letter hl => exact readEscape_letter hl t
  | unit hvalue hn => exact hunit (readUnicode_unit hvalue hn)
  | pair hvalue hhigh hvalue' hlow => exact hunit (readUnicode_pair hvalue hhigh hvalue' hlow)

end Escape

section String

variable {n : Nat} {acc s t : List Char}

private theorem readString_plain {c : Char} {s : List Char} {h : (c :: s).length < n} (hquote : c ≠ '"')
    (hslash : c ≠ '\\') (hcontrol : ¬ c.toNat < 0x20) :
    readString (c :: s) h acc = readString s (length_tail_lt h) (c :: acc) := by
  rw [readString, if_neg hquote, if_neg hslash, if_neg hcontrol]

private theorem readString_escape {c : Char} {r s : List Char} {h : ('\\' :: r).length < n}
    (hescape : Yields (readEscape r) c s) : ∃ hs, readString ('\\' :: r) h acc = readString s hs (c :: acc) := by
  obtain ⟨hlt, hread⟩ := hescape
  rw [readString, if_neg (by decide), if_pos rfl, hread]
  exact ⟨_, rfl⟩

theorem Spells.readString {cs : List Char} (h : Spells s cs t) {n : Nat} (hs : s.length < n) (acc : List Char) :
    Yields (readString s hs acc) (String.ofList (acc.reverse ++ cs)) t := by
  induction h generalizing acc with
  | close =>
    rw [Json.readString, if_pos rfl, List.append_nil]
    exact ⟨_, rfl⟩
  | @plain c s cs t hquote hslash hcontrol _ ih =>
    have hread := ih (length_tail_lt hs) (c :: acc)
    rwa [List.reverse_cons, List.append_assoc, List.singleton_append,
      ← readString_plain (h := hs) hquote hslash hcontrol] at hread
  | @escaped c s cs t u hescape _ ih =>
    obtain ⟨hu, hstep⟩ : ∃ hu, Json.readString ('\\' :: s) hs acc = Json.readString u hu (c :: acc) :=
      readString_escape hescape.readEscape
    have hread := ih hu (c :: acc)
    rwa [List.reverse_cons, List.append_assoc, List.singleton_append, ← hstep] at hread

theorem Spells.readString_eq {x : String} (h : Spells s x.toList t) {n : Nat} (hs : s.length < n) :
    Yields (Json.readString s hs []) x t := by
  have hread := h.readString hs []
  rwa [List.reverse_nil, List.nil_append, String.ofList_toList] at hread

/-- A character is written as itself, with a letter behind a backslash, or by its number. -/
theorem escaped_cases (c : Char) :
    (escaped c = [c] ∧ c ≠ '"' ∧ c ≠ '\\' ∧ ¬ c.toNat < 0x20) ∨
      (∃ letter, escaped c = ['\\', letter] ∧ escapeLetter? letter = some c) ∨
      (escaped c = ['\\', 'u', '0', '0', hexDigit (c.toNat / 16), hexDigit (c.toNat % 16)] ∧ c.toNat < 0x20) := by
  by_cases hletter : c ∈ ['"', '\\', '\n', '\r', '\t', '\x08', '\x0c']
  · simp only [List.mem_cons, List.not_mem_nil, or_false] at hletter
    rcases hletter with rfl | rfl | rfl | rfl | rfl | rfl | rfl <;> exact .inr (.inl ⟨_, rfl, rfl⟩)
  · simp only [List.mem_cons, List.not_mem_nil, or_false, not_or] at hletter
    simp only [escaped, hletter, if_false]
    split
    · next hcontrol => exact .inr (.inr ⟨rfl, hcontrol⟩)
    · next hcontrol => exact .inl ⟨rfl, hletter.1, hletter.2.1, hcontrol⟩

private theorem hexValue4?_hexDigit (n : Fin 32) :
    hexValue4? '0' '0' (hexDigit (n.val / 16)) (hexDigit (n.val % 16)) = some n.val := by
  revert n
  decide

theorem spells_escaped_append {cs : List Char} (c : Char) (h : Spells s cs t) :
    Spells (escaped c ++ s) (c :: cs) t := by
  obtain ⟨hwritten, hquote, hslash, hcontrol⟩ | ⟨letter, hwritten, hletter⟩ | ⟨hwritten, hcontrol⟩ := escaped_cases c
  · rw [hwritten]
    exact .plain hquote hslash hcontrol h
  · rw [hwritten]
    exact .escaped (.letter hletter) h
  · have hescape := @Escape.unit _ _ _ _ _ s (hexValue4?_hexDigit ⟨c.toNat, hcontrol⟩) (by dsimp only; omega)
    rw [Char.ofNat_toNat] at hescape
    rw [hwritten]
    exact .escaped hescape h

theorem spells_written (cs t : List Char) : Spells (cs.flatMap escaped ++ '"' :: t) cs t := by
  induction cs with
  | nil => exact .close
  | cons c cs ih =>
    rw [List.flatMap_cons, List.append_assoc]
    exact spells_escaped_append c ih

theorem readString_quoted (x : String) {h : (x.toList.flatMap escaped ++ '"' :: t).length < n} :
    Yields (readString (x.toList.flatMap escaped ++ '"' :: t) h []) x t := (spells_written x.toList t).readString_eq h

end String

end BuildOrder.Json
