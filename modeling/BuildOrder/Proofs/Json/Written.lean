import BuildOrder.Proofs.Json.WrittenScalar
import BuildOrder.Proofs.Value.Parts

/-!
# Written values read back

The text of a value starts with a character that is no blank and closes no array, so a reader that looks for a
value finds it at once. If the reader of one value gives back all elements of an array, the loop over elements gives
back the array; if it gives back the values of all fields and the keys are in order, the loop over fields gives back
the object, because every field is put in behind those before it. The budget of nesting levels carries this from
level to level.

Floating point numbers are left out: a number that is read is rounded twice, so it may not be the one written.
-/

namespace BuildOrder.Json

open Value (Whole Tidy IsScalar quoted moreElements moreFields intText digits)

/-! ### The first character of a value -/

/-- The text goes on at once with something other than the end of an array. -/
def Starts (s : List Char) : Prop := ∃ c r, s = c :: r ∧ isBlank c = false ∧ c ≠ ']'

theorem Starts.append {s : List Char} (h : Starts s) (t : List Char) : Starts (s ++ t) := by
  obtain ⟨c, r, rfl, hblank, hclose⟩ := h
  exact ⟨c, r ++ t, rfl, hblank, hclose⟩

theorem isBlank_eq_false_of_isDigit {c : Char} (h : c.isDigit = true) : isBlank c = false := by
  rw [← Bool.not_eq_true]
  intro hblank
  simp only [isBlank, Bool.or_eq_true, beq_iff_eq] at hblank
  rcases hblank with ((rfl | rfl) | rfl) | rfl <;> cases h

theorem exists_intText_eq_cons (i : Int) : ∃ c r, intText i = c :: r ∧ (c = '-' ∨ c.isDigit = true) := by
  rw [intText]
  split
  · exact ⟨'-', _, rfl, .inl rfl⟩
  · obtain ⟨c, ds, hcons, hc, -⟩ := exists_digits_eq_cons i.natAbs
    exact ⟨c, ds, hcons, .inr hc⟩

private theorem starts_intText (i : Int) : Starts (intText i) := by
  obtain ⟨c, r, hcons, hc⟩ := exists_intText_eq_cons i
  refine ⟨c, r, hcons, ?_, ?_⟩
  · rcases hc with rfl | hc
    · rfl
    · exact isBlank_eq_false_of_isDigit hc
  · rintro rfl
    exact absurd hc (by decide)

theorem starts_chars {v : Value} (h : v.Whole) : Starts v.chars := by
  cases v with
  | null => exact ⟨'n', _, rfl, rfl, by decide⟩
  | bool b => cases b with
    | true => exact ⟨'t', _, rfl, rfl, by decide⟩
    | false => exact ⟨'f', _, rfl, rfl, by decide⟩
  | num x => cases x with
    | int i => exact starts_intText i.val
    | float x => exact absurd h (Value.not_whole_float x)
  | str s => exact ⟨'"', _, rfl, rfl, by decide⟩
  | arr vs => cases vs <;> exact ⟨'[', _, rfl, rfl, by decide⟩
  | obj fs => cases fs <;> exact ⟨'\x7b', _, rfl, rfl, by decide⟩

/-! ### What follows a value -/

theorem endsNumber_cons {c : Char} {r : List Char} (hdigit : c.isDigit = false) (hpoint : c ≠ '.') (hlower : c ≠ 'e')
    (hupper : c ≠ 'E') : EndsNumber (c :: r) := by
  rintro d hd
  obtain rfl := Option.some.inj hd
  exact ⟨hdigit, hpoint, hlower, hupper⟩

theorem endsNumber_moreElements (vs : List Value) (rest : List Char) : EndsNumber (moreElements vs ++ rest) := by
  cases vs <;> exact endsNumber_cons rfl (by decide) (by decide) (by decide)

theorem endsNumber_moreFields (fs : List (String × Value)) (rest : List Char) : EndsNumber (moreFields fs ++ rest) := by
  cases fs <;> exact endsNumber_cons rfl (by decide) (by decide) (by decide)

/-- A reader gives back a value that has been written, and takes no more than its text. -/
def ReadsBack (one : Reader Value) (v : Value) : Prop :=
  ∀ rest, EndsNumber rest → Yields (one (v.chars ++ rest)) v rest

/-! ### Elements -/

section OneElement

variable {α β : Type} {one : Reader α} {take? : α → Option β} {n : Nat} {s r t : List Char} {a : α} {b : β}
  {rest : Rest s.length}

theorem elementsFrom_closing (h : s.length < n) (acc : List β) (hone : one s = .ok (a, rest))
    (htake : take? a = some b) (hskip : skipBlank rest.1 = ']' :: r) :
    Yields (elementsFrom one take? s h acc) (b :: acc).reverse r := by
  refine ⟨Nat.lt_trans (lt_of_skipBlank_rest hskip) h, ?_⟩
  rw [elementsFrom, hone]
  dsimp only
  rw [htake]
  dsimp only
  split
  · next hend => cases hskip.symm.trans hend
  · next hnext =>
    obtain ⟨rfl, rfl⟩ := List.cons.inj (hskip.symm.trans hnext)
    rfl

theorem elementsFrom_comma {c : Char} (h : s.length < n) (acc : List β) (hone : one s = .ok (a, rest))
    (htake : take? a = some b) (hskip : skipBlank rest.1 = ',' :: r) (hnext : skipBlank r = c :: t)
    (hclosing : c ≠ ']') :
    ∃ ht, elementsFrom one take? s h acc = elementsFrom one take? (c :: t) ht (b :: acc) := by
  have ht : (c :: t).length < n := by
    have hr := lt_of_skipBlank_rest hskip
    have hle := length_skipBlank_le r
    rw [hnext] at hle
    omega
  refine ⟨ht, ?_⟩
  rw [elementsFrom, hone]
  dsimp only
  rw [htake]
  dsimp only
  split
  · next hend => cases hskip.symm.trans hend
  · next hcomma =>
    obtain ⟨rfl, rfl⟩ := List.cons.inj (hskip.symm.trans hcomma)
    rw [if_neg (by decide), if_pos rfl]
    split
    · next hend => cases hnext.symm.trans hend
    · next hstart =>
      obtain ⟨rfl, rfl⟩ := List.cons.inj (hnext.symm.trans hstart)
      rw [if_neg hclosing]

end OneElement

section Elements

variable {one : Reader Value} {n : Nat} {s rest : List Char} {v : Value} {vs : List Value}

/-- The loop goes on from a value that has just been read to the elements behind it. -/
private theorem elementsFrom_moreElements (hback : ∀ w ∈ vs, ReadsBack one w) (hwhole : ∀ w ∈ vs, w.Whole)
    (acc : List Value) (h : s.length < n) (hone : Yields (one s) v (moreElements vs ++ rest)) :
    Yields (elementsFrom one some s h acc) (acc.reverse ++ v :: vs) rest := by
  -- `v` is the next to be put in front of `acc`, and `vs` are still unread.
  induction vs generalizing s v acc with
  | nil =>
    obtain ⟨_, hone⟩ := hone
    have hlast : Yields (elementsFrom one some s h acc) (v :: acc).reverse rest :=
      elementsFrom_closing h acc hone rfl rfl
    rwa [List.reverse_cons] at hlast
  | cons w ws ih =>
    rw [List.forall_mem_cons] at hback hwhole
    rw [moreElements, List.append_assoc, List.cons_append] at hone
    have hread := hback.1 _ (endsNumber_moreElements ws rest)
    obtain ⟨c, r, hstart, hblank, hclose⟩ := (starts_chars hwhole.1).append (moreElements ws ++ rest)
    rw [hstart] at hone hread
    obtain ⟨_, hone⟩ := hone
    have htake : some v = some v := rfl
    obtain ⟨ht, hnext⟩ := elementsFrom_comma h acc hone htake rfl (skipBlank_cons hblank) hclose
    have hrest := ih hback.2 hwhole.2 (v :: acc) ht hread
    rwa [List.reverse_cons, List.append_assoc, List.singleton_append, ← hnext] at hrest

private theorem elements_of_starts (hs : Starts s) : ∃ h, elements one some s = elementsFrom one some s h [] := by
  obtain ⟨c, r, rfl, hblank, hclose⟩ := hs
  have hskip : skipBlank (c :: r) = c :: r := skipBlank_cons hblank
  refine ⟨length_lt_succ _, ?_⟩
  rw [elements]
  split
  · next hend => exact absurd (hskip.symm.trans hend) (List.cons_ne_nil c r)
  · next hstart =>
    obtain ⟨rfl, rfl⟩ := List.cons.inj (hskip.symm.trans hstart)
    exact if_neg hclose

end Elements

/-! ### Fields -/

section Fields

variable {one : Reader Value} {n : Nat} {s r t rest : List Char} {key : String} {v : Value}
variable {fs : List (String × Value)}

/-- The text of a field behind the first quote of its key, and what follows the field. -/
def fieldText (key : String) (v : Value) (t : List Char) : List Char :=
  key.toList.flatMap Value.escaped ++ '"' :: ':' :: (v.chars ++ t)

private theorem moreFields_append (key : String) (v : Value) (fs : List (String × Value)) (rest : List Char) :
    moreFields ((key, v) :: fs) ++ rest = ',' :: '"' :: fieldText key v (moreFields fs ++ rest) := by
  simp [moreFields, quoted, fieldText]

private theorem chars_obj_append (key : String) (v : Value) (fs : List (String × Value)) (rest : List Char) :
    (Value.obj ((key, v) :: fs)).chars ++ rest = '\x7b' :: '"' :: fieldText key v (moreFields fs ++ rest) := by
  simp [Value.chars, quoted, fieldText]

private theorem fieldsFrom_last (acc : List (String × Value)) (h : s.length < n)
    (hkey : Yields (readString s (length_lt_succ s) []) key (':' :: r)) (hone : Yields (one r) v ('\x7d' :: t)) :
    Yields (fieldsFrom one s h acc) (Value.insertField key v acc) t := by
  obtain ⟨hlt, hkey⟩ := hkey
  obtain ⟨hlt', hone⟩ := hone
  rw [fieldsFrom, hkey]
  dsimp only
  split
  · next hcolon => cases hcolon
  · next hcolon =>
    obtain ⟨rfl, rfl⟩ := List.cons.inj hcolon
    rw [if_neg (not_not.mpr rfl), hone]
    exact ⟨_, rfl⟩

private theorem fieldsFrom_next (acc : List (String × Value)) (h : s.length < n)
    (hkey : Yields (readString s (length_lt_succ s) []) key (':' :: r))
    (hone : Yields (one r) v (',' :: '"' :: t)) :
    ∃ ht, fieldsFrom one s h acc = fieldsFrom one t ht (Value.insertField key v acc) := by
  obtain ⟨hlt, hkey⟩ := hkey
  obtain ⟨hlt', hone⟩ := hone
  have ht : t.length < n := by
    simp only [List.length_cons] at hlt hlt'
    omega
  refine ⟨ht, ?_⟩
  rw [fieldsFrom, hkey]
  dsimp only
  split
  · next hcolon => cases hcolon
  · next hcolon =>
    obtain ⟨rfl, rfl⟩ := List.cons.inj hcolon
    rw [if_neg (not_not.mpr rfl), hone]
    rfl

private theorem readString_fieldText (key : String) (v : Value) (t : List Char) :
    Yields (readString (fieldText key v t) (length_lt_succ _) []) key (':' :: (v.chars ++ t)) :=
  readString_quoted key

/-- The loop goes on from a key and its value, and puts all fields behind those that it had before. -/
private theorem fieldsFrom_moreFields (hback : ∀ f ∈ fs, ReadsBack one f.2) (acc : List (String × Value))
    (hkeys : KeysInOrder (acc ++ (key, v) :: fs)) (h : s.length < n)
    (hkey : Yields (readString s (length_lt_succ s) []) key (':' :: r))
    (hone : Yields (one r) v (moreFields fs ++ rest)) :
    Yields (fieldsFrom one s h acc) (acc ++ (key, v) :: fs) rest := by
  -- The keys put in so far and those still unread stay in one order, so the next field is always put in last.
  induction fs generalizing s r key v acc with
  | nil =>
    have hlast := fieldsFrom_last acc h hkey hone
    rwa [Value.insertField_of_keysInOrder hkeys] at hlast
  | cons f fs ih =>
    obtain ⟨k, w⟩ := f
    rw [List.forall_mem_cons] at hback
    rw [moreFields_append] at hone
    obtain ⟨ht, hnext⟩ := fieldsFrom_next acc h hkey hone
    have hmoved : acc ++ (key, v) :: (k, w) :: fs = (acc ++ [(key, v)]) ++ (k, w) :: fs := by
      rw [List.append_assoc, List.singleton_append]
    rw [hnext, Value.insertField_of_keysInOrder hkeys, hmoved]
    rw [hmoved] at hkeys
    have hread := hback.1 _ (endsNumber_moreFields fs rest)
    exact ih hback.2 _ hkeys ht (readString_fieldText k w _) hread

end Fields

/-! ### Values -/

section Values

variable {budget : Nat} {v : Value} {s rest : List Char}

theorem readValue_scalar {c : Char} (hblank : isBlank c = false) (hlist : c ≠ '[') (hobject : c ≠ '\x7b')
    (h : Yields (readScalar c s) v rest) : Yields (readValue budget (c :: s)) v rest := by
  have hskip : skipBlank (c :: s) = c :: s := skipBlank_cons hblank
  rw [readValue]
  split
  · next hend => exact absurd (hskip.symm.trans hend) (List.cons_ne_nil c s)
  · next hstart =>
    obtain ⟨rfl, rfl⟩ := List.cons.inj (hskip.symm.trans hstart)
    rw [if_neg hlist, if_neg hobject]
    exact h.later id _

theorem readValue_number {x : Number} {c : Char} (hc : c = '-' ∨ c.isDigit = true)
    (h : Yields (readNumber (c :: s)) x rest) : Yields (readValue budget (c :: s)) (.num x) rest := by
  -- What starts a number starts nothing else.
  have hother : ∀ d : Char, ¬ (d = '-' ∨ d.isDigit = true) → c ≠ d := by
    rintro d hd rfl
    exact hd hc
  have hblank : isBlank c = false := by
    rcases hc with rfl | hc
    · rfl
    · exact isBlank_eq_false_of_isDigit hc
  refine readValue_scalar hblank (hother _ (by decide)) (hother _ (by decide)) ?_
  rw [readScalar, if_neg (hother _ (by decide)), if_neg (hother _ (by decide)), if_neg (hother _ (by decide)),
    if_neg (hother _ (by decide)), if_pos hc]
  exact h.later Value.num _

theorem readValue_string (t : String) : Yields (readValue budget (quoted t ++ rest)) (.str t) rest := by
  rw [quoted, List.append_assoc, List.singleton_append, List.cons_append]
  have hread : Yields (readString (t.toList.flatMap Value.escaped ++ '"' :: rest) (length_lt_succ _) []) t rest :=
    readString_quoted t
  exact readValue_scalar rfl (by decide) (by decide) (hread.later Value.str (length_lt_succ _))

theorem readsBack_of_isScalar (hscalar : v.IsScalar) (hwhole : v.Whole) : ReadsBack (readValue budget) v := by
  intro rest hrest
  cases v with
  | null => exact readValue_scalar rfl (by decide) (by decide) ⟨_, rfl⟩
  | bool b => cases b <;> exact readValue_scalar rfl (by decide) (by decide) ⟨_, rfl⟩
  | num x => cases x with
    | int i =>
      obtain ⟨c, r, hcons, hc⟩ := exists_intText_eq_cons i.val
      have hread := readNumber_intText i hrest
      change Yields (readValue budget (intText i.val ++ rest)) _ rest
      rw [hcons] at hread ⊢
      exact readValue_number hc hread
    | float x => exact absurd hwhole (Value.not_whole_float x)
  | str t => exact readValue_string t
  | arr vs => exact hscalar.elim
  | obj fs => exact hscalar.elim

theorem readsBack_arr {vs : List Value} (hback : ∀ w ∈ vs, ReadsBack (readValue budget) w)
    (hwhole : ∀ w ∈ vs, w.Whole) : ReadsBack (readValue (budget + 1)) (.arr vs) := by
  intro rest _
  have hread : ∀ {r}, Yields (elements (readValue budget) some r) vs rest →
      Yields (readValue (budget + 1) ('[' :: r)) (.arr vs) rest := by
    intro r hr
    rw [readValue]
    exact hr.later Value.arr _
  cases vs with
  | nil => exact hread ⟨_, rfl⟩
  | cons v vs =>
    rw [List.forall_mem_cons] at hback hwhole
    rw [Value.chars, List.cons_append, List.cons_append, List.append_assoc]
    have hstart : Starts (v.chars ++ (moreElements vs ++ rest)) := (starts_chars hwhole.1).append _
    have hone := hback.1 _ (endsNumber_moreElements vs rest)
    obtain ⟨h, helements⟩ := @elements_of_starts (readValue budget) _ hstart
    apply hread
    rw [helements]
    exact elementsFrom_moreElements hback.2 hwhole.2 [] h hone

theorem readsBack_obj {fs : List (String × Value)} (hkeys : KeysInOrder fs)
    (hback : ∀ f ∈ fs, ReadsBack (readValue budget) f.2) : ReadsBack (readValue (budget + 1)) (.obj fs) := by
  intro rest _
  have hread : ∀ {r}, Yields (fields (readValue budget) r) fs rest →
      Yields (readValue (budget + 1) ('\x7b' :: r)) (.obj fs) rest := by
    intro r hr
    rw [readValue]
    exact hr.later Value.obj _
  cases fs with
  | nil => exact hread ⟨_, rfl⟩
  | cons f fs =>
    obtain ⟨key, v⟩ := f
    rw [List.forall_mem_cons] at hback
    rw [chars_obj_append]
    apply hread
    have hone := hback.1 _ (endsNumber_moreFields fs rest)
    exact fieldsFrom_moreFields hback.2 [] hkeys _ (readString_fieldText key v _) hone

theorem readsBack_readValue (htidy : v.Tidy) (hwhole : v.Whole) (hheight : v.height ≤ budget) :
    ReadsBack (readValue budget) v := by
  induction budget generalizing v with
  | zero =>
    cases v with
    | arr vs => exact absurd hheight (Nat.not_succ_le_zero _)
    | obj fs => exact absurd hheight (Nat.not_succ_le_zero _)
    | null | bool | num | str => exact readsBack_of_isScalar trivial hwhole
  | succ lower ih =>
    cases v with
    | arr vs =>
      have htidy := Value.tidy_arr.mp htidy
      have hwhole := Value.whole_arr.mp hwhole
      have hheight := Value.heightAll_le_iff.mp (Nat.le_of_succ_le_succ hheight)
      exact readsBack_arr (fun w hw => ih (htidy w hw) (hwhole w hw) (hheight w hw)) hwhole
    | obj fs =>
      obtain ⟨hkeys, htidy⟩ := Value.tidy_obj.mp htidy
      have hwhole := Value.whole_obj.mp hwhole
      have hheight := Value.heightFields_le_iff.mp (Nat.le_of_succ_le_succ hheight)
      exact readsBack_obj hkeys fun f hf => ih (htidy f hf) (hwhole f hf) (hheight f hf)
    | null | bool | num | str => exact readsBack_of_isScalar trivial hwhole

end Values

/-! ### Texts -/

theorem parse_written {v : Value} (htidy : v.Tidy) (hwhole : v.Whole) (hheight : v.height ≤ depthLimit) :
    parse (String.ofList (v.chars ++ ['\n'])) = .ok v := by
  have hends : EndsNumber ['\n'] := endsNumber_cons rfl (by decide) (by decide) (by decide)
  obtain ⟨h, hread⟩ := readsBack_readValue htidy hwhole hheight ['\n'] hends
  rw [parse, String.toList_ofList, readAll, hread]
  rfl

end BuildOrder.Json
