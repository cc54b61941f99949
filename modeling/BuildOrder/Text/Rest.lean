/-!
# What is left of a text

A reader takes characters from the front of a text and hands back what is left. Readers that always take at
least one character return a `Rest`, which knows that it is shorter, so a loop of such readers ends.
-/

namespace BuildOrder

/-- A text of fewer than `n` characters: what is left of one of `n`. -/
abbrev Rest (n : Nat) := { r : List Char // r.length < n }

namespace Rest

/-- What is left of a shorter text is left of a longer one. -/
def widen {m n : Nat} (r : Rest m) (h : m ≤ n) : Rest n := ⟨r.1, Nat.lt_of_lt_of_le r.2 h⟩

theorem length_le {s : List Char} (rest : Rest s.length) : rest.1.length ≤ s.length := Nat.le_of_lt rest.2

/-- What is left of the end of a text is left of the text. -/
theorem lt_of_cons {n : Nat} {c : Char} {r : List Char} (rest : Rest r.length) (h : (c :: r).length < n) :
    rest.1.length < n := Nat.lt_trans rest.2 (Nat.lt_of_succ_lt h)

end Rest

/-! ### Lengths -/

theorem length_le_self (s : List Char) : s.length ≤ s.length := Nat.le_refl _

theorem length_le_succ (s : List Char) : s.length ≤ s.length + 1 := Nat.le_succ _

theorem length_lt_succ (s : List Char) : s.length < s.length + 1 := Nat.lt_succ_self _

theorem length_cons_le_self (c : Char) (r : List Char) : (c :: r).length ≤ (c :: r).length := Nat.le_refl _

theorem length_tail_lt {n : Nat} {c : Char} {r : List Char} (h : (c :: r).length < n) : r.length < n :=
  Nat.lt_of_succ_lt h

theorem length_dropWhile_le (p : Char → Bool) (s : List Char) : (s.dropWhile p).length ≤ s.length := by
  induction s with
  | nil => simp
  | cons c r ih =>
    by_cases h : p c
    · simp [List.dropWhile_cons_of_pos h]; omega
    · simp [List.dropWhile_cons_of_neg h]

end BuildOrder
