import Mathlib.Data.List.Basic
import BuildOrder.Text.Fold

/-!
# Texts regardless of case

On ASCII texts, folding and changing ASCII letters to lower case are the same. They part on what is not ASCII: folding
makes ASCII letters of a few such characters, and lower case makes one of the Kelvin sign alone. So a text is an ASCII
word without a `k` in lower case just if its ASCII letters are changed and it is the word, whatever else lower case
means.
-/

namespace BuildOrder.Text

private theorem toLower_of_not_ascii {c : Char} (hc : 0x80 ≤ c.toNat) : c.toLower = c := by
  have hupper : ¬ (c.val ≥ 'A'.val ∧ c.val ≤ 'Z'.val) := by
    rintro ⟨-, hle⟩
    have hz : c.toNat ≤ 'Z'.toNat := UInt32.le_iff_toNat_le.mp hle
    have hbound : 'Z'.toNat = 90 := rfl
    omega
  exact dif_neg hupper

def IsAscii (s : String) : Prop := ∀ c ∈ s.toList, c.toNat < 0x80

instance (s : String) : Decidable (IsAscii s) := List.decidableBAll (fun c : Char => c.toNat < 0x80) s.toList

variable {s : String}

theorem folded_of_isAscii (hs : IsAscii s) : folded s = (asciiLower s).toList := by
  rw [folded, asciiLower, String.toList_ofList, List.map_eq_flatMap]
  apply List.flatMap_congr
  intro c hc
  exact if_pos (hs c hc)

theorem isAscii_of_asciiLower (hs : IsAscii (asciiLower s)) : IsAscii s := by
  intro c hmem
  by_contra hc
  have hlower : c.toLower ∈ (asciiLower s).toList := by
    rw [asciiLower, String.toList_ofList]
    exact List.mem_map_of_mem hmem
  rw [toLower_of_not_ascii (Nat.not_lt.mp hc)] at hlower
  exact hc (hs c hlower)

/-- Lower case, as far as it is known: what it does to ASCII texts, and that any other text keeps a character
outside ASCII or gets a `k`, which the Kelvin sign becomes. -/
structure LowerCase where
  lowered : String → String
  of_isAscii : ∀ s, IsAscii s → lowered s = asciiLower s
  of_other : ∀ s, ¬ IsAscii s → IsAscii (lowered s) → 'k' ∈ (lowered s).toList

namespace LowerCase

/-- A text is such a word in lower case just if its ASCII letters say so. -/
theorem lowered_eq_iff (lower : LowerCase) {word : String} (hword : IsAscii word ∧ 'k' ∉ word.toList) :
    lower.lowered s = word ↔ asciiLower s = word := by
  by_cases hs : IsAscii s
  · rw [lower.of_isAscii s hs]
  · -- Neither is the word: one has a `k` or a character outside ASCII, the other has such a character.
    apply iff_of_false
    · rintro rfl
      exact hword.2 (lower.of_other s hs hword.1)
    · rintro rfl
      exact hs (isAscii_of_asciiLower hword.1)

/-- Lower case of ASCII letters and the Kelvin sign. -/
def ofKelvin : LowerCase where
  lowered s := String.ofList (s.toList.map fun c => if c = '\u212a' then 'k' else c.toLower)
  of_isAscii s hs := by
    rw [asciiLower]
    congr 1
    apply List.map_congr_left
    intro c hc
    rw [if_neg]
    rintro rfl
    exact absurd (hs _ hc) (by decide)
  of_other s hs hlowered := by
    rw [IsAscii, not_forall₂] at hs
    obtain ⟨c, hmem, hc⟩ := hs
    rw [IsAscii, String.toList_ofList] at hlowered
    rw [String.toList_ofList, List.mem_map]
    refine ⟨c, hmem, if_pos ?_⟩
    by_contra hkelvin
    have hkept := hlowered _ (List.mem_map_of_mem hmem)
    rw [if_neg hkelvin, toLower_of_not_ascii (Nat.not_lt.mp hc)] at hkept
    exact hc hkept

end LowerCase

end BuildOrder.Text
