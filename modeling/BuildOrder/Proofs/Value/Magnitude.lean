import Mathlib.Order.Basic
import BuildOrder.Value.Basic

/-!
# Magnitudes

Numbers of a value measured by one unit, the least positive binary64 number. The rank of a finite number is bounded
so that its magnitude is at most the greatest finite one; whole numbers of 64 bits lie far below.
-/

namespace BuildOrder

/-- The greatest magnitude of 53 binary places the last of which counts `2 ^ e` units. -/
def greatestAt (e : Nat) : Nat := (Nat.pow 2 53 - 1) * Nat.pow 2 e

/-- The greatest finite magnitude, in units of 2⁻¹⁰⁷⁴. -/
def greatestUnits : Nat := greatestAt 2045

/-- The unit is `2 ^ -unitPlaces`. -/
def unitPlaces : Nat := 1074

/-- The magnitude of a number, in units of 2⁻¹⁰⁷⁴. -/
def Number.units : Number → Nat
  | .int i => i.val.natAbs * Nat.pow 2 unitPlaces
  | .float x => x.units

/-- The ranks below those of a binade have magnitudes below it. -/
theorem unitsOfRank_le_greatestAt {rank e : Nat} (h : rank < (e + 2) * binade) : unitsOfRank rank ≤ greatestAt e := by
  have hbinade : binade + binade = 2 ^ 53 := by decide
  have hpos : 0 < binade := by decide
  rw [unitsOfRank]
  split
  · next hsmall =>
    have hrank : rank ≤ 2 ^ 53 - 1 := by omega
    exact Nat.le_trans hrank (Nat.le_mul_of_pos_right _ (Nat.two_pow_pos e))
  · have hmantissa : binade + rank % binade ≤ 2 ^ 53 - 1 := by
      have hrest : rank % binade < binade := Nat.mod_lt _ hpos
      omega
    have hexponent : rank / binade - 1 ≤ e := by
      have hquotient : rank / binade < e + 2 := Nat.div_lt_of_lt_mul (Nat.mul_comm .. ▸ h)
      omega
    exact Nat.mul_le_mul hmantissa (Nat.pow_le_pow_right Nat.two_pos hexponent)

theorem mul_two_pow_le_greatestAt {n a b e : Nat} (hn : n ≤ Nat.pow 2 a) (h : a + b ≤ e) :
    n * Nat.pow 2 b ≤ greatestAt e :=
  calc n * Nat.pow 2 b
    _ ≤ Nat.pow 2 a * Nat.pow 2 b := Nat.mul_le_mul_right _ hn
    _ = Nat.pow 2 (a + b) := (Nat.pow_add ..).symm
    _ ≤ Nat.pow 2 e := Nat.pow_le_pow_right Nat.two_pos h
    _ ≤ greatestAt e := Nat.le_mul_of_pos_left _ (by decide)

theorem Number.units_le_greatestUnits (n : Number) : n.units ≤ greatestUnits := by
  cases n with
  | float x => exact unitsOfRank_le_greatestAt (e := 2045) x.rank_lt
  | int i =>
    have hval : i.val.natAbs ≤ Nat.pow 2 64 := by
      have hpow : Nat.pow 2 64 = 18446744073709551616 := rfl
      have hlow := i.le_val
      have hhigh := i.val_lt
      omega
    exact mul_two_pow_le_greatestAt hval (by decide)

end BuildOrder
