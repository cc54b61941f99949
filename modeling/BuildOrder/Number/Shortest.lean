import BuildOrder.Number.Binary64

/-!
# The shortest decimal that reads back

A magnitude stands for all reals that round to it: an interval around it, reaching half way to its neighbours,
with its ends included if its rank is even. Of the decimals in that interval the one with the fewest digits is
chosen, of several the nearest to the magnitude, and of two equally near the one whose last digit is even.

For each number of digits the search looks at the two neighbours of the magnitude among the decimals with so
many digits. Seventeen digits are always enough. The upper neighbour may be a power of ten, which is why zeros
at the end are dropped last.
-/

namespace BuildOrder

/-- The number of decimal digits, 0 for zero. -/
def decimalLength (n : Nat) : Nat := if n = 0 then 0 else decimalLength (n / 10) + 1

structure Decimal where
  digits : Nat
  exponent : Int
deriving DecidableEq

/-- The same decimal without zeros at the end of its digits. -/
def Decimal.trim (d : Decimal) : Decimal :=
  if h : 0 < d.digits ∧ d.digits % 10 = 0 then trim ⟨d.digits / 10, d.exponent + 1⟩ else d
termination_by d.digits
decreasing_by exact Nat.div_lt_self h.1 (by decide)

namespace Shortest

/-- The `k` with `10 ^ (k - 1) ≤ n / d < 10 ^ k`, for a positive quotient. -/
def decimalMagnitude (n d : Nat) : Int :=
  if d ≤ n then decimalLength (n / d) else 1 - decimalLength ((d + n - 1) / n - 1)

/-- The interval of a rank in half units of 2⁻¹⁰⁷⁴, and the magnitude itself. -/
structure Interval where
  low : Nat
  value : Nat
  high : Nat
  /-- The two ends round to the magnitude as well. -/
  closed : Bool

def Interval.ofRank (rank : Nat) : Interval where
  low := unitsOfRank (rank - 1) + unitsOfRank rank
  value := 2 * unitsOfRank rank
  high := unitsOfRank rank + unitsOfRank (rank + 1)
  closed := rank % 2 == 0

/-- The point `c * step / scale` lies in the interval. -/
def Interval.contains (i : Interval) (c step scale : Nat) : Bool :=
  if i.closed then decide (i.low * scale ≤ c * step) && decide (c * step ≤ i.high * scale)
  else decide (i.low * scale < c * step) && decide (c * step < i.high * scale)

/-- The nearer of the two neighbours of the magnitude on a grid that lie in the interval. -/
def Interval.pick? (i : Interval) (step scale : Nat) : Option Nat :=
  let c := i.value * scale / step
  let below := i.value * scale - c * step
  let above := (c + 1) * step - i.value * scale
  match i.contains c step scale, i.contains (c + 1) step scale with
  | false, false => none
  | true, false => some c
  | false, true => some (c + 1)
  | true, true => some (if below < above ∨ (below = above ∧ c % 2 = 0) then c else c + 1)

/-- The grid of decimals with last place `10 ^ e`: its step and scale in half units of 2⁻¹⁰⁷⁴. -/
def grid (e : Int) : Nat × Nat := (Nat.pow 2 1075 * Nat.pow 10 e.toNat, Nat.pow 10 (-e).toNat)

/-- Try `n` more lengths, the shortest first; the last resort is the last grid's lower neighbour. -/
def search (i : Interval) : Nat → Int → Decimal
  | 0, e => ⟨i.value * (grid e).2 / (grid e).1, e⟩
  | n + 1, e =>
    match i.pick? (grid e).1 (grid e).2 with
    | some c => ⟨c, e⟩
    | none => search i n (e - 1)

end Shortest

/-- The shortest decimal that rounds to the magnitude of a positive rank. -/
def shortestDecimal (rank : Nat) : Decimal :=
  (Shortest.search (.ofRank rank) 17
    (Shortest.decimalMagnitude (unitsOfRank rank) (Nat.pow 2 1074) - 1)).trim

end BuildOrder
