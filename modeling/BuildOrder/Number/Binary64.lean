/-!
# Binary64 numbers

A finite number is a sign and the rank of its magnitude: zero has rank 0, and the ranks go up by one from
each magnitude to the next. Every magnitude is a whole number of units of 2⁻¹⁰⁷⁴, so all arithmetic here is
exact arithmetic on natural numbers, followed by one rounding.

`rankOfRatio` is that rounding: the rank nearest to a quotient, a half going to the even rank. Ranks that go
past the greatest finite one stand for numbers too large to be written down, and become infinite.
-/

namespace BuildOrder

/-- The number of ranks from a power of two up to the next. -/
def binade : Nat := Nat.pow 2 52

/-- One more than the greatest rank of a finite magnitude. -/
def rankLimit : Nat := 2047 * binade

theorem rankLimit_pos : 0 < rankLimit := by decide

structure Finite64 where
  negative : Bool
  rank : Nat
  rank_lt : rank < rankLimit
deriving DecidableEq

/-- A binary64 number. All numbers that are no number are taken as one. -/
inductive Binary64 where
  | finite (x : Finite64)
  | infinite (negative : Bool)
  | nan
deriving DecidableEq

def unitsOfRank (rank : Nat) : Nat :=
  if rank < binade then rank else (binade + rank % binade) * Nat.pow 2 (rank / binade - 1)

/-- `n / d` rounded to the nearest whole number, a half going to the even one. -/
def divNearest (n d : Nat) : Nat :=
  let q := n / d
  let r := n % d
  if d < 2 * r ∨ (2 * r = d ∧ q % 2 = 1) then q + 1 else q

/-- The rank nearest to `n / d` units, as if there were no greatest rank. -/
def rankOfUnits (n d : Nat) : Nat :=
  let shift := (n / d).log2 - 52
  shift * binade + divNearest n (d * Nat.pow 2 shift)

/-- The rank nearest to `n / d`. -/
def rankOfRatio (n d : Nat) : Nat := rankOfUnits (n * Nat.pow 2 1074) d

namespace Finite64

def zero : Finite64 := ⟨false, 0, rankLimit_pos⟩

/-- Numeric equality: the two zeros are equal. -/
def beq (x y : Finite64) : Bool := x.rank == y.rank && (x.rank == 0 || x.negative == y.negative)

instance : BEq Finite64 := ⟨beq⟩

theorem beq_iff {x y : Finite64} : x == y ↔ x.rank = y.rank ∧ (x.rank = 0 ∨ x.negative = y.negative) := by
  change beq x y = true ↔ _
  simp [beq]

instance : EquivBEq Finite64 where
  rfl := beq_iff.mpr ⟨rfl, .inr rfl⟩
  symm h := by
    obtain ⟨hrank, hsign⟩ := beq_iff.mp h
    exact beq_iff.mpr ⟨hrank.symm, hsign.imp (hrank ▸ ·) Eq.symm⟩
  trans h h' := by
    obtain ⟨hrank, hsign⟩ := beq_iff.mp h
    obtain ⟨hrank', hsign'⟩ := beq_iff.mp h'
    refine beq_iff.mpr ⟨hrank.trans hrank', ?_⟩
    rcases hsign with hzero | hsign
    · exact .inl hzero
    · exact hsign'.imp hrank.trans hsign.trans

def neg (x : Finite64) : Finite64 := { x with negative := !x.negative }

def units (x : Finite64) : Nat := unitsOfRank x.rank

/-- The number with a sign and a rank, if the rank is that of a finite magnitude. -/
def ofRank? (negative : Bool) (rank : Nat) : Option Finite64 :=
  if h : rank < rankLimit then some ⟨negative, rank, h⟩ else none

/-- The number nearest to `± n / d`, unless that is infinite. -/
def ofRatio? (negative : Bool) (n d : Nat) : Option Finite64 := ofRank? negative (rankOfRatio n d)

end Finite64

namespace Binary64

/-- Numeric equality: the two zeros are equal, and what is no number equals nothing. -/
def beq : Binary64 → Binary64 → Bool
  | .finite x, .finite y => x == y
  | .infinite m, .infinite n => m == n
  | _, _ => false

instance : BEq Binary64 := ⟨beq⟩

/-- All that an equivalence has to be but reflexive: what is no number does not equal itself. -/
instance : PartialEquivBEq Binary64 where
  symm {x y} h :=
    match x, y, h with
    | .finite _, .finite _, h => BEq.symm (α := Finite64) h
    | .infinite _, .infinite _, h => BEq.symm (α := Bool) h
  trans {x y z} h h' :=
    match x, y, z, h, h' with
    | .finite _, .finite _, .finite _, h, h' => BEq.trans (α := Finite64) h h'
    | .infinite _, .infinite _, .infinite _, h, h' => BEq.trans (α := Bool) h h'

/-- The number nearest to `± n / d`. -/
def ofRatio (negative : Bool) (n d : Nat) : Binary64 :=
  match Finite64.ofRatio? negative n d with
  | some x => .finite x
  | none => .infinite negative

end Binary64

end BuildOrder
