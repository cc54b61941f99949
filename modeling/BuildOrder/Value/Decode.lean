import BuildOrder.Value.Basic

/-!
# Items read from values

Decoders for items of a simple type. None of them accepts an array.
-/

namespace BuildOrder.Value

def string? : Value → Option String
  | .str s => some s
  | _ => none

def int64? : Value → Option Int
  | .num (.int i) => if i.val < 9223372036854775808 then some i.val else none
  | _ => none

def byte? : Value → Option UInt8
  | .num (.int i) => if 0 ≤ i.val ∧ i.val < 256 then some i.val.toNat.toUInt8 else none
  | _ => none

def char? : Value → Option Char
  | .str s =>
    match s.toList with
    | [c] => some c
    | _ => none
  | _ => none

def bool? : Value → Option Bool
  | .bool b => some b
  | _ => none

def optionalString? : Value → Option (Option String)
  | .null => some none
  | .str s => some (some s)
  | _ => none

/-- Nothing but null. -/
def unit? : Value → Option Unit
  | .null => some ()
  | _ => none

/-- A number; a whole number is rounded to the nearest binary64 number. -/
def float? : Value → Option Finite64
  | .num (.float x) => some x
  | .num (.int i) => Finite64.ofRatio? (i.val < 0) i.val.natAbs 1
  | _ => none

end BuildOrder.Value
