import BuildOrder.Number.Decimal
import BuildOrder.Toml.Moment
import BuildOrder.Value.Basic

/-!
# TOML values

Whole numbers have 64 bits and a sign, floating point numbers may be infinite or no number, and moments are values
of their own. The fields of a table are kept in the order of their keys, each key once.

`Value.toValue` is the document that a manifest is made from: moments become text, and so do floating point
numbers that are not finite.
-/

namespace BuildOrder.Toml

/-- A whole number of 64 bits with a sign. -/
structure Signed extends Integer where
  val_lt_half : val < 9223372036854775808
deriving DecidableEq

def Signed.ofInt? (i : Int) : Option Signed :=
  (Integer.ofInt? i).bind fun n => if h : n.val < 9223372036854775808 then some ⟨n, h⟩ else none

inductive Value where
  | str (s : String)
  | int (i : Signed)
  | float (x : Binary64)
  | bool (b : Bool)
  | moment (m : Moment)
  | array (elements : List Value)
  | table (fields : List (String × Value))

namespace Value

instance : Inhabited Value := ⟨.bool false⟩

mutual

def beq : Value → Value → Bool
  | .str a, .str b => a == b
  | .int i, .int j => i.val == j.val
  | .float x, .float y => x == y
  | .bool a, .bool b => a == b
  | .moment m, .moment n => m == n
  | .array xs, .array ys => beqElements xs ys
  | .table fs, .table gs => beqFields fs gs
  | _, _ => false

def beqElements : List Value → List Value → Bool
  | [], [] => true
  | x :: xs, y :: ys => x.beq y && beqElements xs ys
  | _, _ => false

def beqFields : List (String × Value) → List (String × Value) → Bool
  | [], [] => true
  | (k, v) :: fs, (l, w) :: gs => k == l && v.beq w && beqFields fs gs
  | _, _ => false

end

instance : BEq Value := ⟨beq⟩

/-- A floating point number in a document: one that is not finite becomes its name. -/
def ofFloat : Binary64 → BuildOrder.Value
  | .finite x => .num (.float x)
  | .infinite false => .str "inf"
  | .infinite true => .str "-inf"
  | .nan => .str "NaN"

mutual

def toValue : Value → BuildOrder.Value
  | .str s => .str s
  | .int i => .num (.int i.toInteger)
  | .float x => ofFloat x
  | .bool b => .bool b
  | .moment m => .str (String.ofList m.chars)
  | .array xs => .arr (toValues xs)
  | .table fs => .obj (toFields fs)

def toValues : List Value → List BuildOrder.Value
  | [] => []
  | x :: xs => x.toValue :: toValues xs

def toFields : List (String × Value) → List (String × BuildOrder.Value)
  | [] => []
  | (k, v) :: fs => (k, v.toValue) :: toFields fs

end

end Value

end BuildOrder.Toml
