import BuildOrder.Number.Binary64
import BuildOrder.Node.Basic

/-!
# Values

A value is what a manifest holds: null, a truth value, a number, a string, an array, or an object. The fields
of an object are kept in the order of their keys, each key once, so two objects with the same fields are the
same value however they were written.

Numbers are whole numbers of 64 bits, signed or unsigned, or finite binary64 numbers. The two kinds are never
equal to each other. Equality of values is numeric on floating point numbers: the two zeros are equal.

`Node.decode?` reads a value as a dependency tree: an array is a sequence, and everything else is an item,
arrays inside objects included. `Node.encode` writes it back.
-/

namespace BuildOrder

/-- A whole number that fits into 64 bits, signed or unsigned. -/
structure Integer where
  val : Int
  le_val : -9223372036854775808 ≤ val
  val_lt : val < 18446744073709551616
deriving DecidableEq

namespace Integer

def ofInt? (i : Int) : Option Integer :=
  if h : -9223372036854775808 ≤ i ∧ i < 18446744073709551616 then some ⟨i, h.1, h.2⟩ else none

end Integer

inductive Number where
  | int (i : Integer)
  | float (x : Finite64)
deriving DecidableEq

namespace Number

/-- Whole numbers equal whole numbers, floating point numbers equal floating point numbers. -/
def beq : Number → Number → Bool
  | .int i, .int j => i.val == j.val
  | .float x, .float y => x == y
  | _, _ => false

instance : BEq Number := ⟨beq⟩

end Number

inductive Value where
  | null
  | bool (b : Bool)
  | num (n : Number)
  | str (s : String)
  | arr (elements : List Value)
  | obj (fields : List (String × Value))

namespace Value

instance : Inhabited Value := ⟨.null⟩

mutual

/-- Equality of values, numeric on numbers. -/
def beq : Value → Value → Bool
  | .null, .null => true
  | .bool a, .bool b => a == b
  | .num m, .num n => m == n
  | .str s, .str t => s == t
  | .arr xs, .arr ys => beqElements xs ys
  | .obj fs, .obj gs => beqFields fs gs
  | _, _ => false

def beqElements : List Value → List Value → Bool
  | [], [] => true
  | x :: xs, y :: ys => x.beq y && beqElements xs ys
  | _, _ => false

def beqFields : List (String × Value) → List (String × Value) → Bool
  | [], [] => true
  | (k, v) :: fs, (l, w) :: gs => k == l && v.beq w && beqFields fs gs
  | _, _ => false

end

instance : BEq Value := ⟨beq⟩

/-- Put a field into a list of fields ordered by key; it takes the place of a field with the same key. -/
def insertField (key : String) (v : Value) : List (String × Value) → List (String × Value)
  | [] => [(key, v)]
  | (k, w) :: fs =>
    if key < k then (key, v) :: (k, w) :: fs
    else if key = k then (key, v) :: fs
    else (k, w) :: insertField key v fs

/-- The object with the given fields; of several with one key the last counts. -/
def ofFields (fields : List (String × Value)) : Value :=
  .obj (fields.foldl (fun fs (k, v) => insertField k v fs) [])

def field? (key : String) (fields : List (String × Value)) : Option Value :=
  (fields.find? (fun f => f.1 == key)).map Prod.snd

def isArray : Value → Bool
  | .arr _ => true
  | _ => false

def ofInt? (i : Int) : Option Value := (Integer.ofInt? i).map (fun i => .num (.int i))

end Value

namespace Node

mutual

/-- A value as a tree of items of another type. An array is tried as a sequence first; a value that is no
array, or an array with an element that is no tree, must decode as an item. -/
def decode? {α : Type u} (item? : Value → Option α) : Value → Option (Node α)
  | .arr xs =>
    match decodeAll? item? xs with
    | some ns => some (.seq ns)
    | none => (item? (.arr xs)).map .item
  | v => (item? v).map .item

def decodeAll? {α : Type u} (item? : Value → Option α) : List Value → Option (List (Node α))
  | [] => some []
  | v :: vs =>
    match decode? item? v, decodeAll? item? vs with
    | some n, some ns => some (n :: ns)
    | _, _ => none

end

mutual

/-- A dependency tree as a value: sequences are arrays. -/
def encode {α : Type u} (itemValue : α → Value) : Node α → Value
  | .item a => itemValue a
  | .seq ns => .arr (encodeAll itemValue ns)

def encodeAll {α : Type u} (itemValue : α → Value) : List (Node α) → List Value
  | [] => []
  | n :: ns => n.encode itemValue :: encodeAll itemValue ns

end

end Node

end BuildOrder
