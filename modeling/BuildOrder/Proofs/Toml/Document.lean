import BuildOrder.Proofs.Value.Parts
import BuildOrder.Toml.Basic

/-!
# What becomes of a TOML document

Turning a document into a value keeps its shape. What is inside the value, at whatever depth, is what is inside the
document, turned into a value place by place. So every number of the value stands where the document has a whole
number or a finite floating point number; where it has anything else, the value has a text there.
-/

namespace BuildOrder.Toml.Value

mutual

/-- The value itself, and all values inside it. -/
def parts : Value → List Value
  | .array vs => .array vs :: partsAll vs
  | .table fs => .table fs :: partsFields fs
  | v => [v]

def partsAll : List Value → List Value
  | [] => []
  | v :: vs => v.parts ++ partsAll vs

def partsFields : List (String × Value) → List Value
  | [] => []
  | (_, v) :: fs => v.parts ++ partsFields fs

end

private theorem parts_ofFloat (x : Binary64) : (ofFloat x).parts = [ofFloat x] := by
  rcases x with _ | ⟨_ | _⟩ | _ <;> rfl

mutual

theorem parts_toValue : ∀ v : Value, v.toValue.parts = v.parts.map toValue
  | .str _ | .int _ | .bool _ | .moment _ => rfl
  | .float x => parts_ofFloat x
  | .array vs => by
    rw [parts, List.map_cons, ← partsAll_toValues vs]
    rfl
  | .table fs => by
    rw [parts, List.map_cons, ← partsFields_toFields fs]
    rfl

theorem partsAll_toValues : ∀ vs : List Value, BuildOrder.Value.partsAll (toValues vs) = (partsAll vs).map toValue
  | [] => rfl
  | v :: vs => by
    rw [toValues, BuildOrder.Value.partsAll, partsAll, List.map_append, parts_toValue v, partsAll_toValues vs]

theorem partsFields_toFields : ∀ fs : List (String × Value),
    BuildOrder.Value.partsFields (toFields fs) = (partsFields fs).map toValue
  | [] => rfl
  | (k, v) :: fs => by
    rw [toFields, BuildOrder.Value.partsFields, partsFields, List.map_append, parts_toValue v,
      partsFields_toFields fs]

end

/-- A number comes from a whole number, or from a floating point number that is finite. -/
theorem toValue_eq_num {v : Value} {n : Number} (h : v.toValue = .num n) :
    (∃ i, v = .int i ∧ n = .int i.toInteger) ∨ ∃ x, v = .float (.finite x) ∧ n = .float x := by
  cases v with
  | int i => exact .inl ⟨i, rfl, (BuildOrder.Value.num.inj h).symm⟩
  | float x =>
    rcases x with x | ⟨_ | _⟩ | _
    · exact .inr ⟨x, rfl, (BuildOrder.Value.num.inj h).symm⟩
    all_goals cases h
  | str | bool | moment | array | table => cases h

theorem exists_str_of_not_finite {x : Binary64} (h : ∀ y, x ≠ .finite y) : ∃ s, (float x).toValue = .str s := by
  rcases x with y | ⟨_ | _⟩ | _
  · exact absurd rfl (h y)
  all_goals exact ⟨_, rfl⟩

end BuildOrder.Toml.Value
