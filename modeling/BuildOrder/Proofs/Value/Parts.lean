import BuildOrder.Proofs.Value.Fields

/-!
# What is inside a value

`parts` are all values inside a value, itself included, so a statement about every depth is a statement about its
parts. A value is tidy if all objects in it have their keys in order, as everything that is read has, and whole if
there is no floating point number in it. Its height is the number of arrays and objects around its deepest part.
-/

namespace BuildOrder.Value

mutual

/-- The value itself, and all values inside it. -/
def parts : Value → List Value
  | .arr vs => .arr vs :: partsAll vs
  | .obj fs => .obj fs :: partsFields fs
  | v => [v]

def partsAll : List Value → List Value
  | [] => []
  | v :: vs => v.parts ++ partsAll vs

def partsFields : List (String × Value) → List Value
  | [] => []
  | (_, v) :: fs => v.parts ++ partsFields fs

end

mutual

/-- The greatest number of arrays and objects around one another. -/
def height : Value → Nat
  | .arr vs => heightAll vs + 1
  | .obj fs => heightFields fs + 1
  | _ => 0

def heightAll : List Value → Nat
  | [] => 0
  | v :: vs => max v.height (heightAll vs)

def heightFields : List (String × Value) → Nat
  | [] => 0
  | (_, v) :: fs => max v.height (heightFields fs)

end

theorem mem_partsAll {p : Value} {vs : List Value} : p ∈ partsAll vs ↔ ∃ v ∈ vs, p ∈ v.parts := by
  induction vs with
  | nil => simp [partsAll]
  | cons v vs ih => simp [partsAll, ih]

theorem mem_partsFields {p : Value} {fs : List (String × Value)} :
    p ∈ partsFields fs ↔ ∃ f ∈ fs, p ∈ f.2.parts := by
  induction fs with
  | nil => simp [partsFields]
  | cons f fs ih => simp [partsFields, ih]

theorem heightAll_le_iff {vs : List Value} {n : Nat} : heightAll vs ≤ n ↔ ∀ v ∈ vs, v.height ≤ n := by
  induction vs with
  | nil => simp [heightAll]
  | cons v vs ih => rw [heightAll, Nat.max_le, ih, List.forall_mem_cons]

theorem heightFields_le_iff {fs : List (String × Value)} {n : Nat} :
    heightFields fs ≤ n ↔ ∀ f ∈ fs, f.2.height ≤ n := by
  induction fs with
  | nil => simp [heightFields]
  | cons f fs ih => rw [heightFields, Nat.max_le, ih, List.forall_mem_cons]

/-! ### Tidy values -/

/-- The keys of every object in a value are in order, each there once. -/
def Tidy (v : Value) : Prop := ∀ fs, .obj fs ∈ v.parts → KeysInOrder fs

def keysInOrder : Value → Bool
  | .obj fs => KeysInOrder fs
  | _ => true

instance (v : Value) : Decidable v.Tidy :=
  decidable_of_iff (∀ p ∈ v.parts, p.keysInOrder) <| by
    constructor
    · intro h fs hfs
      exact of_decide_eq_true (h _ hfs)
    · intro h p hp
      cases p with
      | obj fs => exact decide_eq_true (h fs hp)
      | null | bool | num | str | arr => rfl

theorem tidy_arr {vs : List Value} : (arr vs).Tidy ↔ ∀ v ∈ vs, v.Tidy := by
  simp only [Tidy, parts, List.mem_cons, mem_partsAll, reduceCtorEq, false_or]
  constructor
  · intro h v hv fs hfs
    exact h fs ⟨v, hv, hfs⟩
  · rintro h fs ⟨v, hv, hfs⟩
    exact h v hv fs hfs

theorem tidy_obj {fs : List (String × Value)} : (obj fs).Tidy ↔ KeysInOrder fs ∧ ∀ f ∈ fs, f.2.Tidy := by
  simp only [Tidy, parts, List.mem_cons, mem_partsFields, obj.injEq]
  constructor
  · intro h
    exact ⟨h fs (.inl rfl), fun f hf gs hgs => h gs (.inr ⟨f, hf, hgs⟩)⟩
  · rintro ⟨hkeys, hfields⟩ gs (rfl | ⟨f, hf, hgs⟩)
    · exact hkeys
    · exact hfields f hf gs hgs

def IsScalar : Value → Prop
  | .arr _ | .obj _ => False
  | _ => True

theorem IsScalar.tidy {v : Value} (h : v.IsScalar) : v.Tidy := by
  cases v with
  | arr vs => exact h.elim
  | obj fs => exact h.elim
  | null | bool | num | str => simp [Tidy, parts]

theorem tidy_obj_insertField {key : String} {v : Value} {fs : List (String × Value)} (hv : v.Tidy)
    (hfs : (obj fs).Tidy) : (obj (insertField key v fs)).Tidy := by
  obtain ⟨hkeys, hfields⟩ := tidy_obj.mp hfs
  rw [insertField_eq_putField]
  refine tidy_obj.mpr ⟨keysInOrder_putField key v hkeys, fun f hf => ?_⟩
  rcases eq_or_mem_of_mem_putField hf with rfl | hf
  · exact hv
  · exact hfields f hf

theorem tidy_ofFields {fs : List (String × Value)} (h : ∀ f ∈ fs, f.2.Tidy) : (ofFields fs).Tidy := by
  rw [ofFields]
  refine List.foldlRecOn (motive := fun acc => (obj acc).Tidy) fs _ ?_ fun acc hacc f hf => ?_
  · exact tidy_obj.mpr ⟨keysInOrder_nil, List.forall_mem_nil _⟩
  · exact tidy_obj_insertField (h f hf) hacc

/-! ### Whole values -/

/-- No part of a value is a floating point number. -/
def Whole (v : Value) : Prop := ∀ x, .num (.float x) ∉ v.parts

def isFloat : Value → Bool
  | .num (.float _) => true
  | _ => false

instance (v : Value) : Decidable v.Whole :=
  decidable_of_iff (∀ p ∈ v.parts, p.isFloat = false) <| by
    constructor
    · intro h x hx
      exact Bool.noConfusion (h _ hx)
    · intro h p hp
      cases p with
      | num n => cases n with
        | int i => rfl
        | float x => exact absurd hp (h x)
      | null | bool | str | arr | obj => rfl

theorem whole_arr {vs : List Value} : (arr vs).Whole ↔ ∀ v ∈ vs, v.Whole := by
  simp only [Whole, parts, List.mem_cons, mem_partsAll, reduceCtorEq, false_or, not_exists, not_and]
  exact ⟨fun h v hv x => h x v hv, fun h x v hv => h v hv x⟩

theorem whole_obj {fs : List (String × Value)} : (obj fs).Whole ↔ ∀ f ∈ fs, f.2.Whole := by
  simp only [Whole, parts, List.mem_cons, mem_partsFields, reduceCtorEq, false_or, not_exists, not_and]
  exact ⟨fun h f hf x => h x f hf, fun h x f hf => h f hf x⟩

theorem not_whole_float (x : Finite64) : ¬ (num (.float x)).Whole := fun h => h x (List.mem_singleton_self _)

end BuildOrder.Value
