import BuildOrder.Value.Decode

/-!
# Trees and values

Decoding asks at every level whether an array is a sequence before it asks whether it is an item, and it may fail
at any depth. If items are values as they are it never fails: every array has become a sequence before anybody asks
whether it is an item. `ofValue` is the tree that comes out, said without trying anything. Its items are the values
that no array directly holds or is; an array inside an object belongs to the object.

Encoding forgets which type the items had, and nothing else. What it writes reads back as the same tree as soon as
each of the tree's items does, and is not mistaken for a sequence.
-/

namespace BuildOrder.Node

universe u

/-! ### The tree of a value -/

mutual

/-- The tree of a value: arrays are sequences, all else is an item. -/
def ofValue : Value → Node Value
  | .arr vs => .seq (ofValues vs)
  | v => .item v

def ofValues : List Value → List (Node Value)
  | [] => []
  | v :: vs => ofValue v :: ofValues vs

end

theorem ofValue_of_isArray_eq_false {v : Value} (h : v.isArray = false) : ofValue v = .item v := by
  cases v with
  | arr vs => exact Bool.noConfusion h
  | null | bool | num | str | obj => rfl

theorem ofValues_eq_items {vs : List Value} (h : ∀ v ∈ vs, v.isArray = false) : ofValues vs = items vs := by
  induction vs with
  | nil => rfl
  | cons v vs ih =>
    rw [List.forall_mem_cons] at h
    rw [ofValues, ofValue_of_isArray_eq_false h.1, ih h.2]
    rfl

mutual

theorem decode?_some : ∀ v : Value, decode? some v = some (ofValue v)
  | .arr vs => by rw [decode?, decodeAll?_some vs, ofValue]
  | .null | .bool _ | .num _ | .str _ | .obj _ => rfl

theorem decodeAll?_some : ∀ vs : List Value, decodeAll? some vs = some (ofValues vs)
  | [] => rfl
  | v :: vs => by rw [decodeAll?, decode?_some v, decodeAll?_some vs, ofValues]

end

mutual

theorem isArray_of_mem_leaves_ofValue : ∀ v : Value, ∀ a ∈ (ofValue v).leaves, a.isArray = false
  | .arr vs, a, ha => by
    rw [ofValue, leaves] at ha
    exact isArray_of_mem_leavesAll_ofValues vs a ha
  | .null, _, ha | .bool _, _, ha | .num _, _, ha | .str _, _, ha | .obj _, _, ha => by
    obtain rfl := List.mem_singleton.mp ha
    rfl

theorem isArray_of_mem_leavesAll_ofValues : ∀ vs : List Value, ∀ a ∈ leavesAll (ofValues vs), a.isArray = false
  | v :: vs, a, ha => by
    rw [ofValues, leavesAll, List.mem_append] at ha
    rcases ha with ha | ha
    · exact isArray_of_mem_leaves_ofValue v a ha
    · exact isArray_of_mem_leavesAll_ofValues vs a ha

end

mutual

theorem encode_ofValue : ∀ v : Value, (ofValue v).encode id = v
  | .arr vs => by rw [ofValue, encode, encodeAll_ofValues vs]
  | .null | .bool _ | .num _ | .str _ | .obj _ => rfl

theorem encodeAll_ofValues : ∀ vs : List Value, encodeAll id (ofValues vs) = vs
  | [] => rfl
  | v :: vs => by rw [ofValues, encodeAll, encode_ofValue v, encodeAll_ofValues vs]

end

/-! ### The value of a tree -/

section Items

variable {α : Type u} {item? : Value → Option α} {itemValue : α → Value}

/-- An item that decodes from its value, which is no array. -/
def ReadsBack (item? : Value → Option α) (itemValue : α → Value) (a : α) : Prop :=
  item? (itemValue a) = some a ∧ (itemValue a).isArray = false

theorem decode?_of_isArray_eq_false {v : Value} (h : v.isArray = false) : decode? item? v = (item? v).map .item := by
  cases v with
  | arr vs => exact Bool.noConfusion h
  | null | bool | num | str | obj => rfl

mutual

theorem decode?_encode : ∀ n : Node α, (∀ a ∈ n.leaves, ReadsBack item? itemValue a) →
    decode? item? (n.encode itemValue) = some n
  | .item a, h => by
    -- The value is no array, so it is not tried as a sequence.
    obtain ⟨hback, harray⟩ := h a (List.mem_singleton_self a)
    rw [encode, decode?_of_isArray_eq_false harray, hback, Option.map_some]
  | .seq ns, h => by rw [encode, decode?, decodeAll?_encodeAll ns h]

theorem decodeAll?_encodeAll : ∀ ns : List (Node α), (∀ a ∈ leavesAll ns, ReadsBack item? itemValue a) →
    decodeAll? item? (encodeAll itemValue ns) = some ns
  | [], _ => rfl
  | n :: ns, h => by
    rw [leavesAll, List.forall_mem_append] at h
    rw [encodeAll, decodeAll?, decode?_encode n h.1, decodeAll?_encodeAll ns h.2]

end

end Items

/-- **Decoding and encoding undo each other.** Every array decodes, as a tree no item of which is an array, and the
tree encodes as that array again. A tree whose items read back decodes from its value, be this because all items of
the type do, or because the items are values and none of them is an array. -/
theorem decodeAll?_encodeAll_inverse :
    (∀ vs : List Value, ∃ ns, decodeAll? some vs = some ns ∧ (∀ v ∈ leavesAll ns, v.isArray = false) ∧
        encodeAll id ns = vs) ∧
      (∀ {α : Type u} (item? : Value → Option α) (itemValue : α → Value),
        (∀ a, item? (itemValue a) = some a) → (∀ a, (itemValue a).isArray = false) →
          ∀ ns, decodeAll? item? (encodeAll itemValue ns) = some ns) ∧
      ∀ ns : List (Node Value), (∀ v ∈ leavesAll ns, v.isArray = false) →
        decodeAll? some (encodeAll id ns) = some ns := by
  refine ⟨fun vs => ⟨ofValues vs, decodeAll?_some vs, isArray_of_mem_leavesAll_ofValues vs, encodeAll_ofValues vs⟩,
    fun item? itemValue hback harray ns => ?_, fun ns harray => ?_⟩
  · exact decodeAll?_encodeAll ns fun a _ => ⟨hback a, harray a⟩
  · exact decodeAll?_encodeAll ns fun v hv => ⟨rfl, harray v hv⟩

/-- Empty sequences, and an object that holds an array. -/
theorem decodeAll?_encodeAll_inverse_empty :
    let texts : List (Node String) := [.seq [], .item "a", .seq [.seq [], .item "b"]]
    let holder : Value := .obj [("k", .arr [.arr []])]
    let values : List (Node Value) := [.seq [.item holder], .seq []]
    ((∀ s, Value.string? (.str s) = some s) ∧ (∀ s, (Value.str s).isArray = false) ∧
        encodeAll .str texts = [.arr [], .str "a", .arr [.arr [], .str "b"]] ∧
        decodeAll? Value.string? (encodeAll .str texts) = some texts) ∧
      (∀ v ∈ leavesAll values, v.isArray = false) ∧
        encodeAll id values = [.arr [holder], .arr []] ∧
        decodeAll? some [.arr [holder], .arr []] = some values := by
  intro texts holder values
  obtain ⟨_, hitems, hvalues⟩ := decodeAll?_encodeAll_inverse
  have hback : ∀ s, Value.string? (.str s) = some s := fun _ => rfl
  have harray : ∀ s, (Value.str s).isArray = false := fun _ => rfl
  have hleaves : ∀ v ∈ leavesAll values, v.isArray = false := by
    intro v hv
    obtain rfl := List.mem_singleton.mp hv
    rfl
  exact ⟨⟨hback, harray, rfl, hitems _ _ hback harray texts⟩, hleaves, rfl, hvalues values hleaves⟩

end BuildOrder.Node
