import BuildOrder.Proofs.Manifest.OneOfEach
import BuildOrder.Proofs.Order.Replaced

/-!
# TOML values as items

A TOML array is a tree by itself: `tree` is read off it as `Node.ofValue` is read off a value, and turning the array
into a value first comes to the same. Every array that stands in an array becomes a sequence, and what is inside a
table stays there.

Values are kept apart as well. Only moments and numbers that are not finite come out as something of another kind, so
among all other values two are equal exactly if what becomes of them is, at whatever depth they differ. Flattening
therefore merges the TOML values that are equal, and no others.
-/

namespace BuildOrder.Toml.Value

/-! ### Values that stay what they are -/

/-- No moment and no number that is not finite stands in the value. -/
inductive Lossless : Value → Prop where
  | str (s : String) : Lossless (.str s)
  | int (i : Signed) : Lossless (.int i)
  | float (x : Finite64) : Lossless (.float (.finite x))
  | bool (b : Bool) : Lossless (.bool b)
  | array {vs : List Value} : (∀ v ∈ vs, Lossless v) → Lossless (.array vs)
  | table {fs : List (String × Value)} : (∀ f ∈ fs, Lossless f.2) → Lossless (.table fs)

/-- The value comes out as a text although it is none. -/
def becomesText : Value → Bool
  | .moment _ | .float (.infinite _) | .float .nan => true
  | _ => false

theorem mem_partsAll {p : Value} {vs : List Value} : p ∈ partsAll vs ↔ ∃ v ∈ vs, p ∈ v.parts := by
  induction vs with
  | nil => simp [partsAll]
  | cons v vs ih => simp [partsAll, ih]

theorem mem_partsFields {p : Value} {fs : List (String × Value)} :
    p ∈ partsFields fs ↔ ∃ f ∈ fs, p ∈ f.2.parts := by
  induction fs with
  | nil => simp [partsFields]
  | cons f fs ih => simp [partsFields, ih]

mutual

theorem lossless_of_parts : ∀ v : Value, (∀ p ∈ v.parts, p.becomesText = false) → v.Lossless
  | .str s, _ => .str s
  | .int i, _ => .int i
  | .float (.finite x), _ => .float x
  | .bool b, _ => .bool b
  | .float (.infinite _), h | .float .nan, h | .moment _, h => Bool.noConfusion (h _ (List.mem_singleton_self _))
  | .array vs, h => .array (losslessAll_of_parts vs fun p hp => h p (List.mem_cons_of_mem _ hp))
  | .table fs, h => .table (losslessFields_of_parts fs fun p hp => h p (List.mem_cons_of_mem _ hp))

theorem losslessAll_of_parts : ∀ vs : List Value, (∀ p ∈ partsAll vs, p.becomesText = false) → ∀ v ∈ vs, v.Lossless
  | [], _ => List.forall_mem_nil _
  | v :: vs, h => by
    rw [partsAll, List.forall_mem_append] at h
    exact List.forall_mem_cons.mpr ⟨lossless_of_parts v h.1, losslessAll_of_parts vs h.2⟩

theorem losslessFields_of_parts : ∀ fs : List (String × Value), (∀ p ∈ partsFields fs, p.becomesText = false) →
    ∀ f ∈ fs, f.2.Lossless
  | [], _ => List.forall_mem_nil _
  | (k, v) :: fs, h => by
    rw [partsFields, List.forall_mem_append] at h
    exact List.forall_mem_cons.mpr ⟨lossless_of_parts v h.1, losslessFields_of_parts fs h.2⟩

end

theorem lossless_iff {v : Value} : v.Lossless ↔ ∀ p ∈ v.parts, p.becomesText = false := by
  refine ⟨fun h => ?_, lossless_of_parts v⟩
  induction h with
  | str | int | float | bool => exact List.forall_mem_singleton.mpr rfl
  | array _ ih =>
    refine List.forall_mem_cons.mpr ⟨rfl, fun p hp => ?_⟩
    obtain ⟨v, hv, hp⟩ := mem_partsAll.mp hp
    exact ih v hv p hp
  | table _ ih =>
    refine List.forall_mem_cons.mpr ⟨rfl, fun p hp => ?_⟩
    obtain ⟨f, hf, hp⟩ := mem_partsFields.mp hp
    exact ih f hf p hp

instance (v : Value) : Decidable v.Lossless := decidable_of_iff _ lossless_iff.symm

/-! ### Equality -/

theorem beqElements_toValues {vs ws : List Value}
    (h : ∀ v ∈ vs, ∀ {w : Value}, w.Lossless → (v.toValue == w.toValue) = (v == w)) (hws : ∀ w ∈ ws, w.Lossless) :
    BuildOrder.Value.beqElements (toValues vs) (toValues ws) = beqElements vs ws := by
  induction vs generalizing ws with
  | nil => cases ws <;> rfl
  | cons v vs ih =>
    cases ws with
    | nil => rfl
    | cons w ws =>
      rw [List.forall_mem_cons] at h hws
      have hfirst : v.toValue.beq w.toValue = v.beq w := h.1 hws.1
      rw [toValues, toValues, BuildOrder.Value.beqElements, beqElements, hfirst, ih h.2 hws.2]

theorem beqFields_toFields {fs gs : List (String × Value)}
    (h : ∀ f ∈ fs, ∀ {w : Value}, w.Lossless → (f.2.toValue == w.toValue) = (f.2 == w))
    (hgs : ∀ g ∈ gs, g.2.Lossless) :
    BuildOrder.Value.beqFields (toFields fs) (toFields gs) = beqFields fs gs := by
  induction fs generalizing gs with
  | nil => cases gs <;> rfl
  | cons f fs ih =>
    cases gs with
    | nil => rfl
    | cons g gs =>
      rw [List.forall_mem_cons] at h hgs
      have hfirst : f.2.toValue.beq g.2.toValue = f.2.beq g.2 := h.1 hgs.1
      rw [toFields, toFields, BuildOrder.Value.beqFields, beqFields, hfirst, ih h.2 hgs.2]

/-- Values that stay what they are are equal exactly if what becomes of them is. -/
theorem toValue_beq_toValue {v w : Value} (hv : v.Lossless) (hw : w.Lossless) :
    (v.toValue == w.toValue) = (v == w) := by
  induction hv generalizing w with
  | str | int | float | bool => cases hw <;> rfl
  | array _ ih => cases hw with
    | array hws => exact beqElements_toValues (fun v hv w hw => ih v hv hw) hws
    | str | int | float | bool | table => rfl
  | table _ ih => cases hw with
    | table hgs => exact beqFields_toFields (fun f hf w hw => ih f hf hw) hgs
    | str | int | float | bool | array => rfl

/-! ### Trees -/

mutual

/-- The tree of a value: arrays are sequences, all else is an item. -/
def tree : Value → Node Value
  | .array vs => .seq (trees vs)
  | v => .item v

def trees : List Value → List (Node Value)
  | [] => []
  | v :: vs => tree v :: trees vs

end

private theorem isArray_ofFloat (x : Binary64) : (ofFloat x).isArray = false := by
  rcases x with _ | ⟨_ | _⟩ | _ <;> rfl

mutual

theorem ofValue_toValue : ∀ v : Value, Node.ofValue v.toValue = v.tree.map toValue
  | .array vs => by rw [toValue, Node.ofValue, tree, Node.map, ofValues_toValues vs]
  | .float x => Node.ofValue_of_isArray_eq_false (isArray_ofFloat x)
  | .str _ | .int _ | .bool _ | .moment _ | .table _ => rfl

/-- The tree of an array does not depend on when its elements are turned into values. -/
theorem ofValues_toValues : ∀ vs : List Value, Node.ofValues (toValues vs) = Node.mapAll toValue (trees vs)
  | [] => rfl
  | v :: vs => by rw [toValues, Node.ofValues, trees, Node.mapAll, ofValue_toValue v, ofValues_toValues vs]

end

/-! ### Manifests -/

theorem field?_toFields (key : String) (fs : List (String × Value)) :
    BuildOrder.Value.field? key (toFields fs) = (fs.lookup key).map toValue := by
  induction fs with
  | nil => rfl
  | cons f fs ih =>
    rw [toFields, BuildOrder.Value.field?_cons, List.lookup_cons, ih]
    by_cases h : f.1 = key
    · simp [h]
    · simp [h, beq_eq_false_iff_ne.mpr (Ne.symm h)]

private theorem parse_toml_value {key text : String} {fields : List (String × Value)} {vs : List Value}
    (hread : Toml.parse text = .ok fields) (hentry : fields.lookup key = some (.array vs)) :
    (Manifest.parse .toml key text).value = .ok ⟨Node.mapAll toValue (trees vs), none⟩ := by
  have hdocument : ManifestFormat.toml.read text = .ok (.obj (toFields fields)) := by
    rw [ManifestFormat.read, hread]
    rfl
  have hfield : BuildOrder.Value.field? key (toFields fields) = some (.arr (toValues vs)) := by
    rw [field?_toFields, hentry]
    rfl
  rw [← ofValues_toValues]
  exact Manifest.parse_value_eq_ok
    ((Manifest.nodesOfText_eq_ofDocument hdocument).trans (Manifest.ofDocument_obj_of_array hfield))

private theorem flatten_trees {vs : List Value} (h : ∀ v ∈ Node.leavesAll (trees vs), v.Lossless) :
    Node.flatten (Node.mapAll toValue (trees vs)) = (Node.flatten (trees vs)).map toValue :=
  Node.flatten_mapAll fun v hv w hw => toValue_beq_toValue (h v hv) (h w hw)

/-- The item that a leaf has in the order is equal to what becomes of the leaves that the leaf equals. -/
private theorem exists_mem_flatten_beq_iff {vs : List Value} (h : ∀ v ∈ Node.leavesAll (trees vs), v.Lossless)
    {v : Value} (hv : v ∈ Node.leavesAll (trees vs)) :
    ∃ a ∈ Node.flatten (Node.mapAll toValue (trees vs)),
      ∀ w ∈ Node.leavesAll (trees vs), (a == w.toValue) = (v == w) := by
  have hleaf : v.toValue ∈ Node.leavesAll (Node.mapAll toValue (trees vs)) := by
    rw [Node.leavesAll_mapAll]
    exact List.mem_map_of_mem hv
  have hone := Node.countP_flatten_eq_one hleaf
  obtain ⟨a, ha, hequal⟩ := List.countP_pos_iff.mp (hone ▸ Nat.one_pos)
  refine ⟨a, ha, fun w hw => ?_⟩
  rw [← toValue_beq_toValue (h v hv) (h w hw)]
  exact BEq.congr_left hequal

/-- **Turning TOML into items loses neither structure nor distinctions.** A tree is made with a sequence where an array
stands in an array and an item everywhere else; inside an item, arrays keep their elements and tables their keys. Of
values in which there is no moment and no number that is not finite, two are equal exactly if what becomes of them is.
So the order of a manifest of such values is the order of the TOML values: its item for a leaf stands for the leaves
that the leaf equals, and for no others. -/
theorem structure_and_distinctions_kept :
    ((∀ v : Value, Node.decode? some v.toValue = some (v.tree.map toValue)) ∧
        (∀ vs, (array vs).toValue = .arr (vs.map toValue)) ∧
        ∀ fs, (table fs).toValue = .obj (fs.map fun f => (f.1, f.2.toValue))) ∧
      (∀ v w : Value, v.Lossless → w.Lossless → (v.toValue == w.toValue) = (v == w)) ∧
      ∀ key text fields vs, Toml.parse text = .ok fields → fields.lookup key = some (.array vs) →
        ∃ m, (Manifest.parse .toml key text).value = .ok m ∧ m.nodes = Node.mapAll toValue (trees vs) ∧
          ((∀ v ∈ Node.leavesAll (trees vs), v.Lossless) →
            m.flatten = (Node.flatten (trees vs)).map toValue ∧
              ∀ v ∈ Node.leavesAll (trees vs), ∃ a ∈ m.flatten,
                ∀ w ∈ Node.leavesAll (trees vs), (a == w.toValue) = (v == w)) := by
  refine ⟨⟨fun v => ?_, fun vs => ?_, fun fs => ?_⟩, fun v w => toValue_beq_toValue, ?_⟩
  · rw [Node.decode?_some, ofValue_toValue]
  · rw [toValue, toValues_eq_map]
  · rw [toValue, toFields_eq_map]
  · intro key text fields vs hread hentry
    exact ⟨_, parse_toml_value hread hentry, rfl,
      fun h => ⟨flatten_trees h, fun v hv => exists_mem_flatten_beq_iff h hv⟩⟩

/-- A whole number, the same number with a point and the same as a text, and a table written in two ways. -/
theorem structure_and_distinctions_kept_one :
    let text := "deps = [1, [1.0, [], \"1\"], \x7ba = [1, [2]], b = 0.0\x7d, [\x7bb = -0.0, a = [1, [2]]\x7d, 1]]\n"
    let nodes := "[1,[1.0,[],\"1\"],\x7b\"a\":[1,[2]],\"b\":0.0\x7d,[\x7b\"a\":[1,[2]],\"b\":-0.0\x7d,1]]"
    let order := "[1.0,\"1\",\x7b\"a\":[1,[2]],\"b\":-0.0\x7d,1]"
    let one : Signed := ⟨⟨1, by decide, by decide⟩, by decide⟩
    (∃ fields vs, (Toml.parse text = .ok fields ∧ fields.lookup "deps" = some (.array vs) ∧
        ∀ v ∈ Node.leavesAll (trees vs), v.Lossless) ∧
      ∃ m, (Manifest.parse .toml "deps" text).value = .ok m ∧
        (BuildOrder.Value.arr (Node.encodeAll id m.nodes)).chars = nodes.toList ∧
        (BuildOrder.Value.arr m.flatten).chars = order.toList ∧
        m.flatten = (Node.flatten (trees vs)).map toValue) ∧
      ((int one).Lossless ∧ (str "1").Lossless ∧ ((int one).toValue == (str "1").toValue) = false) := by
  intro text nodes order one
  refine ⟨?_, .int one, .str "1", structure_and_distinctions_kept.2.1 _ _ (.int one) (.str "1")⟩
  have hrun : ((Toml.parse text).toOption.bind fun fields => fields.lookup "deps").bind (fun
      | .array vs => some (decide (∀ v ∈ Node.leavesAll (trees vs), v.Lossless),
          (BuildOrder.Value.arr (Node.encodeAll id (Node.mapAll toValue (trees vs)))).chars,
          (BuildOrder.Value.arr ((Node.flatten (trees vs)).map toValue)).chars)
      | _ => none) = some (true, nodes.toList, order.toList) := by
    decide +kernel
  obtain ⟨v, hentry, hv⟩ := Option.bind_eq_some_iff.mp hrun
  obtain ⟨fields, hfields, hlookup⟩ := Option.bind_eq_some_iff.mp hentry
  have hread : Toml.parse text = .ok fields := eq_ok_of_toOption hfields
  cases v with
  | array vs =>
    obtain ⟨hlossless, hnodes, horder⟩ : _ ∧ _ ∧ _ := by simpa only [Option.some.injEq, Prod.mk.injEq] using hv
    have hleaves := of_decide_eq_true hlossless
    obtain ⟨m, hparse, htree, hflatten⟩ := structure_and_distinctions_kept.2.2 "deps" text fields vs hread hlookup
    have hmapped := (hflatten hleaves).1
    exact ⟨fields, vs, ⟨hread, hlookup, hleaves⟩, m, hparse, htree ▸ hnodes, hmapped ▸ horder, hmapped⟩
  | str | int | float | bool | moment | table => cases hv

end BuildOrder.Toml.Value
