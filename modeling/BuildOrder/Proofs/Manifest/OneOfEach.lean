import BuildOrder.Proofs.Manifest.WrittenOrder
import BuildOrder.Proofs.Order.Rightmost
import BuildOrder.Proofs.Toml.Document
import BuildOrder.Proofs.Value.Equality
import BuildOrder.Proofs.Value.Magnitude

/-!
# One item for each leaf

An order can only be unique if every item equals itself, and it is the numbers that this depends on. No text of any
format makes a number that is not finite: in TOML, where such numbers can be written, they come out as texts. So
equality of items is an equivalence, and flattening keeps exactly one item out of each class, that of its rightmost
leaf.
-/

namespace BuildOrder

namespace Node

theorem countP_flatten_eq_one {α : Type} [BEq α] [EquivBEq α] {ns : List (Node α)} {a : α}
    (ha : a ∈ leavesAll ns) : (flatten ns).countP (· == a) = 1 := by
  obtain ⟨i, hi⟩ := exists_rightmostOf ⟨a, ha, BEq.refl a⟩
  rw [flatten_eq_rightmosts fun _ _ _ => BEq.trans, List.countP_eq_length_filter, hi.filter_rightmosts,
    List.length_singleton]

end Node

namespace Manifest

variable {format : ManifestFormat} {key text : String} {m : Manifest}

/-- A number inside an item of a TOML manifest is a whole or finite number of the TOML document. -/
theorem exists_finite_of_parse_toml {fields : List (String × Toml.Value)}
    (hparse : (parse .toml key text).value = .ok m) (hread : Toml.parse text = .ok fields) {a : Value}
    (ha : a ∈ Node.leavesAll m.nodes) {n : Number} (hn : .num n ∈ a.parts) :
    (∃ i, .int i ∈ (Toml.Value.table fields).parts ∧ n = .int i.toInteger) ∨
      ∃ x, .float (.finite x) ∈ (Toml.Value.table fields).parts ∧ n = .float x := by
  obtain ⟨document, hdocument, hnodes⟩ := exists_document_of_parse hparse
  have htable : document = (Toml.Value.table fields).toValue := by
    rw [ManifestFormat.read, hread] at hdocument
    exact (Except.ok.inj hdocument).symm
  have hpart := parts_subset_of_ofDocument hnodes a ha hn
  rw [htable, Toml.Value.parts_toValue] at hpart
  obtain ⟨t, ht, htn⟩ := List.mem_map.mp hpart
  obtain ⟨i, rfl, rfl⟩ | ⟨x, rfl, rfl⟩ := Toml.Value.toValue_eq_num htn
  · exact .inl ⟨i, ht, rfl⟩
  · exact .inr ⟨x, ht, rfl⟩

/-- **Every leaf of a manifest has exactly one item in its order.** No number inside a manifest is beyond the greatest
finite one; in TOML each of them is a whole or finite number of the document, and what is not finite comes out as a
text. Equality of items is an equivalence, which compares whole numbers with whole numbers, floating point numbers
with each other, and the objects inside a manifest as maps. -/
theorem flatten_has_one_of_each (format : ManifestFormat) (key text : String) (m : Manifest)
    (hparse : (parse format key text).value = .ok m) :
    ((∀ a ∈ Node.leavesAll m.nodes, ∀ n, .num n ∈ a.parts → n.units ≤ greatestUnits) ∧
        (∀ fields, format = .toml → Toml.parse text = .ok fields →
          ∀ a ∈ Node.leavesAll m.nodes, ∀ n, .num n ∈ a.parts →
            (∃ i, .int i ∈ (Toml.Value.table fields).parts ∧ n = .int i.toInteger) ∨
              ∃ x, .float (.finite x) ∈ (Toml.Value.table fields).parts ∧ n = .float x) ∧
        ∀ x : Binary64, (∀ y, x ≠ .finite y) → ∃ s, (Toml.Value.float x).toValue = .str s) ∧
      (EquivBEq Value ∧
        (∀ i j, (Value.num (.int i) == .num (.int j)) = (i.val == j.val)) ∧
        (∀ x y, (Value.num (.float x) == .num (.float y)) = (x == y)) ∧
        (∀ i x, (Value.num (.int i) == .num (.float x)) = false) ∧
        ∀ a ∈ Node.leavesAll m.nodes, ∀ b ∈ Node.leavesAll m.nodes, ∀ fs gs,
          .obj fs ∈ a.parts → .obj gs ∈ b.parts →
            ((Value.obj fs == .obj gs) ↔ ∀ k, Value.field? k fs == Value.field? k gs)) ∧
      ∀ a ∈ Node.leavesAll m.nodes, m.flatten.countP (· == a) = 1 := by
  have htidy := tidy_of_mem_leavesAll_of_parse hparse
  refine ⟨⟨fun _ _ n _ => n.units_le_greatestUnits, ?_, fun _ hx => Toml.Value.exists_str_of_not_finite hx⟩,
    ⟨inferInstance, fun _ _ => rfl, fun _ _ => rfl, fun _ _ => rfl, ?_⟩, ?_⟩
  · rintro fields rfl hread a ha n hn
    exact exists_finite_of_parse_toml hparse hread ha hn
  · intro a ha b hb fs gs hfs hgs
    exact Value.obj_beq_obj_iff (htidy a ha fs hfs) (htidy b hb gs hgs)
  · intro a ha
    exact Node.countP_flatten_eq_one ha

/-- What is no number and what is infinite come out as texts, so all leaves equal themselves. The zeros are equal, by
themselves and inside objects, although they are written differently; the whole number is another item. -/
theorem flatten_has_one_of_each_zero :
    let text := "deps = [nan, [-0.0, 0], 0.0, \x7bb = 0.0, a = inf\x7d, [\x7ba = inf, b = -0.0\x7d]]\n"
    ∃ m : Manifest, (parse .toml "deps" text).value = .ok m ∧
      (Value.arr (Node.encodeAll id m.nodes)).chars =
        "[\"NaN\",[-0.0,0],0.0,\x7b\"a\":\"inf\",\"b\":0.0\x7d,[\x7b\"a\":\"inf\",\"b\":-0.0\x7d]]".toList ∧
      (Value.arr m.flatten).chars = "[\"NaN\",0,0.0,\x7b\"a\":\"inf\",\"b\":-0.0\x7d]".toList ∧
      ∀ a ∈ Node.leavesAll m.nodes, m.flatten.countP (· == a) = 1 := by
  intro text
  have hrun : (parse .toml "deps" text).value.toOption.map
      (fun m => ((Value.arr (Node.encodeAll id m.nodes)).chars, (Value.arr m.flatten).chars)) =
        some ("[\"NaN\",[-0.0,0],0.0,\x7b\"a\":\"inf\",\"b\":0.0\x7d,[\x7b\"a\":\"inf\",\"b\":-0.0\x7d]]".toList,
          "[\"NaN\",0,0.0,\x7b\"a\":\"inf\",\"b\":-0.0\x7d]".toList) := by
    decide +kernel
  obtain ⟨m, hm, hchars⟩ := Option.map_eq_some_iff.mp hrun
  have hparse : (parse .toml "deps" text).value = .ok m := eq_ok_of_toOption hm
  obtain ⟨hnodes, horder⟩ := Prod.mk.inj hchars
  exact ⟨m, hparse, hnodes, horder, (flatten_has_one_of_each .toml "deps" text m hparse).2.2⟩

end Manifest

end BuildOrder
