import Mathlib.Data.String.Basic
import BuildOrder.Toml.Table

/-!
# Fields in the order of their keys

Fields are put in one by one, into objects and into tables under construction alike: `putField` is what both do.
It keeps the keys in order and each of them once, it adds nothing but the new field, and a field whose key comes
after all others ends up behind them. The last fact is what makes a written object read back: its keys come in
order.
-/

namespace BuildOrder

universe u

variable {α : Type u}

/-- Put a field into fields ordered by key, in place of one with the same key. -/
def putField (key : String) (a : α) : List (String × α) → List (String × α)
  | [] => [(key, a)]
  | (k, b) :: fs =>
    if key < k then (key, a) :: (k, b) :: fs
    else if key = k then (key, a) :: fs
    else (k, b) :: putField key a fs

/-- The keys of fields are in order, each there once. -/
def KeysInOrder (fs : List (String × α)) : Prop := (fs.map Prod.fst).Pairwise (· < ·)

instance (fs : List (String × α)) : Decidable (KeysInOrder fs) :=
  inferInstanceAs (Decidable ((fs.map Prod.fst).Pairwise (· < ·)))

theorem keysInOrder_nil : KeysInOrder ([] : List (String × α)) := .nil

theorem keysInOrder_cons {f : String × α} {fs : List (String × α)} :
    KeysInOrder (f :: fs) ↔ (∀ g ∈ fs, f.1 < g.1) ∧ KeysInOrder fs := by
  rw [KeysInOrder, List.map_cons, List.pairwise_cons, List.forall_mem_map]
  rfl

theorem eq_or_mem_of_mem_putField {key : String} {a : α} {fs : List (String × α)} {f : String × α}
    (hf : f ∈ putField key a fs) : f = (key, a) ∨ f ∈ fs := by
  induction fs with
  | nil => exact .inl (List.mem_singleton.mp hf)
  | cons g fs ih =>
    rw [putField] at hf
    split at hf
    · exact List.mem_cons.mp hf
    · split at hf
      · exact (List.mem_cons.mp hf).imp_right (List.mem_cons_of_mem g)
      · rcases List.mem_cons.mp hf with rfl | hf
        · exact .inr (List.mem_cons_self ..)
        · exact (ih hf).imp_right (List.mem_cons_of_mem g)

theorem keysInOrder_putField (key : String) (a : α) {fs : List (String × α)} (h : KeysInOrder fs) :
    KeysInOrder (putField key a fs) := by
  induction fs with
  | nil => exact keysInOrder_cons.mpr ⟨List.forall_mem_nil _, keysInOrder_nil⟩
  | cons g fs ih =>
    obtain ⟨hfirst, hrest⟩ := keysInOrder_cons.mp h
    rw [putField]
    split
    · next hlt =>
      refine keysInOrder_cons.mpr ⟨List.forall_mem_cons.mpr ⟨hlt, fun f hf => ?_⟩, h⟩
      exact lt_trans hlt (hfirst f hf)
    · next hnotLt =>
      split
      · next heq => exact keysInOrder_cons.mpr ⟨fun f hf => heq ▸ hfirst f hf, hrest⟩
      · next hne =>
        refine keysInOrder_cons.mpr ⟨fun f hf => ?_, ih hrest⟩
        rcases eq_or_mem_of_mem_putField hf with rfl | hf
        · exact lt_of_le_of_ne (not_lt.mp hnotLt) (Ne.symm hne)
        · exact hfirst f hf

private theorem putField_eq_concat {key : String} {a : α} {fs : List (String × α)} (h : ∀ f ∈ fs, f.1 < key) :
    putField key a fs = fs ++ [(key, a)] := by
  induction fs with
  | nil => rfl
  | cons g fs ih =>
    rw [List.forall_mem_cons] at h
    rw [putField, if_neg (lt_asymm h.1), if_neg (ne_of_gt h.1), ih h.2, List.cons_append]

/-- Fields in order are what comes out if they are put in one after the other. -/
theorem putField_of_keysInOrder {key : String} {a : α} {before after : List (String × α)}
    (h : KeysInOrder (before ++ (key, a) :: after)) : putField key a before = before ++ [(key, a)] := by
  apply putField_eq_concat
  rw [KeysInOrder, List.map_append, List.pairwise_append] at h
  exact fun f hf => h.2.2 f.1 (List.mem_map_of_mem hf) key (List.mem_cons_self ..)

theorem mem_of_find?_fst {key : String} {fs : List (String × α)} {a : α}
    (h : (fs.find? (fun f => f.1 == key)).map Prod.snd = some a) : ∃ k, (k, a) ∈ fs := by
  obtain ⟨f, hf, rfl⟩ := Option.map_eq_some_iff.mp h
  exact ⟨f.1, List.mem_of_find?_eq_some hf⟩

/-! ### The two ways to put a field in -/

theorem Value.insertField_eq_putField (key : String) (v : Value) (fs : List (String × Value)) :
    insertField key v fs = putField key v fs := by
  induction fs with
  | nil => rfl
  | cons f fs ih => rw [insertField, putField, ih]

theorem Value.insertField_of_keysInOrder {key : String} {v : Value} {before after : List (String × Value)}
    (h : KeysInOrder (before ++ (key, v) :: after)) : insertField key v before = before ++ [(key, v)] := by
  rw [insertField_eq_putField, putField_of_keysInOrder h]

theorem Toml.Fields.set_eq_putField (key : String) (item : Item) (fs : Fields) :
    set key item fs = putField key item fs := by
  induction fs with
  | nil => rfl
  | cons f fs ih => rw [set, putField, ih]

end BuildOrder
