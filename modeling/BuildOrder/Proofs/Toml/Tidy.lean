import BuildOrder.Proofs.Results
import BuildOrder.Proofs.Value.Parts
import BuildOrder.Toml.Reader

/-!
# What is read from TOML is tidy

A table is tidy while it is being built: its keys are in order, and the document that each of its items would be is
tidy. Whatever a line of a document does, it does by changing one table on a path, and every table on the way is put
back under the key that it had. So a line keeps the document tidy, and so do all lines together.
-/

namespace BuildOrder.Toml

/-! ### Values -/

private theorem keysInOrder_map {α β : Type} {g : α → β} {fs : List (String × α)} :
    KeysInOrder (fs.map fun f => (f.1, g f.2)) ↔ KeysInOrder fs := by
  rw [KeysInOrder, List.map_map]
  rfl

namespace Value

/-- The document that a value is has its keys in order. -/
def Tidy (v : Value) : Prop := v.toValue.Tidy

theorem toValues_eq_map (vs : List Value) : toValues vs = vs.map toValue := by
  induction vs with
  | nil => rfl
  | cons v vs ih => rw [toValues, ih, List.map_cons]

theorem toFields_eq_map (fs : List (String × Value)) : toFields fs = fs.map fun f => (f.1, f.2.toValue) := by
  induction fs with
  | nil => rfl
  | cons f fs ih => rw [toFields, ih, List.map_cons]

private theorem tidy_array {vs : List Value} : (array vs).Tidy ↔ ∀ v ∈ vs, v.Tidy := by
  rw [Tidy, toValue, BuildOrder.Value.tidy_arr, toValues_eq_map, List.forall_mem_map]
  rfl

private theorem tidy_table {fs : List (String × Value)} : (table fs).Tidy ↔ KeysInOrder fs ∧ ∀ f ∈ fs, f.2.Tidy := by
  rw [Tidy, toValue, BuildOrder.Value.tidy_obj, toFields_eq_map, keysInOrder_map, List.forall_mem_map]
  rfl

def IsScalar : Value → Prop
  | .array _ | .table _ => False
  | _ => True

theorem IsScalar.tidy {v : Value} (h : v.IsScalar) : v.Tidy := by
  apply BuildOrder.Value.IsScalar.tidy
  cases v with
  | array vs => exact h.elim
  | table fs => exact h.elim
  | float x => rcases x with x | (_ | _) | _ <;> trivial
  | str | int | bool | moment => trivial

end Value

section Scalars

variable {cs : List Char} {v : Value}

private theorem isScalar_of_word? (h : word? cs = some v) : v.IsScalar := by
  unfold word? at h
  split at h <;> cases h <;> trivial

private theorem isScalar_of_based? {base : Nat} (h : based? base cs = some v) : v.IsScalar := by
  obtain ⟨ds, -, h⟩ := Option.bind_eq_some_iff.mp h
  obtain ⟨i, -, rfl⟩ := Option.map_eq_some_iff.mp h
  trivial

private theorem isScalar_of_number? {negative : Bool} (h : number? negative cs = some v) : v.IsScalar := by
  rw [number?] at h
  split at h
  · rw [float?] at h
    split at h
    · split at h
      · exact Option.some.inj h ▸ trivial
      · cases h
    · cases h
  · obtain ⟨ds, -, h⟩ := Option.bind_eq_some_iff.mp h
    obtain ⟨i, -, rfl⟩ := Option.map_eq_some_iff.mp h
    trivial

private theorem isScalar_of_scalar? (h : scalar? cs = some v) : v.IsScalar := by
  unfold scalar? at h
  split at h
  · next hword => exact isScalar_of_word? (hword.trans h)
  split at h
  · obtain ⟨m, -, rfl⟩ := Option.map_eq_some_iff.mp h
    trivial
  split at h
  · exact isScalar_of_based? h
  · exact isScalar_of_based? h
  · exact isScalar_of_based? h
  · exact isScalar_of_number? h

end Scalars

/-! ### Tables under construction -/

/-- The keys are in order, and every item is tidy as far as it goes. -/
def Fields.Tidy (fs : Fields) : Prop := KeysInOrder fs ∧ ∀ f ∈ fs, f.2.toValue.Tidy

private theorem fieldValues_eq_map (fs : Fields) : fieldValues fs = fs.map fun f => (f.1, f.2.toValue) := by
  induction fs with
  | nil => rfl
  | cons f fs ih => rw [fieldValues, ih, List.map_cons]

private theorem elementValues_eq_map (tables : List Fields) :
    elementValues tables = tables.map fun fs => .table (fieldValues fs) := by
  induction tables with
  | nil => rfl
  | cons fs tables ih => rw [elementValues, ih, List.map_cons]

theorem tidy_table_fieldValues {fs : Fields} : (Value.table (fieldValues fs)).Tidy ↔ fs.Tidy := by
  rw [Value.tidy_table, fieldValues_eq_map, keysInOrder_map, List.forall_mem_map]
  rfl

theorem tidy_toValue_tables {tables : List Fields} :
    (Item.tables tables).toValue.Tidy ↔ ∀ fs ∈ tables, fs.Tidy := by
  simp only [Item.toValue, Value.tidy_array, List.mem_reverse, elementValues_eq_map, List.forall_mem_map,
    tidy_table_fieldValues]

namespace Fields

private theorem tidy_nil : Tidy [] := ⟨keysInOrder_nil, List.forall_mem_nil _⟩

theorem Tidy.get? {fs : Fields} (h : fs.Tidy) {key : String} {item : Item} (hget : get? key fs = some item) :
    item.toValue.Tidy := by
  obtain ⟨k, hk⟩ := mem_of_find?_fst hget
  exact h.2 (k, item) hk

theorem Tidy.set {fs : Fields} (h : fs.Tidy) {key : String} {item : Item} (hitem : item.toValue.Tidy) :
    (set key item fs).Tidy := by
  rw [set_eq_putField]
  refine ⟨keysInOrder_putField key item h.1, fun f hf => ?_⟩
  rcases eq_or_mem_of_mem_putField hf with rfl | hf
  · exact hitem
  · exact h.2 f hf

end Fields

namespace Table

/-- A change of tables keeps tidy ones tidy. -/
def KeepsTidy (change : Table → Option Table) : Prop :=
  ∀ t u, change t = some u → t.fields.Tidy → u.fields.Tidy

/-- A change of one table, wherever it stands, is a change that keeps the document tidy if it keeps that table
tidy. -/
theorem keepsTidy_modify {change : Table → Option Table} (hchange : KeepsTidy change) (made : Origin)
    (path : List String) : KeepsTidy (modify made change path) := by
  induction path with
  | nil => exact hchange
  | cons key path ih =>
    -- What is changed under `key` is put back under `key`, so only its own tidiness is in question.
    intro t u h ht
    rw [modify] at h
    split at h
    · obtain ⟨inner, hinner, rfl⟩ := Option.map_eq_some_iff.mp h
      exact ht.set (tidy_table_fieldValues.mpr (ih _ inner hinner Fields.tidy_nil))
    · next origin fields hget =>
      split at h
      · cases h
      · obtain ⟨inner, hinner, rfl⟩ := Option.map_eq_some_iff.mp h
        exact ht.set (tidy_table_fieldValues.mpr
          (ih _ inner hinner (tidy_table_fieldValues.mp (ht.get? hget))))
    · next last before hget =>
      -- Of an array of tables the path goes on into the last one, which stands first.
      split at h
      · cases h
      · obtain ⟨inner, hinner, rfl⟩ := Option.map_eq_some_iff.mp h
        obtain ⟨hlast, hbefore⟩ := List.forall_mem_cons.mp (tidy_toValue_tables.mp (ht.get? hget))
        exact ht.set (tidy_toValue_tables.mpr (List.forall_mem_cons.mpr ⟨ih _ inner hinner hlast, hbefore⟩))
    · cases h

theorem keepsTidy_insert {key : String} {v : Value} (hv : v.Tidy) : KeepsTidy (insert key v) := by
  intro t u h ht
  rw [insert] at h
  split at h
  · obtain rfl := Option.some.inj h
    exact ht.set hv
  · cases h

theorem keepsTidy_insertAt {path : List String} {key : String} {v : Value} (hv : v.Tidy) :
    KeepsTidy (insertAt path key v) := by
  refine keepsTidy_modify (fun t u h ht => ?_) .dotted path
  split at h
  · exact keepsTidy_insert hv t u h ht
  · cases h

theorem keepsTidy_insertUnder {header path : List String} {key : String} {v : Value} (hv : v.Tidy) :
    KeepsTidy (insertUnder header path key v) :=
  keepsTidy_modify (keepsTidy_insertAt hv) .passed header

theorem keepsTidy_define (path : List String) (key : String) : KeepsTidy (define path key) := by
  refine keepsTidy_modify (fun t u h ht => ?_) .passed path
  split at h
  · obtain rfl := Option.some.inj h
    exact ht.set (tidy_table_fieldValues.mpr Fields.tidy_nil)
  · next fields hget =>
    obtain rfl := Option.some.inj h
    exact ht.set (tidy_table_fieldValues.mpr (tidy_table_fieldValues.mp (ht.get? hget)))
  · cases h

theorem keepsTidy_append (path : List String) (key : String) : KeepsTidy (append path key) := by
  refine keepsTidy_modify (fun t u h ht => ?_) .passed path
  split at h
  · obtain rfl := Option.some.inj h
    exact ht.set (tidy_toValue_tables.mpr (List.forall_mem_singleton.mpr Fields.tidy_nil))
  · next elements hget =>
    obtain rfl := Option.some.inj h
    exact ht.set (tidy_toValue_tables.mpr
      (List.forall_mem_cons.mpr ⟨Fields.tidy_nil, tidy_toValue_tables.mp (ht.get? hget)⟩))
  · cases h

end Table

/-! ### Readers -/

section Collections

variable {one : Reader Value} (hone : ∀ s v rest, one s = .ok (v, rest) → v.Tidy)

include hone

private theorem tidy_of_elementsFrom {n : Nat} {s : List Char} {h : s.length < n} {acc vs : List Value} {rest : Rest n}
    (hread : elementsFrom one s h acc = .ok (vs, rest)) (hacc : ∀ v ∈ acc, v.Tidy) : ∀ v ∈ vs, v.Tidy := by
  fun_induction elementsFrom one s h acc with
  | case3 s h acc =>
    obtain ⟨rfl, -⟩ := Prod.mk.inj (Except.ok.inj hread)
    exact fun v hv => hacc v (List.mem_reverse.mp hv)
  | case7 s h acc c r _ _ _ v rest' hv =>
    obtain ⟨rfl, -⟩ := Prod.mk.inj (Except.ok.inj hread)
    intro w hw
    exact List.forall_mem_cons.mpr ⟨hone (c :: r) v rest' hv, hacc⟩ w (List.mem_reverse.mp hw)
  | case8 s h acc c r _ _ _ v rest' hv _ _ _ _ _ ih =>
    exact ih hread (List.forall_mem_cons.mpr ⟨hone (c :: r) v rest' hv, hacc⟩)
  | case1 | case2 | case4 | case5 | case6 | case9 => cases hread

private theorem tidy_of_readField {s : List Char} {field : DottedKey × Value} {rest : Rest s.length}
    (hread : readField one s = .ok (field, rest)) : field.2.Tidy := by
  rw [readField] at hread
  split at hread
  · cases hread
  · cases hread
  split at hread
  · dsimp only at hread
    split at hread
    · cases hread
    · next v rest' hv =>
      obtain ⟨rfl, -⟩ := Prod.mk.inj (Except.ok.inj hread)
      exact hone _ v rest' hv
  · cases hread

theorem tidy_of_fieldsFrom {n : Nat} {s : List Char} {h : s.length < n} {acc t : Table} {rest : Rest n}
    (hread : fieldsFrom one s h acc = .ok (t, rest)) (hacc : acc.fields.Tidy) : t.fields.Tidy := by
  fun_induction fieldsFrom one s h acc with
  | case3 s h acc =>
    obtain ⟨rfl, -⟩ := Prod.mk.inj (Except.ok.inj hread)
    exact hacc
  | case8 s h acc c r _ _ _ key v rest' hfield acc' hinsert =>
    obtain ⟨rfl, -⟩ := Prod.mk.inj (Except.ok.inj hread)
    exact Table.keepsTidy_insertAt (tidy_of_readField hone hfield) acc _ hinsert hacc
  | case9 s h acc c r _ _ _ key v rest' hfield acc' hinsert _ _ _ _ _ ih =>
    exact ih hread (Table.keepsTidy_insertAt (tidy_of_readField hone hfield) acc acc' hinsert hacc)
  | case1 | case2 | case4 | case5 | case6 | case7 | case10 => cases hread

end Collections

private theorem isScalar_of_readBare {s : List Char} {v : Value} {rest : Rest s.length}
    (hread : readBare s = .ok (v, rest)) : v.IsScalar := by
  rw [readBare] at hread
  split at hread
  split at hread
  · cases hread
  · next w hw =>
    split at hread
    · obtain ⟨rfl, -⟩ := Prod.mk.inj (Except.ok.inj hread)
      exact isScalar_of_scalar? hw
    · cases hread

/-- A value that has been read is a scalar, or its elements or fields have been read one level further down. -/
theorem cases_of_readValue {budget : Nat} {s : List Char} {v : Value} {rest : Rest s.length}
    (hread : readValue budget s = .ok (v, rest)) :
    v.IsScalar ∨
      ∃ lower r, budget = lower + 1 ∧
        ((∃ vs rest', elementsFrom (readValue lower) r (length_lt_succ r) [] = .ok (vs, rest') ∧ v = .array vs) ∨
          ∃ t rest', fieldsFrom (readValue lower) r (length_lt_succ r) .document = .ok (t, rest') ∧
            v = .table t.values) := by
  unfold readValue at hread
  split at hread
  · cases hread
  next c r =>
  split at hread
  · split at hread
    · cases hread
    · next lower =>
      obtain ⟨⟨vs, rest'⟩, hvs, hv⟩ := exists_of_map_eq_ok hread
      obtain ⟨rfl, -⟩ := Prod.mk.inj hv
      exact .inr ⟨lower, r, rfl, .inl ⟨vs, rest', hvs, rfl⟩⟩
  split at hread
  · split at hread
    · cases hread
    · next lower =>
      obtain ⟨⟨t, rest'⟩, ht, hv⟩ := exists_of_map_eq_ok hread
      obtain ⟨rfl, -⟩ := Prod.mk.inj hv
      exact .inr ⟨lower, r, rfl, .inr ⟨t, rest', ht, rfl⟩⟩
  split at hread
  · obtain ⟨⟨text, rest'⟩, -, hv⟩ := exists_of_map_eq_ok hread
    obtain ⟨rfl, -⟩ := Prod.mk.inj hv
    exact .inl trivial
  · exact .inl (isScalar_of_readBare hread)

theorem tidy_of_readValue (budget : Nat) (s : List Char) (v : Value) (rest : Rest s.length)
    (hread : readValue budget s = .ok (v, rest)) : v.Tidy := by
  induction budget generalizing s v with
  | zero =>
    obtain hscalar | ⟨lower, _, hlower, _⟩ := cases_of_readValue hread
    · exact hscalar.tidy
    · cases hlower
  | succ budget ih =>
    obtain hscalar | ⟨lower, r, hlower, ⟨vs, rest', hvs, rfl⟩ | ⟨t, rest', ht, rfl⟩⟩ := cases_of_readValue hread
    · exact hscalar.tidy
    · obtain rfl := Nat.succ.inj hlower
      exact Value.tidy_array.mpr (tidy_of_elementsFrom ih hvs (List.forall_mem_nil _))
    · obtain rfl := Nat.succ.inj hlower
      exact tidy_table_fieldValues.mpr (tidy_of_fieldsFrom ih ht Fields.tidy_nil)

/-! ### Documents -/

private theorem tidy_of_head {d e : Draft} {header : Header} (h : d.head header = some e)
    (hd : d.document.fields.Tidy) : e.document.fields.Tidy := by
  obtain ⟨document, hdocument, rfl⟩ := Option.map_eq_some_iff.mp h
  cases header with
  | define key => exact Table.keepsTidy_define key.path key.last _ document hdocument hd
  | append key => exact Table.keepsTidy_append key.path key.last _ document hdocument hd

private theorem tidy_of_insert {d e : Draft} {key : DottedKey} {v : Value} (h : d.insert key v = some e) (hv : v.Tidy)
    (hd : d.document.fields.Tidy) : e.document.fields.Tidy := by
  obtain ⟨document, hdocument, rfl⟩ := Option.map_eq_some_iff.mp h
  exact Table.keepsTidy_insertUnder hv _ document hdocument hd

theorem tidy_of_readEntry {d e : Draft} {s : List Char} {rest : Rest s.length}
    (hread : readEntry d s = .ok (e, rest)) (hd : d.document.fields.Tidy) : e.document.fields.Tidy := by
  unfold readEntry at hread
  split at hread
  · split at hread
    · cases hread
    · split at hread
      · next e' he =>
        obtain ⟨rfl, -⟩ := Prod.mk.inj (Except.ok.inj hread)
        exact tidy_of_head he hd
      · cases hread
  · split at hread
    · cases hread
    · next key v rest' hfield =>
      split at hread
      · next e' he =>
        obtain ⟨rfl, -⟩ := Prod.mk.inj (Except.ok.inj hread)
        exact tidy_of_insert he (tidy_of_readField (tidy_of_readValue depthLimit) hfield) hd
      · cases hread

theorem tidy_of_readEntries {d : Draft} {s : List Char} {t : Table} (hread : readEntries d s = .ok t)
    (hd : d.document.fields.Tidy) : t.fields.Tidy := by
  fun_induction readEntries d s with
  | case2 => exact Except.ok.inj hread ▸ hd
  | case5 d s c r _ _ e rest' hentry _ _ _ ih => exact ih hread (tidy_of_readEntry hentry hd)
  | case1 | case3 | case4 => cases hread

theorem tidy_of_parse {text : String} {fs : List (String × Value)} (hread : parse text = .ok fs) :
    (Value.table fs).toValue.Tidy := by
  rw [parse] at hread
  split at hread
  · next t ht =>
    obtain rfl := Except.ok.inj hread
    exact tidy_table_fieldValues.mpr (tidy_of_readEntries ht Fields.tidy_nil)
  · cases hread

end BuildOrder.Toml
