import BuildOrder.Proofs.Value.Parts
import BuildOrder.Yaml.Reader

/-!
# What is read from YAML is tidy

However the trees of a document have come about, its value is made from them by going down: scalars become scalars,
and a mapping becomes the object of all its fields, its own and the merged ones, which is tidy if the values of the
fields are. That merged fields come from values that have been made before is what the induction has to know.
-/

namespace BuildOrder.Yaml

private theorem isScalar_of_whole? {cs : List Char} {v : Value} (h : whole? cs = some v) : v.IsScalar := by
  obtain ⟨n, -, hv⟩ := Option.bind_eq_some_iff.mp h
  obtain ⟨i, -, rfl⟩ := Option.map_eq_some_iff.mp hv
  trivial

private theorem isScalar_ofFloat (x : Binary64) : (ofFloat x).IsScalar := by
  rcases x with x | (_ | _) | _ <;> trivial

private theorem isScalar_plainValue (text : String) : (plainValue text).IsScalar := by
  rw [plainValue]
  split
  · trivial
  split
  · trivial
  · next h => exact isScalar_of_whole? h
  · exact isScalar_ofFloat _
  · trivial

private theorem isScalar_of_scalarValue {tag : Tag} {plain : Bool} {text : String} {v : Value}
    (h : scalarValue tag plain text = .ok v) : v.IsScalar := by
  unfold scalarValue at h
  split at h
  · exact Except.ok.inj h ▸ trivial
  split at h
  · cases h
  · split at h
    · exact Except.ok.inj h ▸ trivial
    · cases h
  · exact Except.ok.inj h ▸ trivial
  · split at h
    · exact Except.ok.inj h ▸ isScalar_plainValue text
    · exact Except.ok.inj h ▸ trivial

private theorem exists_mem_of_mapM_eq_some {α β : Type} {f : α → Option β} {xs : List α} {ys : List β}
    (h : xs.mapM f = some ys) : ∀ y ∈ ys, ∃ x ∈ xs, f x = some y := by
  induction xs generalizing ys with
  | nil =>
    obtain rfl := Option.some.inj h
    exact List.forall_mem_nil _
  | cons x xs ih =>
    rw [List.mapM_cons] at h
    obtain ⟨z, hz, h⟩ := Option.bind_eq_some_iff.mp h
    obtain ⟨zs, hzs, h⟩ := Option.bind_eq_some_iff.mp h
    obtain rfl := Option.some.inj h
    refine List.forall_mem_cons.mpr ⟨⟨x, List.mem_cons_self .., hz⟩, fun y hy => ?_⟩
    obtain ⟨x', hx', hy⟩ := ih hzs y hy
    exact ⟨x', List.mem_cons_of_mem x hx', hy⟩

private theorem tidy_of_mergeSources? {v : Value} {sources : List (List (String × Value))} (hv : v.Tidy)
    (h : mergeSources? v = some sources) : ∀ fs ∈ sources, ∀ f ∈ fs, f.2.Tidy := by
  cases v with
  | null =>
    obtain rfl := Option.some.inj h
    exact List.forall_mem_nil _
  | obj fs =>
    obtain rfl := Option.some.inj h
    exact List.forall_mem_singleton.mpr (Value.tidy_obj.mp hv).2
  | arr vs =>
    intro fs hfs
    obtain ⟨w, hw, hobj⟩ := exists_mem_of_mapM_eq_some h fs hfs
    split at hobj
    · obtain rfl := Option.some.inj hobj
      exact (Value.tidy_obj.mp (Value.tidy_arr.mp hv _ hw)).2
    · cases hobj
  | bool | num | str => cases h

/-- All values in a draft of a mapping are tidy. -/
def MappingDraft.Tidy (d : MappingDraft) : Prop :=
  (∀ f ∈ d.own, f.2.Tidy) ∧ ∀ fs ∈ d.merged, ∀ f ∈ fs, f.2.Tidy

theorem MappingDraft.Tidy.value {d : MappingDraft} (h : d.Tidy) : d.value.Tidy := by
  apply Value.tidy_ofFields
  intro f hf
  rcases List.mem_append.mp hf with hf | hf
  · obtain ⟨fs, hfs, hf⟩ := List.mem_flatten.mp hf
    exact h.2 fs (List.mem_reverse.mp hfs) f hf
  · exact h.1 f (List.mem_reverse.mp hf)

namespace Tree

mutual

theorem tidy_of_toValue : ∀ (t : Tree) (v : Value), t.toValue = .ok v → v.Tidy
  | .scalar _ tag plain text, v, h => by
    rw [toValue] at h
    split at h
    · next hscalar =>
      obtain rfl := Except.ok.inj h
      exact (isScalar_of_scalarValue hscalar).tidy
    · cases h
  | .sequence _ ts, v, h => by
    rw [toValue] at h
    split at h
    · next vs hvs =>
      obtain rfl := Except.ok.inj h
      exact Value.tidy_arr.mpr (tidy_of_toValues ts vs hvs)
    · cases h
  | .mapping _ fs, v, h => by
    rw [toValue] at h
    split at h
    · next d hd =>
      obtain rfl := Except.ok.inj h
      exact (tidy_of_toFields fs _ d hd ⟨List.forall_mem_nil _, List.forall_mem_nil _⟩).value
    · cases h

theorem tidy_of_toValues : ∀ (ts : List Tree) (vs : List Value), toValues ts = .ok vs → ∀ v ∈ vs, v.Tidy
  | [], vs, h => by
    obtain rfl := Except.ok.inj h
    exact List.forall_mem_nil _
  | t :: ts, vs, h => by
    rw [toValues] at h
    split at h
    · cases h
    · next v hv =>
      split at h
      · next ws hws =>
        obtain rfl := Except.ok.inj h
        exact List.forall_mem_cons.mpr ⟨tidy_of_toValue t v hv, tidy_of_toValues ts ws hws⟩
      · cases h

theorem tidy_of_toFields : ∀ (fs : List (Tree × Tree)) (d d' : MappingDraft), toFields fs d = .ok d' → d.Tidy →
    d'.Tidy
  | [], d, d', h, hd => by
    obtain rfl := Except.ok.inj h
    exact hd
  | (k, t) :: fs, d, d', h, hd => by
    rw [toFields] at h
    split at h
    · cases h
    · cases h
    · next v _ hv =>
      split at h
      -- A merge key: the fields come from values that have been made before.
      · next sources hsources =>
        refine tidy_of_toFields fs _ d' h ⟨hd.1, fun fs hfs => ?_⟩
        rcases List.mem_append.mp hfs with hfs | hfs
        · exact tidy_of_mergeSources? (tidy_of_toValue t v hv) hsources fs hfs
        · exact hd.2 fs hfs
      · cases h
    · next key v _ hv =>
      split at h
      · cases h
      · exact tidy_of_toFields fs _ d' h
          ⟨List.forall_mem_cons.mpr ⟨tidy_of_toValue t v hv, hd.1⟩, hd.2⟩

end

end Tree

theorem tidy_of_parse {text : String} {v : Value} (hread : parse text = .ok v) : v.Tidy := by
  rw [parse] at hread
  split at hread
  · next w hw =>
    obtain rfl := Except.ok.inj hread
    rw [readValue] at hw
    split at hw
    · cases hw
    · next tree _ _ =>
      split at hw
      · next u _ hu _ =>
        obtain rfl := Except.ok.inj hw
        exact Tree.tidy_of_toValue tree u hu
      · cases hw
      · cases hw
  · cases hread

end BuildOrder.Yaml
