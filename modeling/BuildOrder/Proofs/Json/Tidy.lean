import BuildOrder.Json.Reader
import BuildOrder.Proofs.Value.Parts

/-!
# What is read from JSON is tidy

The loops over elements and fields keep what the reader of one value promises, so the promise passes up from level
to level. The fields of an object are put in one after the other, and this keeps them in order.
-/

namespace BuildOrder.Json

theorem exists_of_later_eq_ok {α β : Type} {m n : Nat} {f : α → β} {h : m ≤ n} {r : Except Fault (α × Rest m)}
    {b : β} {rest : Rest n} (hread : later f h r = .ok (b, rest)) : ∃ a rest', r = .ok (a, rest') ∧ f a = b := by
  cases r with
  | error e => cases hread
  | ok p =>
    obtain ⟨a, rest'⟩ := p
    obtain ⟨rfl, -⟩ := Prod.mk.inj (Except.ok.inj hread)
    exact ⟨a, rest', rfl, rfl⟩

private theorem eq_of_word_eq_ok {α : Type} {letters r : List Char} {a b : α} {rest : Rest (r.length + 1)}
    (hread : word letters a r = .ok (b, rest)) : a = b := by
  rw [word] at hread
  split at hread
  · exact (Prod.mk.inj (Except.ok.inj hread)).1
  · cases hread

theorem isScalar_of_readScalar {c : Char} {r : List Char} {v : Value} {rest : Rest (r.length + 1)}
    (hread : readScalar c r = .ok (v, rest)) : v.IsScalar := by
  rw [readScalar] at hread
  split at hread
  · exact eq_of_word_eq_ok hread ▸ trivial
  split at hread
  · exact eq_of_word_eq_ok hread ▸ trivial
  split at hread
  · exact eq_of_word_eq_ok hread ▸ trivial
  split at hread
  · obtain ⟨s, _, _, rfl⟩ := exists_of_later_eq_ok hread
    trivial
  split at hread
  · obtain ⟨x, _, _, rfl⟩ := exists_of_later_eq_ok hread
    trivial
  · cases hread

private theorem forall_mem_of_elementsFrom {α β : Type} {one : Reader α} {take? : α → Option β} {P : β → Prop}
    (hone : ∀ s a rest b, one s = .ok (a, rest) → take? a = some b → P b) {n : Nat} {s : List Char}
    {h : s.length < n} {acc bs : List β} {rest : Rest n} (hacc : ∀ b ∈ acc, P b)
    (hread : elementsFrom one take? s h acc = .ok (bs, rest)) : ∀ b ∈ bs, P b := by
  fun_induction elementsFrom one take? s h acc with
  | case4 s h acc a rest' hrest' b htake =>
    -- The last element has been read, and the bracket behind it.
    obtain ⟨rfl, -⟩ := Prod.mk.inj (Except.ok.inj hread)
    intro b' hb'
    rcases List.mem_cons.mp (List.mem_reverse.mp hb') with rfl | hb'
    · exact hone s a rest' b' hrest' htake
    · exact hacc b' hb'
  | case7 s h acc a rest' hrest' b htake _ _ _ _ _ _ _ _ _ ih =>
    exact ih (List.forall_mem_cons.mpr ⟨hone s a rest' b hrest' htake, hacc⟩) hread
  | case1 | case2 | case3 | case5 | case6 | case8 => cases hread

private theorem forall_mem_of_elements {α β : Type} {one : Reader α} {take? : α → Option β} {P : β → Prop}
    (hone : ∀ s a rest b, one s = .ok (a, rest) → take? a = some b → P b) {s : List Char} {bs : List β}
    {rest : Rest (s.length + 1)} (hread : elements one take? s = .ok (bs, rest)) : ∀ b ∈ bs, P b := by
  rw [elements] at hread
  split at hread
  · cases hread
  split at hread
  · obtain ⟨rfl, -⟩ := Prod.mk.inj (Except.ok.inj hread)
    exact List.forall_mem_nil _
  · exact forall_mem_of_elementsFrom hone (List.forall_mem_nil _) hread

section Fields

variable {one : Reader Value} (hone : ∀ s v rest, one s = .ok (v, rest) → v.Tidy)

include hone

theorem tidy_of_fieldsFrom {n : Nat} {s : List Char} {h : s.length < n} {acc fs : List (String × Value)}
    {rest : Rest n} (hacc : (Value.obj acc).Tidy) (hread : fieldsFrom one s h acc = .ok (fs, rest)) :
    (Value.obj fs).Tidy := by
  fun_induction fieldsFrom one s h acc with
  | case6 s h acc key _ _ _ r _ _ v rest' hv =>
    obtain ⟨rfl, -⟩ := Prod.mk.inj (Except.ok.inj hread)
    exact Value.tidy_obj_insertField (hone r v rest' hv) hacc
  | case9 s h acc key _ _ _ r _ _ v rest' hv _ _ _ _ _ _ _ _ ih =>
    exact ih (Value.tidy_obj_insertField (hone r v rest' hv) hacc) hread
  | case1 | case2 | case3 | case4 | case5 | case7 | case8 | case10 | case11 => cases hread

private theorem tidy_of_fields {s : List Char} {fs : List (String × Value)} {rest : Rest (s.length + 1)}
    (hread : fields one s = .ok (fs, rest)) : (Value.obj fs).Tidy := by
  have hempty : (Value.obj []).Tidy := Value.tidy_obj.mpr ⟨keysInOrder_nil, List.forall_mem_nil _⟩
  rw [fields] at hread
  split at hread
  · cases hread
  split at hread
  · obtain ⟨rfl, -⟩ := Prod.mk.inj (Except.ok.inj hread)
    exact hempty
  split at hread
  · exact tidy_of_fieldsFrom hone hempty hread
  · cases hread

end Fields

/-- A value that has been read is a scalar, or its elements or fields have been read one level further down. -/
theorem cases_of_readValue {budget : Nat} {s : List Char} {v : Value} {rest : Rest s.length}
    (hread : readValue budget s = .ok (v, rest)) :
    v.IsScalar ∨
      ∃ lower, budget = lower + 1 ∧
        ((∃ r vs rest', elements (readValue lower) some r = .ok (vs, rest') ∧ v = .arr vs) ∨
          ∃ r fs rest', fields (readValue lower) r = .ok (fs, rest') ∧ v = .obj fs) := by
  rw [readValue] at hread
  split at hread
  · cases hread
  split at hread
  · split at hread
    · cases hread
    · next lower =>
      obtain ⟨vs, rest', hvs, rfl⟩ := exists_of_later_eq_ok hread
      exact .inr ⟨lower, rfl, .inl ⟨_, vs, rest', hvs, rfl⟩⟩
  split at hread
  · split at hread
    · cases hread
    · next lower =>
      obtain ⟨fs, rest', hfs, rfl⟩ := exists_of_later_eq_ok hread
      exact .inr ⟨lower, rfl, .inr ⟨_, fs, rest', hfs, rfl⟩⟩
  · obtain ⟨w, rest', hw, rfl⟩ := exists_of_later_eq_ok hread
    exact .inl (isScalar_of_readScalar hw)

theorem tidy_of_readValue (budget : Nat) (s : List Char) (v : Value) (rest : Rest s.length)
    (hread : readValue budget s = .ok (v, rest)) : v.Tidy := by
  induction budget generalizing s v with
  | zero =>
    obtain hscalar | ⟨lower, hlower, _⟩ := cases_of_readValue hread
    · exact hscalar.tidy
    · cases hlower
  | succ budget ih =>
    obtain hscalar | ⟨lower, hlower, ⟨r, vs, rest', hvs, rfl⟩ | ⟨r, fs, rest', hfs, rfl⟩⟩ := cases_of_readValue hread
    · exact hscalar.tidy
    · obtain rfl := Nat.succ.inj hlower
      refine Value.tidy_arr.mpr (forall_mem_of_elements (fun s v rest w hv hw => ?_) hvs)
      exact Option.some.inj hw ▸ ih s v rest hv
    · obtain rfl := Nat.succ.inj hlower
      exact tidy_of_fields ih hfs

private theorem exists_of_readAll_eq_ok {α : Type} {one : Reader α} {text : List Char} {a : α}
    (hread : readAll one text = .ok a) : ∃ rest, one text = .ok (a, rest) := by
  rw [readAll] at hread
  split at hread
  · cases hread
  · next a' rest hone =>
    rw [expectEnd] at hread
    split at hread
    · next hend =>
      split at hend
      · obtain rfl := Except.ok.inj hread
        obtain rfl := Except.ok.inj hend
        exact ⟨rest, hone⟩
      · cases hend
    · cases hread

theorem tidy_of_parse {text : String} {v : Value} (hread : parse text = .ok v) : v.Tidy := by
  obtain ⟨rest, hvalue⟩ := exists_of_readAll_eq_ok hread
  exact tidy_of_readValue depthLimit _ v rest hvalue

end BuildOrder.Json
