import BuildOrder.Proofs.Order.Replaced

/-!
# Opaque items

Flattening asks of an item whether a kept one equals it, and hands it on; it never looks inside. So let the items of a
sequence be replaced by a function that preserves and reflects equality. The two walks go side by side: after every
number of rounds they have the same stack and the same account of what was kept and dropped, up to the replacement,
because at every leaf both ask the same questions in the same order and get the same answers. No law of equality
is used.
-/

namespace BuildOrder

universe u v

variable {α : Type u} {β : Type v}

namespace Kept

def map (f : α → β) (k : Kept α) : Kept β where
  items := k.items.map f
  size := k.size
  skips := k.skips
  duplicates := k.duplicates
  size_eq := by rw [k.size_eq, List.length_map]
  duplicates_eq := k.duplicates_eq

theorem map_keep (f : α → β) (k : Kept α) (a : α) : (k.keep a).map f = (k.map f).keep (f a) := rfl

theorem map_skip (f : α → β) (k : Kept α) : k.skip.map f = (k.map f).skip := rfl

variable [BEq α] [BEq β] {f : α → β}

theorem covers_map (hf : ∀ a b, (f a == f b) = (a == b)) (k : Kept α) (b : α) :
    (k.map f).covers (f b) = k.covers b := by
  simp [covers, map, List.any_map, Function.comp_def, hf]

theorem map_visit (hf : ∀ a b, (f a == f b) = (a == b)) (k : Kept α) (b : α) :
    (k.visit b).map f = (k.map f).visit (f b) := by
  rw [visit, visit, covers_map hf]
  by_cases hcovers : k.covers b
  · rw [if_pos hcovers, if_pos hcovers, map_skip]
  · rw [if_neg hcovers, if_neg hcovers, map_keep]

end Kept

namespace Pending

def map (f : α → β) (stack : Pending α) : Pending β := List.map (Node.mapAll f) stack

theorem map_start (f : α → β) (ns : List (Node α)) : map f (start ns) = start (Node.mapAll f ns) := by
  simp [map, start]

theorem step_map (f : α → β) (stack : Pending α) : (map f stack).step = stack.step.map (Round.map f (map f)) := by
  rcases stack with _ | ⟨_ | ⟨n, rest⟩, stack⟩
  · rfl
  · rfl
  · cases n with
    | item a => rfl
    | seq cs =>
      change some (Round.move ((Node.mapAll f cs).reverse :: Node.mapAll f rest :: map f stack)) = _
      have hentered : (Node.mapAll f cs).reverse = Node.mapAll f cs.reverse := by simp
      rw [hentered]
      rfl

end Pending

namespace Node

variable [BEq α] [BEq β] {f : α → β}

theorem after_mapAll (hf : ∀ a b, (f a == f b) = (a == b)) (rounds : Nat) (ns : List (Node α)) :
    Pending.after Kept.visit rounds .empty (Pending.start (mapAll f ns)) =
      (Pending.after Kept.visit rounds .empty (Pending.start ns)).map (Prod.map (Kept.map f) (Pending.map f)) := by
  have hagree := Pending.after_map_of_agree (Pending.step_map f) (fun (_ : Kept α) _ (h : True) => h)
    (fun k b _ => Kept.map_visit hf k b) rounds Kept.empty (Pending.start ns) trivial
  rw [Pending.map_start] at hagree
  exact hagree.symm

theorem walk_mapAll (hf : ∀ a b, (f a == f b) = (a == b)) (ns : List (Node α)) :
    walk Kept.visit .empty (mapAll f ns) = (walk Kept.visit .empty ns).map f := by
  have hover := after_mapAll hf (Pending.start ns).work ns
  rw [Pending.after_work] at hover
  have hrun := Pending.run_of_after hover
  exact hrun.trans (Pending.run_nil _ _)

/-- **Items are opaque.** Let `f` preserve and reflect equality tests that need not obey any law. Then the walk over the
items that `f` makes goes as the walk over the items themselves does: after every number of rounds its stack and its
account are those of the other with `f` applied to the items. So its order is the other order with `f` applied to
every item, and it drops the same leaves. -/
theorem order_of_renamed_items (f : α → β) (hf : ∀ a b, f a == f b ↔ a == b) (ns : List (Node α)) :
    (∀ rounds, Pending.after Kept.visit rounds .empty (Pending.start (mapAll f ns)) =
        (Pending.after Kept.visit rounds .empty (Pending.start ns)).map (Prod.map (Kept.map f) (Pending.map f))) ∧
      flatten (mapAll f ns) = (flatten ns).map f ∧
      (flattened (mapAll f ns)).skips = (flattened ns).skips := by
  have htests : ∀ a b, (f a == f b) = (a == b) := by
    intro a b
    rw [Bool.eq_iff_iff]
    exact hf a b
  have hwalk := walk_mapAll htests ns
  refine ⟨fun rounds => after_mapAll htests rounds ns, ?_, ?_⟩
  · rw [flatten, flattened, hwalk]
    rfl
  · rw [flattened, hwalk]
    rfl

/-- A number that equals its successor only, the successor standing on the right, and the same for even numbers. Of
`3, [2, 1], 2` the leaves `2` and `1` are kept, and the others dropped; so are their doubles. -/
theorem order_of_renamed_items_successors :
    let after : BEq Nat := ⟨fun a b => decide (b = a + 1)⟩
    let evenAfter : BEq Nat := ⟨fun a b => decide (b = a + 2)⟩
    let tree : List (Node Nat) := [.item 3, .seq [.item 2, .item 1], .item 2]
    (∀ a b : Nat, evenAfter.beq (2 * a) (2 * b) ↔ after.beq a b) ∧
      @flatten Nat after tree = [1, 2] ∧ @flatten Nat evenAfter (mapAll (2 * ·) tree) = [2, 4] ∧
      (@flattened Nat evenAfter (mapAll (2 * ·) tree)).skips = [2, 2] := by
  intro after evenAfter tree
  have htests : ∀ a b : Nat, evenAfter.beq (2 * a) (2 * b) ↔ after.beq a b := by
    intro a b
    change decide (2 * b = 2 * a + 2) = true ↔ decide (b = a + 1) = true
    rw [decide_eq_true_iff, decide_eq_true_iff]
    omega
  obtain ⟨-, horder, hskips⟩ := @order_of_renamed_items Nat Nat after evenAfter (2 * ·) htests tree
  have htree : @flatten Nat after tree = [1, 2] := by
    rw [@flatten_eq_pwFilter Nat after]
    rfl
  refine ⟨htests, htree, ?_, ?_⟩
  · rw [horder, htree]
    rfl
  · rw [hskips, @flattened.eq_1 Nat after, walk_eq_foldr]
    rfl

end Node

end BuildOrder
