import BuildOrder.Order.Flatten
import BuildOrder.Proofs.Walk

/-!
# The recursive procedure

What the build order is, said without a stack: the elements of a sequence are visited from the last to the
first, a nested sequence by the same procedure, and an item is appended to one shared accumulator unless one
that is there already equals it. The order is the accumulator, reversed.

The procedure and the walk meet at the leaves. Both are folds over them from the right, and the items kept by
the walk are the accumulator read backwards after every leaf. Nothing is asked of the equality test.
-/

namespace BuildOrder

universe u

variable {α : Type u} [BEq α]

/-- Append an item to an accumulator unless one there equals it, the one there standing on the left. -/
def addNew (acc : List α) (b : α) : List α := if acc.any (fun a => a == b) then acc else acc ++ [b]

namespace Node

mutual

/-- Visit a node: an item is added, a sequence is visited. -/
def collect (acc : List α) : Node α → List α
  | .item b => addNew acc b
  | .seq cs => collectAll acc cs

/-- Visit the elements of a sequence, the last one first. -/
def collectAll (acc : List α) : List (Node α) → List α
  | [] => acc
  | n :: ns => collect (collectAll acc ns) n

end

mutual

theorem collect_eq_foldr (acc : List α) :
    ∀ n : Node α, n.collect acc = n.leaves.foldr (fun b acc => addNew acc b) acc
  | .item b => rfl
  | .seq cs => by
    rw [collect, leaves]
    exact collectAll_eq_foldr acc cs

theorem collectAll_eq_foldr (acc : List α) :
    ∀ ns : List (Node α), collectAll acc ns = (leavesAll ns).foldr (fun b acc => addNew acc b) acc
  | [] => rfl
  | n :: ns => by
    rw [collectAll, leavesAll, List.foldr_append, collectAll_eq_foldr acc ns]
    exact collect_eq_foldr _ n

end

end Node

/-- A visit keeps the accumulator and the kept items each other's reverse. -/
theorem Kept.items_visit_eq_reverse_addNew {k : Kept α} {acc : List α} (hk : k.items = acc.reverse) (b : α) :
    (k.visit b).items = (addNew acc b).reverse := by
  rw [Kept.items_visit, Kept.covers, addNew, hk, List.any_reverse]
  split
  · rfl
  · rw [List.reverse_append, List.reverse_singleton, List.singleton_append]

namespace Node

theorem items_walk_eq_reverse_collectAll (ns : List (Node α)) :
    (walk Kept.visit .empty ns).items = (collectAll [] ns).reverse := by
  rw [walk_eq_foldr, collectAll_eq_foldr]
  exact List.foldr_rel (r := fun (k : Kept α) (acc : List α) => k.items = acc.reverse) rfl
    fun b _ _ _ hk => Kept.items_visit_eq_reverse_addNew hk b

/-- **Flattening is the recursive procedure.** The loop comes to an end on every sequence of trees, its stack
used up, and the items that it has kept by then are the accumulator of the procedure, reversed. -/
theorem flatten_eq_reverse_collectAll (ns : List (Node α)) :
    (∃ rounds kept, Pending.after Kept.visit rounds Kept.empty (Pending.start ns) = some (kept, []) ∧
        flatten ns = kept.items) ∧
      flatten ns = (collectAll [] ns).reverse :=
  ⟨⟨(Pending.start ns).work, walk Kept.visit .empty ns, Pending.after_work _ _ _, rfl⟩,
    items_walk_eq_reverse_collectAll ns⟩

/-- The last of equal items decides the place: `1` comes after `2`. -/
example : flatten [.item 1, .item 2, .item (1 : Nat)] = [2, 1] := by cbv

end Node

end BuildOrder
