import Mathlib.Data.List.Pairwise
import BuildOrder.Order.Flatten
import BuildOrder.Proofs.Walk

/-!
# Orders without repetitions

A build order never repeats itself: no item equals an earlier one, the later item standing on the left of the
test. This holds for every equality test, because an item is kept only after it has been compared, in this
direction, with all that were kept before it and now follow it.

`flatten_eq_pwFilter` says the same of the whole order. From the right, each leaf is put in front unless the order
made so far would repeat it, and this is what `List.pwFilter` does. A flat list that repeats nothing passes
unchanged, so the orders are the fixed points of flattening.
-/

namespace BuildOrder

universe u

variable {α : Type u} [BEq α]

/-- No item equals an earlier one. -/
def Unrepeated (xs : List α) : Prop := ∀ i j : Fin xs.length, i < j → (xs[j] == xs[i]) = false

theorem unrepeated_iff_pairwise {xs : List α} : Unrepeated xs ↔ xs.Pairwise fun a b => (b == a) = false := by
  rw [Unrepeated, List.pairwise_iff_get]
  rfl

theorem Kept.covers_eq_false_iff {k : Kept α} {b : α} :
    k.covers b = false ↔ ∀ a ∈ k.items, (a == b) = false := by
  rw [Kept.covers, List.any_eq_false]
  simp

namespace Node

/-- The order is the list of leaves, each put in front from the right unless it would be repeated. -/
theorem flatten_eq_pwFilter (ns : List (Node α)) :
    flatten ns = (leavesAll ns).pwFilter fun a b => (b == a) = false := by
  change (walk Kept.visit .empty ns).items = _
  rw [walk_eq_foldr]
  induction leavesAll ns with
  | nil => rfl
  | cons b leaves ih =>
    rw [List.foldr_cons, Kept.items_visit]
    by_cases hcovers : (leaves.foldr (fun a k => Kept.visit k a) .empty).covers b
    · rw [if_pos hcovers, ih, List.pwFilter_cons_of_neg]
      rw [← ih, ← Kept.covers_eq_false_iff, hcovers]
      exact Bool.noConfusion
    · rw [if_neg hcovers, ih, List.pwFilter_cons_of_pos]
      rw [← ih]
      exact Kept.covers_eq_false_iff.mp (Bool.eq_false_iff.mpr hcovers)

theorem flatten_items (xs : List α) : flatten (items xs) = xs.pwFilter fun a b => (b == a) = false := by
  rw [flatten_eq_pwFilter, leavesAll_items]

theorem unrepeated_flatten (ns : List (Node α)) : Unrepeated (flatten ns) := by
  rw [unrepeated_iff_pairwise, flatten_eq_pwFilter]
  exact List.pairwise_pwFilter _

theorem flatten_items_eq_self_iff {xs : List α} : flatten (items xs) = xs ↔ Unrepeated xs := by
  rw [flatten_items, List.pwFilter_eq_self, unrepeated_iff_pairwise]

/-- **The orders are the fixed points of flattening, and they are the lists that repeat nothing.** The equality
test is arbitrary. -/
theorem flatten_fixed_iff_unrepeated :
    (∀ ns : List (Node α), Unrepeated (flatten ns)) ∧
      (∀ xs : List α, flatten (items xs) = xs ↔ Unrepeated xs) ∧
      (∀ ns : List (Node α), flatten (items (flatten ns)) = flatten ns) ∧
      ∀ xs : List α, (∃ ns : List (Node α), flatten ns = xs) ↔ flatten (items xs) = xs := by
  refine ⟨unrepeated_flatten, fun _ => flatten_items_eq_self_iff, fun ns => ?_, fun xs => ⟨?_, ?_⟩⟩
  · exact flatten_items_eq_self_iff.mpr (unrepeated_flatten ns)
  · rintro ⟨ns, rfl⟩
    exact flatten_items_eq_self_iff.mpr (unrepeated_flatten ns)
  · intro hfixed
    exact ⟨items xs, hfixed⟩

end Node

end BuildOrder
