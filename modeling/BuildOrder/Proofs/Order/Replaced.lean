import BuildOrder.Proofs.Order.Unrepeated

/-!
# Replacing the items

Flattening looks at items through the equality test only. So it does not matter whether items are replaced before or
after, as long as the replacements are equal exactly where the items are. Nothing else is asked of the two tests,
and nothing at all about items that are not in the tree.
-/

namespace BuildOrder

universe u v

private theorem pwFilter_congr {α : Type u} {R S : α → α → Prop} [DecidableRel R] [DecidableRel S] {xs : List α}
    (h : ∀ a ∈ xs, ∀ b ∈ xs, R a b ↔ S a b) : xs.pwFilter R = xs.pwFilter S := by
  induction xs with
  | nil => rfl
  | cons x xs ih =>
    have hrest : xs.pwFilter R = xs.pwFilter S :=
      ih fun a ha b hb => h a (List.mem_cons_of_mem x ha) b (List.mem_cons_of_mem x hb)
    have hfirst : (∀ b ∈ xs.pwFilter R, R x b) ↔ ∀ b ∈ xs.pwFilter S, S x b := by
      rw [hrest]
      refine forall₂_congr fun b hb => h x (List.mem_cons_self ..) b (List.mem_cons_of_mem x ?_)
      exact List.pwFilter_subset xs hb
    by_cases hkeep : ∀ b ∈ xs.pwFilter R, R x b
    · rw [List.pwFilter_cons_of_pos hkeep, List.pwFilter_cons_of_pos (hfirst.mp hkeep), hrest]
    · rw [List.pwFilter_cons_of_neg hkeep, List.pwFilter_cons_of_neg (mt hfirst.mpr hkeep), hrest]

namespace Node

variable {α : Type u} {β : Type v}

mutual

theorem leaves_map (f : α → β) : ∀ n : Node α, (n.map f).leaves = n.leaves.map f
  | .item _ => rfl
  | .seq cs => by rw [map, leaves, leaves, leavesAll_mapAll f cs]

theorem leavesAll_mapAll (f : α → β) : ∀ ns : List (Node α), leavesAll (mapAll f ns) = (leavesAll ns).map f
  | [] => rfl
  | n :: ns => by rw [mapAll, leavesAll, leavesAll, List.map_append, leaves_map f n, leavesAll_mapAll f ns]

end

/-- Items may be replaced after flattening if the replacements are equal exactly where the items are. -/
theorem flatten_mapAll [BEq α] [BEq β] {f : α → β} {ns : List (Node α)}
    (h : ∀ a ∈ leavesAll ns, ∀ b ∈ leavesAll ns, (f a == f b) = (a == b)) :
    flatten (mapAll f ns) = (flatten ns).map f := by
  rw [flatten_eq_pwFilter, flatten_eq_pwFilter, leavesAll_mapAll, List.pwFilter_map]
  refine congrArg (List.map f) (pwFilter_congr fun a ha b hb => ?_)
  rw [h b hb a ha]

end Node

end BuildOrder
