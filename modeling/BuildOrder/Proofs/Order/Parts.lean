import BuildOrder.Proofs.Order.Rightmost

/-!
# Flattening part by part

Under a transitive equality the order of a sequence is made from the orders of its parts. What stands on the right
is taken as it is, and of what stands on the left the items that the right-hand order does not repeat. An item that
is dropped on the right cannot be missed there: whatever it would have covered, the item that covers it covers too.

So two sequences with the same order can stand for each other, however deep inside a larger one they are. This is
why a nested sequence may be flattened ahead of the rest, or written out in place.
-/

namespace BuildOrder

universe u

variable {α : Type u}

section Rightmosts

variable [BEq α]

theorem rightmosts_append (xs ys : List α) :
    rightmosts (xs ++ ys) = (rightmosts xs).filter (fun x => ∀ y ∈ ys, (y == x) = false) ++ rightmosts ys := by
  induction xs with
  | nil => rfl
  | cons x xs ih =>
    rw [List.cons_append, rightmosts_cons, rightmosts_cons, ih]
    by_cases hxs : ∀ y ∈ xs, (y == x) = false
    · by_cases hys : ∀ y ∈ ys, (y == x) = false
      · rw [if_pos (List.forall_mem_append.mpr ⟨hxs, hys⟩), if_pos hxs,
          List.filter_cons_of_pos (by simpa using hys), List.cons_append]
      · rw [if_neg (fun h => hys (List.forall_mem_append.mp h).2), if_pos hxs,
          List.filter_cons_of_neg (by simpa using hys)]
    · rw [if_neg (fun h => hxs (List.forall_mem_append.mp h).1), if_neg hxs]

private theorem forall_mem_rightmosts_iff (htrans : ∀ a b c : α, a == b → b == c → a == c) {x : α} (ys : List α) :
    (∀ y ∈ rightmosts ys, (y == x) = false) ↔ ∀ y ∈ ys, (y == x) = false := by
  induction ys with
  | nil => rfl
  | cons z ys ih =>
    rw [rightmosts_cons]
    split
    · rw [List.forall_mem_cons, List.forall_mem_cons, ih]
    · next hrepeated =>
      rw [List.forall_mem_cons, ih, iff_and_self]
      intro hall
      -- `z` is not kept, so some `y` further right equals it, and would equal `x` if `z` did.
      push Not at hrepeated
      obtain ⟨y, hy, hyz⟩ := hrepeated
      rw [Bool.eq_false_iff]
      intro hzx
      exact Bool.eq_false_iff.mp (hall y hy) (htrans y z x (Bool.eq_true_of_not_eq_false hyz) hzx)

end Rightmosts

namespace Node

/-! ### Places -/

/-- A place among the elements of a nested sequence: between elements of the sequence itself, or inside an
element that is a sequence. -/
inductive Place (α : Type u) where
  | between (before after : List (Node α))
  | inside (before : List (Node α)) (place : Place α) (after : List (Node α))

/-- The nested sequence with elements put into a place. -/
def Place.fill : Place α → List (Node α) → List (Node α)
  | .between before after, ns => before ++ ns ++ after
  | .inside before place after, ns => before ++ .seq (place.fill ns) :: after

/-! ### Orders of parts -/

variable [BEq α]

theorem flatten_singleton_seq (ns : List (Node α)) : flatten [.seq ns] = flatten ns := by
  rw [flatten_eq_pwFilter, flatten_eq_pwFilter]
  congr 1
  exact List.append_nil _

section Transitive

variable (htrans : ∀ a b c : α, a == b → b == c → a == c)

include htrans

theorem flatten_append (as bs : List (Node α)) :
    flatten (as ++ bs) =
      (flatten as).filter (fun x => ∀ y ∈ flatten bs, (y == x) = false) ++ flatten bs := by
  have hleaves : leavesAll (as ++ bs) = leavesAll as ++ leavesAll bs := by simp
  simp only [flatten_eq_rightmosts htrans, hleaves, rightmosts_append, forall_mem_rightmosts_iff htrans]

theorem flatten_fill_congr {ns ms : List (Node α)} (hsame : flatten ns = flatten ms) (p : Place α) :
    flatten (p.fill ns) = flatten (p.fill ms) := by
  induction p with
  | between before after =>
    rw [Place.fill, Place.fill]
    simp only [flatten_append htrans, hsame]
  | inside before place after ih =>
    have hsplit : ∀ ks : List (Node α), (Place.inside before place after).fill ks
        = before ++ ([.seq (place.fill ks)] ++ after) := fun _ => rfl
    simp only [hsplit, flatten_append htrans, flatten_singleton_seq, ih]

/-- **An order is made from the orders of its parts.** The order of two sequences behind one another is that of the
second, behind the items of the first that it does not repeat. And wherever a nested sequence stands, its order may
stand there as a flat sequence, and so may its elements without the brackets. -/
theorem flatten_by_parts :
    (∀ as bs : List (Node α),
        flatten (as ++ bs) = (flatten as).filter (fun x => ∀ y ∈ flatten bs, (y == x) = false) ++ flatten bs) ∧
      ∀ (p : Place α) (ns : List (Node α)),
        flatten (p.fill [seqOf (flatten ns)]) = flatten (p.fill [.seq ns]) ∧
          flatten (p.fill ns) = flatten (p.fill [.seq ns]) := by
  refine ⟨flatten_append htrans, fun p ns => ⟨?_, ?_⟩⟩
  · apply flatten_fill_congr htrans
    rw [seqOf, flatten_singleton_seq, flatten_singleton_seq]
    exact flatten_items_eq_self_iff.mpr (unrepeated_flatten ns)
  · exact flatten_fill_congr htrans (flatten_singleton_seq ns).symm p

end Transitive

/-- What is no number equals nothing, so it is never dropped. Of `nan, 0, [nan, [-0, least]], least` the order keeps
both, and the negative zero; it stays the same if the inner sequence is replaced by its order, or written out. -/
theorem flatten_by_parts_nan :
    let zero : Binary64 := .finite .zero
    let least : Binary64 := .finite ⟨false, 1, by decide⟩
    let nested : List (Node Binary64) := [.item .nan, .seq [.item (.finite Finite64.zero.neg), .item least]]
    let place : Place Binary64 := .inside [.item .nan] (.between [.item zero] []) [.item least]
    (∀ a b c : Binary64, a == b → b == c → a == c) ∧
      flatten (place.fill [.seq nested]) = [.nan, .nan, .finite Finite64.zero.neg, least] ∧
      flatten (place.fill [seqOf (flatten nested)]) = flatten (place.fill [.seq nested]) ∧
      flatten (place.fill nested) = flatten (place.fill [.seq nested]) ∧
      flatten (nested ++ [.item zero]) = [.nan, least, zero] := by
  intro zero least nested place
  have htrans : ∀ a b c : Binary64, a == b → b == c → a == c := fun _ _ _ => BEq.trans
  obtain ⟨happend, hplace⟩ := flatten_by_parts htrans
  refine ⟨htrans, ?_, (hplace place nested).1, (hplace place nested).2, ?_⟩
  · rw [flatten_eq_pwFilter]
    decide
  · rw [happend, flatten_eq_pwFilter, flatten_eq_pwFilter]
    decide

end Node

end BuildOrder
