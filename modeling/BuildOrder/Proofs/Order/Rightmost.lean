import Mathlib.Data.Fin.Basic
import Mathlib.Data.List.Sort
import Mathlib.Data.Finset.Max
import Mathlib.Data.Fintype.Basic
import BuildOrder.Number.Binary64
import BuildOrder.Proofs.Order.Unrepeated

/-!
# The rightmost occurrence decides

Where equality is transitive, the build order is read off the leaves without running anything: it consists of the
leaves that no leaf further right equals, in their order. The walk compares a leaf with the kept items only, and
transitivity makes up for the rest, because a dropped leaf is equalled by a kept one.

If equality is an equivalence, its classes are what an order is about. Each class that occurs among the leaves has
one item in the order, and this is its rightmost leaf itself. Two classes stand in the order as their rightmost
leaves do in the tree.
-/

namespace BuildOrder

universe u

variable {α : Type u} [BEq α]

/-! ### Places that nothing further right repeats -/

/-- No item further right equals the one at place `i`, the one further right standing on the left. -/
def IsRightmost (xs : List α) (i : Fin xs.length) : Prop := ∀ j, i < j → (xs.get j == xs.get i) = false

instance (xs : List α) : DecidablePred (IsRightmost xs) :=
  fun i => inferInstanceAs (Decidable (∀ j, i < j → (xs.get j == xs.get i) = false))

/-- The places of a list whose item nothing further right equals, from left to right. -/
def rightmostPlaces (xs : List α) : List (Fin xs.length) :=
  (List.finRange xs.length).filter fun i => IsRightmost xs i

/-- The items of a list that nothing further right equals, from left to right. -/
def rightmosts (xs : List α) : List α := (rightmostPlaces xs).map xs.get

private theorem isRightmost_zero_iff {x : α} {xs : List α} :
    IsRightmost (x :: xs) (0 : Fin (xs.length + 1)) ↔ ∀ y ∈ xs, (y == x) = false := by
  constructor
  · intro hlast y hy
    obtain ⟨j, rfl⟩ := List.get_of_mem hy
    exact hlast j.succ (Fin.succ_pos j)
  · intro hall j hj
    obtain ⟨j, rfl⟩ := Fin.exists_succ_eq.mpr hj.ne'
    exact hall _ (List.get_mem xs j)

private theorem isRightmost_succ_iff {x : α} {xs : List α} {i : Fin xs.length} :
    IsRightmost (x :: xs) i.succ ↔ IsRightmost xs i := by
  constructor
  · intro hlast j hij
    exact hlast j.succ (Fin.succ_lt_succ_iff.mpr hij)
  · intro hlast j hij
    obtain ⟨j, rfl⟩ := Fin.exists_succ_eq.mpr (Fin.ne_zero_of_lt hij)
    exact hlast j (Fin.succ_lt_succ_iff.mp hij)

theorem rightmostPlaces_cons (x : α) (xs : List α) :
    rightmostPlaces (x :: xs) =
      if ∀ y ∈ xs, (y == x) = false then 0 :: (rightmostPlaces xs).map Fin.succ
      else (rightmostPlaces xs).map Fin.succ := by
  change (List.finRange (xs.length + 1)).filter _ = _
  have htail : ((List.finRange xs.length).map Fin.succ).filter (fun i => decide (IsRightmost (x :: xs) i))
      = (rightmostPlaces xs).map Fin.succ := by
    rw [List.filter_map, rightmostPlaces]
    congr 2
    funext i
    exact decide_eq_decide.mpr isRightmost_succ_iff
  rw [List.finRange_succ, List.filter_cons, htail]
  simp only [decide_eq_true_eq, isRightmost_zero_iff]

theorem rightmosts_cons (x : α) (xs : List α) :
    rightmosts (x :: xs) = if ∀ y ∈ xs, (y == x) = false then x :: rightmosts xs else rightmosts xs := by
  rw [rightmosts, rightmostPlaces_cons]
  split <;> simp [rightmosts, Function.comp_def]

theorem pairwise_rightmostPlaces (xs : List α) : (rightmostPlaces xs).Pairwise (· < ·) :=
  (List.pairwise_lt_finRange xs.length).filter _

theorem mem_rightmostPlaces {xs : List α} {i : Fin xs.length} : i ∈ rightmostPlaces xs ↔ IsRightmost xs i := by
  simp [rightmostPlaces]

theorem idxOf_rightmostPlaces_lt_iff {xs : List α} {i j : Fin xs.length} (hi : IsRightmost xs i)
    (hj : IsRightmost xs j) : (rightmostPlaces xs).idxOf i < (rightmostPlaces xs).idxOf j ↔ i < j := by
  have hmono : StrictMono (rightmostPlaces xs).get :=
    List.sortedLT_iff_strictMono_get.mp (List.sortedLT_iff_pairwise.mpr (pairwise_rightmostPlaces xs))
  have hilt := List.idxOf_lt_length_of_mem (mem_rightmostPlaces.mpr hi)
  have hjlt := List.idxOf_lt_length_of_mem (mem_rightmostPlaces.mpr hj)
  have higet : (rightmostPlaces xs).get ⟨_, hilt⟩ = i := List.getElem_idxOf hilt
  have hjget : (rightmostPlaces xs).get ⟨_, hjlt⟩ = j := List.getElem_idxOf hjlt
  have hplaces := hmono.lt_iff_lt (a := ⟨_, hilt⟩) (b := ⟨_, hjlt⟩)
  rw [higet, hjget, Fin.mk_lt_mk] at hplaces
  exact hplaces.symm

/-! ### Transitive equality -/

theorem pwFilter_eq_rightmosts (htrans : ∀ a b c : α, a == b → b == c → a == c) (xs : List α) :
    (xs.pwFilter fun a b => (b == a) = false) = rightmosts xs := by
  -- If `b` equals `a` and was dropped because of `c`, then `c` equals `a`.
  have hneg : ∀ {a b c : α}, (c == a) = false → (b == a) = false ∨ (c == b) = false := by
    intro a b c hca
    by_contra hne
    simp only [not_or, Bool.not_eq_false] at hne
    rw [htrans c b a hne.2 hne.1] at hca
    exact Bool.noConfusion hca
  induction xs with
  | nil => rfl
  | cons x xs ih =>
    have hall := List.forall_mem_pwFilter (R := fun a b : α => (b == a) = false) hneg x xs
    rw [rightmosts_cons]
    split
    · next hlast => rw [List.pwFilter_cons_of_pos (hall.mpr hlast), ih]
    · next hlast => rw [List.pwFilter_cons_of_neg (mt hall.mp hlast), ih]

/-! ### Classes -/

/-- The place `i` holds the rightmost of the items that equal `x`. -/
def RightmostOf (xs : List α) (x : α) (i : Fin xs.length) : Prop :=
  xs.get i == x ∧ ∀ j, i < j → (xs.get j == x) = false

theorem exists_rightmostOf {xs : List α} {x : α} (hx : ∃ y ∈ xs, y == x) : ∃ i, RightmostOf xs x i := by
  obtain ⟨y, hy, hyx⟩ := hx
  obtain ⟨k, rfl⟩ := List.get_of_mem hy
  obtain ⟨i, hi, hmax⟩ := (Finset.univ.filter fun i : Fin xs.length => xs.get i == x).exists_max_image id
    ⟨k, Finset.mem_filter.mpr ⟨Finset.mem_univ k, hyx⟩⟩
  refine ⟨i, (Finset.mem_filter.mp hi).2, fun j hij => Bool.eq_false_iff.mpr fun hjx => ?_⟩
  exact absurd (hmax j (Finset.mem_filter.mpr ⟨Finset.mem_univ j, hjx⟩)) (not_le.mpr hij)

theorem RightmostOf.unique {xs : List α} {x : α} {i j : Fin xs.length} (hi : RightmostOf xs x i)
    (hj : RightmostOf xs x j) : i = j := by
  rcases lt_trichotomy i j with hij | heq | hji
  · exact absurd hj.1 (Bool.eq_false_iff.mp (hi.2 j hij))
  · exact heq
  · exact absurd hi.1 (Bool.eq_false_iff.mp (hj.2 i hji))

section Equivalence

variable [EquivBEq α] {xs : List α} {x y : α} {i j : Fin xs.length}

theorem rightmostOf_iff : RightmostOf xs x i ↔ xs.get i == x ∧ IsRightmost xs i := by
  refine and_congr_right fun hix => forall₂_congr fun j _ => ?_
  rw [BEq.congr_right hix]

theorem RightmostOf.isRightmost (h : RightmostOf xs x i) : IsRightmost xs i := (rightmostOf_iff.mp h).2

/-- Of the places that nothing further right repeats, one holds an item of a given class. -/
theorem RightmostOf.beq_get_eq (h : RightmostOf xs x i) (hj : IsRightmost xs j) :
    (xs.get j == x) = (j == i) := by
  rw [Bool.eq_iff_iff]
  constructor
  · intro hjx
    exact beq_iff_eq.mpr ((rightmostOf_iff.mpr ⟨hjx, hj⟩).unique h)
  · intro hji
    rw [beq_iff_eq.mp hji]
    exact h.1

/-- The items that are their own rightmost occurrence hold each class once. -/
theorem RightmostOf.filter_rightmosts (h : RightmostOf xs x i) :
    (rightmosts xs).filter (· == x) = [xs.get i] := by
  have hplaces : (rightmostPlaces xs).filter ((· == x) ∘ xs.get) = (rightmostPlaces xs).filter (· == i) :=
    List.filter_congr fun j hj => h.beq_get_eq (mem_rightmostPlaces.mp hj)
  have hnodup : (rightmostPlaces xs).Nodup := (pairwise_rightmostPlaces xs).imp Fin.ne_of_lt
  rw [rightmosts, List.filter_map, hplaces, List.filter_beq,
    List.count_eq_one_of_mem hnodup (mem_rightmostPlaces.mpr h.isRightmost)]
  rfl

theorem RightmostOf.findIdx_rightmosts (h : RightmostOf xs x i) :
    (rightmosts xs).findIdx (· == x) = (rightmostPlaces xs).idxOf i := by
  have hplace : ∀ j ∈ rightmostPlaces xs, (xs.get j == x) = (j == i) :=
    fun j hj => h.beq_get_eq (mem_rightmostPlaces.mp hj)
  rw [rightmosts, List.findIdx_map, List.idxOf]
  apply le_antisymm
  · exact List.findIdx_le_findIdx fun j hj hji => (hplace j hj).trans hji
  · exact List.findIdx_le_findIdx fun j hj hjx => (hplace j hj).symm.trans hjx

theorem RightmostOf.findIdx_lt_iff (hx : RightmostOf xs x i) (hy : RightmostOf xs y j) :
    (rightmosts xs).findIdx (· == x) < (rightmosts xs).findIdx (· == y) ↔ i < j := by
  rw [hx.findIdx_rightmosts, hy.findIdx_rightmosts]
  exact idxOf_rightmostPlaces_lt_iff hx.isRightmost hy.isRightmost

end Equivalence

namespace Node

theorem flatten_eq_rightmosts (htrans : ∀ a b c : α, a == b → b == c → a == c) (ns : List (Node α)) :
    flatten ns = rightmosts (leavesAll ns) := by
  rw [flatten_eq_pwFilter, pwFilter_eq_rightmosts htrans]

/-- **The rightmost occurrence decides.** Under a transitive equality the order consists of the leaves that no
leaf further right equals. Under an equivalence, every class that occurs among the leaves has exactly one item in
the order, its rightmost leaf, and the classes stand in the order as their rightmost leaves do in the tree. -/
theorem flatten_keeps_rightmost (htrans : ∀ a b c : α, a == b → b == c → a == c) (ns : List (Node α)) :
    flatten ns = rightmosts (leavesAll ns) ∧
      (EquivBEq α →
        (∀ x ∈ leavesAll ns, ∃ i, RightmostOf (leavesAll ns) x i ∧
            (flatten ns).filter (· == x) = [(leavesAll ns).get i]) ∧
          ∀ x y i j, RightmostOf (leavesAll ns) x i → RightmostOf (leavesAll ns) y j →
            ((flatten ns).findIdx (· == x) < (flatten ns).findIdx (· == y) ↔ i < j)) := by
  have horder := flatten_eq_rightmosts htrans ns
  refine ⟨horder, fun _ => ⟨fun x hx => ?_, fun x y i j hi hj => ?_⟩⟩
  · obtain ⟨i, hi⟩ := exists_rightmostOf ⟨x, hx, BEq.refl x⟩
    exact ⟨i, hi, horder ▸ hi.filter_rightmosts⟩
  · rw [horder]
    exact hi.findIdx_lt_iff hj

/-- The two zeros are equal, so of `0, [least, -0]` the order keeps the least number and the negative zero. -/
theorem flatten_keeps_rightmost_zero :
    let least : Finite64 := ⟨false, 1, by decide⟩
    let tree : List (Node Finite64) := [.item .zero, .seq [.item least, .item Finite64.zero.neg]]
    (∀ a b c : Finite64, a == b → b == c → a == c) ∧
      flatten tree = [least, Finite64.zero.neg] ∧
      (flatten tree).filter (· == Finite64.zero) = [Finite64.zero.neg] ∧
      (flatten tree).findIdx (· == least) < (flatten tree).findIdx (· == Finite64.zero) := by
  intro least tree
  have htrans : ∀ a b c : Finite64, a == b → b == c → a == c := fun _ _ _ => BEq.trans
  obtain ⟨horder, hclasses⟩ := flatten_keeps_rightmost htrans tree
  obtain ⟨hclass, hplaces⟩ := hclasses inferInstance
  have hleast : RightmostOf (leavesAll tree) least (1 : Fin 3) := ⟨by decide, by decide⟩
  have hzero : RightmostOf (leavesAll tree) Finite64.zero (2 : Fin 3) := ⟨by decide, by decide⟩
  refine ⟨htrans, horder.trans (by decide), ?_, (hplaces _ _ _ _ hleast hzero).mpr (by decide)⟩
  obtain ⟨i, hi, hfilter⟩ := hclass Finite64.zero (List.mem_cons_self ..)
  rw [hfilter, hi.unique hzero]
  rfl

end Node

end BuildOrder
