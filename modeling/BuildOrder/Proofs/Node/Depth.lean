import Mathlib.Data.List.Perm.Basic
import Mathlib.Order.MinMax
import BuildOrder.Manifest.Basic

/-!
# Depth without recursion

`Node.depth` keeps the nodes that it has not looked at in a list, with the number of sequences around each, and the
greatest depth that it has met. Which of these nodes it looks at next does not matter. What has been met together
with what the pending nodes still reach, `Measurement.outcome`, is not changed by a step, whichever node is taken; it
is the height of the node in the beginning, and once nothing is pending it is what has been met. Every step takes one
node of the tree for good, so there are as many steps as the tree has nodes.

A step is a relation here, since it may take any pending node. The loop of `Node.depth` takes the first one, so it is
one of the runs, and what is shown of every run is true of it.
-/

namespace BuildOrder

universe u

variable {α : Type u}

namespace Node

/-- The greatest depth that is found below pending nodes. -/
def reach (pending : List (Node α × Nat)) : Nat :=
  (pending.map fun entry => entry.2 + entry.1.height).foldr max 0

theorem reach_cons (n : Node α) (level : Nat) (rest : List (Node α × Nat)) :
    reach ((n, level) :: rest) = max (level + n.height) (reach rest) := rfl

theorem reach_perm {pending pending' : List (Node α × Nat)} (h : pending.Perm pending') :
    reach pending = reach pending' :=
  (h.map _).foldr_eq 0

/-- The `level` on the left is that of the children's sequence, which is there also when it has no children. -/
private theorem max_reach_addPending (level : Nat) (cs : List (Node α)) (pending : List (Node α × Nat)) :
    max level (reach (addPending level cs pending)) = max (level + heightAll cs) (reach pending) := by
  induction cs generalizing pending with
  | nil => rfl
  | cons c cs ih =>
    -- on the left the first child counts as pending now, on the right still as a child
    rw [addPending, ih, reach_cons, heightAll]
    omega

theorem pendingSize_eq_foldr (pending : List (Node α × Nat)) :
    pendingSize pending = (pending.map fun entry => entry.1.size).foldr (· + ·) 0 := by
  induction pending with
  | nil => rfl
  | cons entry rest ih => rw [pendingSize, ih, List.map_cons, List.foldr_cons]

theorem pendingSize_perm {pending pending' : List (Node α × Nat)} (h : pending.Perm pending') :
    pendingSize pending = pendingSize pending' := by
  rw [pendingSize_eq_foldr, pendingSize_eq_foldr]
  exact (h.map _).foldr_eq 0

/-- A measurement of depth that is under way. -/
structure Measurement (α : Type u) where
  /-- The greatest depth met so far. -/
  met : Nat
  /-- The nodes that have not been looked at, each with the number of sequences around it. -/
  pending : List (Node α × Nat)

namespace Measurement

def start (n : Node α) : Measurement α := ⟨0, [(n, 0)]⟩

def outcome (m : Measurement α) : Nat := max m.met (reach m.pending)

theorem outcome_start (n : Node α) : (start n).outcome = n.height := by
  rw [outcome, start, reach_cons]
  simp [reach]

/-- A step looks at one pending node, whichever it is. The children of a sequence become pending. -/
inductive Step : Measurement α → Measurement α → Prop
  | item {met level : Nat} {pending rest : List (Node α × Nat)} {a : α}
      (htaken : pending.Perm ((.item a, level) :: rest)) : Step ⟨met, pending⟩ ⟨max met level, rest⟩
  | seq {met level : Nat} {pending rest : List (Node α × Nat)} {cs : List (Node α)}
      (htaken : pending.Perm ((.seq cs, level) :: rest)) :
      Step ⟨met, pending⟩ ⟨max met (level + 1), addPending (level + 1) cs rest⟩

/-- So many steps, one after the other. -/
inductive Steps : Nat → Measurement α → Measurement α → Prop
  | none (m : Measurement α) : Steps 0 m m
  | more {k : Nat} {m m' m'' : Measurement α} (hstep : Step m m') (hsteps : Steps k m' m'') : Steps (k + 1) m m''

variable {m m' : Measurement α} {k : Nat}

theorem exists_step (h : m.pending ≠ []) : ∃ m', Step m m' := by
  obtain ⟨met, pending⟩ := m
  cases pending with
  | nil => exact absurd rfl h
  | cons entry rest =>
    obtain ⟨n, level⟩ := entry
    cases n with
    | item a => exact ⟨_, .item (.refl _)⟩
    | seq cs => exact ⟨_, .seq (.refl _)⟩

theorem Step.pendingSize_succ (h : Step m m') : pendingSize m'.pending + 1 = pendingSize m.pending := by
  cases h with
  | item htaken =>
    rw [pendingSize_perm htaken, pendingSize, size, Nat.add_comm]
  | seq htaken =>
    rw [pendingSize_perm htaken, pendingSize, size, pendingSize_addPending]
    omega

/-- What is met in the end does not depend on the node that is taken. -/
theorem Step.outcome_eq (h : Step m m') : m'.outcome = m.outcome := by
  cases h with
  | @item met level pending rest a htaken =>
    have hreach : reach pending = max level (reach rest) := (reach_perm htaken).trans (reach_cons _ _ _)
    rw [outcome, outcome, hreach, max_assoc]
  | @seq met level pending rest cs htaken =>
    have hreach : reach pending = max (level + (heightAll cs + 1)) (reach rest) :=
      (reach_perm htaken).trans (reach_cons _ _ _)
    have hchildren := max_reach_addPending (level + 1) cs rest
    rw [outcome, outcome, hreach, max_assoc, hchildren, Nat.add_assoc, Nat.add_comm 1]

theorem Steps.pendingSize_add (h : Steps k m m') : pendingSize m'.pending + k = pendingSize m.pending := by
  induction h with
  | none m => rfl
  | more hstep _ ih =>
    have hone := hstep.pendingSize_succ
    omega

theorem Steps.outcome_eq (h : Steps k m m') : m'.outcome = m.outcome := by
  induction h with
  | none m => rfl
  | more hstep _ ih => rw [ih, hstep.outcome_eq]

/-- The loop that measures a depth is a run: it takes the first node every time. -/
theorem steps_deepest (met : Nat) (pending : List (Node α × Nat)) :
    Steps (pendingSize pending) ⟨met, pending⟩ ⟨deepest met pending, []⟩ := by
  fun_induction deepest met pending with
  | case1 met => exact .none _
  | case2 met a level rest ih =>
    have hstep : Step ⟨met, (.item a, level) :: rest⟩ ⟨max met level, rest⟩ := .item (.refl _)
    rw [← hstep.pendingSize_succ]
    exact .more hstep ih
  | case3 met cs level rest ih =>
    have hstep : Step ⟨met, (.seq cs, level) :: rest⟩ ⟨max met (level + 1), addPending (level + 1) cs rest⟩ :=
      .seq (.refl _)
    rw [← hstep.pendingSize_succ]
    exact .more hstep ih

end Measurement

theorem depth_eq_height (n : Node α) : n.depth = n.height := by
  have hrun := (Measurement.steps_deepest 0 [(n, 0)]).outcome_eq
  rw [← Measurement.outcome_start, Measurement.start, ← hrun]
  exact (Nat.max_zero _).symm

/-- **The depth of a node is its height, whichever pending node is looked at next.** A measurement that takes the
pending nodes in any order is over after as many steps as the node has nodes, has met the height of the node by then,
and goes on until then; the loop of `depth` is one such measurement. The number of leaves, of a node as of a
manifest, is the length of the list of leaves. -/
theorem depth_measured_in_any_order (n : Node α) :
    n.depth = n.height ∧
      Measurement.Steps n.size (.start n) ⟨n.depth, []⟩ ∧
      (∀ k m, Measurement.Steps k (.start n) m →
        k ≤ n.size ∧ (m.pending ≠ [] → ∃ m', m.Step m') ∧ (m.pending = [] → k = n.size ∧ m.met = n.height)) ∧
      n.leafCount = n.leaves.length ∧
      ∀ m : Manifest, m.leafCount = (leavesAll m.nodes).length := by
  refine ⟨n.depth_eq_height, Measurement.steps_deepest 0 [(n, 0)], fun k m hsteps => ?_, n.length_leaves.symm,
    fun m => (length_leavesAll m.nodes).symm⟩
  have hsize : pendingSize m.pending + k = n.size := hsteps.pendingSize_add
  have houtcome : m.outcome = n.height := hsteps.outcome_eq.trans (Measurement.outcome_start n)
  refine ⟨Nat.le_of_add_left_le (Nat.le_of_eq hsize), Measurement.exists_step, fun hover => ?_⟩
  rw [hover, pendingSize, Nat.zero_add] at hsize
  rw [Measurement.outcome, hover] at houtcome
  exact ⟨hsize, (Nat.max_zero _).symm.trans houtcome⟩

/-- Of `[7, []]` the item is looked at before the empty sequence, while the loop takes the empty sequence first. -/
theorem depth_measured_in_any_order_item_first :
    let n : Node Nat := .seq [.item 7, .seq []]
    let behindItem : Measurement Nat := ⟨1, [(.seq [], 1)]⟩
    Measurement.Steps 2 (.start n) behindItem ∧ (∃ m, behindItem.Step m) ∧
      Measurement.Steps 3 (.start n) ⟨2, []⟩ ∧ 3 = n.size ∧ 2 = n.height := by
  intro n behindItem
  have hroot : (Measurement.start n).Step ⟨1, [(.seq [], 1), (.item 7, 1)]⟩ := .seq (.refl _)
  have hitem : Measurement.Step ⟨1, [(.seq [], 1), (.item 7, 1)]⟩ behindItem := .item (.swap _ _ _)
  have hempty : behindItem.Step ⟨2, []⟩ := .seq (.refl _)
  have htwo : Measurement.Steps 2 (.start n) behindItem := .more hroot (.more hitem (.none _))
  have hthree : Measurement.Steps 3 (.start n) ⟨2, []⟩ := .more hroot (.more hitem (.more hempty (.none _)))
  obtain ⟨-, -, hruns, -⟩ := depth_measured_in_any_order n
  obtain ⟨-, hmore, -⟩ := hruns 2 _ htwo
  obtain ⟨-, -, hover⟩ := hruns 3 _ hthree
  exact ⟨htwo, hmore (List.cons_ne_nil _ _), hthree, hover rfl⟩

end Node

end BuildOrder
