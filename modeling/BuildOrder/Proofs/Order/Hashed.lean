import BuildOrder.Log.Event
import BuildOrder.Number.Binary64
import BuildOrder.Proofs.Walk

/-!
# Flattening with a hash set

The hash set is a second account of what has been kept. As long as it says the same as the scan, a visit that asks
the set does what a visit that scans does, and leaves both accounts in step. So the two walks agree after every
round, whatever the tree is: they keep and drop the same leaves, and they report the same numbers.

What is needed of the items is that equality is an equivalence and that equal items have equal hashes. Equality
may be coarser than identity, which matters for the representatives: the set never replaces one.
-/

namespace BuildOrder

universe u

variable {α : Type u} [BEq α] [Hashable α]

namespace KeptHashed

/-- The set holds what the scan would find. -/
def InStep (k : KeptHashed α) : Prop := ∀ b, k.seen.contains b = k.kept.covers b

theorem inStep_empty : InStep (empty : KeptHashed α) := fun _ => Std.HashSet.contains_empty

theorem kept_visit {k : KeptHashed α} (hk : k.InStep) (b : α) : (k.visit b).kept = k.kept.visit b := by
  rw [visit, Kept.visit, hk b]
  split <;> rfl

variable [EquivBEq α] [LawfulHashable α]

theorem inStep_visit {k : KeptHashed α} (hk : k.InStep) (b : α) : (k.visit b).InStep := by
  intro c
  rw [visit]
  split
  · exact hk c
  · change (k.seen.insert b).contains c = (k.kept.keep b).covers c
    rw [Std.HashSet.contains_insert, hk c]
    rfl

/-- After every number of rounds the two walks have the same stack, and the same kept and dropped items. -/
theorem after_map_kept (rounds : Nat) (stack : Pending α) :
    (Pending.after visit rounds empty stack).map (Prod.map kept id)
      = Pending.after Kept.visit rounds .empty stack :=
  Pending.after_map_of_agree Pending.step_id (fun _ b hk => inStep_visit hk b)
    (fun (k : KeptHashed α) b (hk : k.InStep) => kept_visit hk b) rounds empty stack inStep_empty

end KeptHashed

namespace Node

variable [EquivBEq α] [LawfulHashable α]

theorem kept_walk_visit (ns : List (Node α)) :
    (walk KeptHashed.visit .empty ns).kept = walk Kept.visit .empty ns := by
  have hagree := KeptHashed.after_map_kept (Pending.start ns).work (Pending.start ns)
  rw [Pending.after_work, Pending.after_work] at hagree
  exact congrArg Prod.fst (Option.some.inj hagree)

theorem flattenedHashed_eq_flattened (ns : List (Node α)) : flattenedHashed ns = flattened ns := by
  rw [flattenedHashed, flattened, kept_walk_visit]

/-- **Asking a hash set makes no difference.** The two ways to flatten agree after every round; in the end they
have the same order and have dropped the same leaves, and but for its title each event reports the same numbers. -/
theorem flattenHashed_eq_flatten (ns : List (Node α)) :
    (∀ rounds, (Pending.after KeptHashed.visit rounds .empty (Pending.start ns)).map (Prod.map KeptHashed.kept id)
        = Pending.after Kept.visit rounds .empty (Pending.start ns)) ∧
      flattenHashed ns = flatten ns ∧
      (flattenedHashed ns).skips = (flattened ns).skips ∧
      (flattenedHashed ns).unique = (flattened ns).unique ∧
      (flattenedHashed ns).duplicates = (flattened ns).duplicates ∧
      (flattenHashedLogged ns).events.map Event.fields = (flattenLogged ns).events.map Event.fields := by
  have hsame := flattenedHashed_eq_flattened ns
  refine ⟨fun rounds => KeptHashed.after_map_kept rounds _, ?_, ?_, ?_, ?_, ?_⟩
  · rw [flattenHashed, flatten, hsame]
  · rw [hsame]
  · rw [hsame]
  · rw [hsame]
  · simp [flattenHashedLogged, flattenLogged, Flattened.logged, Flattened.events, hsame]

/-- Numbers that are hashed by their rank. The two zeros are equal, so of `0, [least, -0], 0` the last zero is
kept, and the others are dropped when one and two items have been kept. -/
theorem flattenHashed_eq_flatten_zeros :
    let byRank : Hashable Finite64 := ⟨fun x => hash x.rank⟩
    let least : Finite64 := ⟨false, 1, by decide⟩
    let tree : List (Node Finite64) :=
      [.item .zero, .seq [.item least, .item Finite64.zero.neg], .item .zero]
    EquivBEq Finite64 ∧ LawfulHashable Finite64 ∧
      flattenHashed tree = flatten tree ∧ (flattenedHashed tree).skips = [1, 2] := by
  intro byRank least tree
  have hlawful : LawfulHashable Finite64 :=
    ⟨fun _ _ hxy => congrArg (fun rank : Nat => hash rank) (Finite64.beq_iff.mp hxy).1⟩
  obtain ⟨_, horder, hskips, _⟩ := flattenHashed_eq_flatten tree
  refine ⟨inferInstance, hlawful, horder, hskips.trans ?_⟩
  rw [flattened, walk_eq_foldr]
  decide

end Node

end BuildOrder
