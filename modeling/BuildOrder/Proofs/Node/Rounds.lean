import BuildOrder.Proofs.Node.Depth
import BuildOrder.Proofs.Walk

/-!
# The rounds of a walk

How long a walk takes and how much it keeps is settled by the shape of the sequence alone, whatever is done at the
items. `Pending.work` counts the rounds. The height of the stack goes up and down; what only goes down is
`Pending.peak`, the greatest height still to come. An entered sequence adds one for itself and one for every level that
is nested in what is left of it, so the peak of a walk is the depth of what it walks over. A round takes the present
height out of the peak and nothing else: the stack never stands higher than its peak, and it gets there.
-/

namespace BuildOrder

universe u v

variable {α : Type u} {σ : Type v}

namespace Node

theorem heightAll_append (ms ns : List (Node α)) : heightAll (ms ++ ns) = max (heightAll ms) (heightAll ns) := by
  induction ms with
  | nil => exact (Nat.zero_max _).symm
  | cons m ms ih => rw [List.cons_append, heightAll, heightAll, ih, max_assoc]

theorem heightAll_reverse (ns : List (Node α)) : heightAll ns.reverse = heightAll ns := by
  induction ns with
  | nil => rfl
  | cons n ns ih =>
    rw [List.reverse_cons, heightAll_append, ih, heightAll, heightAll, heightAll, Nat.max_zero, max_comm]

end Node

namespace Pending

/-- The greatest height that the stack has from now on. -/
def peak : Pending α → Nat
  | [] => 0
  | level :: stack => max (stack.length + 1 + Node.heightAll level) (peak stack)

theorem peak_start (ns : List (Node α)) : (start ns).peak = Node.depth (.seq ns) := by
  rw [Node.depth_eq_height, start, peak, peak, Node.heightAll_reverse, Node.height, Nat.max_zero, List.length_nil]
  omega

theorem peak_of_step_eq_some {stack : Pending α} {round : Round α} (hstep : stack.step = some round) :
    stack.peak = max stack.length round.next.peak := by
  rcases stack with _ | ⟨_ | ⟨n, rest⟩, stack⟩
  · simp [step] at hstep
  · obtain rfl := Option.some.inj hstep
    rfl
  · cases n with
    | item a =>
      obtain rfl := Option.some.inj hstep
      simp only [peak, Round.next, Node.heightAll, Node.height, List.length_cons]
      omega
    | seq cs =>
      obtain rfl := Option.some.inj hstep
      simp only [peak, Round.next, Node.heightAll, Node.height, Node.heightAll_reverse, List.length_cons]
      omega

theorem length_le_peak (stack : Pending α) : stack.length ≤ stack.peak := by
  cases hstep : stack.step with
  | none =>
    rw [eq_nil_of_step_eq_none hstep]
    exact Nat.le_refl 0
  | some round =>
    rw [peak_of_step_eq_some hstep]
    exact Nat.le_max_left _ _

/-! ### What a number of rounds comes to -/

variable {visit : σ → α → σ} {n : Nat} {s s' : σ} {stack stack' : Pending α}

/-- The visits made so far and those still to come are the visits of the walk. -/
theorem exists_visited_of_after (h : after visit n s stack = some (s', stack')) :
    ∃ visited, s' = visited.foldl visit s ∧ visited ++ stack'.upcoming = stack.upcoming := by
  refine invariant_after (fun made left =>
    ∃ visited, made = visited.foldl visit s ∧ visited ++ left.upcoming = stack.upcoming) ?_ h ⟨[], rfl, rfl⟩
  rintro made left round hstep ⟨visited, rfl, hvisits⟩
  refine ⟨visited ++ round.items, List.foldl_append.symm, ?_⟩
  rw [List.append_assoc, ← upcoming_of_step_eq_some hstep, hvisits]

theorem peak_le_of_after (h : after visit n s stack = some (s', stack')) : stack'.peak ≤ stack.peak := by
  refine invariant_after (fun _ left => left.peak ≤ stack.peak) ?_ h (Nat.le_refl _)
  intro made left round hstep hpeak
  rw [peak_of_step_eq_some hstep] at hpeak
  exact Nat.le_trans (Nat.le_max_right _ _) hpeak

/-- The stack gets to its peak: it stands there already, or the peak is still to come. -/
theorem exists_length_eq_peak (visit : σ → α → σ) (s : σ) (stack : Pending α) :
    ∃ n s' stack', after visit n s stack = some (s', stack') ∧ stack'.length = stack.peak := by
  by_cases hhere : stack.length = stack.peak
  · exact ⟨0, s, stack, rfl, hhere⟩
  · cases hstep : stack.step with
    | none =>
      rw [eq_nil_of_step_eq_none hstep] at hhere
      exact absurd rfl hhere
    | some round =>
      have hwork := work_next hstep
      have hpeak := peak_of_step_eq_some hstep
      obtain ⟨n, s', stack', hafter, hlength⟩ := exists_length_eq_peak visit (round.items.foldl visit s) round.next
      refine ⟨n + 1, s', stack', ?_, ?_⟩
      · rw [after_succ_of_step_eq_some hstep, hafter]
      · omega
termination_by stack.work

end Pending

namespace Node

theorem work_start (ns : List (Node α)) :
    (Pending.start ns).work = leafCountAll ns + 2 * seqCountAll ns + 1 := by
  rw [Pending.start, Pending.work, Pending.work, Pending.levelWork_reverse, Pending.levelWork_eq, Nat.add_zero]

/-- **A walk in rounds.** Whatever the visitor is, a walk takes one round for each leaf, two for each nested sequence
and one more, and is over then. It visits the leaves from right to left, each once: at every moment what the visitor
has made is what it makes of the leaves visited so far, and these with the ones still to come are all the leaves. The
stack never has more entries than the depth of the whole sequence, and it has as many at some moment. -/
theorem walk_in_rounds (visit : σ → α → σ) (s : σ) (ns : List (Node α)) :
    (∀ n, (Pending.after visit n s (.start ns)).isSome ↔ n ≤ leafCountAll ns + 2 * seqCountAll ns + 1) ∧
      Pending.after visit (leafCountAll ns + 2 * seqCountAll ns + 1) s (.start ns) = some (walk visit s ns, []) ∧
      walk visit s ns = (leavesAll ns).reverse.foldl visit s ∧
      (∀ n s' stack, Pending.after visit n s (.start ns) = some (s', stack) →
        (∃ visited, s' = visited.foldl visit s ∧ visited ++ stack.upcoming = (leavesAll ns).reverse) ∧
          stack.length ≤ depth (.seq ns)) ∧
      ∃ n s' stack, Pending.after visit n s (.start ns) = some (s', stack) ∧ stack.length = depth (.seq ns) := by
  rw [← work_start, ← Pending.peak_start, ← Pending.upcoming_start]
  refine ⟨fun n => Pending.isSome_after_iff, Pending.after_work visit s _, Pending.run_eq_foldl visit s _,
    fun n s' stack hafter => ⟨Pending.exists_visited_of_after hafter, ?_⟩, Pending.exists_length_eq_peak visit s _⟩
  exact Nat.le_trans stack.length_le_peak (Pending.peak_le_of_after hafter)

/-- Of `1, [2, [], [3]], 4` the last item has been visited after three rounds, and the stack is at its highest. -/
theorem walk_in_rounds_three_entered :
    let ns : List (Node Nat) := [.item 1, .seq [.item 2, .seq [], .seq [.item 3]], .item 4]
    let visit : List Nat → Nat → List Nat := fun visited a => visited ++ [a]
    let stack : Pending Nat := [[.item 3], [.seq [], .item 2], [.item 1]]
    Pending.after visit 3 [] (.start ns) = some ([4], stack) ∧
      (∃ visited, [4] = visited.foldl visit [] ∧ visited ++ stack.upcoming = [4, 3, 2, 1]) ∧
      stack.length ≤ depth (.seq ns) ∧ depth (.seq ns) = 3 ∧
      Pending.after visit 11 [] (.start ns) = some ([4, 3, 2, 1], []) := by
  intro ns visit stack
  have hthree : Pending.after visit 3 [] (.start ns) = some ([4], stack) := rfl
  obtain ⟨-, hover, hwalk, hmoments, -⟩ := walk_in_rounds visit [] ns
  obtain ⟨hvisited, hlength⟩ := hmoments 3 [4] stack hthree
  rw [hwalk] at hover
  exact ⟨hthree, hvisited, hlength, depth_eq_height _, hover⟩

end Node

end BuildOrder
