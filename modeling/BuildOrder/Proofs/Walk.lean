import BuildOrder.Node.Walk

/-!
# What a walk visits

A walk is a fold over the leaves, from the rightmost to the leftmost. The stack of a walk stands for the items
that are still to come: `Pending.upcoming` reads them off, a round takes at most the first of them away, and
so a run is a fold over them. `walk_eq_foldr` is all that the proofs about flattening know about the stack.

`Pending.after` stops the loop after a number of rounds, which `run` does not allow. It is how statements about
the rounds themselves are made: what every round keeps is true at every moment (`invariant_after`), the loop is over
after `work` rounds, and two visitors that agree on every visit agree after every round, also if one of them walks
over the items of the other replaced.
-/

namespace BuildOrder

universe u v w x

variable {α : Type u} {σ : Type v} {τ : Type w} {β : Type x}

namespace Pending

theorem eq_nil_of_step_eq_none {stack : Pending α} (hstep : stack.step = none) : stack = [] := by
  rcases stack with _ | ⟨_ | ⟨n, rest⟩, stack⟩
  · rfl
  · cases hstep
  · cases n <;> cases hstep

/-! ### The items still to come -/

/-- The items that a stack stands for, in the order of the visits. -/
def upcoming (stack : Pending α) : List α :=
  stack.flatMap fun level => level.flatMap fun n => n.leaves.reverse

/-- The items that a round hands out. -/
def Round.items : Round α → List α
  | .visit a _ => [a]
  | .move _ => []

theorem upcoming_start (ns : List (Node α)) : upcoming (start ns) = (Node.leavesAll ns).reverse := by
  simp [upcoming, start, List.reverse_flatMap, Function.comp_def]

private theorem upcoming_of_step_eq_none {stack : Pending α} (hstep : stack.step = none) : stack.upcoming = [] := by
  rw [eq_nil_of_step_eq_none hstep]
  rfl

/-- A round hands out the first item to come, or leaves them as they are. -/
theorem upcoming_of_step_eq_some {stack : Pending α} {round : Round α} (hstep : stack.step = some round) :
    stack.upcoming = round.items ++ round.next.upcoming := by
  rcases stack with _ | ⟨_ | ⟨n, rest⟩, stack⟩
  · simp [step] at hstep
  · obtain rfl := Option.some.inj hstep
    simp [upcoming, Round.items, Round.next]
  · cases n with
    | item a =>
      obtain rfl := Option.some.inj hstep
      simp [upcoming, Round.items, Round.next, Node.leaves]
    | seq cs =>
      obtain rfl := Option.some.inj hstep
      simp [upcoming, Round.items, Round.next, Node.leaves, List.reverse_flatMap, Function.comp_def]

/-- A run folds the visitor over the items to come. -/
theorem run_eq_foldl (visit : σ → α → σ) (s : σ) (stack : Pending α) :
    stack.run visit s = stack.upcoming.foldl visit s := by
  fun_induction Pending.run visit s stack with
  | case1 s stack hstep => rw [upcoming_of_step_eq_none hstep, List.foldl_nil]
  | case2 s stack a next hstep _ ih =>
    rw [ih, upcoming_of_step_eq_some hstep]
    rfl
  | case3 s stack next hstep _ ih =>
    rw [ih, upcoming_of_step_eq_some hstep]
    rfl

theorem run_nil (visit : σ → α → σ) (s : σ) : Pending.run visit s [] = s := by
  rw [run_eq_foldl]
  rfl

end Pending

namespace Node

theorem walk_eq_foldr (visit : σ → α → σ) (s : σ) (ns : List (Node α)) :
    walk visit s ns = (leavesAll ns).foldr (fun a s => visit s a) s := by
  rw [walk, Pending.run_eq_foldl, Pending.upcoming_start, List.foldl_reverse]

end Node

namespace Pending

/-! ### The loop after a number of rounds -/

/-- What the visits have made and what is left on the stack after `n` rounds, if there are that many. -/
def after (visit : σ → α → σ) : Nat → σ → Pending α → Option (σ × Pending α)
  | 0, s, stack => some (s, stack)
  | n + 1, s, stack =>
    match stack.step with
    | none => none
    | some (.visit a next) => after visit n (visit s a) next
    | some (.move next) => after visit n s next

theorem after_succ_of_step_eq_none {visit : σ → α → σ} {n : Nat} {s : σ} {stack : Pending α}
    (hstep : stack.step = none) : after visit (n + 1) s stack = none := by
  rw [after, hstep]

theorem after_succ_of_step_eq_some {visit : σ → α → σ} {n : Nat} {s : σ} {stack : Pending α} {round : Round α}
    (hstep : stack.step = some round) :
    after visit (n + 1) s stack = after visit n (round.items.foldl visit s) round.next := by
  rw [after, hstep]
  cases round <;> rfl

/-- There are exactly as many rounds as `work` counts. -/
theorem isSome_after_iff {visit : σ → α → σ} {n : Nat} {s : σ} {stack : Pending α} :
    (after visit n s stack).isSome ↔ n ≤ stack.work := by
  induction n generalizing s stack with
  | zero => exact iff_of_true rfl (Nat.zero_le _)
  | succ n ih =>
    cases hstep : stack.step with
    | none =>
      rw [after_succ_of_step_eq_none hstep, eq_nil_of_step_eq_none hstep]
      exact iff_of_false Bool.noConfusion (Nat.not_succ_le_zero n)
    | some round =>
      rw [after_succ_of_step_eq_some hstep, ih, ← work_next hstep, Nat.succ_le_succ_iff]

/-- What every round keeps is true after any number of rounds. -/
theorem invariant_after {visit : σ → α → σ} (Good : σ → Pending α → Prop)
    (hround : ∀ s stack round, stack.step = some round → Good s stack →
      Good (round.items.foldl visit s) round.next)
    {n : Nat} {s s' : σ} {stack stack' : Pending α} (h : after visit n s stack = some (s', stack'))
    (hs : Good s stack) : Good s' stack' := by
  induction n generalizing s stack with
  | zero =>
    cases h
    exact hs
  | succ n ih =>
    cases hstep : stack.step with
    | none =>
      rw [after_succ_of_step_eq_none hstep] at h
      cases h
    | some round =>
      rw [after_succ_of_step_eq_some hstep] at h
      exact ih h (hround s stack round hstep hs)

/-- The loop is over after as many rounds as `work` counts, and has made what `run` says. -/
theorem after_work (visit : σ → α → σ) (s : σ) (stack : Pending α) :
    after visit stack.work s stack = some (stack.run visit s, []) := by
  fun_induction Pending.run visit s stack with
  | case1 s stack hstep =>
    rw [eq_nil_of_step_eq_none hstep]
    rfl
  | case2 s stack a next hstep hwork ih =>
    rw [← hwork, after, hstep]
    exact ih
  | case3 s stack next hstep hwork ih =>
    rw [← hwork, after, hstep]
    exact ih

theorem run_of_after {visit : σ → α → σ} {n : Nat} {s s' : σ} {stack stack' : Pending α}
    (h : after visit n s stack = some (s', stack')) : stack.run visit s = stack'.run visit s' := by
  refine invariant_after (fun made left => stack.run visit s = left.run visit made) ?_ h rfl
  intro made left round hstep hrun
  rw [hrun, run_eq_foldl, run_eq_foldl, upcoming_of_step_eq_some hstep, List.foldl_append]

/-- A round with its item and its stack replaced. -/
def Round.map (g : α → β) (m : Pending α → Pending β) : Round α → Round β
  | .visit a next => .visit (g a) (m next)
  | .move next => .move (m next)

/-- Two visitors agree after every number of rounds if they agree on every visit, as long as `Good` holds of what the
first has made. The second may walk over other items, if its stack moves along with that of the first. -/
theorem after_map_of_agree {visit : σ → α → σ} {visit' : τ → β → τ} {f : σ → τ} {g : α → β}
    {m : Pending α → Pending β} {Good : σ → Prop}
    (hstep : ∀ stack, (m stack).step = stack.step.map (Round.map g m))
    (hgood : ∀ s a, Good s → Good (visit s a)) (hagree : ∀ s a, Good s → f (visit s a) = visit' (f s) (g a))
    (n : Nat) (s : σ) (stack : Pending α) (hs : Good s) :
    (after visit n s stack).map (Prod.map f m) = after visit' n (f s) (m stack) := by
  induction n generalizing s stack with
  | zero => rfl
  | succ n ih =>
    rw [after, after, hstep]
    cases stack.step with
    | none => rfl
    | some round =>
      cases round with
      | visit a next =>
        have hrest := ih (visit s a) next (hgood s a hs)
        rw [hagree s a hs] at hrest
        exact hrest
      | move next => exact ih s next hs

theorem step_id (stack : Pending α) : (id stack).step = stack.step.map (Round.map id id) := by
  change stack.step = _
  cases stack.step with
  | none => rfl
  | some round => cases round <;> rfl

end Pending

end BuildOrder
