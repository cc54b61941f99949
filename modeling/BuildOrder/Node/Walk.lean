import BuildOrder.Node.Basic

/-!
# The walk from right to left

The walk visits every item of a list of nodes, last element first, going into each sequence where it stands.
What is still to visit is kept as a stack with one entry for each sequence that has been entered, so nesting
costs memory and not recursion.

One round of the walk is `Pending.step`. It drops a finished sequence, enters the next one, or hands out the
next item. `Pending.work` counts the rounds that are left, which is why the walk ends.
-/

namespace BuildOrder

universe u v

variable {α : Type u} {σ : Type v}

/-- What is left to visit in each entered sequence, innermost first, each in the order of the visits. -/
abbrev Pending (α : Type u) := List (List (Node α))

namespace Pending

def start (ns : List (Node α)) : Pending α := [ns.reverse]

/-- What one round does: it hands out an item, or it only moves. -/
inductive Round (α : Type u) where
  | visit (a : α) (next : Pending α)
  | move (next : Pending α)

/-- One round, or nothing when no entered sequence is left. -/
def step : Pending α → Option (Round α)
  | [] => none
  | [] :: stack => some (.move stack)
  | (.item a :: rest) :: stack => some (.visit a (rest :: stack))
  | (.seq cs :: rest) :: stack => some (.move (cs.reverse :: rest :: stack))

/-- The rounds that one node takes: an item is handed out once, a sequence is entered and left. -/
def nodeWork (n : Node α) : Nat := n.leafCount + 2 * n.seqCount

/-- The rounds that one entered sequence still takes. -/
def levelWork : List (Node α) → Nat
  | [] => 1
  | n :: ns => nodeWork n + levelWork ns

def work : Pending α → Nat
  | [] => 0
  | level :: stack => levelWork level + work stack

@[simp] theorem nodeWork_item (a : α) : nodeWork (.item a) = 1 := by
  simp [nodeWork, Node.leafCount, Node.seqCount]

theorem levelWork_eq (ns : List (Node α)) :
    levelWork ns = Node.leafCountAll ns + 2 * Node.seqCountAll ns + 1 := by
  induction ns with
  | nil => rfl
  | cons n ns ih => simp only [levelWork, nodeWork, Node.leafCountAll, Node.seqCountAll, ih]; omega

@[simp] theorem nodeWork_seq (cs : List (Node α)) : nodeWork (.seq cs) = levelWork cs + 1 := by
  simp only [nodeWork, levelWork_eq, Node.leafCount, Node.seqCount]; omega

theorem levelWork_concat (ns : List (Node α)) (n : Node α) :
    levelWork (ns ++ [n]) = nodeWork n + levelWork ns := by
  induction ns with
  | nil => rfl
  | cons m ns ih => simp only [List.cons_append, levelWork, ih]; omega

@[simp] theorem levelWork_reverse (ns : List (Node α)) : levelWork ns.reverse = levelWork ns := by
  induction ns with
  | nil => rfl
  | cons n ns ih => rw [List.reverse_cons, levelWork_concat, ih, levelWork]

def Round.next : Round α → Pending α
  | .visit _ next => next
  | .move next => next

/-- Every round is counted once. -/
theorem work_next : ∀ {stack : Pending α} {round : Round α}, step stack = some round →
    work round.next + 1 = work stack
  | [] :: _, _, rfl => by simp [Round.next, work, levelWork]; omega
  | (.item _ :: _) :: _, _, rfl => by simp [Round.next, work, levelWork]; omega
  | (.seq _ :: _) :: _, _, rfl => by simp [Round.next, work, levelWork]; omega

end Pending

/-- Run the rounds that are left, handing each item to `visit` together with what the visits before it made. -/
def Pending.run (visit : σ → α → σ) (s : σ) (stack : Pending α) : σ :=
  match h : stack.step with
  | none => s
  | some (.visit a next) =>
    have : next.work + 1 = stack.work := Pending.work_next h
    Pending.run visit (visit s a) next
  | some (.move next) =>
    have : next.work + 1 = stack.work := Pending.work_next h
    Pending.run visit s next
termination_by stack.work

/-- Visit every item of a list of nodes from right to left. -/
def Node.walk (visit : σ → α → σ) (s : σ) (ns : List (Node α)) : σ := (Pending.start ns).run visit s

end BuildOrder
