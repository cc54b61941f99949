/-!
# Nested dependency sequences

A dependency list is a tree: every element is an opaque item or another sequence. Items are compared by a
Boolean test that need not obey any law, so nothing here asks more of them.

Counting and measuring exist twice where the tree may be deep. `Node.height` follows the tree; `Node.depth`
keeps the nodes still to look at in a list of its own, so that a tree nested a hundred thousand levels deep
is measured in a loop.
-/

namespace BuildOrder

universe u v

/-- One element of a dependency sequence: an opaque item, or a sequence of further elements. -/
inductive Node (α : Type u) where
  | item (a : α)
  | seq (children : List (Node α))

namespace Node

variable {α : Type u} {β : Type v}

instance : Inhabited (Node α) := ⟨.seq []⟩

def items (xs : List α) : List (Node α) := xs.map item

/-- A sequence that holds a flat run of items. -/
def seqOf (xs : List α) : Node α := .seq (items xs)

def isLeaf : Node α → Bool
  | .item _ => true
  | .seq _ => false

def item? : Node α → Option α
  | .item a => some a
  | .seq _ => none

/-! ### Recursion over the tree -/

mutual

/-- The items from left to right, duplicates included. -/
def leaves : Node α → List α
  | .item a => [a]
  | .seq cs => leavesAll cs

/-- The items below a list of nodes, from left to right. -/
def leavesAll : List (Node α) → List α
  | [] => []
  | n :: ns => n.leaves ++ leavesAll ns

end

mutual

/-- The number of items below a node, duplicates included. -/
def leafCount : Node α → Nat
  | .item _ => 1
  | .seq cs => leafCountAll cs

def leafCountAll : List (Node α) → Nat
  | [] => 0
  | n :: ns => n.leafCount + leafCountAll ns

end

mutual

/-- The number of sequences in a node, itself included. -/
def seqCount : Node α → Nat
  | .item _ => 0
  | .seq cs => seqCountAll cs + 1

def seqCountAll : List (Node α) → Nat
  | [] => 0
  | n :: ns => n.seqCount + seqCountAll ns

end

mutual

def height : Node α → Nat
  | .item _ => 0
  | .seq cs => heightAll cs + 1

/-- The greatest height in a list of nodes, 0 for none. -/
def heightAll : List (Node α) → Nat
  | [] => 0
  | n :: ns => max n.height (heightAll ns)

end

mutual

def map (f : α → β) : Node α → Node β
  | .item a => .item (f a)
  | .seq cs => .seq (mapAll f cs)

def mapAll (f : α → β) : List (Node α) → List (Node β)
  | [] => []
  | n :: ns => n.map f :: mapAll f ns

end

mutual

/-- Same shape, and equal items at equal places. -/
def beq [BEq α] : Node α → Node α → Bool
  | .item a, .item b => a == b
  | .seq xs, .seq ys => beqAll xs ys
  | _, _ => false

def beqAll [BEq α] : List (Node α) → List (Node α) → Bool
  | [], [] => true
  | x :: xs, y :: ys => x.beq y && beqAll xs ys
  | _, _ => false

end

instance [BEq α] : BEq (Node α) := ⟨beq⟩

/-! ### The lists in terms of their nodes -/

@[simp] theorem leavesAll_eq_flatMap (ns : List (Node α)) : leavesAll ns = ns.flatMap leaves := by
  induction ns with
  | nil => rfl
  | cons n ns ih => simp [leavesAll, ih]

@[simp] theorem mapAll_eq_map (f : α → β) (ns : List (Node α)) : mapAll f ns = ns.map (map f) := by
  induction ns with
  | nil => rfl
  | cons n ns ih => simp [mapAll, ih]

theorem leavesAll_items (xs : List α) : leavesAll (items xs) = xs := by
  induction xs with
  | nil => rfl
  | cons x xs ih => exact congrArg (x :: ·) ih

mutual

theorem length_leaves : ∀ n : Node α, n.leaves.length = n.leafCount
  | .item _ => rfl
  | .seq cs => by rw [leaves, leafCount, length_leavesAll cs]

theorem length_leavesAll : ∀ ns : List (Node α), (leavesAll ns).length = leafCountAll ns
  | [] => rfl
  | n :: ns => by rw [leavesAll, leafCountAll, List.length_append, length_leaves n, length_leavesAll ns]

end

/-! ### Depth by a list of pending nodes -/

mutual

def size : Node α → Nat
  | .item _ => 1
  | .seq cs => sizeAll cs + 1

def sizeAll : List (Node α) → Nat
  | [] => 0
  | n :: ns => n.size + sizeAll ns

end

/-- The number of nodes that pending entries stand for. -/
def pendingSize : List (Node α × Nat) → Nat
  | [] => 0
  | (n, _) :: rest => n.size + pendingSize rest

/-- The children of a node at one level, put in front of the pending entries. -/
def addPending (level : Nat) : List (Node α) → List (Node α × Nat) → List (Node α × Nat)
  | [], pending => pending
  | c :: cs, pending => addPending level cs ((c, level) :: pending)

theorem pendingSize_addPending (level : Nat) (cs : List (Node α)) (pending : List (Node α × Nat)) :
    pendingSize (addPending level cs pending) = sizeAll cs + pendingSize pending := by
  induction cs generalizing pending with
  | nil => simp [addPending, sizeAll]
  | cons c cs ih => simp only [addPending, ih, pendingSize, sizeAll]; omega

/-- The greatest depth met, over the pending nodes and what was met before. -/
def deepest (met : Nat) : List (Node α × Nat) → Nat
  | [] => met
  | (.item _, level) :: rest => deepest (max met level) rest
  | (.seq cs, level) :: rest => deepest (max met (level + 1)) (addPending (level + 1) cs rest)
termination_by pending => pendingSize pending
decreasing_by
  · simp [pendingSize, size]
  · simp only [pendingSize_addPending, pendingSize, size]; omega

/-- Nesting depth, found in a loop: 0 for an item, 1 for an empty sequence. -/
def depth (n : Node α) : Nat := deepest 0 [(n, 0)]

end Node

end BuildOrder
