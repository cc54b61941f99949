import BuildOrder.Node.Walk
import Std.Data.HashSet

/-!
# Build order

Flattening turns a nested dependency sequence into a list that holds every item once. The walk goes from right
to left and keeps the first of equal items that it meets, so the rightmost occurrence decides the place of an
item.

The items kept so far are held newest first, which is the build order itself once the walk has ended. Each
item that is dropped is counted, and reported by its position: how many items had been kept by then.

`flatten` scans the kept items and asks nothing of their equality: the kept item stands on the left of the
test. `flattenHashed` asks a hash set instead.
-/

namespace BuildOrder

universe u

variable {α : Type u}

/-- What a walk has kept and dropped so far. -/
structure Kept (α : Type u) where
  /-- The items kept, newest first. -/
  items : List α
  /-- The number of items kept, at hand without counting. -/
  size : Nat
  /-- The position of every dropped item, newest first. -/
  skips : List Nat
  /-- The number of items dropped, counted as they are dropped. -/
  duplicates : Nat
  size_eq : size = items.length
  duplicates_eq : duplicates = skips.length

namespace Kept

def empty : Kept α where
  items := []
  size := 0
  skips := []
  duplicates := 0
  size_eq := rfl
  duplicates_eq := rfl

def keep (k : Kept α) (a : α) : Kept α :=
  { k with items := a :: k.items, size := k.size + 1, size_eq := congrArg (· + 1) k.size_eq }

def skip (k : Kept α) : Kept α :=
  { k with
    skips := k.size :: k.skips
    duplicates := k.duplicates + 1
    duplicates_eq := congrArg (· + 1) k.duplicates_eq }

/-- Some kept item equals `b`, the kept item standing on the left. -/
def covers [BEq α] (k : Kept α) (b : α) : Bool := k.items.any (fun a => a == b)

/-- Keep an item unless a kept one equals it. -/
def visit [BEq α] (k : Kept α) (b : α) : Kept α := if k.covers b then k.skip else k.keep b

theorem items_visit [BEq α] (k : Kept α) (b : α) :
    (k.visit b).items = if k.covers b then k.items else b :: k.items := by
  rw [visit]
  split <;> rfl

end Kept

/-- The outcome of flattening: the order, and where items were dropped. -/
structure Flattened (α : Type u) where
  /-- The items in build order. -/
  order : List α
  /-- For every dropped item in the order of the walk, the number of items kept before it. -/
  skips : List Nat
  duplicates : Nat
  duplicates_eq : duplicates = skips.length

namespace Flattened

def unique (f : Flattened α) : Nat := f.order.length

def ofKept (k : Kept α) : Flattened α :=
  ⟨k.items, k.skips.reverse, k.duplicates, k.duplicates_eq.trans List.length_reverse.symm⟩

end Flattened

namespace Node

/-- Flatten by scanning what has been kept, reporting what was dropped. -/
def flattened [BEq α] (ns : List (Node α)) : Flattened α := .ofKept (walk Kept.visit .empty ns)

def flatten [BEq α] (ns : List (Node α)) : List α := (flattened ns).order

end Node

structure KeptHashed (α : Type u) [BEq α] [Hashable α] where
  kept : Kept α
  seen : Std.HashSet α

namespace KeptHashed

variable [BEq α] [Hashable α]

def empty : KeptHashed α := ⟨.empty, ∅⟩

/-- Keep an item unless the set holds an equal one. -/
def visit (k : KeptHashed α) (b : α) : KeptHashed α :=
  if k.seen.contains b then { k with kept := k.kept.skip }
  else ⟨k.kept.keep b, k.seen.insert b⟩

end KeptHashed

namespace Node

variable [BEq α] [Hashable α]

/-- Flatten by asking a hash set, reporting what was dropped. -/
def flattenedHashed (ns : List (Node α)) : Flattened α :=
  .ofKept (walk KeptHashed.visit .empty ns).kept

def flattenHashed (ns : List (Node α)) : List α := (flattenedHashed ns).order

end Node

end BuildOrder
