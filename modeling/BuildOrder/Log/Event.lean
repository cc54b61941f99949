import BuildOrder.Order.Flatten

/-!
# Events

What a run reports about itself: a level, the part of the library that speaks, a message, and named fields.
Events are data. A computation that reports them is a `Logged` value, and whoever runs it decides what becomes
of them.
-/

namespace BuildOrder

/-- How much attention an event asks for. -/
inductive Level where
  | error
  | warning
  | info
  | debug
  | trace
deriving DecidableEq

namespace Level

/-- 0 for errors, 4 for the finest detail. -/
def toNat : Level → Nat
  | .error => 0
  | .warning => 1
  | .info => 2
  | .debug => 3
  | .trace => 4

/-- The level of a verbosity; all verbosities from 4 on are the finest. -/
def ofVerbosity : Nat → Level
  | 0 => .error
  | 1 => .warning
  | 2 => .info
  | 3 => .debug
  | _ => .trace

def filterName : Level → String
  | .error => "error"
  | .warning => "warn"
  | .info => "info"
  | .debug => "debug"
  | .trace => "trace"

end Level

/-- The part of the library that reports an event. -/
inductive Source where
  | manifest
  | flatten
  | commands
  | loader
  | logger
deriving DecidableEq

def Source.path : Source → String
  | .manifest => "mkdeps_lib::deps::manifest"
  | .flatten => "mkdeps_lib::deps::flatten"
  | .commands => "mkdeps_lib::application::commands"
  | .loader => "mkdeps_lib::application::loader"
  | .logger => "mkdeps_lib::logger"

/-- The value of an event's field: a number, a truth value, or the name of a choice. -/
inductive FieldValue where
  | count (n : Nat)
  | flag (b : Bool)
  | name (s : String)

def FieldValue.text : FieldValue → String
  | .count n => toString n
  | .flag true => "true"
  | .flag false => "false"
  | .name s => s

structure Event where
  level : Level
  source : Source
  message : String
  fields : List (String × FieldValue)

/-- A value with the events reported on the way to it, oldest first. -/
structure Logged (α : Type u) where
  value : α
  events : List Event

namespace Logged

def pure (a : α) : Logged α := ⟨a, []⟩

def bind (x : Logged α) (f : α → Logged β) : Logged β :=
  ⟨(f x.value).value, x.events ++ (f x.value).events⟩

instance : Monad Logged where
  pure := Logged.pure
  bind := Logged.bind

def report (e : Event) : Logged Unit := ⟨(), [e]⟩

end Logged

namespace Flattened

variable {α : Type u}

/-- One event for each dropped item, and a summary under the given title. -/
def events (title : String) (f : Flattened α) : List Event :=
  f.skips.map (fun position =>
      ⟨.trace, .flatten, "Skipping duplicate item", [("position", .count position)]⟩)
    ++ [⟨.debug, .flatten, title, [("unique", .count f.unique), ("duplicates", .count f.duplicates)]⟩]

def logged (title : String) (f : Flattened α) : Logged (List α) := ⟨f.order, f.events title⟩

end Flattened

namespace Node

variable {α : Type u} [BEq α]

/-- Flatten, reporting what was dropped. -/
def flattenLogged (ns : List (Node α)) : Logged (List α) :=
  (flattened ns).logged "Flattened dependency sequence"

/-- Flatten by asking a hash set, reporting what was dropped. -/
def flattenHashedLogged [Hashable α] (ns : List (Node α)) : Logged (List α) :=
  (flattenedHashed ns).logged "Flattened dependency sequence (hashed)"

end Node

end BuildOrder
