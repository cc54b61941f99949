import BuildOrder.Text.Fold

/-!
# Choices and their spellings

A setting that is one of a few choices is written by a name. Each choice has one name and may have aliases;
the table of a type lists them once, and every reader of a setting goes through it.

There are three readers. Arguments and variables are read by `spelled?`, which takes names and aliases as they
are. `ofText?` ignores case. `named?` takes names only.
-/

namespace BuildOrder

/-- How one choice is written. -/
structure Spelling (α : Type) where
  choice : α
  name : String
  aliases : List String

namespace Spelling

variable {α : Type}

def all (s : Spelling α) : List String := s.name :: s.aliases

def isExactly (s : Spelling α) (text : String) : Bool := s.all.any (fun n => n == text)

/-- Some spelling is `text` regardless of case. -/
def isFolded (s : Spelling α) (text : String) : Bool :=
  s.all.any (fun n => Text.folded n == Text.folded text)

end Spelling

/-- A type of choices, with the table of its spellings. -/
class Choice (α : Type) where
  spellings : List (Spelling α)
  /-- What is said about a text that spells no choice. -/
  complaint : String

structure UnknownChoice where
  text : String
  complaint : String
deriving DecidableEq

def UnknownChoice.message (e : UnknownChoice) : String :=
  s!"Failed to parse configuration value '{e.text}': {e.complaint}"

namespace Choice

variable {α : Type} [Choice α]

def spelled? (α : Type) [Choice α] (text : String) : Option α :=
  ((spellings (α := α)).find? (·.isExactly text)).map (·.choice)

def named? (α : Type) [Choice α] (text : String) : Option α :=
  ((spellings (α := α)).find? (fun s => s.name == text)).map (·.choice)

/-- The choice with a spelling, regardless of case. -/
def ofText (α : Type) [Choice α] (text : String) : Except UnknownChoice α :=
  match (spellings (α := α)).find? (·.isFolded text) with
  | some s => .ok s.choice
  | none => .error ⟨text, complaint α⟩

def names (α : Type) [Choice α] : List String := (spellings (α := α)).map (·.name)

end Choice

end BuildOrder
