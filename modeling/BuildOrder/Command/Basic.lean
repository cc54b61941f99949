import BuildOrder.Manifest.Format
import BuildOrder.Order.Emit
import BuildOrder.Settings.Environment

/-!
# Commands

What a run is asked to do, and how arguments that make no sense are told apart.
-/

namespace BuildOrder

instance : Choice Emit where
  spellings := [⟨.lines, "lines", []⟩, ⟨.json, "json", []⟩]
  complaint := "invalid output style"

inductive Command where
  /-- Flatten the manifest at a path, or on standard input. -/
  | flatten (input : Option String) (format : Option ManifestFormat) (emit : Emit)
  | version
deriving DecidableEq

/-- The places where arguments are read: before a command's name, and behind it. -/
inductive Scope where
  | top
  | flatten
  | version
deriving DecidableEq

/-- Why arguments are not carried out: most are mistakes, the last two ask for a text instead. -/
inductive Usage where
  | unknownArgument
  | invalidValue
  | valueValidation
  | argumentConflict
  | tooManyValues
  | invalidSubcommand
  | help (scope : Scope)
  | version (scope : Scope)
deriving DecidableEq

/-- The settings that the arguments ask for, and the command. -/
structure Request where
  settings : Settings
  command : Option Command
deriving DecidableEq

end BuildOrder
