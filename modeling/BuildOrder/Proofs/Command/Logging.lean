import BuildOrder.Proofs.Command.Agreement
import BuildOrder.Proofs.Command.Stages
import BuildOrder.Proofs.EnvFile.Loading

/-!
# Runs that log differently

The exit code of a run and what it writes to its standard output are settled by its first failure, or by the command,
the key and the manifest. Verbosity, log format, colour and the filter variable are no part of that, as long as they
make no stage fail.

There are two ways around. An environment file may copy the value of any variable into another one, so two runs are
compared by their environments as these stand after the files. And a help text may show the values of variables, so
runs that ask for help are not compared.
-/

namespace BuildOrder

/-- Arguments that make no sense, and do not ask for a text. -/
def Usage.isMistake : Usage → Bool
  | .help _ => false
  | .version _ => false
  | _ => true

/-- Two requests for the same, log settings apart. -/
def Request.SameButLogging (r r' : Request) : Prop :=
  r.command = r'.command ∧ r.settings.manifestKey = r'.settings.manifestKey ∧
    (r.settings.logLevel ≤ 4 ↔ r'.settings.logLevel ≤ 4)

/-- Arguments that ask for the same, log settings apart, and not for help. -/
inductive AskAlike : Except Usage Request → Except Usage Request → Prop where
  | accepted {r r' : Request} : r.SameButLogging r' → AskAlike (.ok r) (.ok r')
  | version (scope : Scope) : AskAlike (.error (.version scope)) (.error (.version scope))
  | mistaken {u u' : Usage} : u.isMistake = true → u'.isMistake = true → AskAlike (.error u) (.error u')

theorem AskAlike.refused {u : Usage} (h : ∀ scope, u ≠ .help scope) : AskAlike (.error u) (.error u) := by
  cases u with
  | help scope => exact absurd rfl (h scope)
  | version scope => exact .version scope
  | _ => exact .mistaken rfl rfl

namespace Invocation

variable {i j : Invocation} {texts : UsageTexts}

/-- The arguments ask for help, whose text may show the values of variables. -/
def AsksForHelp (i : Invocation) : Prop := ∃ scope, i.request = .error (.help scope)

/-- Two runs that differ in valid log settings at most, and do not ask for help: the arguments ask for the same, or
they are the same and the environments differ only in the variables of log settings. -/
structure SameButLogging (i j : Invocation) : Prop where
  files : i.files = j.files
  input : i.input = j.input
  colors : i.loadedEnvironment.HasClearColors ∧ j.loadedEnvironment.HasClearColors
  asks : AskAlike i.request j.request ∨
    ¬ i.AsksForHelp ∧ i.arguments = j.arguments ∧ i.loadedEnvironment.SameButLogging j.loadedEnvironment ∧
      i.loadedEnvironment.HasGoodLogVariables ∧ j.loadedEnvironment.HasGoodLogVariables

section Requests

variable {r r' : Request}

end Requests

end Invocation

end BuildOrder
