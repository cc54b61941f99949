import BuildOrder.Proofs.Settings.ColorVariables

/-!
# Settings in force

The layer below the arguments differs from the defaults in the colour alone, and a setting that equals its default
gives way to that layer. So merging changes one thing: a colour that is left open becomes what the colour variables
suggest.
-/

namespace BuildOrder.Settings

variable {arguments s r : Settings} {env : Environment}

@[simp] theorem prefer_default {α : Type} [DecidableEq α] (d upper : α) : prefer d upper d = upper := by
  rw [prefer]
  split
  · next h => exact h.symm
  · rfl

/-- The settings with what the variables suggest for a colour that is left open. -/
def colored (s : Settings) (env : Environment) : Settings :=
  { s with color := if s.color = .auto then env.suggestedColor else s.color }

theorem merge_of_color (c : Color) :
    ({ default with color := c } : Settings).merge arguments =
      { arguments with color := if arguments.color = .auto then c else arguments.color } := by
  simp only [merge, prefer_default]
  rfl

/-- The key is not blank and the verbosity is in range. -/
def Usable (s : Settings) : Prop := (∃ c ∈ s.manifestKey.toList, Text.isBlank c = false) ∧ s.logLevel ≤ 4

theorem allBlank_eq_false_iff (text : String) :
    Text.allBlank text = false ↔ ∃ c ∈ text.toList, Text.isBlank c = false := by
  simp [Text.allBlank]

instance (s : Settings) : Decidable s.Usable :=
  decidable_of_iff (Text.allBlank s.manifestKey = false ∧ s.logLevel ≤ 4)
    (and_congr_left' (allBlank_eq_false_iff s.manifestKey))

theorem validate_eq_ok_iff : s.validate = .ok () ↔ s.Usable := by
  rw [Usable, ← allBlank_eq_false_iff, validate, greatestLevel]
  split
  · next hblank => simp [hblank]
  · next hblank =>
    split
    · next hlevel => simp [hlevel]
    · next hlevel => simp_all

theorem validate_withColor (c : Color) : ({ s with color := c } : Settings).validate = s.validate := rfl

theorem resolveWith_eq (arguments : Settings) (color : ColorEnvironment) :
    arguments.resolveWith color = arguments.validate.map fun _ =>
      { arguments with color := if arguments.color = .auto then color.apply .auto else arguments.color } := by
  rw [resolveWith, show default.color = .auto from rfl, merge_of_color, validate_withColor]
  cases arguments.validate <;> rfl

theorem resolve_eq_ok_iff :
    arguments.resolve env = .ok r ↔ env.HasClearColors ∧ arguments.Usable ∧ arguments.colored env = r := by
  rw [← ColorEnvironment.exists_ofEnvironment_iff, resolve]
  cases hcolor : ColorEnvironment.ofEnvironment env with
  | error v => simp
  | ok color =>
    dsimp only
    rw [colored, ← ColorEnvironment.apply_auto_of_ofEnvironment hcolor, resolveWith_eq, ← validate_eq_ok_iff]
    cases arguments.validate <;> simp [Except.map]

end BuildOrder.Settings
