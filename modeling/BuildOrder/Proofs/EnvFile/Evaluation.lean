import BuildOrder.EnvFile.Load

/-!
# What a line reads of the environment

Where an environment file is read, the environment is asked for the values that `$NAME` stands for, and for nothing
else. So whether a line is refused, and which variable it assigns to, is settled by the line alone, and the value is
a function of the values of variables.
-/

namespace BuildOrder.EnvFile

/-- What the variables of an environment are set to. -/
abbrev Values := String → Option String

/-- A reading that fails or not whatever the environment is, and asks it only for values. -/
def AsksForValues {α : Type} (f : Environment → Except LineFault α) : Prop :=
  ∃ r : Except LineFault (Values → α), ∀ env, f env = r.map fun g => g env.get?

namespace AsksForValues

variable {α β : Type} {f : Environment → Except LineFault α}

theorem const (r : Except LineFault α) : AsksForValues fun _ => r := by
  refine ⟨r.map fun a _ => a, fun env => ?_⟩
  cases r <;> rfl

theorem ofValues (g : Values → α) : AsksForValues fun env => .ok (g env.get?) :=
  ⟨.ok g, fun _ => rfl⟩

theorem map (hf : AsksForValues f) (g : α → β) : AsksForValues fun env => (f env).map g := by
  obtain ⟨r, hr⟩ := hf
  refine ⟨r.map fun h values => g (h values), fun env => ?_⟩
  simp only [hr]
  cases r <;> rfl

theorem congr (hf : AsksForValues f) {env env' : Environment} (h : env.get? = env'.get?) : f env = f env' := by
  obtain ⟨r, hr⟩ := hf
  rw [hr, hr, h]

theorem error_of_error (hf : AsksForValues f) {env : Environment} {fault : LineFault} (h : f env = .error fault)
    (env' : Environment) : f env' = .error fault := by
  obtain ⟨r, hr⟩ := hf
  rw [hr] at h ⊢
  cases r with
  | error fault' => exact h
  | ok g => cases h

end AsksForValues

/-! ### Values -/

/-- The value of a variable, from the values of all. -/
def substituted (values : Values) (name : List Char) : List Char :=
  ((values (String.ofList name.reverse)).getD "").toList.reverse

/-- A step that leads to the same state in every environment; the values are in what it adds. -/
def IsUniform (step : Environment → ValueStep) : Prop :=
  (∃ (state : ValueState) (added : Values → List Char), ∀ env, step env = .next state (added env.get?)) ∨
    (∀ env, step env = .stop) ∨ ∀ env, step env = .refused

namespace IsUniform

theorem goesOn (state : ValueState) (added : List Char) : IsUniform fun _ => .next state added :=
  .inl ⟨state, fun _ => added, fun _ => rfl⟩

theorem fillsIn (state : ValueState) (name : List Char) (behind : List Char) :
    IsUniform fun env => .next state (behind ++ substitute env name) :=
  .inl ⟨state, fun values => behind ++ substituted values name, fun _ => rfl⟩

theorem stops : IsUniform fun _ => .stop := .inr (.inl fun _ => rfl)

theorem refuses : IsUniform fun _ => .refused := .inr (.inr fun _ => rfl)

theorem branch {p : Prop} [Decidable p] {f g : Environment → ValueStep} (hf : IsUniform f) (hg : IsUniform g) :
    IsUniform fun env => if p then f env else g env := by
  by_cases hp : p
  · simpa only [hp, if_true] using hf
  · simpa only [hp, if_false] using hg

end IsUniform

theorem isUniform_valueStep (c : Char) (state : ValueState) : IsUniform fun env => valueStep env c state := by
  cases state with
  | bare =>
    exact .branch (.goesOn _ _) (.branch (.goesOn _ _) (.branch (.goesOn _ _) (.branch (.goesOn _ _)
      (.branch (.goesOn _ _) (.goesOn _ _)))))
  | single => exact .branch (.goesOn _ _) (.goesOn _ _)
  | double => exact .branch (.goesOn _ _) (.branch (.goesOn _ _) (.branch (.goesOn _ _) (.goesOn _ _)))
  | escaped quoted =>
    cases hescape : escape? c with
    | some d => simpa only [valueStep, hescape] using .goesOn _ _
    | none => simpa only [valueStep, hescape] using .refuses
  | name quoted name =>
    exact .branch (.goesOn _ _) (.branch (.goesOn _ _) (.branch (.fillsIn _ name []) (.fillsIn _ name [c])))
  | braced quoted name => exact .branch (.fillsIn _ name []) (.goesOn _ _)
  | behind => exact .branch (.goesOn _ _) (.branch .stops .refuses)

theorem asksForValues_endValue (input : List Char) (state : ValueState) (out : Values → List Char) :
    AsksForValues fun env => endValue env input state (out env.get?) := by
  simp only [endValue]
  split
  · exact .const _
  · split
    · next _ name _ =>
      exact .ofValues fun values => String.ofList (substituted values name ++ out values).reverse
    · exact .ofValues fun values => String.ofList (out values).reverse

theorem asksForValues_readValueFrom (input : List Char) (index : Nat) (state : ValueState)
    (out : Values → List Char) (cs : List Char) :
    AsksForValues fun env => readValueFrom env input index state (out env.get?) cs := by
  induction cs generalizing index state out with
  | nil => exact asksForValues_endValue input state out
  | cons c cs ih =>
    obtain ⟨state', added, hnext⟩ | hstop | hrefused := isUniform_valueStep c state
    · simp only [readValueFrom, hnext]
      exact ih (index + 1) state' fun values => added values ++ out values
    · simp only [readValueFrom, hstop]
      exact asksForValues_endValue input state out
    · simp only [readValueFrom, hrefused]
      exact .const _

/-! ### Lines -/

theorem asksForValues_assignment (line : List Char) : AsksForValues fun env => assignment env line := by
  simp only [assignment]
  split
  · exact .const _
  · split
    · exact .const _
    · next key value _ =>
      split
      · exact .const _
      · exact (asksForValues_readValueFrom value 0 .bare (fun _ => []) value).map _

end BuildOrder.EnvFile
