import BuildOrder.Proofs.Command.Scan
import BuildOrder.Proofs.Settings.Resolution

/-!
# What requests ask for

Accepted arguments are scanned in one or two scopes, and each scope ends with a question to the environment. Together
they come down to one rule for each setting: what the arguments give last, else what its variable says, else the
default. The settings in force are these, up to a colour that is left open.
-/

namespace BuildOrder

variable {s : Scan} {arguments : List String} {env : Environment} {request : Request}

theorem Scan.exists_settle_of_finish {outcome : Scope.Outcome} (h : s.finish env = .ok outcome) :
    ∃ t, s.settle = .ok t ∧ outcome.given = t.given ∧
      PartialSettings.ofVariables env t.given.settings .empty Setting.all = .ok outcome.environment := by
  rw [finish] at h
  split at h
  · cases h
  · next t hsettle =>
    split at h
    · next p hvariables =>
      obtain rfl := Except.ok.inj h
      exact ⟨t, hsettle, rfl, hvariables⟩
    · cases h

namespace Request

inductive Reading (arguments : List String) (env : Environment) : Request → Prop where
  | bare {s : Scan} {outer : Scope.Outcome} : Scan.start.readTop arguments = .ok (s, none) →
      s.finish env = .ok outer → Reading arguments env (ofOutcomes none .none outer)
  | command {s t : Scan} {c : Subcommand} {rest : List String} {inner outer : Scope.Outcome} :
      Scan.start.readTop arguments = .ok (s, some (c, rest)) → Scan.start.readAll c.scope rest = .ok t →
      t.finish env = .ok inner → s.finish env = .ok outer →
      Reading arguments env (ofOutcomes (some c.scope) inner outer)

theorem reading_of_ofCommand {c : Subcommand} {rest : List String}
    (htop : Scan.start.readTop arguments = .ok (s, some (c, rest)))
    (h : ofCommand c.scope s rest env = .ok request) : Reading arguments env request := by
  rw [ofCommand] at h
  split at h
  · cases h
  · next t hread =>
    split at h
    · cases h
    · next inner hinner =>
      split at h
      · cases h
      · next outer houter =>
        obtain rfl := Except.ok.inj h
        exact .command htop hread hinner houter

theorem reading_of_ofArguments (h : ofArguments arguments env = .ok request) : Reading arguments env request := by
  rw [ofArguments] at h
  split at h
  · cases h
  · next htop =>
    split at h
    · cases h
    · next outer houter =>
      obtain rfl := Except.ok.inj h
      exact .bare htop houter
  · split at h <;> cases h
  · next htop => exact reading_of_ofCommand htop h
  · next htop => exact reading_of_ofCommand htop h

/-! ### Settings -/

theorem spelledBy_of_giveAll {l : List (Parameter × String)} {g : Given} (h : Given.none.giveAll l = .ok g) :
    g.settings.SpelledBy (lastText? l) :=
  (Given.spelledBy_of_giveAll PartialSettings.spelledBy_empty h).congr fun s => by simp

theorem spelledBy_of_finish {l : List (Parameter × String)} {t : Scan} {outcome : Scope.Outcome}
    (hfinish : s.finish env = .ok outcome) (hsettle : s.settle = .ok t)
    (hgive : Given.none.giveAll l = .ok t.given) :
    outcome.given.settings.SpelledBy (lastText? l) ∧
      outcome.environment.SpelledBy fun s => if (lastText? l s).isSome then none else env.get? s.variableName := by
  obtain ⟨t', hsettle', hgiven, hvariables⟩ := Scan.exists_settle_of_finish hfinish
  obtain rfl : t' = t := Except.ok.inj (hsettle'.symm.trans hsettle)
  have hsettings := spelledBy_of_giveAll hgive
  rw [hgiven]
  refine ⟨hsettings, (PartialSettings.spelledBy_of_ofVariables_all hvariables).congr fun s => ?_⟩
  rw [hsettings.has_eq]

theorem owed_start (arguments : List String) (scope : Scope) :
    Scan.start.owed scope arguments = scope.assigned arguments := rfl

/-- A setting is what the arguments give last, else what its variable says, else the default. -/
theorem settings_spelledBy (h : ofArguments arguments env = .ok request) :
    request.settings.SpelledBy fun s => (argumentText? arguments s).or (env.get? s.variableName) := by
  cases reading_of_ofArguments h with
  | bare htop houter =>
    obtain ⟨t, hsettle, -⟩ := Scan.exists_settle_of_finish houter
    obtain ⟨l, howed, hgive⟩ := Scan.exists_owed_of_readTop htop hsettle
    rw [owed_start] at howed
    obtain ⟨hsettings, henvironment⟩ := spelledBy_of_finish houter hsettle hgive
    have hpartial := ((PartialSettings.spelledBy_empty.orElse hsettings).orElse
      PartialSettings.spelledBy_empty).orElse henvironment
    refine (hpartial.congr fun s => ?_).settings
    rw [argumentText?, howed, Scan.behind, List.append_nil]
    cases lastText? l s <;> simp
  | command htop hread hinner houter =>
    obtain ⟨u, hsettle', -⟩ := Scan.exists_settle_of_finish hinner
    obtain ⟨t, hsettle, -⟩ := Scan.exists_settle_of_finish houter
    obtain ⟨l, howed, hgive⟩ := Scan.exists_owed_of_readTop htop hsettle
    rw [owed_start] at howed
    have hgive' := Scan.giveAll_owed_of_readAll hread hsettle'
    rw [owed_start] at hgive'
    obtain ⟨hsettings, henvironment⟩ := spelledBy_of_finish houter hsettle hgive
    obtain ⟨hsettings', henvironment'⟩ := spelledBy_of_finish hinner hsettle' hgive'
    have hpartial := ((hsettings'.orElse hsettings).orElse henvironment').orElse henvironment
    refine (hpartial.congr fun s => ?_).settings
    rw [argumentText?, howed, Scan.behind, lastText?_append]
    -- What the command was given counts before what stands in front of its name.
    cases lastText? (Scope.assigned _ _) s with
    | some text => simp
    | none => cases lastText? l s <;> simp

/-- **The settings in force.** Accepted arguments select each setting by themselves, by its variable, or by default.
The selection is good if the colour variables can be read and its key and verbosity can be worked with. Nothing is
changed about it then, except that the colour variables decide about a colour that it leaves open. -/
theorem settings_in_force (h : ofArguments arguments env = .ok request) :
    request.settings.SpelledBy (fun s => (argumentText? arguments s).or (env.get? s.variableName)) ∧
      ((∃ r, request.settings.resolve env = .ok r) ↔ env.HasClearColors ∧ request.settings.Usable) ∧
      ∀ r, request.settings.resolve env = .ok r → r = request.settings.colored env := by
  refine ⟨settings_spelledBy h, ⟨?_, ?_⟩, ?_⟩
  · rintro ⟨r, hr⟩
    obtain ⟨hclear, husable, -⟩ := Settings.resolve_eq_ok_iff.mp hr
    exact ⟨hclear, husable⟩
  · rintro ⟨hclear, husable⟩
    exact ⟨_, Settings.resolve_eq_ok_iff.mpr ⟨hclear, husable, rfl⟩⟩
  · intro r hr
    exact (Settings.resolve_eq_ok_iff.mp hr).2.2.symm

/-- A key that is given wins even if it is the default, and a colour that is given as open stays open to the colour
variables, whatever the variable of the setting says. -/
theorem settings_in_force_given_defaults :
    let env : Environment := ⟨[("MKDEPS_MANIFEST_KEY", "libs"), ("MKDEPS_COLOR", "always"), ("no_color", "1"),
      ("MKDEPS_LOG_LEVEL", "2")]⟩
    let request : Request := ⟨⟨"deps", 2, .text, .stderr, .auto⟩, some (.flatten none none .lines)⟩
    ofArguments ["--manifest-key=deps", "flatten", "-c", "auto"] env = .ok request ∧
      request.settings.resolve env = .ok ⟨"deps", 2, .text, .stderr, .never⟩ := by
  intro env request
  have harguments : ofArguments ["--manifest-key=deps", "flatten", "-c", "auto"] env = .ok request := rfl
  obtain ⟨-, hiff, hr⟩ := settings_in_force harguments
  obtain ⟨r, hresolve⟩ := hiff.mpr ⟨by decide +kernel, by decide +kernel⟩
  refine ⟨harguments, ?_⟩
  rw [hresolve, hr r hresolve]
  exact congrArg Except.ok (by decide +kernel)

end Request

end BuildOrder
