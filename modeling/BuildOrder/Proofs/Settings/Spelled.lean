import Mathlib.Logic.Function.Basic
import BuildOrder.Command.Arguments
import BuildOrder.Proofs.Results

/-!
# Settings and the texts that spell them

Wherever settings come from, each of them is given by a text or not at all. `PartialSettings.SpelledBy` says that
settings are what their texts spell, no more and no fewer. Every way of making settings is then a statement about
texts: to set one is to replace its text, to let others stand in is to take their texts where there is none, and the
environment is asked for the texts of its variables.
-/

namespace BuildOrder

/-- The texts that settings are given by, where they are given. -/
abbrev SettingTexts := Setting → Option String

namespace PartialSettings

/-- The value of a setting is what a text spells; there is none without a text. -/
def Reads (p : PartialSettings) (text? : Option String) : Setting → Prop
  | .manifestKey => text?.map some = p.manifestKey.map some
  | .logLevel => text?.map logLevel? = p.logLevel.map some
  | .logFormat => text?.map (Choice.spelled? LogFormat) = p.logFormat.map some
  | .logStream => text?.map (Choice.spelled? LogStream) = p.logStream.map some
  | .color => text?.map (Choice.spelled? Color) = p.color.map some

/-- Every setting is what its text spells. -/
def SpelledBy (p : PartialSettings) (texts : SettingTexts) : Prop := ∀ s, p.Reads (texts s) s

end PartialSettings

/-- Every setting is what its text spells, or the default if there is no text. -/
structure Settings.SpelledBy (settings : Settings) (texts : SettingTexts) : Prop where
  manifestKey : (texts .manifestKey).elim (some default.manifestKey) some = some settings.manifestKey
  logLevel : (texts .logLevel).elim (some default.logLevel) logLevel? = some settings.logLevel
  logFormat : (texts .logFormat).elim (some default.logFormat) (Choice.spelled? LogFormat) = some settings.logFormat
  logStream : (texts .logStream).elim (some default.logStream) (Choice.spelled? LogStream) = some settings.logStream
  color : (texts .color).elim (some default.color) (Choice.spelled? Color) = some settings.color

theorem Settings.SpelledBy.unique {texts : SettingTexts} {x y : Settings} (hx : x.SpelledBy texts)
    (hy : y.SpelledBy texts) : x = y := by
  obtain ⟨key, level, format, stream, color⟩ := x
  obtain ⟨key', level', format', stream', color'⟩ := y
  obtain rfl := Option.some.inj (hx.manifestKey.symm.trans hy.manifestKey)
  obtain rfl := Option.some.inj (hx.logLevel.symm.trans hy.logLevel)
  obtain rfl := Option.some.inj (hx.logFormat.symm.trans hy.logFormat)
  obtain rfl := Option.some.inj (hx.logStream.symm.trans hy.logStream)
  obtain rfl := Option.some.inj (hx.color.symm.trans hy.color)
  rfl

section Read

variable {α : Type} {reader : String → Option α} {text? text?' : Option String} {value? value?' : Option α}

private theorem isSome_eq_of_read (h : text?.map reader = value?.map some) : value?.isSome = text?.isSome := by
  rw [← Option.isSome_map (f := some), ← h, Option.isSome_map]

private theorem elim_of_read (h : text?.map reader = value?.map some) (d : α) :
    text?.elim (some d) reader = some (value?.getD d) := by
  cases text? with
  | none => cases value? with
    | none => rfl
    | some v => cases h
  | some t => cases value? with
    | none => cases h
    | some v => exact Option.some.inj h

private theorem orElse_of_read (h : text?.map reader = value?.map some) (h' : text?'.map reader = value?'.map some) :
    (text?.or text?').map reader = (value? <|> value?').map some := by
  cases text? with
  | none => cases value? with
    | none => exact h'
    | some v => cases h
  | some t => cases value? with
    | none => cases h
    | some v => exact h

end Read

theorem spelled_of_choose {α : Type} [Choice α] {text : String} {v : α} (h : choose text = .ok v) :
    Choice.spelled? α text = some v := by
  rw [choose] at h
  split at h
  · next w hw => rw [hw, Except.ok.inj h]
  · cases h

namespace PartialSettings

variable {p q : PartialSettings} {texts texts' : SettingTexts}

theorem SpelledBy.congr (hp : p.SpelledBy texts) (h : ∀ s, texts' s = texts s) : p.SpelledBy texts' :=
  fun s => h s ▸ hp s

theorem spelledBy_empty : empty.SpelledBy fun _ => none := by
  intro s
  cases s <;> rfl

/-- Setting a text changes one setting, to what the text spells. -/
theorem reads_of_set {text : String} {s : Setting} (h : p.set text s = .ok q) :
    q.Reads (some text) s ∧ ∀ s', s' ≠ s → ∀ text?, p.Reads text? s' → q.Reads text? s' := by
  cases s with
  | manifestKey =>
    obtain rfl := Except.ok.inj h
    refine ⟨rfl, fun s' hs' text? hp => ?_⟩
    cases s' <;> simp_all [Reads]
  | logLevel =>
    rw [set] at h
    split at h
    · next v hv =>
      obtain rfl := Except.ok.inj h
      refine ⟨congrArg some hv, fun s' hs' text? hp => ?_⟩
      cases s' <;> simp_all [Reads]
    · cases h
  | logFormat | logStream | color =>
    obtain ⟨v, hv, rfl⟩ := exists_of_map_eq_ok h
    refine ⟨congrArg some (spelled_of_choose hv), fun s' hs' text? hp => ?_⟩
    cases s' <;> simp_all [Reads]

theorem SpelledBy.set {text : String} {s : Setting} (hp : p.SpelledBy texts) (h : p.set text s = .ok q) :
    q.SpelledBy (Function.update texts s (some text)) := by
  obtain ⟨hsame, hother⟩ := reads_of_set h
  intro s'
  by_cases hs' : s' = s
  · subst hs'
    rw [Function.update_self]
    exact hsame
  · rw [Function.update_of_ne hs']
    exact hother s' hs' _ (hp s')

theorem SpelledBy.orElse (hp : p.SpelledBy texts) (hq : q.SpelledBy texts') :
    (p.orElse q).SpelledBy fun s => (texts s).or (texts' s) := by
  intro s
  cases s with
  | manifestKey => exact orElse_of_read (hp .manifestKey) (hq .manifestKey)
  | logLevel => exact orElse_of_read (hp .logLevel) (hq .logLevel)
  | logFormat => exact orElse_of_read (hp .logFormat) (hq .logFormat)
  | logStream => exact orElse_of_read (hp .logStream) (hq .logStream)
  | color => exact orElse_of_read (hp .color) (hq .color)

theorem SpelledBy.has_eq (hp : p.SpelledBy texts) (s : Setting) : p.has s = (texts s).isSome := by
  cases s with
  | manifestKey => exact isSome_eq_of_read (hp .manifestKey)
  | logLevel => exact isSome_eq_of_read (hp .logLevel)
  | logFormat => exact isSome_eq_of_read (hp .logFormat)
  | logStream => exact isSome_eq_of_read (hp .logStream)
  | color => exact isSome_eq_of_read (hp .color)

theorem SpelledBy.settings (hp : p.SpelledBy texts) : p.settings.SpelledBy texts where
  manifestKey := elim_of_read (hp .manifestKey) _
  logLevel := elim_of_read (hp .logLevel) _
  logFormat := elim_of_read (hp .logFormat) _
  logStream := elim_of_read (hp .logStream) _
  color := elim_of_read (hp .color) _

/-! ### Variables -/

variable {env : Environment} {given : PartialSettings}

theorem SpelledBy.ofVariables {l : List Setting} (hp : p.SpelledBy texts)
    (h : PartialSettings.ofVariables env given p l = .ok q) :
    q.SpelledBy fun s =>
      if s ∈ l ∧ given.has s = false then (env.get? s.variableName).or (texts s) else texts s := by
  induction l generalizing p texts with
  | nil =>
    obtain rfl := Except.ok.inj h
    simpa using hp
  | cons s₀ l ih =>
    rw [PartialSettings.ofVariables] at h
    split at h
    · next text hlacks htext =>
      split at h
      · next p' hset =>
        refine (ih (hp.set hset) h).congr fun s => ?_
        by_cases hs : s = s₀
        · subst hs
          simp [hlacks, htext]
        · simp [hs]
      · cases h
    · next hskip =>
      -- The first setting was given, or its variable is not set.
      refine (ih hp h).congr fun s => ?_
      by_cases hs : s = s₀
      · subst hs
        cases hlacks : given.has s with
        | true => simp
        | false => cases htext : env.get? s.variableName with
          | none => simp
          | some text => exact absurd htext (hskip text hlacks)
      · simp [hs]

/-- The environment stands in for the settings that are not given, with the texts of their variables. -/
theorem spelledBy_of_ofVariables_all (h : PartialSettings.ofVariables env given empty Setting.all = .ok q) :
    q.SpelledBy fun s => if given.has s then none else env.get? s.variableName := by
  refine (spelledBy_empty.ofVariables h).congr fun s => ?_
  have hmem : s ∈ Setting.all := by cases s <;> decide
  cases given.has s <;> simp [hmem]

end PartialSettings

end BuildOrder
