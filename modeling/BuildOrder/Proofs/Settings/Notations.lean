import BuildOrder.Proofs.Command.Agreement
import BuildOrder.Proofs.Settings.Fields

/-!
# Settings in both notations

Options and the fields of an object give settings one after the other, the options in their order and the fields in
theirs. The order does not matter: settings are accepted if none is given twice and every text spells a value by
itself, and they are then what their texts spell. So where no variable of the environment stands in, the arguments and
the object are accepted together and come to the same settings.
-/

namespace BuildOrder

namespace PartialSettings

variable {p q : PartialSettings} {texts : SettingTexts} {l l' : List (Setting × String)}

private theorem has_of_set {text : String} {s : Setting} (h : p.set text s = .ok q) (s' : Setting) :
    q.has s' = (decide (s' = s) || p.has s') := by
  cases s with
  | manifestKey =>
    obtain rfl := Except.ok.inj h
    cases s' <;> rfl
  | logLevel =>
    rw [set] at h
    split at h
    · obtain rfl := Except.ok.inj h
      cases s' <;> rfl
    · cases h
  | logFormat | logStream | color =>
    obtain ⟨v, -, rfl⟩ := exists_of_map_eq_ok h
    cases s' <;> rfl

/-- Whether a text is accepted does not depend on the other settings. -/
theorem exists_set_iff (p q : PartialSettings) (text : String) (s : Setting) :
    (∃ p', p.set text s = .ok p') ↔ ∃ q', q.set text s = .ok q' := by
  have haccepted := accepted_set p q text s
  obtain ⟨u, hp, hq⟩ | ⟨p', q', hp, hq, -⟩ := cases_of_map_eq_map haccepted
  · rw [hp, hq]
  · exact iff_of_true ⟨p', hp⟩ ⟨q', hq⟩

/-- Settings are accepted if none is given twice or has a value already, and every text is accepted by itself. -/
theorem exists_giveAll_iff :
    (∃ q, p.giveAll l = .ok q) ↔
      (l.map Prod.fst).Nodup ∧ ∀ o ∈ l, p.has o.1 = false ∧ ∃ q, empty.set o.2 o.1 = .ok q := by
  induction l generalizing p with
  | nil => exact iff_of_true ⟨p, rfl⟩ ⟨List.nodup_nil, List.forall_mem_nil _⟩
  | cons o l ih =>
    obtain ⟨s, text⟩ := o
    rw [giveAll, List.map_cons, List.nodup_cons, List.forall_mem_cons, exists_set_iff empty p]
    cases hhas : p.has s with
    | true => simp
    | false =>
      cases hset : p.set text s with
      | error u => simp
      | ok q =>
        have hq : ∀ o : Setting × String, q.has o.1 = false ↔ o.1 ≠ s ∧ p.has o.1 = false := by
          intro o
          rw [has_of_set hset, Bool.or_eq_false_iff, decide_eq_false_iff_not]
        have hnot : s ∉ l.map Prod.fst ↔ ∀ o ∈ l, o.1 ≠ s := by
          rw [← List.forall_mem_ne', List.forall_mem_map]
        rw [if_neg (by decide), ih]
        simp only [hq, hnot]
        constructor
        · rintro ⟨hnodup, hall⟩
          exact ⟨⟨fun o ho => (hall o ho).1.1, hnodup⟩, ⟨trivial, q, rfl⟩, fun o ho => ⟨(hall o ho).1.2, (hall o ho).2⟩⟩
        · rintro ⟨⟨hne, hnodup⟩, -, hall⟩
          exact ⟨hnodup, fun o ho => ⟨⟨hne o ho, (hall o ho).1⟩, (hall o ho).2⟩⟩

theorem SpelledBy.giveAll (hp : p.SpelledBy texts) (h : p.giveAll l = .ok q) :
    q.SpelledBy fun s => (l.lookup s).or (texts s) := by
  induction l generalizing p texts with
  | nil => exact Except.ok.inj h ▸ hp
  | cons o l ih =>
    obtain ⟨s₀, text⟩ := o
    rw [PartialSettings.giveAll] at h
    split at h
    · cases h
    · split at h
      · next p' hset =>
        refine (ih (hp.set hset) h).congr fun s => ?_
        rw [List.lookup_cons]
        by_cases hs : s = s₀
        · subst hs
          -- The rest does not give the setting again, because it has a value by now.
          have hnone : l.lookup s = none := by
            refine List.lookup_eq_none_iff.mpr fun o ho => bne_iff_ne.mpr ?_
            rintro rfl
            have hlacks := ((exists_giveAll_iff.mp ⟨q, h⟩).2 o ho).1
            simp [has_of_set hset] at hlacks
          simp [hnone]
        · rw [beq_eq_false_iff_ne.mpr hs, Function.update_of_ne hs]
      · cases h

private theorem lookup_eq_some_iff_mem (honce : (l.map Prod.fst).Nodup) {s : Setting} {text : String} :
    l.lookup s = some text ↔ (s, text) ∈ l := by
  induction l with
  | nil => simp
  | cons o l ih =>
    obtain ⟨s₀, text₀⟩ := o
    rw [List.map_cons, List.nodup_cons] at honce
    rw [List.lookup_cons, List.mem_cons, ← ih honce.2]
    by_cases hs : s = s₀
    · subst hs
      have hnone : l.lookup s ≠ some text := fun h =>
        honce.1 (List.mem_map.mpr ⟨(s, text), (ih honce.2).mp h, rfl⟩)
      simp [hnone, eq_comm]
    · rw [beq_eq_false_iff_ne.mpr hs]
      simp [hs]

theorem exists_giveAll_perm (h : l.Perm l') : (∃ q, p.giveAll l = .ok q) ↔ ∃ q, p.giveAll l' = .ok q := by
  rw [exists_giveAll_iff, exists_giveAll_iff, (h.map Prod.fst).nodup_iff]
  simp only [h.mem_iff]

private theorem lookup_perm (h : l.Perm l') (honce : (l.map Prod.fst).Nodup) (s : Setting) :
    l.lookup s = l'.lookup s := by
  have honce' : (l'.map Prod.fst).Nodup := (h.map Prod.fst).nodup_iff.mp honce
  ext text
  rw [lookup_eq_some_iff_mem honce, lookup_eq_some_iff_mem honce', h.mem_iff]

theorem settings_spelledBy_of_giveAll (h : empty.giveAll l = .ok q) :
    q.settings.SpelledBy fun s => l.lookup s := by
  have hq := spelledBy_empty.giveAll h
  simp only [Option.or_none] at hq
  exact hq.settings

theorem settings_eq_of_giveAll_perm {q' : PartialSettings} (h : l.Perm l') (hq : empty.giveAll l = .ok q)
    (hq' : empty.giveAll l' = .ok q') : q.settings = q'.settings := by
  have honce := (exists_giveAll_iff.mp ⟨q, hq⟩).1
  have hlookup : (fun s => l'.lookup s) = fun s => l.lookup s := funext fun s => (lookup_perm h honce s).symm
  have hspelled := settings_spelledBy_of_giveAll hq'
  rw [hlookup] at hspelled
  exact (settings_spelledBy_of_giveAll hq).unique hspelled

/-! ### Arguments -/

theorem ofVariables_of_unset {env : Environment} {given : PartialSettings} {settings : List Setting}
    (hunset : ∀ s : Setting, env.get? s.variableName = none) : ofVariables env given p settings = .ok p := by
  induction settings with
  | nil => rfl
  | cons s settings ih =>
    rw [ofVariables, hunset s]
    cases given.has s <;> exact ih

private theorem orElse_empty : p.orElse empty = p := by
  simp [orElse, empty]

end PartialSettings

/-- Options alone make a request for their settings and no command. -/
theorem Request.ofArguments_settingArguments {env : Environment} (l : List (Setting × String))
    (hunset : ∀ s : Setting, env.get? s.variableName = none) :
    ofArguments (settingArguments l) env = (PartialSettings.empty.giveAll l).map fun p => ⟨p.settings, none⟩ := by
  have htop : Scan.start.readTop (settingArguments l ++ []) = _ := Scan.readTop_settingArguments l rfl rfl
  rw [List.append_nil, Given.giveAll_settingAssignments, show Scan.start.given.settings = .empty from rfl] at htop
  cases hgive : PartialSettings.empty.giveAll l with
  | error u =>
    rw [hgive] at htop
    rw [ofArguments, htop]
    rfl
  | ok p =>
    let given : Given := { Given.none with settings := p }
    rw [hgive] at htop
    have hread : Scan.start.readTop (settingArguments l) = .ok (⟨given, none, false⟩, none) := htop
    have hfinish : Scan.finish ⟨given, none, false⟩ env = .ok ⟨given, .empty⟩ := by
      rw [Scan.finish, Scan.settle]
      dsimp only
      rw [PartialSettings.ofVariables_of_unset hunset]
    rw [ofArguments, hread]
    dsimp only
    rw [hfinish]
    change Except.ok (⟨(((PartialSettings.empty.orElse p).orElse .empty).orElse .empty).settings, none⟩ : Request) = _
    rw [PartialSettings.orElse_empty, PartialSettings.orElse_empty]
    rfl

/-- Options for texts that both notations have are accepted if no setting comes twice and a verbosity fits. -/
theorem Request.exists_ofArguments_settingArguments_iff {env : Environment} {l : List (Setting × String)}
    (hunset : ∀ s : Setting, env.get? s.variableName = none) (hcanonical : ∀ o ∈ l, o.1.Canonical o.2) :
    (∃ r, ofArguments (settingArguments l) env = .ok r) ↔ (l.map Prod.fst).Nodup ∧ ∀ o ∈ l, o.1.Fits o.2 := by
  rw [ofArguments_settingArguments l hunset, exists_map_eq_ok_iff, PartialSettings.exists_giveAll_iff]
  refine and_congr_right fun _ => forall₂_congr fun o ho => ?_
  rw [(hcanonical o ho).exists_set_iff, PartialSettings.has_empty]
  exact and_iff_right rfl

/-- **Both notations read the same settings.** Settings are chosen with texts that both notations have, and given by
options in one order, and by the fields of an object in another, where other fields may stand among them. If no
variable stands in, then both are accepted or both are refused: accepted if nothing is chosen twice and a verbosity
fits into a byte. They come to the same settings: what is chosen is what its text spells, and the rest is the
default. -/
theorem Settings.parse_agrees_with_arguments (env : Environment) (chosen held : List (Setting × String))
    (text : String) (hunset : ∀ s : Setting, env.get? s.variableName = none)
    (hcanonical : ∀ o ∈ chosen, o.1.Canonical o.2) (horder : held.Perm chosen)
    (hobject : Json.ObjectText held text.toList) :
    ((∃ settings, Settings.parse text = .ok settings) ↔
        ∃ r, Request.ofArguments (settingArguments chosen) env = .ok r) ∧
      ((∃ r, Request.ofArguments (settingArguments chosen) env = .ok r) ↔
        (chosen.map Prod.fst).Nodup ∧ ∀ o ∈ chosen, o.1.Fits o.2) ∧
      ∀ settings r, Settings.parse text = .ok settings →
        Request.ofArguments (settingArguments chosen) env = .ok r →
          settings = r.settings ∧ settings.SpelledBy fun s => chosen.lookup s := by
  have hheld : ∀ o ∈ held, o.1.Canonical o.2 := fun o ho => hcanonical o (horder.mem_iff.mp ho)
  have hparse : (∃ settings, Settings.parse text = .ok settings) ↔ ∃ p, PartialSettings.empty.giveAll held = .ok p := by
    simp only [Settings.parse_eq_ok_iff hheld hobject, exists_map_eq_ok_iff]
  refine ⟨?_, Request.exists_ofArguments_settingArguments_iff hunset hcanonical, ?_⟩
  · rw [hparse, PartialSettings.exists_giveAll_perm horder, Request.ofArguments_settingArguments chosen hunset,
      exists_map_eq_ok_iff]
  · intro settings r hsettings hr
    rw [Settings.parse_eq_ok_iff hheld hobject] at hsettings
    rw [Request.ofArguments_settingArguments chosen hunset] at hr
    obtain ⟨p, hp, rfl⟩ := exists_of_map_eq_ok hsettings
    obtain ⟨q, hq, rfl⟩ := exists_of_map_eq_ok hr
    have heq := PartialSettings.settings_eq_of_giveAll_perm horder hp hq
    refine ⟨heq, ?_⟩
    rw [heq]
    exact PartialSettings.settings_spelledBy_of_giveAll hq

/-- A field of another name is passed over, and a name may be spelled with an escape. -/
theorem Settings.parse_agrees_with_arguments_escapes :
    let env : Environment := ⟨[("MKDEPS_COLORS", "1")]⟩
    let chosen : List (Setting × String) := [(.logLevel, "3"), (.color, "never")]
    let settings : Settings := ⟨"deps", 3, .text, .stderr, .never⟩
    (∀ s : Setting, env.get? s.variableName = none) ∧ (∀ o ∈ chosen, o.1.Canonical o.2) ∧
      Json.ObjectText chosen.reverse
        "\x7b\"color\":\"n\\u0065ver\", \"x\":[1.5], \"log_level\" : 3\x7d".toList ∧
      Request.ofArguments ["--log-level=3", "--color=never"] env = .ok ⟨settings, none⟩ ∧
      Settings.parse "\x7b\"color\":\"n\\u0065ver\", \"x\":[1.5], \"log_level\" : 3\x7d" = .ok settings := by
  intro env chosen settings
  have hunset : ∀ s : Setting, env.get? s.variableName = none := by
    intro s
    cases s <;> decide
  have hcanonical : ∀ o ∈ chosen, o.1.Canonical o.2 := by
    simp only [chosen, List.forall_mem_cons, Setting.Canonical]
    exact ⟨⟨3, by decide⟩, by decide, List.forall_mem_nil _⟩
  have hlevel : Json.Fields [(.logLevel, "3")] "log_level\" : 3\x7d".toList [] :=
    .last (.setting (Json.spells_written "log_level".toList _) (.more rfl .none) (.more rfl .none) .level) .none
  have hskipped : ∀ t, Json.Derives .value ("[1.5]".toList ++ t) t := fun t =>
    .filled (f := .list) .none .list
      (.scalar .none (.number (.parts (.digits (by decide) (.last rfl)) (.digits (.last rfl)) .absent))) (.close .none)
  have hname : ∀ t, Json.Spells ("n\\u0065ver\"".toList ++ t) "never".toList t := fun t =>
    .plain (by decide) (by decide) (by decide)
      (.escaped (.unit (n := 0x65) rfl (by decide)) (Json.spells_written "ver".toList t))
  have hfields : Json.Fields chosen.reverse "color\":\"n\\u0065ver\", \"x\":[1.5], \"log_level\" : 3\x7d".toList [] :=
    .more (.setting (Json.spells_written "color".toList _) .none .none (.string (by decide) (hname _))) .none
      (.more rfl .none)
      (.more (.other (Json.spells_written "x".toList _) rfl .none (hskipped _)) .none (.more rfl .none) hlevel)
  have hobject : Json.ObjectText chosen.reverse
      "\x7b\"color\":\"n\\u0065ver\", \"x\":[1.5], \"log_level\" : 3\x7d".toList :=
    .fields (u := '"' :: _) .none .none hfields .none
  have hrequest : Request.ofArguments ["--log-level=3", "--color=never"] env = .ok ⟨settings, none⟩ := rfl
  obtain ⟨haccepted, -, hsame⟩ := Settings.parse_agrees_with_arguments env chosen _ _ hunset hcanonical
    chosen.reverse_perm hobject
  obtain ⟨settings', hsettings⟩ := haccepted.mpr ⟨_, hrequest⟩
  have heq : settings' = settings := (hsame settings' _ hsettings hrequest).1
  exact ⟨hunset, hcanonical, hobject, hrequest, heq ▸ hsettings⟩

end BuildOrder
