import BuildOrder.Proofs.Command.Agreement
import BuildOrder.Proofs.Command.Options

/-!
# Options on either side of a command's name

Settings that stand in front of a command's name are given to the top scope, and behind it to the scope of the command.
To compare the two, scan the rest of the arguments twice, once with nothing given and once with these settings given
already: as long as the arguments do not give any of them again, every step does the same, and in the end the one
scan has been given what the other has, and these settings besides.

The environment is asked at the end of both scopes. Whatever side the settings are on, it is asked for every setting
at the end of some scope, because none is given in both.
-/

namespace BuildOrder

namespace PartialSettings

/-- A parameter has a value in these settings. -/
def gives (p : PartialSettings) : Parameter → Bool
  | .setting s => p.has s
  | _ => false

private theorem has_orElse (q p : PartialSettings) (s : Setting) : (q.orElse p).has s = (q.has s || p.has s) := by
  cases s <;> simp [has, orElse]

private theorem set_orElse (q p : PartialSettings) (text : String) (s : Setting) :
    (q.orElse p).set text s = (q.set text s).map (·.orElse p) := by
  cases s with
  | manifestKey => rfl
  | logLevel =>
    rw [set, set]
    cases logLevel? text <;> rfl
  | logFormat =>
    rw [set, set]
    cases (choose text : Except Usage LogFormat) <;> rfl
  | logStream =>
    rw [set, set]
    cases (choose text : Except Usage LogStream) <;> rfl
  | color =>
    rw [set, set]
    cases (choose text : Except Usage Color) <;> rfl

end PartialSettings

variable {p : PartialSettings} {scope : Scope}

namespace Given

/-- What has been given, with these settings besides. -/
def above (g : Given) (p : PartialSettings) : Given := { g with settings := g.settings.orElse p }

private theorem has_above {g : Given} {q : Parameter} : (g.above p).has q = (g.has q || p.gives q) := by
  cases q with
  | setting s => exact PartialSettings.has_orElse g.settings p s
  | input | inputFormat | emit => exact (Bool.or_false _).symm

private theorem set_above (g : Given) (text : String) (q : Parameter) :
    (g.above p).set text q = (g.set text q).map (·.above p) := by
  cases q with
  | setting s =>
    rw [set, set, above, PartialSettings.set_orElse]
    cases g.settings.set text s <;> rfl
  | input =>
    rw [set, set]
    split <;> rfl
  | inputFormat =>
    rw [set, set]
    cases (choose text : Except Usage ManifestFormat) <;> rfl
  | emit =>
    rw [set, set]
    cases (choose text : Except Usage Emit) <;> rfl

theorem give_above {q : Parameter} (h : p.gives q = false) (g : Given) (text : String) :
    (g.above p).give q text = (g.give q text).map (·.above p) := by
  rw [give, give, has_above, h, Bool.or_false, set_above]
  split <;> rfl

end Given

namespace Scan

/-- A scan that has been given these settings besides. -/
def above (s : Scan) (p : PartialSettings) : Scan := { s with given := s.given.above p }

variable {s t : Scan} {a : String}

theorem settle_above (h : ∀ x ∈ s.unsettled, p.gives x.1 = false) : (s.above p).settle = s.settle.map (·.above p) := by
  obtain ⟨g, pending, literal⟩ := s
  match pending with
  | none => rfl
  | some (q, none) => rfl
  | some (q, some text) =>
    have hq : p.gives q = false := h (q, text) (List.mem_singleton_self _)
    simp only [settle, above, Given.give_above hq]
    cases g.give q text <;> rfl

theorem carryOut_above {switch : Switch} {attached : Option String} (h : ∀ x ∈ s.unsettled, p.gives x.1 = false)
    (hswitch : ∀ t q text, s.settle = .ok t → switch = .takes q → attached = some text → p.gives q = false) :
    (s.above p).carryOut scope switch attached = (s.carryOut scope switch attached).map (·.above p) := by
  rw [carryOut, carryOut, settle_above h]
  cases hsettle : s.settle with
  | error u => rfl
  | ok t =>
    cases switch with
    | takes q =>
      cases attached with
      | none => rfl
      | some text =>
        have hq : p.gives q = false := hswitch t q text hsettle rfl rfl
        simp only [Except.map, above, Given.give_above hq]
        cases t.given.give q text <;> rfl
    | help => rfl
    | version => rfl

theorem readPositional_above (h : ∀ x ∈ s.unsettled, p.gives x.1 = false) :
    (s.above p).readPositional scope a = (s.readPositional scope a).map (·.above p) := by
  cases scope with
  | flatten =>
    simp only [readPositional, settle_above h]
    change (if s.given.input.isSome || s.pending.any (fun p => p.1 = .input) then _ else _) = _
    split
    · rfl
    · cases s.settle <;> rfl
  | version => rfl
  | top =>
    simp only [readPositional]
    change (if s.literal && (Subcommand.ofName? a).isSome then _ else _) = _
    split <;> rfl

theorem carryOut_above_of_no_value {switch : Switch} (h : ∀ x ∈ s.unsettled, p.gives x.1 = false) :
    (s.above p).carryOut scope switch none = (s.carryOut scope switch none).map (·.above p) := by
  refine carryOut_above h ?_
  intro _ _ _ _ _ hnone
  cases hnone

theorem readLong_above {body : List Char} (h : ∀ x ∈ s.unsettled, p.gives x.1 = false)
    (hattached : ∀ t q text, s.settle = .ok t →
      scope.long? (String.ofList (body.takeWhile (· ≠ '='))) = some (.takes q) →
      Scope.attachedLong? body = some text → p.gives q = false) :
    (s.above p).readLong scope body = (s.readLong scope body).map (·.above p) := by
  rw [Scope.attachedLong?] at hattached
  cases hlong : scope.long? (String.ofList (body.takeWhile (· ≠ '='))) with
  | none =>
    simp only [readLong, hlong]
    rfl
  | some switch =>
    rw [hlong] at hattached
    cases hdrop : body.dropWhile (· ≠ '=') with
    | nil =>
      simp only [readLong, hlong, hdrop]
      cases switch <;> exact carryOut_above_of_no_value h
    | cons c value =>
      rw [hdrop] at hattached
      simp only [readLong, hlong, hdrop]
      cases switch with
      | takes q =>
        exact carryOut_above h fun t q' text hsettle hq htext => hattached t q' text hsettle (congrArg some hq) htext
      | help => rfl
      | version => rfl

theorem readShort_above {c : Char} {rest : List Char} (h : ∀ x ∈ s.unsettled, p.gives x.1 = false)
    (hattached : ∀ t q text, s.settle = .ok t → scope.short? c = some (.takes q) →
      Scope.attachedShort? rest = some text → p.gives q = false) :
    (s.above p).readShort scope (c :: rest) = (s.readShort scope (c :: rest)).map (·.above p) := by
  rw [readShort, readShort]
  cases hshort : scope.short? c with
  | none => rfl
  | some switch =>
    rw [hshort] at hattached
    cases switch with
    | takes q =>
      have hvalue : ∀ value, Scope.attachedShort? rest = some value →
          (s.above p).carryOut scope (.takes q) (some value) =
            (s.carryOut scope (.takes q) (some value)).map (·.above p) := fun value hrest =>
        carryOut_above h fun t q' text hsettle hq htext =>
          hattached t q' text hsettle (congrArg some hq) (hrest.trans htext)
      dsimp only
      split
      · exact carryOut_above_of_no_value h
      · exact hvalue _ rfl
      · next hempty hequals => exact hvalue _ (Scope.attachedShort?.eq_3 _ hempty hequals)
    | help => exact carryOut_above_of_no_value h
    | version => exact carryOut_above_of_no_value h

/-- Reading an argument does the same with more settings given, unless it gives one of them. -/
theorem read_above (h : ∀ x ∈ s.unsettled, p.gives x.1 = false)
    (hattached : ∀ t q text, s.literal = false → s.settle = .ok t → scope.kind a = .option q (some text) →
      p.gives q = false) :
    (s.above p).read scope a = (s.read scope a).map (·.above p) := by
  rw [read, read]
  cases hliteral : s.literal with
  | true =>
    have habove : (s.above p).literal = true := hliteral
    rw [habove, if_pos rfl, if_pos rfl]
    exact readPositional_above h
  | false =>
    have habove : (s.above p).literal = false := hliteral
    rw [habove]
    simp only [Bool.false_eq_true, if_false]
    split
    · rfl
    · next body hbody hlong =>
      refine readLong_above h fun t q text hsettle htakes htext => hattached t q text hliteral hsettle ?_
      rw [Scope.kind_of_long hlong hbody, htakes, htext]
      rfl
    · next c rest hdashes hlong hshort =>
      refine readShort_above h fun t q text hsettle htakes htext => hattached t q text hliteral hsettle ?_
      rw [Scope.kind_of_short hshort hlong, htakes, htext]
      rfl
    · have hawaiting : (s.above p).awaiting = s.awaiting := rfl
      rw [hawaiting]
      split
      · rfl
      · exact readPositional_above h

/-! ### Whole scans -/

/-- What the scan still has to give leaves these settings alone, or the scan is stuck. -/
def Spares (s : Scan) (scope : Scope) (arguments : List String) (p : PartialSettings) : Prop :=
  s.Stuck ∨ ∀ x ∈ s.owed scope arguments, p.gives x.1 = false

theorem Spares.unsettled {arguments : List String} (h : s.Spares scope arguments p) :
    ∀ x ∈ s.unsettled, p.gives x.1 = false := by
  obtain ⟨g, pending, literal⟩ := s
  match pending with
  | none => exact List.forall_mem_nil _
  | some (q, none) => exact List.forall_mem_nil _
  | some (q, some text) =>
    obtain ⟨-, q', hwaits⟩ | howed := h
    · cases hwaits
    · exact List.forall_mem_singleton.mpr (howed (q, text) (List.mem_cons_self ..))

theorem Spares.attached {rest : List String} {q : Parameter} {text : String} (h : s.Spares scope (a :: rest) p)
    (hliteral : s.literal = false) (hsettle : s.settle = .ok t) (hkind : scope.kind a = .option q (some text)) :
    p.gives q = false := by
  obtain hstuck | howed := h
  · exact absurd hsettle hstuck.settle_ne
  · obtain ⟨-, -, -, hwaits⟩ := giveAll_unsettled_of_settle hsettle
    rw [owed_eq_append hwaits, ahead_of_options hliteral, Scope.assigned_of_attached hkind] at howed
    exact howed (q, text) (List.mem_append_right _ (List.mem_cons_self ..))

theorem Spares.step {rest : List String} (h : s.Spares scope (a :: rest) p) (hread : s.read scope a = .ok t) :
    t.Spares scope rest p := by
  by_cases hstuck : t.Stuck
  · exact .inl hstuck
  · obtain ⟨l, howed, -⟩ := exists_owed_of_step (step_of_read hread) hstuck rest
    obtain hs | hspared := h
    · exact absurd (step_of_read hread) hs.not_step
    · rw [howed] at hspared
      exact .inr fun x hx => hspared x (List.mem_append_right l hx)

/-- A whole scan does the same with more settings given, and spares them to its end. -/
theorem readAll_above {arguments : List String} (h : s.Spares scope arguments p) :
    (s.above p).readAll scope arguments = (s.readAll scope arguments).map (·.above p) ∧
      ∀ t, s.readAll scope arguments = .ok t → t.Spares scope [] p := by
  induction arguments generalizing s with
  | nil => exact ⟨rfl, fun t ht => Except.ok.inj ht ▸ h⟩
  | cons a rest ih =>
    have hread : (s.above p).read scope a = (s.read scope a).map (·.above p) :=
      read_above h.unsettled fun t q text hliteral hsettle hkind => h.attached hliteral hsettle hkind
    rw [readAll, readAll, hread]
    cases hs : s.read scope a with
    | error u =>
      refine ⟨rfl, fun t ht => ?_⟩
      cases ht
    | ok t =>
      dsimp only [Except.map]
      exact ih (h.step hs)

theorem settle_above_of_readAll {arguments : List String} (h : s.Spares scope arguments p)
    (hread : s.readAll scope arguments = .ok t) : (t.above p).settle = t.settle.map (·.above p) :=
  settle_above ((readAll_above h).2 t hread).unsettled

end Scan

/-! ### The environment -/

private theorem forM_eq_ok_iff {ε α : Type} {f : α → Except ε Unit} {l : List α} :
    forM l f = .ok () ↔ ∀ x ∈ l, f x = .ok () := by
  induction l with
  | nil => exact iff_of_true rfl (List.forall_mem_nil _)
  | cons x l ih =>
    rw [List.forM_cons, List.forall_mem_cons, ← ih]
    cases f x with
    | error e => exact iff_of_false nofun nofun
    | ok u => exact (and_iff_right rfl).symm

/-- The variable of a setting spells a value, if it is set. -/
def Environment.Fills (env : Environment) (s : Setting) : Prop :=
  ∀ text, env.get? s.variableName = some text → Accepted (PartialSettings.empty.set text s) = .ok ()

variable {env : Environment}

theorem PartialSettings.variableCheck_eq_ok_iff {given : PartialSettings} {s : Setting} :
    variableCheck env given s = .ok () ↔ given.has s = true ∨ env.Fills s := by
  rw [variableCheck, Environment.Fills]
  cases given.has s with
  | true => simp
  | false => cases env.get? s.variableName <;> simp

/-- A scope can be ended if nothing waits and the variables of all settings that it lacks spell values. -/
theorem Scan.exists_finish_iff {s t : Scan} (hsettle : s.settle = .ok t) :
    (∃ o, s.finish env = .ok o) ↔ ∀ setting, t.given.settings.has setting = true ∨ env.Fills setting := by
  have hall : ∀ setting, setting ∈ Setting.all := fun setting => by cases setting <;> decide
  have hchecks : forM Setting.all (PartialSettings.variableCheck env t.given.settings) = .ok () ↔
      ∀ setting, t.given.settings.has setting = true ∨ env.Fills setting := by
    rw [forM_eq_ok_iff]
    exact ⟨fun h setting => PartialSettings.variableCheck_eq_ok_iff.mp (h setting (hall setting)),
      fun h setting _ => PartialSettings.variableCheck_eq_ok_iff.mpr (h setting)⟩
  rw [← hchecks, finish, hsettle, ← PartialSettings.accepted_ofVariables (p := .empty)]
  dsimp only
  cases PartialSettings.ofVariables env t.given.settings .empty Setting.all <;> simp [Accepted, Except.map]

/-! ### Settings that are given -/

private theorem exists_mem_of_lastText? {l : List (Parameter × String)} {s : Setting}
    (h : (lastText? l s).isSome = true) : ∃ text, (Parameter.setting s, text) ∈ l := by
  obtain ⟨text, htext⟩ := Option.isSome_iff_exists.mp h
  obtain ⟨⟨q, text'⟩, hmem, hfor⟩ := List.mem_filterMap.mp (List.mem_of_getLast? htext)
  rw [textFor?] at hfor
  split at hfor
  · next hq => exact ⟨text', hq ▸ hmem⟩
  · cases hfor

theorem Given.exists_mem_of_has {l : List (Parameter × String)} {g : Given} {s : Setting}
    (h : none.giveAll l = .ok g) (hs : g.settings.has s = true) : ∃ text, (Parameter.setting s, text) ∈ l := by
  rw [(Request.spelledBy_of_giveAll h).has_eq] at hs
  exact exists_mem_of_lastText? hs

theorem Given.eq_above_of_giveAll {l : List (Setting × String)} {g g' : Given}
    (h : g.giveAll (settingAssignments l) = .ok g') : g' = { g with settings := g'.settings } := by
  rw [giveAll_settingAssignments] at h
  obtain ⟨p, -, rfl⟩ := exists_of_map_eq_ok h
  rfl

/-- The arguments give the setting, as far as they can be read. -/
def Scope.Mentions (scope : Scope) (arguments : List String) (s : Setting) : Prop :=
  ∃ text, (Parameter.setting s, text) ∈ scope.assigned arguments

theorem Scan.spares_start {arguments : List String} (h : ∀ s, p.has s = true → ¬ scope.Mentions arguments s) :
    start.Spares scope arguments p := by
  refine .inr fun x hx => ?_
  obtain ⟨q, text⟩ := x
  rw [Request.owed_start] at hx
  cases q with
  | setting s => exact Bool.eq_false_iff.mpr fun hs => h s hs ⟨text, hx⟩
  | input | inputFormat | emit => rfl

/-! ### Requests -/

namespace Request

variable {rest : List String} {r r' : Request}

theorem ofCommand_eq_ok_iff {outer : Scan} :
    ofCommand scope outer rest env = .ok r ↔
      ∃ t inner o, Scan.start.readAll scope rest = .ok t ∧ t.finish env = .ok inner ∧ outer.finish env = .ok o ∧
        ofOutcomes (some scope) inner o = r := by
  rw [ofCommand]
  cases Scan.start.readAll scope rest with
  | error u => simp
  | ok t =>
    cases hinner : t.finish env with
    | error u => simp [hinner]
    | ok inner =>
      cases houter : outer.finish env with
      | error u => simp [hinner]
      | ok o => simp [hinner]

variable {c : Subcommand} {word : String} {pre : List (Setting × String)} {post : List String}

theorem ofArguments_of_readTop {arguments : List String} {outer : Scan} (hc : c ≠ .help)
    (htop : Scan.start.readTop arguments = .ok (outer, some (c, rest))) :
    ofArguments arguments env = ofCommand c.scope outer rest env := by
  rw [ofArguments, htop]
  cases c with
  | flatten => rfl
  | version => rfl
  | help => exact absurd rfl hc

theorem readTop_name {s : Scan} (hword : Subcommand.ofName? word = some c) (hpending : s.pending = none)
    (hliteral : s.literal = false) : s.readTop (word :: rest) = .ok (s, some (c, rest)) := by
  have hleaves : s.leaves word = some c := by simp [Scan.leaves, Scan.awaiting, hpending, hliteral, hword]
  rw [Scan.readTop, hleaves]

theorem ofArguments_before (hc : c ≠ .help) (hword : Subcommand.ofName? word = some c)
    (hgive : Given.none.giveAll (settingAssignments pre) = .ok (Given.none.above p)) :
    ofArguments (settingArguments pre ++ word :: post) env = ofCommand c.scope (Scan.start.above p) post env := by
  refine ofArguments_of_readTop hc ?_
  rw [Scan.readTop_settingArguments pre rfl rfl, show Scan.start.given = Given.none from rfl, hgive]
  exact readTop_name hword rfl rfl

theorem ofArguments_behind_eq_ok_iff (hc : c ≠ .help) (hword : Subcommand.ofName? word = some c)
    (hgive : Given.none.giveAll (settingAssignments pre) = .ok (Given.none.above p)) :
    ofArguments (word :: (settingArguments pre ++ post)) env = .ok r ↔
      ∃ t inner o, (Scan.start.above p).readAll c.scope post = .ok t ∧ t.finish env = .ok inner ∧
        Scan.start.finish env = .ok o ∧ ofOutcomes (some c.scope) inner o = r := by
  rw [ofArguments_of_readTop hc (readTop_name hword rfl rfl), ofCommand_eq_ok_iff,
    Scan.readAll_settingArguments pre rfl rfl, show Scan.start.given = Given.none from rfl, hgive]
  exact Iff.rfl

theorem argumentText?_before (hword : Subcommand.ofName? word = some c) :
    argumentText? (settingArguments pre ++ word :: post) = argumentText? (word :: (settingArguments pre ++ post)) := by
  obtain ⟨-, hplain, hentered⟩ := Scan.kind_of_leaves (s := .start) hword
  rw [argumentText?, argumentText?, Scope.assigned_settingArguments, Scope.assigned_of_entered hplain hentered,
    Scope.assigned_of_entered hplain hentered, Scope.assigned_settingArguments]

theorem exists_finish_above_iff {t : Scan} (hpost : ∀ s, p.has s = true → ¬ scope.Mentions post s)
    (hread : Scan.start.readAll scope post = .ok t) :
    ((∃ o, t.finish env = .ok o) ∧ ∃ o, (Scan.start.above p).finish env = .ok o) ↔
      (∃ o, (t.above p).finish env = .ok o) ∧ ∃ o, Scan.start.finish env = .ok o := by
  have habove := Scan.settle_above_of_readAll (Scan.spares_start hpost) hread
  cases hsettle : t.settle with
  | error u =>
    rw [hsettle] at habove
    simp [Scan.finish, hsettle, habove, Except.map]
  | ok u =>
    rw [hsettle] at habove
    have htwice : ∀ s, u.given.settings.has s = true → p.has s = false := by
      intro s hs
      rw [← Bool.not_eq_true]
      exact fun hp => hpost s hp (Given.exists_mem_of_has (Scan.giveAll_owed_of_readAll hread hsettle) hs)
    rw [Scan.exists_finish_iff hsettle, Scan.exists_finish_iff (s := Scan.start.above p) rfl,
      Scan.exists_finish_iff habove, Scan.exists_finish_iff (s := .start) rfl]
    change (_ ∧ ∀ s, (PartialSettings.empty.orElse p).has s = true ∨ _) ↔
      (∀ s, (u.given.settings.orElse p).has s = true ∨ _) ∧ ∀ s, PartialSettings.empty.has s = true ∨ _
    simp only [PartialSettings.has_orElse, PartialSettings.has_empty, Bool.false_or, Bool.or_eq_true,
      Bool.false_eq_true, false_or]
    constructor
    · rintro ⟨hinner, houter⟩
      refine ⟨fun s => (hinner s).imp_left .inl, fun s => ?_⟩
      obtain hs | hfills := hinner s
      · exact (houter s).resolve_left (Bool.eq_false_iff.mp (htwice s hs))
      · exact hfills
    · rintro ⟨-, hall⟩
      exact ⟨fun s => .inr (hall s), fun s => .inr (hall s)⟩

theorem given_finish_above {t : Scan} {inner inner' : Scope.Outcome}
    (hsettle : (t.above p).settle = t.settle.map (·.above p)) (hinner : t.finish env = .ok inner)
    (hinner' : (t.above p).finish env = .ok inner') : inner'.given = inner.given.above p := by
  obtain ⟨u, hu, hgiven, -⟩ := Scan.exists_settle_of_finish hinner
  obtain ⟨u', hu', hgiven', -⟩ := Scan.exists_settle_of_finish hinner'
  rw [hu, hu'] at hsettle
  rw [hgiven, hgiven', Except.ok.inj hsettle]
  rfl

theorem command_ofOutcomes_above {inner inner' outer outer' : Scope.Outcome} (h : inner'.given = inner.given.above p) :
    (ofOutcomes (some scope) inner' outer').command = (ofOutcomes (some scope) inner outer).command := by
  rw [ofOutcomes, ofOutcomes, h]
  rfl

private theorem eq_of_accepted_either_side (hword : Subcommand.ofName? word = some c)
    (hbefore : ofArguments (settingArguments pre ++ word :: post) env = .ok r)
    (hbehind : ofArguments (word :: (settingArguments pre ++ post)) env = .ok r') (hcommand : r'.command = r.command) :
    r = r' := by
  have hsettings := settings_spelledBy hbefore
  rw [argumentText?_before hword] at hsettings
  have heq : r.settings = r'.settings := hsettings.unique (settings_spelledBy hbehind)
  obtain ⟨settings, command⟩ := r
  obtain ⟨settings', command'⟩ := r'
  obtain rfl : settings = settings' := heq
  obtain rfl : command' = command := hcommand
  rfl

/-- The same request is made if settings that were given in front of the name are given behind it. -/
theorem ofArguments_either_side (hc : c ≠ .help) (hword : Subcommand.ofName? word = some c)
    (hgive : Given.none.giveAll (settingAssignments pre) = .ok (Given.none.above p))
    (hpost : ∀ s, p.has s = true → ¬ c.scope.Mentions post s) :
    ofArguments (settingArguments pre ++ word :: post) env = .ok r ↔
      ofArguments (word :: (settingArguments pre ++ post)) env = .ok r := by
  have hspares := Scan.spares_start hpost
  have habove := (Scan.readAll_above hspares).1
  constructor
  · intro hbefore
    have haccepted := hbefore
    rw [ofArguments_before hc hword hgive, ofCommand_eq_ok_iff] at haccepted
    obtain ⟨t, inner, outer, hread, hinner, houter, rfl⟩ := haccepted
    obtain ⟨⟨inner', hinner'⟩, outer', houter'⟩ :=
      (exists_finish_above_iff hpost hread).mp ⟨⟨inner, hinner⟩, outer, houter⟩
    rw [hread] at habove
    have hbehind := (ofArguments_behind_eq_ok_iff hc hword hgive).mpr
      ⟨t.above p, inner', outer', habove, hinner', houter', rfl⟩
    have hgiven := given_finish_above (Scan.settle_above_of_readAll hspares hread) hinner hinner'
    rwa [eq_of_accepted_either_side hword hbefore hbehind (command_ofOutcomes_above hgiven)]
  · intro hbehind
    have haccepted := hbehind
    rw [ofArguments_behind_eq_ok_iff hc hword hgive] at haccepted
    obtain ⟨t', inner', outer', hread', hinner', houter', rfl⟩ := haccepted
    rw [hread'] at habove
    obtain ⟨t, hread, rfl⟩ := exists_of_map_eq_ok habove.symm
    obtain ⟨⟨inner, hinner⟩, outer, houter⟩ :=
      (exists_finish_above_iff hpost hread).mpr ⟨⟨inner', hinner'⟩, outer', houter'⟩
    have hbefore : ofArguments (settingArguments pre ++ word :: post) env =
        .ok (ofOutcomes (some c.scope) inner outer) := by
      rw [ofArguments_before hc hword hgive, ofCommand_eq_ok_iff]
      exact ⟨t, inner, outer, hread, hinner, houter, rfl⟩
    have hgiven := given_finish_above (Scan.settle_above_of_readAll hspares hread) hinner hinner'
    rwa [← eq_of_accepted_either_side hword hbefore hbehind (command_ofOutcomes_above hgiven)]

/-- **Settings mean the same on either side of a command's name.** Options that give settings, whatever their texts are
and whatever the environment is, stand in front of the name of a command or behind it, where arguments follow that do
not give these settings themselves. Either both are refused, or both make the same request. -/
theorem settings_on_either_side (env : Environment) (c : Subcommand) (word : String) (pre : List (Setting × String))
    (post : List String) (hc : c ≠ .help) (hword : Subcommand.ofName? word = some c)
    (hpost : ∀ o ∈ pre, ¬ c.scope.Mentions post o.1) (r : Request) :
    ofArguments (settingArguments pre ++ word :: post) env = .ok r ↔
      ofArguments (word :: (settingArguments pre ++ post)) env = .ok r := by
  cases hgive : Given.none.giveAll (settingAssignments pre) with
  | error u =>
    -- The texts are bad, or a setting is given twice: the first scope that is scanned says so.
    have hbefore : ofArguments (settingArguments pre ++ word :: post) env = .error u := by
      rw [ofArguments, Scan.readTop_settingArguments pre rfl rfl, show Scan.start.given = Given.none from rfl, hgive]
    have hbehind : ofArguments (word :: (settingArguments pre ++ post)) env = .error u := by
      rw [ofArguments_of_readTop hc (readTop_name hword rfl rfl), ofCommand,
        Scan.readAll_settingArguments pre rfl rfl, show Scan.start.given = Given.none from rfl, hgive]
    rw [hbefore, hbehind]
  | ok g =>
    have hg : g = Given.none.above g.settings := Given.eq_above_of_giveAll hgive
    refine ofArguments_either_side hc hword (hg ▸ hgive) fun s hs => ?_
    obtain ⟨text, hmem⟩ := Given.exists_mem_of_has hgive hs
    obtain ⟨o, ho, heq⟩ := List.mem_map.mp hmem
    obtain rfl : o.1 = s := Parameter.setting.inj (Prod.mk.inj heq).1
    exact hpost o ho

/-- Behind two dashes an argument that looks like an option gives no setting. -/
theorem settings_on_either_side_dashes :
    let env : Environment := ⟨[("MKDEPS_LOG_LEVEL", "3"), ("MKDEPS_LOG_FORMAT", "yml")]⟩
    let pre : List (Setting × String) := [(.logLevel, "1"), (.manifestKey, "a=b")]
    let post := ["-c", "never", "--", "--log-level=9"]
    let request : Request := ⟨⟨"a=b", 1, .yaml, .stderr, .never⟩, some (.flatten (some "--log-level=9") none .lines)⟩
    (∀ o ∈ pre, ¬ Scope.flatten.Mentions post o.1) ∧
      ofArguments ["--log-level=1", "--manifest-key=a=b", "flatten", "-c", "never", "--", "--log-level=9"] env =
        .ok request ∧
      ofArguments ["flatten", "--log-level=1", "--manifest-key=a=b", "-c", "never", "--", "--log-level=9"] env =
        .ok request := by
  intro env pre post request
  have hassigned : Scope.flatten.assigned post = [(.setting .color, "never"), (.input, "--log-level=9")] := rfl
  have hpost : ∀ o ∈ pre, ¬ Scope.flatten.Mentions post o.1 := by
    simp [pre, Scope.Mentions, hassigned]
  have hbefore : ofArguments (settingArguments pre ++ "flatten" :: post) env = .ok request := rfl
  exact ⟨hpost, hbefore, (settings_on_either_side env .flatten "flatten" pre post nofun rfl hpost request).mp hbefore⟩

end Request

end BuildOrder
