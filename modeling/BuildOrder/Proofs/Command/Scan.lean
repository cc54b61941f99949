import BuildOrder.Proofs.Command.Assigned

/-!
# What a scan gives

Scanning settles a parameter only when the next one comes, so at any moment one may be pending. What a scan still has
to give is what is pending and what the arguments to come assign; `Scan.owed` is this list, and a step of the scan
takes from its front what it gives. So a scan that comes to its end has been given exactly what the arguments assign.

A scan can get stuck: behind two dashes an option that waits for its value waits forever. What it is owed makes no
sense then, and the lemmas leave it out, because such a scan never ends well.
-/

namespace BuildOrder

namespace Scan

variable {s t : Scan} {scope : Scope} {a : String}

/-! ### Steps -/

/-- The parameter that is pending with its value. -/
def unsettled (s : Scan) : List (Parameter × String) :=
  match s.pending with
  | some (p, some text) => [(p, text)]
  | _ => []

/-- Settling gives what is pending, and nothing may be waiting for a value. -/
theorem giveAll_unsettled_of_settle (h : s.settle = .ok t) :
    s.given.giveAll s.unsettled = .ok t.given ∧ t.pending = none ∧ t.literal = s.literal ∧
      ∀ p, s.pending ≠ some (p, none) := by
  rw [settle] at h
  split at h
  · next hpending =>
    obtain rfl := Except.ok.inj h
    refine ⟨?_, hpending, rfl, fun p hp => ?_⟩
    · rw [unsettled, hpending]
      rfl
    · rw [hpending] at hp
      cases hp
  · cases h
  · next p text hpending =>
    split at h
    · next g hgive =>
      obtain rfl := Except.ok.inj h
      refine ⟨?_, rfl, rfl, fun p hp => ?_⟩
      · rw [unsettled, hpending]
        exact Given.giveAll_cons_of_give hgive
      · rw [hpending] at hp
        cases hp
    · cases h

theorem pending_of_awaiting {p : Parameter} (h : s.awaiting = some p) : s.pending = some (p, none) := by
  rw [awaiting] at h
  split at h
  · next hpending => rw [hpending, Option.some.inj h]
  · cases h

inductive Step (scope : Scope) (s : Scan) (a : String) : Scan → Prop where
  | dashes : s.literal = false → scope.kind a = .dashes → Step scope s a { s with literal := true }
  | option {p : Parameter} {s' : Scan} : s.literal = false → scope.kind a = .option p none →
      s.settle = .ok s' → Step scope s a { s' with pending := some (p, none) }
  | attached {p : Parameter} {text : String} {s' : Scan} {g : Given} : s.literal = false →
      scope.kind a = .option p (some text) → s.settle = .ok s' → s'.given.give p text = .ok g →
      Step scope s a { s' with given := g }
  | value {p : Parameter} : s.literal = false → scope.kind a = .plain → s.pending = some (p, none) →
      Step scope s a { s with pending := some (p, some a) }
  | input {s' : Scan} : s.literal = true ∨ scope.kind a = .plain → scope = .flatten → s.settle = .ok s' →
      Step scope s a { s' with pending := some (.input, some a) }

theorem step_of_readPositional (hplain : s.literal = true ∨ scope.kind a = .plain)
    (h : s.readPositional scope a = .ok t) : Step scope s a t := by
  rw [readPositional.eq_def] at h
  split at h
  · dsimp only at h
    split at h
    · cases h
    · split at h
      · next s' hsettle =>
        obtain rfl := Except.ok.inj h
        exact .input hplain rfl hsettle
      · cases h
  · cases h
  · split at h <;> cases h

/-- Only an option with a value can be carried out; the others ask for a text. -/
theorem step_of_carryOut {switch : Switch} {attached : Option String} (hliteral : s.literal = false)
    (hkind : ∀ p, switch = .takes p → scope.kind a = .option p attached)
    (h : s.carryOut scope switch attached = .ok t) : Step scope s a t := by
  rw [carryOut] at h
  split at h
  · cases h
  · next s' hsettle =>
    split at h
    · obtain rfl := Except.ok.inj h
      exact .option hliteral (hkind _ rfl) hsettle
    · split at h
      · next g hgive =>
        obtain rfl := Except.ok.inj h
        exact .attached hliteral (hkind _ rfl) hsettle hgive
      · cases h
    · cases h
    · cases h

theorem step_of_readLong {body : List Char} (hliteral : s.literal = false)
    (hkind : scope.kind a =
      .ofSwitch (scope.long? (String.ofList (body.takeWhile (· ≠ '=')))) (Scope.attachedLong? body))
    (h : s.readLong scope body = .ok t) : Step scope s a t := by
  rw [readLong] at h
  split at h
  · cases h
  · next p hlong =>
    rw [hlong] at hkind
    exact step_of_carryOut hliteral (fun _ hp => Switch.takes.inj hp ▸ hkind) h
  · cases h
  · next hasks _ _ => exact step_of_carryOut hliteral (fun p hp => absurd hp (hasks p)) h

theorem step_of_readShort {c : Char} {rest : List Char} (hliteral : s.literal = false)
    (hkind : scope.kind a = .ofSwitch (scope.short? c) (Scope.attachedShort? rest))
    (h : s.readShort scope (c :: rest) = .ok t) : Step scope s a t := by
  rw [readShort] at h
  split at h
  · cases h
  · next p hshort =>
    rw [hshort] at hkind
    split at h
    · exact step_of_carryOut hliteral (fun _ hp => Switch.takes.inj hp ▸ hkind) h
    · exact step_of_carryOut hliteral (fun _ hp => Switch.takes.inj hp ▸ hkind) h
    · next hempty hequals =>
      rw [Scope.attachedShort?] at hkind
      · exact step_of_carryOut hliteral (fun _ hp => Switch.takes.inj hp ▸ hkind) h
      · exact hempty
      · exact hequals
  · next hasks _ => exact step_of_carryOut hliteral (fun p hp => absurd hp (hasks p)) h

theorem step_of_read (h : s.read scope a = .ok t) : Step scope s a t := by
  rw [read] at h
  split at h
  · next hliteral => exact step_of_readPositional (.inl hliteral) h
  · next hliteral =>
    have hoptions : s.literal = false := Bool.eq_false_iff.mpr hliteral
    split at h
    · next hdashes =>
      obtain rfl := Except.ok.inj h
      exact .dashes hoptions (Scope.kind_of_dashes hdashes)
    · next body hbody hlong =>
      exact step_of_readLong hoptions (Scope.kind_of_long hlong hbody) h
    · next c rest hdashes hlong hshort =>
      exact step_of_readShort hoptions (Scope.kind_of_short hshort hlong) h
    · next hd hl hs =>
      have hplain : scope.kind a = .plain := Scope.kind_of_plain hs
      split at h
      · next p hawaiting =>
        obtain rfl := Except.ok.inj h
        exact .value hoptions hplain (pending_of_awaiting hawaiting)
      · exact step_of_readPositional (.inr hplain) h

/-! ### What is owed -/

/-- What the arguments to come assign, unless the first of them is the value of an option. -/
def ahead (s : Scan) (scope : Scope) (arguments : List String) : List (Parameter × String) :=
  if s.literal then arguments.map fun text => (.input, text) else scope.assigned arguments

/-- What a scan still has to give. -/
def owed (s : Scan) (scope : Scope) (arguments : List String) : List (Parameter × String) :=
  match s.pending, arguments with
  | none, _ => s.ahead scope arguments
  | some (p, some text), _ => (p, text) :: s.ahead scope arguments
  | some (_, none), [] => []
  | some (p, none), text :: rest => (p, text) :: s.ahead scope rest

theorem owed_eq_append {arguments : List String} (h : ∀ p, s.pending ≠ some (p, none)) :
    s.owed scope arguments = s.unsettled ++ s.ahead scope arguments := by
  rw [owed.eq_def, unsettled]
  split <;> simp_all

theorem ahead_of_options {arguments : List String} (h : s.literal = false) :
    s.ahead scope arguments = scope.assigned arguments := by
  simp [ahead, h]

/-- An option waits for a value that cannot come any more. -/
def Stuck (s : Scan) : Prop := s.literal = true ∧ ∃ p, s.pending = some (p, none)

theorem Stuck.settle_ne (h : s.Stuck) : s.settle ≠ .ok t := by
  obtain ⟨-, p, hp⟩ := h
  simp [settle, hp]

theorem Stuck.not_step (h : s.Stuck) : ¬ Step scope s a t := by
  intro hstep
  obtain ⟨hliteral, -⟩ := id h
  cases hstep with
  | dashes hoptions | option hoptions | attached hoptions | value hoptions => simp_all
  | input _ _ hsettle => exact h.settle_ne hsettle

/-- A step takes from what is owed, at its front, what it gives. -/
theorem exists_owed_of_step (h : Step scope s a t) (hstuck : ¬ t.Stuck) (rest : List String) :
    ∃ l, s.owed scope (a :: rest) = l ++ t.owed scope rest ∧ s.given.giveAll l = .ok t.given := by
  cases h with
  | dashes hoptions hkind =>
    have hpending : ∀ p, s.pending ≠ some (p, none) := fun p hp => hstuck ⟨rfl, p, hp⟩
    refine ⟨[], ?_, rfl⟩
    rw [owed_eq_append hpending, ahead_of_options hoptions, Scope.assigned_of_dashes hkind]
    exact (owed_eq_append (s := { s with literal := true }) hpending).symm
  | @option p s' hoptions hkind hsettle =>
    obtain ⟨hgive, hpending, hliteral, hwaits⟩ := giveAll_unsettled_of_settle hsettle
    refine ⟨s.unsettled, ?_, hgive⟩
    rw [owed_eq_append hwaits, ahead_of_options hoptions, Scope.assigned_of_option hkind]
    cases rest with
    | nil => rfl
    | cons text rest => simp [owed, ahead, hliteral, hoptions]
  | @attached p text s' g hoptions hkind hsettle hset =>
    obtain ⟨hgive, hpending, hliteral, hwaits⟩ := giveAll_unsettled_of_settle hsettle
    refine ⟨s.unsettled ++ [(p, text)], ?_, ?_⟩
    · rw [owed_eq_append hwaits, ahead_of_options hoptions, Scope.assigned_of_attached hkind]
      simp [owed, ahead, hpending, hliteral, hoptions]
    · rw [Given.giveAll_append_of_giveAll hgive, Given.giveAll_cons_of_give hset]
      rfl
  | @value p hoptions hkind hwaits =>
    refine ⟨[], ?_, rfl⟩
    simp [owed, ahead, hwaits, hoptions]
  | @input s' hplain hscope hsettle =>
    subst hscope
    obtain ⟨hgive, hpending, hliteral, hwaits⟩ := giveAll_unsettled_of_settle hsettle
    refine ⟨s.unsettled, ?_, hgive⟩
    rw [owed_eq_append hwaits]
    cases hl : s.literal with
    | true => simp [owed, ahead, hliteral, hl]
    | false =>
      have hkind : Scope.kind .flatten a = .plain := hplain.resolve_left (by simp [hl])
      rw [ahead_of_options hl, Scope.assigned_of_input hkind rfl]
      simp [owed, ahead, hliteral, hl]

/-! ### Runs -/

theorem Stuck.settle_ne_of_readAll {arguments : List String} {u : Scan} (h : s.Stuck)
    (hread : s.readAll scope arguments = .ok t) : t.settle ≠ .ok u := by
  cases arguments with
  | nil =>
    obtain rfl := Except.ok.inj hread
    exact h.settle_ne
  | cons a rest =>
    rw [readAll] at hread
    split at hread
    · next s' hs' => exact absurd (step_of_read hs') h.not_step
    · cases hread

/-- What is owed has been given when the arguments of a command are over. -/
theorem giveAll_owed_of_readAll {arguments : List String} {u : Scan} (hread : s.readAll scope arguments = .ok t)
    (hsettle : t.settle = .ok u) : s.given.giveAll (s.owed scope arguments) = .ok u.given := by
  induction arguments generalizing s with
  | nil =>
    obtain rfl := Except.ok.inj hread
    obtain ⟨hgive, -, -, hwaits⟩ := giveAll_unsettled_of_settle hsettle
    rw [owed_eq_append hwaits, ahead]
    simpa [Scope.assigned] using hgive
  | cons a rest ih =>
    rw [readAll] at hread
    split at hread
    · next s' hs' =>
      have hstuck : ¬ s'.Stuck := fun h => h.settle_ne_of_readAll hread hsettle
      obtain ⟨l, howed, hgive⟩ := exists_owed_of_step (step_of_read hs') hstuck rest
      rw [howed, Given.giveAll_append_of_giveAll hgive]
      exact ih hread
    · cases hread

theorem Stuck.settle_ne_of_readTop {arguments : List String} {left : Option (Subcommand × List String)} {u : Scan}
    (h : s.Stuck) (hread : s.readTop arguments = .ok (t, left)) : t.settle ≠ .ok u := by
  cases arguments with
  | nil =>
    obtain ⟨rfl, -⟩ := Prod.mk.inj (Except.ok.inj hread)
    exact h.settle_ne
  | cons a rest =>
    have hleaves : s.leaves a = none := by simp [leaves, h.1]
    rw [readTop, hleaves] at hread
    dsimp only at hread
    split at hread
    · next s' hs' => exact absurd (step_of_read hs') h.not_step
    · cases hread

/-- What the arguments behind the name of a command assign, if one has come. -/
def behind : Option (Subcommand × List String) → List (Parameter × String)
  | none => []
  | some (c, rest) => c.scope.assigned rest

theorem kind_of_leaves {c : Subcommand} (h : s.leaves a = some c) :
    s.literal = false ∧ Scope.kind .top a = .plain ∧ Scope.entered? .top a = some c.scope := by
  rw [leaves] at h
  split at h
  · cases h
  · next hfree =>
    rw [Bool.not_eq_true, Bool.or_eq_false_iff] at hfree
    refine ⟨hfree.1, ?_, by simp [Scope.entered?, h]⟩
    rw [Subcommand.ofName?.eq_def] at h
    split at h
    · rfl
    · rfl
    · rfl
    · cases h

/-- When the top scope is over, what is owed has been given, up to what the command is owed. -/
theorem exists_owed_of_readTop {arguments : List String} {left : Option (Subcommand × List String)} {u : Scan}
    (hread : s.readTop arguments = .ok (t, left)) (hsettle : t.settle = .ok u) :
    ∃ l, s.owed .top arguments = l ++ behind left ∧ s.given.giveAll l = .ok u.given := by
  induction arguments generalizing s with
  | nil =>
    obtain ⟨rfl, rfl⟩ := Prod.mk.inj (Except.ok.inj hread)
    obtain ⟨hgive, -, -, hwaits⟩ := giveAll_unsettled_of_settle hsettle
    refine ⟨s.unsettled, ?_, hgive⟩
    rw [owed_eq_append hwaits, ahead]
    simp [Scope.assigned, behind]
  | cons a rest ih =>
    rw [readTop] at hread
    split at hread
    · next c hc =>
      obtain ⟨rfl, rfl⟩ := Prod.mk.inj (Except.ok.inj hread)
      obtain ⟨hgive, -, -, hwaits⟩ := giveAll_unsettled_of_settle hsettle
      obtain ⟨hoptions, hkind, henter⟩ := kind_of_leaves hc
      refine ⟨s.unsettled, ?_, hgive⟩
      rw [owed_eq_append hwaits, ahead_of_options hoptions, Scope.assigned_of_entered hkind henter, behind]
    · split at hread
      · next s' hs' =>
        have hstuck : ¬ s'.Stuck := fun h => h.settle_ne_of_readTop hread hsettle
        obtain ⟨l, howed, hgive⟩ := exists_owed_of_step (step_of_read hs') hstuck rest
        obtain ⟨l', howed', hgive'⟩ := ih hread
        refine ⟨l ++ l', ?_, ?_⟩
        · rw [howed, howed', List.append_assoc]
        · rw [Given.giveAll_append_of_giveAll hgive, hgive']
      · cases hread

end Scan

end BuildOrder
