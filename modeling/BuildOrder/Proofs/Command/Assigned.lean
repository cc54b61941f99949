import BuildOrder.Proofs.Settings.Spelled

/-!
# What arguments assign

`Scope.assigned` reads off arguments which parameters they give, and the text of each, without checking anything:
an option has its value attached or takes the next argument, behind two dashes everything is an input, and in the top
scope the name of a command leads on into its scope.

Where a setting is given more than once, `argumentText` takes the text that comes last.
-/

namespace BuildOrder

inductive ArgumentKind where
  /-- Two dashes: nothing behind them is an option. -/
  | dashes
  /-- An option with a value, which may be attached to it. -/
  | option (p : Parameter) (attached : Option String)
  /-- An option that is unknown, or asks for a text instead. -/
  | refused
  | plain

/-- The kind of an argument that is an option, from what the option does and the value attached to it. -/
def ArgumentKind.ofSwitch : Option Switch → Option String → ArgumentKind
  | some (.takes p), attached => .option p attached
  | _, _ => .refused

/-- The scope of a command. What stands behind `help` is about the top scope. -/
def Subcommand.scope : Subcommand → Scope
  | .flatten => .flatten
  | .version => .version
  | .help => .top

namespace Scope

variable {scope : Scope}

/-- The value attached to a long option, from behind its two dashes on. -/
def attachedLong? (body : List Char) : Option String :=
  match body.dropWhile (· ≠ '=') with
  | [] => none
  | _ :: value => some (String.ofList value)

/-- The value attached to a short option, from behind its letter on. -/
def attachedShort? : List Char → Option String
  | [] => none
  | '=' :: value => some (String.ofList value)
  | value => some (String.ofList value)

/-- What an argument is, if it is no value of an option. -/
def kind (scope : Scope) (argument : String) : ArgumentKind :=
  match argument.toList with
  | ['-', '-'] => .dashes
  | '-' :: '-' :: body => .ofSwitch (scope.long? (String.ofList (body.takeWhile (· ≠ '=')))) (attachedLong? body)
  | '-' :: c :: rest => .ofSwitch (scope.short? c) (attachedShort? rest)
  | _ => .plain

section Kinds

variable {a : String}

theorem kind_of_dashes (h : a.toList = ['-', '-']) : scope.kind a = .dashes := by
  simp [kind, h]

theorem kind_of_long {body : List Char} (h : a.toList = '-' :: '-' :: body) (hbody : body ≠ []) :
    scope.kind a =
      .ofSwitch (scope.long? (String.ofList (body.takeWhile (· ≠ '=')))) (attachedLong? body) := by
  cases body with
  | nil => exact absurd rfl hbody
  | cons c rest => simp [kind, h]

theorem kind_of_short {c : Char} {rest : List Char} (h : a.toList = '-' :: c :: rest) (hc : c ≠ '-') :
    scope.kind a = .ofSwitch (scope.short? c) (attachedShort? rest) := by
  rw [kind, h]
  split <;> simp_all

theorem kind_of_plain (h : ∀ c rest, a.toList ≠ '-' :: c :: rest) : scope.kind a = .plain := by
  rw [kind]
  split <;> simp_all

end Kinds

def entered? (scope : Scope) (word : String) : Option Scope :=
  if scope = .top then (Subcommand.ofName? word).map Subcommand.scope else none

/-- The parameters that arguments give, each with its text, from left to right. -/
def assigned (scope : Scope) : List String → List (Parameter × String)
  | [] => []
  | a :: rest =>
    match scope.kind a with
    | .dashes => rest.map fun text => (.input, text)
    | .option p (some text) => (p, text) :: assigned scope rest
    | .option p none =>
      match rest with
      | [] => []
      | text :: rest => (p, text) :: assigned scope rest
    | .refused => assigned scope rest
    | .plain =>
      match scope.entered? a with
      | some inner => assigned inner rest
      | none => (.input, a) :: assigned scope rest

section Equations

variable {a : String} {rest : List String}

theorem assigned_of_dashes (h : scope.kind a = .dashes) :
    scope.assigned (a :: rest) = rest.map fun text => (.input, text) := by
  rw [assigned, h]

theorem assigned_of_attached {p : Parameter} {text : String} (h : scope.kind a = .option p (some text)) :
    scope.assigned (a :: rest) = (p, text) :: scope.assigned rest := by
  rw [assigned, h]

theorem assigned_of_option {p : Parameter} (h : scope.kind a = .option p none) :
    scope.assigned (a :: rest) =
      match rest with
      | [] => []
      | text :: rest => (p, text) :: scope.assigned rest := by
  rw [assigned, h]

theorem assigned_of_input (h : scope.kind a = .plain) (henter : scope.entered? a = none) :
    scope.assigned (a :: rest) = (.input, a) :: scope.assigned rest := by
  rw [assigned, h]
  simp only [henter]

theorem assigned_of_entered {inner : Scope} (h : scope.kind a = .plain) (henter : scope.entered? a = some inner) :
    scope.assigned (a :: rest) = inner.assigned rest := by
  rw [assigned, h]
  simp only [henter]

end Equations

end Scope

namespace Given

variable {g g' : Given}

def giveAll (g : Given) : List (Parameter × String) → Except Usage Given
  | [] => .ok g
  | (p, text) :: rest =>
    match g.give p text with
    | .ok g => g.giveAll rest
    | .error u => .error u

theorem giveAll_cons_of_give {p : Parameter} {text : String} {rest : List (Parameter × String)}
    (h : g.give p text = .ok g') : g.giveAll ((p, text) :: rest) = g'.giveAll rest := by
  rw [giveAll, h]

theorem giveAll_append_of_giveAll {l l' : List (Parameter × String)} (h : g.giveAll l = .ok g') :
    g.giveAll (l ++ l') = g'.giveAll l' := by
  induction l generalizing g with
  | nil =>
    obtain rfl := Except.ok.inj h
    rfl
  | cons a l ih =>
    rw [giveAll] at h
    split at h
    · next hgive =>
      rw [List.cons_append, giveAll_cons_of_give hgive]
      exact ih h
    · cases h

end Given

/-! ### The texts of settings -/

def textFor? (s : Setting) (a : Parameter × String) : Option String :=
  if a.1 = .setting s then some a.2 else none

def lastText? (l : List (Parameter × String)) (s : Setting) : Option String := (l.filterMap (textFor? s)).getLast?

/-- The text that arguments give to a setting. -/
def argumentText? (arguments : List String) : SettingTexts := lastText? (Scope.top.assigned arguments)

section Texts

variable {l l' : List (Parameter × String)} {s : Setting} {a : Parameter × String}

theorem lastText?_append : lastText? (l ++ l') s = (lastText? l' s).or (lastText? l s) := by
  simp [lastText?, List.filterMap_append, List.getLast?_append]

theorem lastText?_cons : lastText? (a :: l) s = (lastText? l s).or (textFor? s a) := by
  rw [← List.singleton_append, lastText?_append]
  cases h : textFor? s a <;> simp [lastText?, h]

end Texts

namespace Given

variable {g g' : Given} {texts : SettingTexts}

/-- A setting that is given has its text; the other parameters leave the settings alone. -/
theorem spelledBy_of_give {p : Parameter} {text : String} (hg : g.settings.SpelledBy texts)
    (h : g.give p text = .ok g') : g'.settings.SpelledBy fun s => (textFor? s (p, text)).or (texts s) := by
  rw [give] at h
  split at h
  · cases h
  · cases p with
    | setting s₀ =>
      obtain ⟨q, hq, rfl⟩ := exists_of_map_eq_ok h
      refine (hg.set hq).congr fun s => ?_
      by_cases hs : s = s₀
      · simp [textFor?, hs]
      · simp [textFor?, hs, Ne.symm hs]
    | input =>
      rw [set] at h
      split at h
      · cases h
      · obtain rfl := Except.ok.inj h
        exact hg.congr fun s => by simp [textFor?]
    | inputFormat | emit =>
      obtain ⟨v, -, rfl⟩ := exists_of_map_eq_ok h
      exact hg.congr fun s => by simp [textFor?]

theorem spelledBy_of_giveAll {l : List (Parameter × String)} (hg : g.settings.SpelledBy texts)
    (h : g.giveAll l = .ok g') : g'.settings.SpelledBy fun s => (lastText? l s).or (texts s) := by
  induction l generalizing g texts with
  | nil =>
    obtain rfl := Except.ok.inj h
    exact hg
  | cons a l ih =>
    obtain ⟨p, text⟩ := a
    rw [giveAll] at h
    split at h
    · next hgive =>
      refine (ih (spelledBy_of_give hg hgive) h).congr fun s => ?_
      rw [lastText?_cons, Option.or_assoc]
    · cases h

end Given

end BuildOrder
