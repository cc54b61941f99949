import BuildOrder.Proofs.Command.Requests

/-!
# Settings written as options

A setting is written as an option by its name behind two dashes and a text behind an equals sign. Such an argument is
complete: wherever options are read it is settled at once, and it leaves nothing for the next argument to wait for. So
a run of them at the front of a scope comes down to giving the settings one after the other.
-/

namespace BuildOrder

/-- The argument that gives a text to a setting. -/
def Setting.argument (s : Setting) (text : String) : String := "--" ++ s.option ++ "=" ++ text

def settingArguments (l : List (Setting × String)) : List String := l.map fun o => o.1.argument o.2

/-- What arguments for settings assign. -/
def settingAssignments (l : List (Setting × String)) : List (Parameter × String) :=
  l.map fun o => (.setting o.1, o.2)

namespace PartialSettings

theorem has_empty (s : Setting) : empty.has s = false := by
  cases s <;> rfl

/-- Give settings their texts one after the other; a setting that has a value is refused. -/
def giveAll (p : PartialSettings) : List (Setting × String) → Except Usage PartialSettings
  | [] => .ok p
  | (s, text) :: rest =>
    if p.has s then .error .argumentConflict
    else
      match p.set text s with
      | .ok q => q.giveAll rest
      | .error u => .error u

theorem giveAll_singleton (p : PartialSettings) (s : Setting) (text : String) :
    p.giveAll [(s, text)] = if p.has s then .error .argumentConflict else p.set text s := by
  rw [giveAll]
  cases p.set text s <;> rfl

theorem giveAll_append (p : PartialSettings) (l l' : List (Setting × String)) :
    p.giveAll (l ++ l') =
      match p.giveAll l with
      | .ok q => q.giveAll l'
      | .error u => .error u := by
  induction l generalizing p with
  | nil => rfl
  | cons o l ih =>
    obtain ⟨s, text⟩ := o
    rw [List.cons_append, giveAll, giveAll]
    cases p.has s with
    | true => rfl
    | false =>
      cases p.set text s with
      | error u => rfl
      | ok q => exact ih q

end PartialSettings

theorem Given.giveAll_settingAssignments (g : Given) (l : List (Setting × String)) :
    g.giveAll (settingAssignments l) = (g.settings.giveAll l).map fun p => { g with settings := p } := by
  induction l generalizing g with
  | nil => rfl
  | cons o l ih =>
    obtain ⟨s, text⟩ := o
    have hgive : g.give (.setting s) text =
        if g.settings.has s then .error .argumentConflict
        else (g.settings.set text s).map fun p => { g with settings := p } := rfl
    rw [settingAssignments, List.map_cons, giveAll, hgive, PartialSettings.giveAll]
    cases g.settings.has s with
    | true => rfl
    | false =>
      cases g.settings.set text s with
      | error u => rfl
      | ok p => exact ih { g with settings := p }

variable {scope : Scope} {s : Setting} {text : String} {l : List (Setting × String)}

namespace Setting

private theorem toList_argument (s : Setting) (text : String) :
    (s.argument text).toList = '-' :: '-' :: (s.option.toList ++ '=' :: text.toList) := by
  simp [argument, String.toList_append]

private theorem ne_equals_of_mem_option (s : Setting) : ∀ c ∈ s.option.toList, (decide (c ≠ '=')) = true := by
  have hall : s.option.toList.all (· ≠ '=') = true := by cases s <;> rfl
  exact List.all_eq_true.mp hall

private theorem takeWhile_option (s : Setting) (text : String) :
    String.ofList ((s.option.toList ++ '=' :: text.toList).takeWhile (· ≠ '=')) = s.option := by
  rw [List.takeWhile_append_of_pos s.ne_equals_of_mem_option, List.takeWhile_cons_of_neg (by decide), List.append_nil,
    String.ofList_toList]

private theorem dropWhile_option (s : Setting) (text : String) :
    (s.option.toList ++ '=' :: text.toList).dropWhile (· ≠ '=') = '=' :: text.toList := by
  rw [List.dropWhile_append_of_pos s.ne_equals_of_mem_option, List.dropWhile_cons_of_neg (by decide)]

private theorem long?_option (scope : Scope) (s : Setting) : scope.long? s.option = some (.takes (.setting s)) := by
  cases s <;> rfl

end Setting

theorem Scope.kind_argument : scope.kind (s.argument text) = .option (.setting s) (some text) := by
  have hbody : s.option.toList ++ '=' :: text.toList ≠ [] := by simp
  rw [kind_of_long (s.toList_argument text) hbody, s.takeWhile_option, Setting.long?_option, attachedLong?,
    s.dropWhile_option]
  dsimp only
  rw [String.ofList_toList]
  rfl

theorem Scope.assigned_settingArguments (l : List (Setting × String)) (rest : List String) :
    scope.assigned (settingArguments l ++ rest) = settingAssignments l ++ scope.assigned rest := by
  induction l with
  | nil => rfl
  | cons o l ih => exact (assigned_of_attached kind_argument).trans (congrArg _ ih)

theorem Subcommand.ofName?_argument : ofName? (s.argument text) = none := by
  have hdash : ∀ word : String, word.toList.head? ≠ some '-' → s.argument text ≠ word := by
    rintro word hword rfl
    exact hword (congrArg List.head? (s.toList_argument text))
  rw [ofName?.eq_def]
  split
  · next h => exact absurd h (hdash _ (by decide))
  · next h => exact absurd h (hdash _ (by decide))
  · next h => exact absurd h (hdash _ (by decide))
  · rfl

namespace Scan

variable {t : Scan} {rest : List String}

theorem read_of_long {a : String} {body : List Char} (hliteral : t.literal = false)
    (ha : a.toList = '-' :: '-' :: body) (hbody : body ≠ []) : t.read scope a = t.readLong scope body := by
  cases body with
  | nil => exact absurd rfl hbody
  | cons c rest => simp [read, hliteral, ha]

/-- An option with its value is given at once if nothing is pending. -/
theorem read_argument (hpending : t.pending = none) (hliteral : t.literal = false) :
    t.read scope (s.argument text) = (t.given.give (.setting s) text).map fun g => { t with given := g } := by
  have hbody : s.option.toList ++ '=' :: text.toList ≠ [] := by simp
  have hsettle : t.settle = .ok t := by rw [settle, hpending]
  rw [read_of_long hliteral (s.toList_argument text) hbody, readLong, s.takeWhile_option, Setting.long?_option,
    s.dropWhile_option]
  dsimp only
  rw [String.ofList_toList, carryOut, hsettle]
  dsimp only
  cases t.given.give (.setting s) text <;> rfl

theorem readAll_settingArguments (l : List (Setting × String)) (hpending : t.pending = none)
    (hliteral : t.literal = false) :
    t.readAll scope (settingArguments l ++ rest) =
      match t.given.giveAll (settingAssignments l) with
      | .ok g => { t with given := g }.readAll scope rest
      | .error u => .error u := by
  induction l generalizing t with
  | nil => rfl
  | cons o l ih =>
    obtain ⟨s, text⟩ := o
    rw [settingArguments, List.map_cons, List.cons_append, readAll, read_argument hpending hliteral,
      settingAssignments, List.map_cons, Given.giveAll]
    cases t.given.give (.setting s) text with
    | error u => rfl
    | ok g => exact @ih { t with given := g } hpending hliteral

theorem readTop_settingArguments (l : List (Setting × String)) (hpending : t.pending = none)
    (hliteral : t.literal = false) :
    t.readTop (settingArguments l ++ rest) =
      match t.given.giveAll (settingAssignments l) with
      | .ok g => { t with given := g }.readTop rest
      | .error u => .error u := by
  induction l generalizing t with
  | nil => rfl
  | cons o l ih =>
    obtain ⟨s, text⟩ := o
    have hleaves : t.leaves (s.argument text) = none := by
      rw [leaves, Subcommand.ofName?_argument, ite_self]
    rw [settingArguments, List.map_cons, List.cons_append, readTop, hleaves, read_argument hpending hliteral,
      settingAssignments, List.map_cons, Given.giveAll]
    cases t.given.give (.setting s) text with
    | error u => rfl
    | ok g => exact @ih { t with given := g } hpending hliteral

end Scan

end BuildOrder
