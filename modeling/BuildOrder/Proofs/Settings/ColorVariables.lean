import BuildOrder.Settings.Environment

/-!
# What the environment says about colour

A colour variable can be read if at most one variable means it, and then its text is the text of that variable.
`ColorEnvironment.ofEnvironment` takes in the variables one after the other; what it has at any moment, followed by
what the variables to come say, is the same list throughout, and it fails as soon as this list has a second text.
-/

namespace BuildOrder

theorem ColorVariable.ofName?_eq_some_iff {name : String} {v : ColorVariable} :
    ofName? name = some v ↔ v.name = Text.asciiLower name := by
  constructor
  · intro h
    simpa using List.find?_some h
  · intro h
    rw [ofName?, ← h]
    cases v <;> rfl

namespace Environment

/-- The texts of the variables that mean a colour variable. -/
def colorTexts (env : Environment) (v : ColorVariable) : List String :=
  env.entries.filterMap fun e => if v.name = Text.asciiLower e.1 then some e.2 else none

def colorText? (env : Environment) (v : ColorVariable) : Option String := (env.colorTexts v).head?

/-- No two variables mean the same colour variable. -/
def HasClearColors (env : Environment) : Prop := ∀ v, (env.colorTexts v).length ≤ 1

instance (env : Environment) : Decidable env.HasClearColors :=
  decidable_of_iff (∀ v ∈ ColorVariable.all, (env.colorTexts v).length ≤ 1)
    ⟨fun h v => h v (by cases v <;> decide), fun h v _ => h v⟩

/-- The text of a colour variable is one of some texts. -/
def colorIs (env : Environment) (v : ColorVariable) (texts : List String) : Bool :=
  (env.colorText? v).any fun text => texts.contains text

def suggestedColor (env : Environment) : Color :=
  if (env.colorText? .ci).isSome then .never
  else if env.colorIs .forceColor ["1", "2", "3", "true"] then .always
  else if env.colorIs .forceColor ["0", "false"] then .never
  else if (env.colorText? .noColor).any (· ≠ "") ∨ env.colorText? .clicolor = some "0" then .never
  else .auto

theorem colorTexts_cons (e : String × String) (entries : List (String × String)) (v : ColorVariable) :
    colorTexts ⟨e :: entries⟩ v =
      (if v.name = Text.asciiLower e.1 then [e.2] else []) ++ colorTexts ⟨entries⟩ v := by
  by_cases h : v.name = Text.asciiLower e.1 <;> simp [colorTexts, h]

end Environment

namespace ColorEnvironment

variable {c c' : ColorEnvironment} {entries : List (String × String)}

private theorem get?_set (text : String) (v w : ColorVariable) :
    (c.set text v).get? w = if w = v then some text else c.get? w := by
  cases v <;> cases w <;> rfl

/-- The texts of a colour variable that have been taken in, and those to come. -/
def textsOf (c : ColorEnvironment) (entries : List (String × String)) (v : ColorVariable) : List String :=
  (c.get? v).toList ++ Environment.colorTexts ⟨entries⟩ v

theorem textsOf_of_add {e : String × String} (h : c.add e = .ok c') (v : ColorVariable) :
    c.textsOf (e :: entries) v = c'.textsOf entries v := by
  rw [add] at h
  rw [textsOf, textsOf, Environment.colorTexts_cons]
  split at h
  · next hname =>
    obtain rfl := Except.ok.inj h
    have hv : v.name ≠ Text.asciiLower e.1 := by
      intro hv
      rw [ColorVariable.ofName?_eq_some_iff.mpr hv] at hname
      cases hname
    simp [hv]
  · next w hname =>
    split at h
    · cases h
    · next hnew =>
      obtain rfl := Except.ok.inj h
      rw [get?_set]
      by_cases hv : v = w
      · subst hv
        simp [hnew, ColorVariable.ofName?_eq_some_iff.mp hname]
      · have hother : v.name ≠ Text.asciiLower e.1 := by
          intro h'
          rw [ColorVariable.ofName?_eq_some_iff.mpr h'] at hname
          exact hv (Option.some.inj hname)
        simp [hv, hother]

private theorem exists_of_add_eq_error {e : String × String} {v : ColorVariable} (h : c.add e = .error v) :
    1 < (c.textsOf (e :: entries) v).length := by
  rw [add] at h
  split at h
  · cases h
  · next w hname =>
    split at h
    · next text hold =>
      obtain rfl := Except.error.inj h
      rw [textsOf, Environment.colorTexts_cons]
      simp [hold, ColorVariable.ofName?_eq_some_iff.mp hname]
    · cases h

theorem textsOf_of_addAll (h : c.addAll entries = .ok c') (v : ColorVariable) :
    c.textsOf entries v = (c'.get? v).toList := by
  induction entries generalizing c with
  | nil =>
    obtain rfl := Except.ok.inj h
    simp [textsOf, Environment.colorTexts]
  | cons e entries ih =>
    rw [addAll] at h
    split at h
    · next c₁ hadd => rw [textsOf_of_add hadd, ih h]
    · cases h

theorem one_lt_of_addAll_eq_error {v : ColorVariable} (h : c.addAll entries = .error v) :
    1 < (c.textsOf entries v).length := by
  induction entries generalizing c with
  | nil => cases h
  | cons e entries ih =>
    rw [addAll] at h
    split at h
    · next c₁ hadd =>
      rw [textsOf_of_add hadd]
      exact ih h
    · next v' hadd =>
      obtain rfl := Except.error.inj h
      exact exists_of_add_eq_error hadd

variable {env : Environment}

theorem textsOf_empty (v : ColorVariable) : empty.textsOf env.entries v = env.colorTexts v := by
  cases v <;> rfl

theorem get?_of_ofEnvironment (h : ofEnvironment env = .ok c) (v : ColorVariable) :
    c.get? v = env.colorText? v := by
  have htexts := textsOf_of_addAll h v
  rw [textsOf_empty] at htexts
  rw [Environment.colorText?, htexts, Option.head?_toList]

/-- The colour variables can be read just if none of them comes twice. -/
theorem exists_ofEnvironment_iff : (∃ c, ofEnvironment env = .ok c) ↔ env.HasClearColors := by
  constructor
  · rintro ⟨c, h⟩ v
    have htexts := textsOf_of_addAll h v
    rw [textsOf_empty] at htexts
    rw [htexts]
    cases c.get? v <;> simp
  · intro hclear
    cases h : ofEnvironment env with
    | ok c => exact ⟨c, rfl⟩
    | error v =>
      have hlt := one_lt_of_addAll_eq_error h
      rw [textsOf_empty] at hlt
      exact absurd (hclear v) (Nat.not_le.mpr hlt)

theorem forced?_eq (text? : Option String) :
    forced? text? =
      if text?.any fun text => ["1", "2", "3", "true"].contains text then some .always
      else if text?.any fun text => ["0", "false"].contains text then some .never
      else none := by
  rw [forced?.eq_def]
  split
  · rfl
  · rfl
  · rfl
  · rfl
  · rfl
  · rfl
  · cases text? with
    | none => rfl
    | some text => simp_all

theorem apply_auto_of_ofEnvironment (h : ofEnvironment env = .ok c) : c.apply .auto = env.suggestedColor := by
  have hci : c.ci = env.colorText? .ci := get?_of_ofEnvironment h .ci
  have hforce : c.forceColor = env.colorText? .forceColor := get?_of_ofEnvironment h .forceColor
  have hno : c.noColor = env.colorText? .noColor := get?_of_ofEnvironment h .noColor
  have hcli : c.clicolor = env.colorText? .clicolor := get?_of_ofEnvironment h .clicolor
  simp only [apply, Environment.suggestedColor, Environment.colorIs, hci, hforce, hno, hcli, forced?_eq]
  grind

end ColorEnvironment

end BuildOrder
