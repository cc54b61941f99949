import Mathlib.Data.List.Pairwise
import BuildOrder.Proofs.Results
import BuildOrder.Proofs.Settings.ColorVariables
import BuildOrder.Proofs.Text.Case

/-!
# Clashing variables

Of all variables of an environment four names count, in whatever case they are written, and each of them may be there
once. So reading them fails just if two variables clash, and what is read else depends neither on other variables
nor on the order in which the environment lists them. If several clash, the first to come a second time is the
one that is reported, and this is all that the order can change.

The names are compared in lower case. Of lower case no more is used than `Text.LowerCase` says: none of the four names
has a `k`, so no letter outside ASCII becomes one of theirs.
-/

namespace BuildOrder

variable {env env' : Environment} {v : ColorVariable}

theorem ColorVariable.name_plain (v : ColorVariable) : Text.IsAscii v.name ∧ 'k' ∉ v.name.toList := by
  cases v <;> decide

private theorem one_lt_countP_iff {α : Type} {p : α → Bool} {l : List α} :
    1 < l.countP p ↔ ∃ i j : Fin l.length, i ≠ j ∧ p l[i] ∧ p l[j] := by
  have hpairwise : l.countP p ≤ 1 ↔ l.Pairwise fun a b => ¬ (p a ∧ p b) := by
    induction l with
    | nil => simp
    | cons a l ih =>
      rw [List.pairwise_cons, ← ih, List.countP_cons]
      by_cases ha : p a
      · have hnone : (∀ b ∈ l, ¬ (p a ∧ p b)) ↔ l.countP p = 0 := by simp [List.countP_eq_zero, ha]
        rw [hnone, if_pos ha]
        omega
      · simp [ha]
  rw [← Nat.not_le, hpairwise, List.pairwise_iff_get]
  push Not
  constructor
  · rintro ⟨i, j, hlt, hboth⟩
    exact ⟨i, j, Fin.ne_of_lt hlt, hboth⟩
  · rintro ⟨i, j, hne, hi, hj⟩
    rcases Nat.lt_or_gt_of_ne (Fin.val_ne_of_ne hne) with hlt | hgt
    · exact ⟨i, j, hlt, hi, hj⟩
    · exact ⟨j, i, hgt, hj, hi⟩

namespace Environment

/-- Two variables have a name that is the same colour variable in lower case. -/
def Clashes (lower : Text.LowerCase) (env : Environment) (v : ColorVariable) : Prop :=
  ∃ i j : Fin env.entries.length, i ≠ j ∧
    lower.lowered env.entries[i].1 = v.name ∧ lower.lowered env.entries[j].1 = v.name

/-- The name of a variable is that of a colour variable in lower case. -/
def meansColor (lower : Text.LowerCase) (entry : String × String) : Bool :=
  ColorVariable.all.any fun v => v.name == lower.lowered entry.1

theorem lowered_eq_name_iff (lower : Text.LowerCase) {name : String} :
    lower.lowered name = v.name ↔ v.name = Text.asciiLower name :=
  (lower.lowered_eq_iff v.name_plain).trans eq_comm

private theorem length_colorTexts (lower : Text.LowerCase) (env : Environment) (v : ColorVariable) :
    (env.colorTexts v).length = env.entries.countP fun e => lower.lowered e.1 == v.name := by
  rw [colorTexts, List.length_filterMap_eq_countP]
  apply List.countP_congr
  intro e _
  rw [beq_iff_eq, lowered_eq_name_iff]
  by_cases hname : v.name = Text.asciiLower e.1 <;> simp [hname]

section LowerCase

variable {lower : Text.LowerCase}

theorem clashes_iff : env.Clashes lower v ↔ 1 < (env.colorTexts v).length := by
  rw [length_colorTexts lower, one_lt_countP_iff]
  simp only [beq_iff_eq]
  rfl

theorem mem_colorTexts_iff {text : String} :
    text ∈ env.colorTexts v ↔ ∃ name, (name, text) ∈ env.entries ∧ lower.lowered name = v.name := by
  simp only [colorTexts, List.mem_filterMap, lowered_eq_name_iff]
  constructor
  · rintro ⟨⟨name, value⟩, hmem, htext⟩
    split at htext
    · next hname =>
      obtain rfl := Option.some.inj htext
      exact ⟨name, hmem, hname⟩
    · cases htext
  · rintro ⟨name, hmem, hname⟩
    exact ⟨(name, text), hmem, if_pos hname⟩

theorem meansColor_eq (e : String × String) : meansColor lower e = (ColorVariable.ofName? e.1).isSome := by
  rw [Bool.eq_iff_iff, meansColor, ColorVariable.ofName?, List.any_eq_true, List.find?_isSome]
  simp only [beq_iff_eq]
  refine exists_congr fun v => and_congr_right fun _ => ?_
  rw [← lowered_eq_name_iff lower]
  exact eq_comm

end LowerCase

theorem colorTexts_perm (h : env'.entries.Perm env.entries) (v : ColorVariable) :
    (env'.colorTexts v).Perm (env.colorTexts v) := h.filterMap _

end Environment

namespace ColorEnvironment

open Environment

variable {c c' : ColorEnvironment}

private theorem eq_of_get? (h : ∀ v, c.get? v = c'.get? v) : c = c' := by
  obtain ⟨no, force, cli, ci⟩ := c
  obtain rfl : no = c'.noColor := h .noColor
  obtain rfl : force = c'.forceColor := h .forceColor
  obtain rfl : cli = c'.clicolor := h .clicolor
  obtain rfl : ci = c'.ci := h .ci
  rfl

/-- What is read is the texts of the colour variables, if none of them has two. -/
theorem ofEnvironment_eq_ok_iff :
    ofEnvironment env = .ok c ↔
      env.HasClearColors ∧ ∀ v text, c.get? v = some text ↔ text ∈ env.colorTexts v := by
  have hread : ∀ c', ofEnvironment env = .ok c' → ∀ v text, c'.get? v = some text ↔ text ∈ env.colorTexts v := by
    intro c' h v text
    have hclear : (env.colorTexts v).length ≤ 1 := exists_ofEnvironment_iff.mp ⟨c', h⟩ v
    rw [get?_of_ofEnvironment h, colorText?]
    cases htexts : env.colorTexts v with
    | nil => simp
    | cons text' texts =>
      rw [htexts, List.length_cons] at hclear
      have hnil : texts = [] := List.length_eq_zero_iff.mp (by omega)
      simp [hnil, eq_comm]
  constructor
  · intro h
    exact ⟨exists_ofEnvironment_iff.mp ⟨c, h⟩, hread c h⟩
  · rintro ⟨hclear, htexts⟩
    obtain ⟨c', h⟩ := exists_ofEnvironment_iff.mpr hclear
    rw [h, eq_of_get? fun v => Option.ext fun text => (hread c' h v text).trans (htexts v text).symm]

theorem one_lt_of_ofEnvironment_eq_error (h : ofEnvironment env = .error v) : 1 < (env.colorTexts v).length := by
  have hlt := one_lt_of_addAll_eq_error h
  rwa [textsOf_empty] at hlt

theorem addAll_filter_meansColor (lower : Text.LowerCase) (c : ColorEnvironment) (entries : List (String × String)) :
    c.addAll (entries.filter (meansColor lower)) = c.addAll entries := by
  induction entries generalizing c with
  | nil => rfl
  | cons e entries ih =>
    by_cases hmeans : meansColor lower e
    · rw [List.filter_cons_of_pos hmeans, addAll, addAll]
      cases c.add e with
      | ok c' => exact ih c'
      | error v => rfl
    · rw [List.filter_cons_of_neg hmeans, ih, addAll, add]
      rw [meansColor_eq, Bool.not_eq_true, Option.isSome_eq_false_iff, Option.isNone_iff_eq_none] at hmeans
      rw [hmeans]

theorem toOption_ofEnvironment_perm (h : env'.entries.Perm env.entries) :
    (ofEnvironment env').toOption = (ofEnvironment env).toOption := by
  have hok : ∀ c, ofEnvironment env' = .ok c ↔ ofEnvironment env = .ok c := by
    intro c
    simp only [ofEnvironment_eq_ok_iff, HasClearColors, (colorTexts_perm h _).length_eq, (colorTexts_perm h _).mem_iff]
  cases hread : ofEnvironment env with
  | ok c =>
    rw [(hok c).mpr hread]
  | error v =>
    cases hread' : ofEnvironment env' with
    | ok c =>
      rw [(hok c).mp hread'] at hread
      cases hread
    | error w => rfl

theorem ofEnvironment_perm (h : env'.entries.Perm env.entries)
    (honly : ∀ v w, 1 < (env.colorTexts v).length → 1 < (env.colorTexts w).length → v = w) :
    ofEnvironment env' = ofEnvironment env := by
  have hread := toOption_ofEnvironment_perm h
  cases hv : ofEnvironment env with
  | ok c =>
    rw [hv] at hread
    exact eq_ok_of_toOption hread
  | error v =>
    cases hw : ofEnvironment env' with
    | ok c =>
      rw [hv, hw] at hread
      cases hread
    | error w =>
      have htwo := one_lt_of_ofEnvironment_eq_error hw
      rw [(colorTexts_perm h w).length_eq] at htwo
      rw [honly w v htwo (one_lt_of_ofEnvironment_eq_error hv)]

/-- **Colour variables are read unless two of them clash.** They cannot be read just if two variables have names that
are the same colour variable in lower case; then one that clashes is reported, and no settings can be made out.
Else each has the text of the variable whose name it is in lower case, and none if there is no such variable. Other
variables change nothing. In another order the same is read or nothing as before, and the same is reported too if
only one clashes. -/
theorem ofEnvironment_outcome (lower : Text.LowerCase) (env : Environment) :
    ((∃ v, ofEnvironment env = .error v) ↔ ∃ v, env.Clashes lower v) ∧
      (∀ v, ofEnvironment env = .error v →
        env.Clashes lower v ∧ ∀ arguments : Settings, arguments.resolve env = .error (.duplicateVariable v)) ∧
      (∀ c, ofEnvironment env = .ok c → ∀ v text,
        c.get? v = some text ↔ ∃ name, (name, text) ∈ env.entries ∧ lower.lowered name = v.name) ∧
      (∀ env' : Environment, env'.entries.filter (meansColor lower) = env.entries.filter (meansColor lower) →
        ofEnvironment env' = ofEnvironment env) ∧
      ∀ env' : Environment, env'.entries.Perm env.entries →
        (ofEnvironment env').toOption = (ofEnvironment env).toOption ∧
          ((∀ v w, env.Clashes lower v → env.Clashes lower w → v = w) → ofEnvironment env' = ofEnvironment env) := by
  have hclash : ∀ v, ofEnvironment env = .error v → env.Clashes lower v := by
    intro v h
    exact clashes_iff.mpr (one_lt_of_ofEnvironment_eq_error h)
  refine ⟨⟨?_, ?_⟩, ?_, ?_, ?_, ?_⟩
  · rintro ⟨v, h⟩
    exact ⟨v, hclash v h⟩
  · rintro ⟨v, hv⟩
    cases h : ofEnvironment env with
    | error w => exact ⟨w, rfl⟩
    | ok c =>
      have hclear := (ofEnvironment_eq_ok_iff.mp h).1 v
      exact absurd (clashes_iff.mp hv) (Nat.not_lt.mpr hclear)
  · intro v h
    refine ⟨hclash v h, fun arguments => ?_⟩
    rw [Settings.resolve, h]
  · intro c h v text
    rw [(ofEnvironment_eq_ok_iff.mp h).2, mem_colorTexts_iff]
  · intro env' hsame
    rw [ofEnvironment, ofEnvironment, ← addAll_filter_meansColor lower, hsame, addAll_filter_meansColor]
  · intro env' hperm
    refine ⟨toOption_ofEnvironment_perm hperm, fun honly => ?_⟩
    apply ofEnvironment_perm hperm
    intro v w hv hw
    exact honly v w (clashes_iff.mpr hv) (clashes_iff.mpr hw)

/-- Two keys that are the same in lower case do not matter, two variables for `ci` do. -/
theorem ofEnvironment_outcome_keys :
    let lower := Text.LowerCase.ofKelvin
    let clear : Environment := ⟨[("Ci", ""), ("KEY", "1"), ("No_Color", "x"), ("\u212aEY", "2")]⟩
    let fewer : Environment := ⟨[("Ci", ""), ("No_Color", "x")]⟩
    let clashing : Environment := ⟨[("CI", "1"), ("KEY", "1"), ("ci", "0")]⟩
    lower.lowered "\u212aEY" = lower.lowered "KEY" ∧
      (ofEnvironment clear = .ok ⟨some "x", none, none, some ""⟩ ∧
        (∃ name, (name, "x") ∈ clear.entries ∧ lower.lowered name = "no_color") ∧
        ofEnvironment fewer = ofEnvironment clear ∧
        (ofEnvironment ⟨clear.entries.reverse⟩).toOption = (ofEnvironment clear).toOption) ∧
      (clashing.Clashes lower .ci ∧
        ofEnvironment clashing = .error .ci ∧
        Settings.default.resolve clashing = .error (.duplicateVariable .ci) ∧
        ofEnvironment ⟨clashing.entries.reverse⟩ = ofEnvironment clashing) := by
  intro lower clear fewer clashing
  have hclear : ofEnvironment clear = .ok ⟨some "x", none, none, some ""⟩ := by decide
  have hclashing : ofEnvironment clashing = .error .ci := by decide
  obtain ⟨-, -, hread, hother, horder⟩ := ofEnvironment_outcome lower clear
  obtain ⟨-, hfails, -, -, horder'⟩ := ofEnvironment_outcome lower clashing
  obtain ⟨hci, hresolve⟩ := hfails .ci hclashing
  have honly : ∀ v, clashing.Clashes lower v → v = .ci := by
    intro v hv
    have htwo := clashes_iff.mp hv
    cases v with
    | ci => rfl
    | noColor | forceColor | clicolor => exact absurd htwo (by decide)
  refine ⟨by decide, ⟨hclear, (hread _ hclear .noColor "x").mp rfl, hother fewer (by decide), ?_⟩,
    hci, hclashing, hresolve _, ?_⟩
  · exact (horder _ clear.entries.reverse_perm).1
  · refine (horder' _ clashing.entries.reverse_perm).2 fun v w hv hw => ?_
    rw [honly v hv, honly w hw]

end ColorEnvironment

end BuildOrder
