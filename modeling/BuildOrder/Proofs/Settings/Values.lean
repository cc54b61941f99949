import BuildOrder.Settings.Reader
import BuildOrder.Proofs.Json.Skipped
import BuildOrder.Proofs.Settings.Spelled

/-!
# The values of settings in both notations

An argument gives the value of a setting as a text, JSON as a number or a string. Not every text has a counterpart:
a verbosity may have a plus sign as an argument, and an alias is no name. For the texts that have one, `Follows` says
that a reader of JSON does what reading the text does: it refuses what that refuses, and else gives the same.
-/

namespace BuildOrder

/-- The text of a value that both notations have: any key, a whole number in its digits, or the name of a choice. -/
def Setting.Canonical : Setting → String → Prop
  | .manifestKey, _ => True
  | .logLevel, text => ∃ i : Int, text = String.ofList (Value.intText i)
  | .logFormat, text => text ∈ Choice.names LogFormat
  | .logStream, text => text ∈ Choice.names LogStream
  | .color, text => text ∈ Choice.names Color

/-! ### Whole numbers as texts -/

private theorem decimal_digits (n : Nat) : signedDecimal?.decimal (Value.digits n) = n := Json.ofDigitChars_digits n

theorem signedDecimal?_intText (i : Int) : signedDecimal? (Value.intText i) = some i := by
  obtain ⟨c, ds, hcons, hc, hds, -⟩ := Json.exists_digits_eq_cons i.natAbs
  have hdigits : ((Value.digits i.natAbs).isEmpty || !(Value.digits i.natAbs).all Char.isDigit) = false := by
    simp [hcons, hc, List.all_eq_true.mpr hds]
  rw [Value.intText]
  by_cases hneg : i < 0
  · have hval : -(i.natAbs : Int) = i := by omega
    rw [if_pos hneg, signedDecimal?, hdigits, decimal_digits, hval]
    rfl
  · have hval : (i.natAbs : Int) = i := by omega
    have hsign : ∀ d r, d.isDigit = false → Value.digits i.natAbs ≠ d :: r := by
      rintro d r hd heq
      obtain ⟨rfl, -⟩ := List.cons.inj (hcons.symm.trans heq)
      exact absurd hc (Bool.eq_false_iff.mp hd)
    rw [if_neg hneg, signedDecimal?.eq_3 _ (fun r => hsign '-' r rfl) (fun r => hsign '+' r rfl), hdigits,
      decimal_digits, hval]
    rfl

theorem logLevel?_intText (i : Int) :
    logLevel? (String.ofList (Value.intText i)) = if 0 ≤ i ∧ i < 256 then some i.toNat.toUInt8 else none := by
  rw [logLevel?, String.toList_ofList, signedDecimal?_intText]
  rfl

/-! ### Choices -/

section Choices

variable {α : Type} [Choice α] {text : String}

theorem exists_named?_of_mem_names (h : text ∈ Choice.names α) : ∃ v, Choice.named? α text = some v := by
  obtain ⟨spelling, hmem, rfl⟩ := List.mem_map.mp h
  have hfound : ((Choice.spellings (α := α)).find? fun s => s.name == spelling.name).isSome = true :=
    List.find?_isSome.mpr ⟨spelling, hmem, beq_self_eq_true _⟩
  obtain ⟨found, hfound⟩ := Option.isSome_iff_exists.mp hfound
  exact ⟨found.choice, congrArg (Option.map Spelling.choice) hfound⟩

/-- No name is the alias of another choice. -/
abbrev Choice.NamesAgree (α : Type) [Choice α] : Prop :=
  ∀ name ∈ Choice.names α, Choice.spelled? α name = Choice.named? α name

theorem Choice.NamesAgree.exists_choose (hnames : NamesAgree α) (h : text ∈ Choice.names α) :
    ∃ v, Choice.named? α text = some v ∧ choose text = .ok v := by
  obtain ⟨v, hv⟩ := exists_named?_of_mem_names h
  refine ⟨v, hv, ?_⟩
  rw [choose, hnames text h, hv]

theorem Choice.NamesAgree.exists_map_choose {β : Type} (hnames : NamesAgree α) (h : text ∈ Choice.names α) (f : α → β) :
    ∃ b, (choose text).map f = .ok b := by
  obtain ⟨v, -, hchoose⟩ := hnames.exists_choose h
  rw [hchoose]
  exact ⟨f v, rfl⟩

end Choices

/-! ### Accepted texts -/

private theorem intText_injective {i j : Int} (h : Value.intText i = Value.intText j) : i = j := by
  have hread := congrArg signedDecimal? h
  rw [signedDecimal?_intText, signedDecimal?_intText] at hread
  exact Option.some.inj hread

/-- The text is no verbosity, or one that fits into a byte. -/
def Setting.Fits (s : Setting) (text : String) : Prop :=
  ∀ i : Int, s = .logLevel → text = String.ofList (Value.intText i) → 0 ≤ i ∧ i < 256

/-- Of the texts that both notations have, all are accepted but a verbosity that does not fit. -/
theorem Setting.Canonical.exists_set_iff {s : Setting} {text : String} (h : s.Canonical text) (p : PartialSettings) :
    (∃ q, p.set text s = .ok q) ↔ s.Fits text := by
  have hother : s ≠ .logLevel → s.Fits text := fun hs i hlevel => absurd hlevel hs
  cases s with
  | manifestKey => exact iff_of_true ⟨_, rfl⟩ (hother (by decide))
  | logLevel =>
    obtain ⟨i, rfl⟩ := h
    have hfits : Setting.logLevel.Fits (String.ofList (Value.intText i)) ↔ 0 ≤ i ∧ i < 256 := by
      constructor
      · exact fun h => h i rfl rfl
      · rintro h j - hj
        rwa [← intText_injective (String.ofList_injective hj)]
    rw [hfits, PartialSettings.set, logLevel?_intText]
    by_cases hbyte : 0 ≤ i ∧ i < 256
    · rw [if_pos hbyte]
      exact iff_of_true ⟨_, rfl⟩ hbyte
    · rw [if_neg hbyte]
      refine iff_of_false ?_ hbyte
      rintro ⟨q, hq⟩
      cases hq
  | logFormat => exact iff_of_true (Choice.NamesAgree.exists_map_choose (by decide) h _) (hother (by decide))
  | logStream => exact iff_of_true (Choice.NamesAgree.exists_map_choose (by decide) h _) (hother (by decide))
  | color => exact iff_of_true (Choice.NamesAgree.exists_map_choose (by decide) h _) (hother (by decide))

namespace Json

/-- The value of a setting in JSON: the digits of a verbosity, else a string. -/
inductive ValueText : Setting → String → List Char → List Char → Prop where
  | level {text : String} {t : List Char} : ValueText .logLevel text (text.toList ++ t) t
  | string {setting : Setting} {text : String} {s t : List Char} :
      setting ≠ .logLevel → Spells s text.toList t → ValueText setting text ('"' :: s) t

/-- A reader does what a result says: it refuses the text, or gives the same and leaves `t`. -/
def Follows {ε α : Type} {n : Nat} (r : Except Fault (α × Rest n)) (result : Except ε α) (t : List Char) : Prop :=
  match result with
  | .ok a => Yields r a t
  | .error _ => ∃ f, r = .error f

section Follows

variable {ε α β : Type} {m n : Nat} {r : Except Fault (α × Rest m)} {result : Except ε α} {s t u : List Char}

theorem Follows.later (h : Follows r result t) (f : α → β) (hle : m ≤ n) :
    Follows (later f hle r) (result.map f) t := by
  cases result with
  | ok a => exact Yields.later h f hle
  | error e =>
    obtain ⟨fault, rfl⟩ := h
    exact ⟨fault, rfl⟩

theorem later_id (h : Follows r result t) (hle : m ≤ n) : Follows (Json.later id hle r) result t := by
  have hlater := h.later id hle
  cases result <;> exact hlater

theorem atValue_of_skipBlank {one : (c : Char) → (r : List Char) → Except Fault (α × Rest (r.length + 1))} {c : Char}
    {r : List Char} (h : skipBlank s = c :: r) : atValue one s = Json.later id (lt_of_skipBlank h) (one c r) := by
  rw [atValue]
  split
  · next hend => exact absurd (h.symm.trans hend) (List.cons_ne_nil c r)
  · next hcons =>
    obtain ⟨rfl, rfl⟩ := List.cons.inj (h.symm.trans hcons)
    rfl

theorem follows_andThen {first : Reader β} {second : β → Reader α} {b : β} (hfirst : Yields (first s) b t)
    (hsecond : Follows (second b t) result u) : Follows (first.andThen second s) result u := by
  obtain ⟨hlt, hfirst⟩ := hfirst
  rw [Reader.andThen, hfirst]
  exact later_id hsecond _

end Follows

section Values

variable {α : Type} [Choice α] {s t u : List Char} {text : String}

theorem readText_of_spells {expected : Expected} (hblanks : Blanks s ('"' :: u)) (hspells : Spells u text.toList t) :
    Yields (readText expected s) text t := by
  rw [readText, atValue_of_skipBlank (hblanks.skipBlank_eq_cons rfl), if_pos rfl]
  exact (hspells.readString_eq _).later id _

theorem readByte_intText (i : Int) (hblanks : Blanks s (Value.intText i ++ t)) (ht : EndsNumber t) :
    Follows (readByte s) (if 0 ≤ i ∧ i < 256 then .ok i.toNat.toUInt8 else .error ()) t := by
  obtain ⟨c, r, hcons, hc⟩ := exists_intText_eq_cons i
  have hblank : isBlank c = false := by
    obtain rfl | hc := hc
    · rfl
    · exact isBlank_eq_false_of_isDigit hc
  obtain ⟨hlt, hread⟩ := readNumber_intText_append i ht
  generalize htext : Value.intText i ++ t = text at hblanks hlt hread
  obtain rfl : c :: (r ++ t) = text := by rw [← htext, hcons, List.cons_append]
  rw [readByte, atValue_of_skipBlank (hblanks.skipBlank_eq_cons hblank), if_pos hc, hread]
  refine later_id ?_ _
  by_cases hfits : 0 ≤ i ∧ i < 256
  · have hle : -9223372036854775808 ≤ i := by omega
    have hlt : i < 18446744073709551616 := by omega
    rw [if_pos hfits, collected_integer ⟨i, hle, hlt⟩]
    exact ⟨_, if_pos hfits⟩
  · rw [if_neg hfits]
    cases hvalue : collected (decide (i < 0)) i.natAbs with
    | none => exact ⟨_, rfl⟩
    | some x =>
      cases x with
      | float x => exact ⟨_, rfl⟩
      | int j =>
        obtain rfl := collected_eq_int hvalue
        exact ⟨_, if_neg hfits⟩

theorem readName_of_spells {v : α} (hname : Choice.named? α text = some v) (hblanks : Blanks s ('"' :: u))
    (hspells : Spells u text.toList t) : Yields (readName α s) v t := by
  obtain ⟨hlt, hread⟩ : Yields (readText .name s) text t := readText_of_spells hblanks hspells
  rw [readName, hread]
  dsimp only
  rw [hname]
  exact ⟨hlt, rfl⟩

theorem readChoice_of_spells {v : α} (hname : Choice.named? α text = some v) (hblanks : Blanks s ('"' :: u))
    (hspells : Spells u text.toList t) : Yields (readChoice α s) v t := by
  rw [readChoice, atValue_of_skipBlank (hblanks.skipBlank_eq_cons rfl), if_neg (by decide), if_pos rfl]
  exact (readName_of_spells hname .none hspells).later id _

/-- The name of a choice is read as the choice that it spells as an argument. -/
theorem readChoice_follows {β : Type} (f : α → β) (hnames : Choice.NamesAgree α) (htext : text ∈ Choice.names α)
    (hblanks : Blanks s ('"' :: u)) (hspells : Spells u text.toList t) :
    Follows ((readChoice α).map f s) ((choose text).map f) t := by
  obtain ⟨v, hv, hchoose⟩ := hnames.exists_choose htext
  rw [hchoose]
  exact (readChoice_of_spells hv hblanks hspells).later f _

theorem readSetting_follows {p : PartialSettings} {setting : Setting} (hcanonical : setting.Canonical text)
    (hblanks : Blanks s u) (hvalue : ValueText setting text u t) (ht : EndsNumber t) :
    Follows (readSetting p setting s) (p.set text setting) t := by
  cases hvalue with
  | level =>
    obtain ⟨i, rfl⟩ := hcanonical
    rw [String.toList_ofList] at hblanks
    have hread := (readByte_intText i hblanks ht).later (fun v => { p with logLevel := some v }) (length_le_self s)
    rw [PartialSettings.set, logLevel?_intText]
    by_cases hfits : 0 ≤ i ∧ i < 256
    · rw [if_pos hfits] at hread ⊢
      exact hread
    · rw [if_neg hfits] at hread ⊢
      exact hread
  | string hlevel hspells =>
    cases setting with
    | manifestKey => exact (readText_of_spells hblanks hspells).later _ _
    | logLevel => exact absurd rfl hlevel
    | logFormat => exact readChoice_follows _ (by decide) hcanonical hblanks hspells
    | logStream => exact readChoice_follows _ (by decide) hcanonical hblanks hspells
    | color => exact readChoice_follows _ (by decide) hcanonical hblanks hspells

end Values

end Json

end BuildOrder
