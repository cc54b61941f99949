import BuildOrder.Proofs.Command.Options
import BuildOrder.Proofs.Settings.Values

/-!
# Settings as the fields of an object

The text of an object gives settings in the order of its fields; between them may be fields of other names, which give
nothing. To read the fields is to give the settings one after the other, as options give them: a setting that is there
already is refused, and so is a bad value.
-/

namespace BuildOrder.Json

/-- A field from behind the first quote of its key on, and the settings that it gives: one with its text, or none. -/
inductive Field : List (Setting × String) → List Char → List Char → Prop where
  | setting {setting : Setting} {text : String} {s t u v w : List Char} :
      Spells s setting.field.toList u → Blanks u (':' :: v) → Blanks v w → ValueText setting text w t →
      Field [(setting, text)] s t
  | other {key : String} {s t u v : List Char} :
      Spells s key.toList u → Setting.ofField? key = none → Blanks u (':' :: v) → Derives .value v t → Field [] s t

/-- The fields of an object from behind the first quote of a key on, and the settings that they give. -/
inductive Fields : List (Setting × String) → List Char → List Char → Prop where
  | last {l : List (Setting × String)} {s t u : List Char} :
      Field l s u → Blanks u ('\x7d' :: t) → Fields l s t
  | more {l l' : List (Setting × String)} {s t u v w : List Char} :
      Field l s u → Blanks u (',' :: v) → Blanks v ('"' :: w) → Fields l' w t → Fields (l ++ l') s t

/-- The text is an object that gives these settings in this order. -/
inductive ObjectText : List (Setting × String) → List Char → Prop where
  | empty {s t u : List Char} :
      Blanks s ('\x7b' :: u) → Blanks u ('\x7d' :: t) → Blanks t [] → ObjectText [] s
  | fields {l : List (Setting × String)} {s t u v : List Char} :
      Blanks s ('\x7b' :: u) → Blanks u ('"' :: v) → Fields l v t → Blanks t [] → ObjectText l s

variable {l : List (Setting × String)} {s t : List Char}

/-! ### One field -/

theorem ofField?_field (setting : Setting) : Setting.ofField? setting.field = some setting := by
  cases setting <;> rfl

private theorem readColon_of_blanks (h : Blanks s (':' :: t)) : Yields (readColon s) () t := by
  have hskip := h.skipBlank_eq_cons rfl
  rw [readColon]
  split
  · next hend => exact absurd (hskip.symm.trans hend) (List.cons_ne_nil _ t)
  · next hcons =>
    obtain ⟨rfl, rfl⟩ := List.cons.inj (hskip.symm.trans hcons)
    rw [if_pos rfl]
    exact ⟨_, rfl⟩

/-- Reading a field is giving its setting, if it has one. -/
theorem readField_follows (hcanonical : ∀ o ∈ l, o.1.Canonical o.2) (hfield : Field l s t) (ht : EndsNumber t)
    (p : PartialSettings) : Follows (readField p s) (p.giveAll l) t := by
  cases hfield with
  | setting hspells hcolon hblanks hvalue =>
    obtain ⟨hlt, hread⟩ := hspells.readString_eq (length_lt_succ s)
    rw [readField, hread, PartialSettings.giveAll_singleton]
    dsimp only
    rw [ofField?_field]
    dsimp only
    split
    · exact ⟨_, rfl⟩
    · have hset := readSetting_follows (hcanonical _ (List.mem_singleton_self _)) hblanks hvalue ht (p := p)
      exact later_id (follows_andThen (readColon_of_blanks hcolon) hset) _
  | other hspells hother hcolon hvalue =>
    obtain ⟨hlt, hread⟩ := hspells.readString_eq (length_lt_succ s)
    have hskip : Follows (skipValue.map (fun _ => p) _) (p.giveAll []) t := (hvalue.skipValue ht).later _ _
    rw [readField, hread]
    dsimp only
    rw [hother]
    exact later_id (follows_andThen (readColon_of_blanks hcolon) hskip) _

/-! ### All fields -/

section Loop

variable {n : Nat} {u v w : List Char} {p q : PartialSettings}

private theorem settingFields_error (hread : ∃ f, readField p s = .error f) (h : s.length < n) :
    ∃ f, settingFields p s h = .error f := by
  obtain ⟨f, hread⟩ := hread
  rw [settingFields, hread]
  exact ⟨f, rfl⟩

private theorem settingFields_last (hread : Yields (readField p s) q u) (hclose : Blanks u ('\x7d' :: t))
    (h : s.length < n) : Yields (settingFields p s h) q t := by
  have hskip := hclose.skipBlank_eq_cons rfl
  obtain ⟨hlt, hread⟩ := hread
  rw [settingFields, hread]
  dsimp only
  split
  · next hend => exact absurd (hskip.symm.trans hend) (List.cons_ne_nil _ t)
  · next hcons =>
    obtain ⟨rfl, rfl⟩ := List.cons.inj (hskip.symm.trans hcons)
    rw [if_pos rfl]
    exact ⟨_, rfl⟩

private theorem settingFields_more (hread : Yields (readField p s) q u) (hcomma : Blanks u (',' :: v))
    (hquote : Blanks v ('"' :: w)) (h : s.length < n) :
    ∃ hw, settingFields p s h = settingFields q w hw := by
  have hskip := hcomma.skipBlank_eq_cons rfl
  have hskip' := hquote.skipBlank_eq_cons rfl
  obtain ⟨hlt, hread⟩ := hread
  have hw : w.length < n :=
    Nat.lt_trans (Nat.lt_trans (lt_of_skipBlank hskip') (lt_of_skipBlank hskip)) (Nat.lt_trans hlt h)
  refine ⟨hw, ?_⟩
  rw [settingFields, hread]
  dsimp only
  split
  · next hend => exact absurd (hskip.symm.trans hend) (List.cons_ne_nil _ v)
  · next hcons =>
    obtain ⟨rfl, rfl⟩ := List.cons.inj (hskip.symm.trans hcons)
    rw [if_neg (by decide), if_neg (not_not.mpr rfl)]
    split
    · next hend => exact absurd (hskip'.symm.trans hend) (List.cons_ne_nil _ w)
    · next hcons' =>
      obtain ⟨rfl, rfl⟩ := List.cons.inj (hskip'.symm.trans hcons')
      rw [if_neg (by decide), if_neg (not_not.mpr rfl)]

theorem settingFields_follows (hcanonical : ∀ o ∈ l, o.1.Canonical o.2) (hfields : Fields l s t)
    (p : PartialSettings) (h : s.length < n) : Follows (settingFields p s h) (p.giveAll l) t := by
  induction hfields generalizing p with
  | last hfield hclose =>
    -- Whether the settings of the field are accepted decides whether the loop gets to what stands behind it.
    have hread := readField_follows hcanonical hfield (hclose.endsNumber (endsNumber_closing .object _)) p
    revert hread
    cases p.giveAll _ with
    | error u => exact fun hread => settingFields_error hread h
    | ok q => exact fun hread => settingFields_last hread hclose h
  | @more l l' s t u v w hfield hcomma hquote _ ih =>
    rw [List.forall_mem_append] at hcanonical
    have hends : EndsNumber u :=
      hcomma.endsNumber (endsNumber_cons rfl (by decide) (by decide) (by decide))
    have hread := readField_follows hcanonical.1 hfield hends p
    rw [PartialSettings.giveAll_append]
    revert hread
    cases p.giveAll l with
    | error u => exact fun hread => settingFields_error hread h
    | ok q =>
      intro hread
      obtain ⟨hw, hstep⟩ := settingFields_more hread hcomma hquote h
      rw [hstep]
      exact ih hcanonical.2 q hw

end Loop

/-! ### Objects -/

private theorem readSettings_of_opening {u : List Char} {result : Except Usage PartialSettings}
    (hopen : Blanks s ('\x7b' :: u)) (h : Follows (readSettingFields u) result t) :
    Follows (readSettings s) result t := by
  rw [readSettings, atValue_of_skipBlank (hopen.skipBlank_eq_cons rfl), if_neg (by decide), if_pos rfl]
  exact later_id h _

theorem readSettings_follows (hcanonical : ∀ o ∈ l, o.1.Canonical o.2) (hobject : ObjectText l s) :
    ∃ t, Blanks t [] ∧ Follows (readSettings s) (PartialSettings.empty.giveAll l) t := by
  cases hobject with
  | @empty _ t u hopen hclose hend =>
    have hskip := hclose.skipBlank_eq_cons rfl
    refine ⟨t, hend, readSettings_of_opening hopen ?_⟩
    rw [readSettingFields]
    split
    · next hnil => exact absurd (hskip.symm.trans hnil) (List.cons_ne_nil _ t)
    · next hcons =>
      obtain ⟨rfl, rfl⟩ := List.cons.inj (hskip.symm.trans hcons)
      rw [if_pos rfl]
      exact ⟨_, rfl⟩
  | @fields _ _ t u v hopen hquote hfields hend =>
    have hskip := hquote.skipBlank_eq_cons rfl
    refine ⟨t, hend, readSettings_of_opening hopen ?_⟩
    rw [readSettingFields]
    split
    · next hnil => exact absurd (hskip.symm.trans hnil) (List.cons_ne_nil _ v)
    · next hcons =>
      obtain ⟨rfl, rfl⟩ := List.cons.inj (hskip.symm.trans hcons)
      rw [if_neg (by decide), if_pos rfl]
      exact settingFields_follows hcanonical hfields .empty _

theorem readAll_eq_ok_iff {ε α : Type} {one : Reader α} {result : Except ε α} {a : α}
    (h : Follows (one s) result t) (hend : Blanks t []) : readAll one s = .ok a ↔ result = .ok a := by
  rw [readAll]
  cases result with
  | error e =>
    obtain ⟨f, hread⟩ := h
    simp [hread]
  | ok b =>
    obtain ⟨hlt, hread⟩ := h
    have hskip : skipBlank t = [] := hend.skipBlank_eq
    simp [hread, expectEnd, hskip]

end BuildOrder.Json

namespace BuildOrder

theorem Settings.parse_eq_ok_iff {l : List (Setting × String)} {text : String} {settings : Settings}
    (hcanonical : ∀ o ∈ l, o.1.Canonical o.2) (hobject : Json.ObjectText l text.toList) :
    Settings.parse text = .ok settings ↔
      (PartialSettings.empty.giveAll l).map PartialSettings.settings = .ok settings := by
  obtain ⟨t, hend, hread⟩ := Json.readSettings_follows hcanonical hobject
  rw [Settings.parse, map_eq_ok_iff, map_eq_ok_iff]
  simp only [Json.readAll_eq_ok_iff hread hend]

end BuildOrder
