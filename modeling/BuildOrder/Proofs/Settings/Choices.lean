import Mathlib.Data.List.Pairwise
import BuildOrder.Manifest.Format
import BuildOrder.Proofs.Settings.Values

/-!
# Three readers of a choice

A choice is read exactly, regardless of case, or by its name alone, and always from one table of spellings. Two facts
about a table make the readers agree. Every spelling is what folding leaves of it, so a text that is read regardless
of case is folded and then read exactly. And no spelling stands in two entries, so at most one entry fits a text and the
order of the table does not matter.
-/

namespace BuildOrder

private theorem find?_eq_some_iff_of_unique {β : Type} {l : List β} {p : β → Bool}
    (hunique : ∀ a ∈ l, ∀ b ∈ l, p a → p b → a = b) {a : β} : l.find? p = some a ↔ a ∈ l ∧ p a := by
  constructor
  · intro h
    exact ⟨List.mem_of_find?_eq_some h, List.find?_some h⟩
  · rintro ⟨hmem, ha⟩
    obtain ⟨b, hb⟩ : ∃ b, l.find? p = some b := Option.isSome_iff_exists.mp (List.find?_isSome.mpr ⟨a, hmem, ha⟩)
    rw [hb, hunique b (List.mem_of_find?_eq_some hb) a hmem (List.find?_some hb) ha]

private theorem find?_perm_of_unique {β : Type} {l l' : List β} {p : β → Bool} (hperm : l'.Perm l)
    (hunique : ∀ a ∈ l, ∀ b ∈ l, p a → p b → a = b) : l'.find? p = l.find? p := by
  have hunique' : ∀ a ∈ l', ∀ b ∈ l', p a → p b → a = b := by
    intro a ha b hb
    exact hunique a (hperm.mem_iff.mp ha) b (hperm.mem_iff.mp hb)
  ext a
  rw [find?_eq_some_iff_of_unique hunique, find?_eq_some_iff_of_unique hunique', hperm.mem_iff]

theorem Spelling.isExactly_iff {α : Type} {s : Spelling α} {text : String} : s.isExactly text ↔ text ∈ s.all := by
  simp [isExactly]

namespace Choice

/-- Some spelling of the choice is the text regardless of case. -/
def Matches {α : Type} [Choice α] (v : α) (text : String) : Prop :=
  ∃ s ∈ spellings (α := α), s.choice = v ∧ s.isFolded text

/-- No spelling is changed by folding, and none stands in two entries of the table. -/
structure SpelledApart (α : Type) [Choice α] : Prop where
  folded : ∀ s ∈ spellings (α := α), ∀ n ∈ s.all, Text.folded n = n.toList
  apart : (spellings (α := α)).Pairwise fun s t => ∀ n ∈ s.all, n ∉ t.all

section Tables

variable {α : Type} [Choice α] {text : String} {v : α}

theorem SpelledApart.eq_of_mem_all (h : SpelledApart α) {s t : Spelling α} (hs : s ∈ spellings (α := α))
    (ht : t ∈ spellings (α := α)) (hst : text ∈ s.all) (htt : text ∈ t.all) : s = t := by
  by_contra hne
  have _ : Std.Symm fun s t : Spelling α => ∀ n ∈ s.all, n ∉ t.all := by
    refine ⟨fun s t hapart n ht hs => ?_⟩
    exact hapart n hs ht
  exact h.apart.forall hs ht hne text hst htt

/-- To compare a text regardless of case is to fold it and compare it exactly. -/
theorem SpelledApart.isFolded_iff (h : SpelledApart α) {s : Spelling α} (hs : s ∈ spellings (α := α)) :
    s.isFolded text ↔ String.ofList (Text.folded text) ∈ s.all := by
  rw [Spelling.isFolded, List.any_eq_true]
  constructor
  · rintro ⟨n, hn, hfolded⟩
    rw [beq_iff_eq, h.folded s hs n hn] at hfolded
    rwa [← hfolded, String.ofList_toList]
  · intro hmem
    refine ⟨_, hmem, ?_⟩
    rw [beq_iff_eq, h.folded s hs _ hmem, String.toList_ofList]

theorem SpelledApart.eq_of_isFolded (h : SpelledApart α) :
    ∀ s ∈ spellings (α := α), ∀ t ∈ spellings (α := α), s.isFolded text → t.isFolded text → s = t := by
  intro s hs t ht hsf htf
  exact h.eq_of_mem_all hs ht ((h.isFolded_iff hs).mp hsf) ((h.isFolded_iff ht).mp htf)

theorem SpelledApart.spelled?_eq_some_iff (h : SpelledApart α) :
    spelled? α text = some v ↔ ∃ s ∈ spellings (α := α), s.choice = v ∧ text ∈ s.all := by
  have hunique : ∀ s ∈ spellings (α := α), ∀ t ∈ spellings (α := α),
      s.isExactly text → t.isExactly text → s = t := by
    intro s hs t ht hst htt
    exact h.eq_of_mem_all hs ht (s.isExactly_iff.mp hst) (t.isExactly_iff.mp htt)
  rw [spelled?, Option.map_eq_some_iff]
  refine exists_congr fun s => ?_
  rw [find?_eq_some_iff_of_unique hunique, s.isExactly_iff, and_assoc]
  exact and_congr_right fun _ => and_comm

/-- A text is read regardless of case just as what folding leaves of it is read exactly. -/
theorem SpelledApart.find?_isFolded (h : SpelledApart α) (text : String) :
    ((spellings (α := α)).find? (·.isFolded text)).map (·.choice) = spelled? α (String.ofList (Text.folded text)) := by
  ext v
  rw [h.spelled?_eq_some_iff, Option.map_eq_some_iff]
  refine exists_congr fun s => ?_
  rw [find?_eq_some_iff_of_unique h.eq_of_isFolded, and_assoc]
  refine and_congr_right fun hs => ?_
  rw [h.isFolded_iff hs]
  exact and_comm

theorem SpelledApart.ofText_eq (h : SpelledApart α) (text : String) :
    ofText α text =
      match spelled? α (String.ofList (Text.folded text)) with
      | some v => .ok v
      | none => .error ⟨text, complaint α⟩ := by
  rw [← h.find?_isFolded, ofText]
  cases (spellings (α := α)).find? (·.isFolded text) <;> rfl

theorem SpelledApart.ofText_eq_ok_iff (h : SpelledApart α) :
    ofText α text = .ok v ↔ spelled? α (String.ofList (Text.folded text)) = some v := by
  rw [h.ofText_eq]
  cases spelled? α (String.ofList (Text.folded text)) <;> simp

theorem SpelledApart.matches_iff (h : SpelledApart α) :
    Matches v text ↔ spelled? α (String.ofList (Text.folded text)) = some v := by
  rw [h.spelled?_eq_some_iff]
  refine exists_congr fun s => and_congr_right fun hs => and_congr_right fun _ => ?_
  exact h.isFolded_iff hs

/-- What folding leaves of a text is a spelling just if the text is that spelling regardless of case. -/
theorem SpelledApart.spelled?_folded_iff (h : SpelledApart α) :
    spelled? α (String.ofList (Text.folded text)) = some v ↔
      ∃ spelling, spelled? α spelling = some v ∧ Text.folded text = Text.folded spelling := by
  have hkept : ∀ spelling, spelled? α spelling = some v → Text.folded spelling = spelling.toList := by
    intro spelling hspelled
    obtain ⟨s, hs, -, hmem⟩ := h.spelled?_eq_some_iff.mp hspelled
    exact h.folded s hs spelling hmem
  constructor
  · intro hspelled
    refine ⟨_, hspelled, ?_⟩
    rw [hkept _ hspelled, String.toList_ofList]
  · rintro ⟨spelling, hspelled, hsame⟩
    rwa [hsame, hkept spelling hspelled, String.ofList_toList]

theorem choose_eq_ok_iff : choose text = .ok v ↔ spelled? α text = some v := by
  rw [choose]
  cases spelled? α text <;> simp

theorem SpelledApart.ofText_perm (h : SpelledApart α) {table : List (Spelling α)}
    (hperm : table.Perm (spellings (α := α))) (text : String) :
    @ofText α ⟨table, complaint α⟩ text = ofText α text := by
  have hfind : (@spellings α ⟨table, complaint α⟩).find? (·.isFolded text) =
      (spellings (α := α)).find? (·.isFolded text) := find?_perm_of_unique hperm h.eq_of_isFolded
  rw [ofText, ofText, hfind]
  rfl

end Tables

structure ReadAlike (α : Type) [Choice α] : Prop where
  /-- At most one choice has a spelling that is the text regardless of case. -/
  one_match : ∀ (text : String) (v w : α), Matches v text → Matches w text → v = w
  /-- The order in which choices are tried does not matter. -/
  any_order : ∀ table : List (Spelling α), table.Perm (spellings (α := α)) →
    ∀ text, @ofText α ⟨table, complaint α⟩ text = ofText α text
  /-- Read regardless of case are the texts that an argument spells exactly, in whatever case. -/
  accepts_iff : ∀ (text : String) (v : α),
    ofText α text = .ok v ↔ ∃ spelling, choose spelling = .ok v ∧ Text.folded text = Text.folded spelling
  /-- Other texts are refused as they are. -/
  refuses : ∀ text : String,
    (∀ (spelling : String) (v : α), choose spelling = .ok v → Text.folded text ≠ Text.folded spelling) →
      ofText α text = .error ⟨text, complaint α⟩

theorem SpelledApart.readAlike {α : Type} [Choice α] (h : SpelledApart α) : ReadAlike α where
  one_match text v w hv hw := by
    rw [h.matches_iff] at hv hw
    exact Option.some.inj (hv.symm.trans hw)
  any_order table hperm text := h.ofText_perm hperm text
  accepts_iff text v := by
    simp only [h.ofText_eq_ok_iff, h.spelled?_folded_iff, choose_eq_ok_iff]
  refuses text hnone := by
    rw [h.ofText_eq]
    cases hspelled : spelled? α (String.ofList (Text.folded text)) with
    | none => rfl
    | some v =>
      obtain ⟨spelling, hchoose, hsame⟩ := h.spelled?_folded_iff.mp hspelled
      exact absurd hsame (hnone spelling v (choose_eq_ok_iff.mpr hchoose))

end Choice

namespace Json

variable {α : Type} [Choice α] {text : String} {v : α} {s u t : List Char}

/-- Some string in JSON that spells the text is read as the choice. -/
def ReadsString (text : String) (v : α) : Prop :=
  ∃ s u t, Blanks s ('"' :: u) ∧ Spells u text.toList t ∧ Yields (readChoice α s) v t

theorem named?_of_readChoice (hblanks : Blanks s ('"' :: u)) (hspells : Spells u text.toList t)
    (hread : Yields (readChoice α s) v t) : Choice.named? α text = some v := by
  cases hname : Choice.named? α text with
  | some w =>
    obtain ⟨hlt, hv⟩ := hread
    obtain ⟨hlt', hw⟩ := readChoice_of_spells hname hblanks hspells
    rw [hw] at hv
    exact congrArg some (Prod.mk.inj (Except.ok.inj hv)).1
  | none =>
    obtain ⟨hlt, hv⟩ := hread
    obtain ⟨hlt', htext⟩ : Yields (readText .name ('"' :: u)) text t := readText_of_spells .none hspells
    rw [readChoice, atValue_of_skipBlank (hblanks.skipBlank_eq_cons rfl), if_neg (by decide), if_pos rfl, readName,
      htext] at hv
    dsimp only at hv
    rw [hname] at hv
    cases hv

theorem readsString_iff : ReadsString text v ↔ Choice.named? α text = some v := by
  constructor
  · rintro ⟨s, u, t, hblanks, hspells, hread⟩
    exact named?_of_readChoice hblanks hspells hread
  · intro hname
    have hspells := spells_written text.toList []
    exact ⟨_, _, [], .none, hspells, readChoice_of_spells hname .none hspells⟩

end Json

/-- What a string in JSON is read as, it is read as by the other readers too. -/
theorem Choice.SpelledApart.reads_of_readsString {α : Type} [Choice α] {text : String} {v : α} (h : SpelledApart α)
    (hread : Json.ReadsString text v) : choose text = .ok v ∧ Choice.ofText α text = .ok v := by
  rw [Json.readsString_iff, named?, Option.map_eq_some_iff] at hread
  obtain ⟨s, hfound, hv⟩ := hread
  have hname : s.name = text := by simpa using List.find?_some hfound
  have hspelled : spelled? α text = some v := by
    rw [h.spelled?_eq_some_iff]
    exact ⟨s, List.mem_of_find?_eq_some hfound, hv, hname ▸ List.mem_cons_self⟩
  refine ⟨choose_eq_ok_iff.mpr hspelled, ?_⟩
  rw [h.ofText_eq_ok_iff, h.spelled?_folded_iff]
  exact ⟨text, hspelled, rfl⟩

theorem LogFormat.spelledApart : Choice.SpelledApart LogFormat := ⟨by decide, by decide⟩

theorem LogStream.spelledApart : Choice.SpelledApart LogStream := ⟨by decide, by decide⟩

theorem Color.spelledApart : Choice.SpelledApart Color := ⟨by decide, by decide⟩

theorem ManifestFormat.spelledApart : Choice.SpelledApart ManifestFormat := ⟨by decide, by decide⟩

/-- **The readers of a choice agree.** For each of the four types, no text matches two choices regardless of case, so
the order in which they are tried does not matter; a text is read regardless of case just if an argument has a
spelling that it equals so, and as the same choice; any other text is refused and named as it was given. A string in
JSON that is read as a log format, a log stream or a colour is read as the same by both other readers. -/
theorem choices_read_alike :
    (Choice.ReadAlike LogFormat ∧ Choice.ReadAlike LogStream ∧ Choice.ReadAlike Color ∧
        Choice.ReadAlike ManifestFormat) ∧
      (∀ (text : String) (v : LogFormat), Json.ReadsString text v →
        choose text = .ok v ∧ Choice.ofText LogFormat text = .ok v) ∧
      (∀ (text : String) (v : LogStream), Json.ReadsString text v →
        choose text = .ok v ∧ Choice.ofText LogStream text = .ok v) ∧
      ∀ (text : String) (v : Color), Json.ReadsString text v →
        choose text = .ok v ∧ Choice.ofText Color text = .ok v := by
  refine ⟨⟨?_, ?_, ?_, ?_⟩, ?_, ?_, ?_⟩
  · exact LogFormat.spelledApart.readAlike
  · exact LogStream.spelledApart.readAlike
  · exact Color.spelledApart.readAlike
  · exact ManifestFormat.spelledApart.readAlike
  · exact fun _ _ => LogFormat.spelledApart.reads_of_readsString
  · exact fun _ _ => LogStream.spelledApart.reads_of_readsString
  · exact fun _ _ => Color.spelledApart.reads_of_readsString

/-- A long s folds to an `s`, an alias in capitals is read from a table turned around, and names are read from JSON
with and without an escape. -/
theorem choices_read_alike_long_s :
    (Choice.ofText LogStream "\u017fTDOUT" = .ok .stdout ∧
        @Choice.ofText LogFormat ⟨(Choice.spellings (α := LogFormat)).reverse, Choice.complaint LogFormat⟩ "PLAIN" =
          Choice.ofText LogFormat "PLAIN" ∧
        Choice.ofText LogFormat "PLAIN" = .ok .text) ∧
      (Json.ReadsString "yaml" LogFormat.yaml ∧ choose "yaml" = .ok LogFormat.yaml) ∧
      (Json.ReadsString "stderr" LogStream.stderr ∧ choose "stderr" = .ok LogStream.stderr) ∧
      Json.ReadsString "auto" Color.auto ∧ choose "auto" = .ok Color.auto := by
  obtain ⟨⟨hformat, hstream, -, -⟩, hformats, hstreams, hcolors⟩ := choices_read_alike
  have hyaml : Json.ReadsString "yaml" LogFormat.yaml := by
    have hspells : Json.Spells "\\u0079aml\"".toList "yaml".toList [] :=
      .escaped (.unit (n := 0x79) rfl (by decide)) (Json.spells_written "aml".toList [])
    exact ⟨_, _, _, .none, hspells, Json.readChoice_of_spells rfl .none hspells⟩
  have hstderr : Json.ReadsString "stderr" LogStream.stderr := Json.readsString_iff.mpr rfl
  have hauto : Json.ReadsString "auto" Color.auto := Json.readsString_iff.mpr rfl
  refine ⟨⟨?_, ?_, ?_⟩, ⟨hyaml, (hformats _ _ hyaml).1⟩, ⟨hstderr, (hstreams _ _ hstderr).1⟩, hauto,
    (hcolors _ _ hauto).1⟩
  · exact (hstream.accepts_iff _ _).mpr ⟨"stdout", rfl, by decide⟩
  · exact hformat.any_order _ (List.reverse_perm _) _
  · exact (hformat.accepts_iff _ _).mpr ⟨"plain", rfl, by decide⟩

end BuildOrder
