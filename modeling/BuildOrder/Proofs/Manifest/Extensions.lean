import BuildOrder.Proofs.Manifest.Sources
import BuildOrder.Proofs.Settings.Choices
import BuildOrder.Proofs.Text.Case

/-!
# Extensions as names of formats

The extension of a path is cut out of its last component, and this is the only thing about the path that counts. What is
put in front of a name with a point in it, a directory or more of the name, goes into other components or into what
stands before the last point. So a path suggests the format whose name its extension is, in whatever case, and if its
last component has no extension it suggests none.
-/

namespace BuildOrder

namespace Path

/-! ### The last component -/

private theorem exists_segments_append {t : List Char} (ht : '/' ∉ t) (s : List Char) :
    ∃ front last, segments s = front ++ [last] ∧ segments (s ++ t) = front ++ [last ++ t] := by
  induction s with
  | nil =>
    refine ⟨[], [], rfl, ?_⟩
    induction t with
    | nil => rfl
    | cons c t ih =>
      rw [List.mem_cons, not_or] at ht
      rw [List.nil_append, segments, if_neg (Ne.symm ht.1), ← List.nil_append t, ih ht.2]
      rfl
  | cons c s ih =>
    obtain ⟨front, last, hs, hst⟩ := ih
    rw [List.cons_append, segments, segments, hs, hst]
    by_cases hc : c = '/'
    · exact ⟨[] :: front, last, by rw [if_pos hc]; rfl, by rw [if_pos hc]; rfl⟩
    · rw [if_neg hc, if_neg hc]
      cases front with
      | nil => exact ⟨[], c :: last, rfl, rfl⟩
      | cons s ss => exact ⟨(c :: s) :: ss, last, rfl, rfl⟩

theorem getLast?_components {path : String} {front : List (List Char)} {last : List Char}
    (hsegments : segments path.toList = front ++ [last]) (hempty : last ≠ []) (hpoint : last ≠ ['.']) :
    (components path).getLast? = some (.ofSegment last) := by
  have hcounted : ∀ ss : List (List Char),
      (((ss ++ [last]).filter fun s => s ≠ [] ∧ s ≠ ['.']).map Component.ofSegment).getLast? =
        some (.ofSegment last) := by
    intro ss
    simp [List.filter_append, hempty, hpoint]
  have hbehind : ∀ (c : Component) (ss : List (List Char)),
      (c :: ((ss ++ [last]).filter fun s => s ≠ [] ∧ s ≠ ['.']).map Component.ofSegment).getLast? =
        some (.ofSegment last) := by
    intro c ss
    rw [List.getLast?_cons, hcounted]
    rfl
  rw [components, hsegments]
  split
  · rename_i heq
    cases front with
    | nil => cases heq
    | cons s front =>
      obtain ⟨-, hss⟩ := List.cons.inj heq
      rw [← hss]
      exact hbehind .root front
  · rename_i heq
    cases front with
    | nil => exact absurd (List.cons.inj heq).1 hpoint
    | cons s front =>
      obtain ⟨-, rfl⟩ := List.cons.inj heq
      exact hbehind .here front
  · exact hcounted front

/-! ### The extension of a name -/

private theorem takeWhile_append_of_no_point {t : List Char} (ht : '.' ∉ t) (rest : List Char) :
    (t ++ rest).takeWhile (· ≠ '.') = t ++ rest.takeWhile (· ≠ '.') := by
  apply List.takeWhile_append_of_pos
  intro c hc
  exact decide_eq_true fun h => ht (h ▸ hc)

theorem extensionOf?_append {stem e : List Char} (hstem : stem ≠ []) (he : '.' ∉ e) :
    extensionOf? (stem ++ '.' :: e) = some e := by
  have hafter : (stem ++ '.' :: e).reverse.takeWhile (· ≠ '.') = e.reverse := by
    rw [List.reverse_append, List.reverse_cons, List.append_assoc,
      takeWhile_append_of_no_point (List.mem_reverse.not.mpr he)]
    simp
  have hlength : 0 < stem.length := List.length_pos_iff.mpr hstem
  simp only [extensionOf?]
  rw [hafter, List.reverse_reverse, if_neg]
  simp only [List.length_append, List.length_cons, List.length_reverse]
  omega

theorem extensionOf?_eq_none {name : List Char} (hname : '.' ∉ name.tail) : extensionOf? name = none := by
  have hlong : name.length ≤ (name.reverse.takeWhile (· ≠ '.')).length + 1 := by
    cases name with
    | nil => exact Nat.zero_le _
    | cons c cs =>
      have hcs : '.' ∉ cs.reverse := List.mem_reverse.not.mpr hname
      rw [List.reverse_cons, takeWhile_append_of_no_point hcs]
      simp
  simp only [extensionOf?]
  rw [if_pos]
  omega

/-- A component without an extension: not a name, or a name without a point behind its first character. -/
def Component.Bare : Component → Prop
  | .name s => '.' ∉ s.toList.tail
  | _ => True

instance (c : Component) : Decidable c.Bare :=
  match c with
  | .root | .here | .up => isTrue trivial
  | .name s => inferInstanceAs (Decidable ('.' ∉ s.toList.tail))

theorem extension?_eq_none {path : String} (h : ∀ c ∈ (components path).getLast?, c.Bare) : extension? path = none := by
  rw [extension?, fileName?]
  split
  · rename_i s hlast
    have hbare : '.' ∉ s.toList.tail := h _ hlast
    rw [Option.bind_some, extensionOf?_eq_none hbare]
    rfl
  · rfl

/-- What is behind the last point of a path and has no slash is the extension. It may also be empty behind `..`. -/
theorem extension?_append {stem e : String} (dir : String) (hstem : stem ≠ "" ∧ '/' ∉ stem.toList)
    (he : '/' ∉ e.toList ∧ '.' ∉ e.toList) :
    extension? (dir ++ stem ++ "." ++ e) = some e ∨ e = "" ∧ extension? (dir ++ stem ++ "." ++ e) = none := by
  have hname : '/' ∉ stem.toList ++ '.' :: e.toList := by
    simp [hstem.2, he.1]
  have hpath : (dir ++ stem ++ "." ++ e).toList = dir.toList ++ (stem.toList ++ '.' :: e.toList) := by
    simp [String.toList_append]
  obtain ⟨front, last, -, hsegments⟩ := exists_segments_append hname dir.toList
  rw [← hpath, ← List.append_assoc] at hsegments
  have hbefore : last ++ stem.toList ≠ [] := by
    simp [hstem.1]
  have hlong : 0 < (last ++ stem.toList).length := List.length_pos_iff.mpr hbefore
  have hempty : last ++ stem.toList ++ '.' :: e.toList ≠ [] := by simp
  have hpoint : last ++ stem.toList ++ '.' :: e.toList ≠ ['.'] := by
    intro h
    have hlength := congrArg List.length h
    rw [List.length_append, List.length_cons, List.length_singleton] at hlength
    omega
  have hlast := getLast?_components hsegments hempty hpoint
  rw [Component.ofSegment] at hlast
  split at hlast
  · rename_i hup
    have hlength := congrArg List.length hup
    rw [List.length_append, List.length_cons, List.length_cons, List.length_singleton] at hlength
    have hnone : e.toList = [] := List.length_eq_zero_iff.mp (by omega)
    refine Or.inr ⟨String.toList_eq_nil_iff.mp hnone, ?_⟩
    rw [extension?, fileName?, hlast]
    rfl
  · refine Or.inl ?_
    rw [extension?, fileName?, hlast, Option.bind_some, String.toList_ofList, extensionOf?_append hbefore he.2,
      Option.map_some, String.ofList_toList]

end Path

namespace ManifestFormat

/-- The table of extensions is the table of spellings, in lower case. -/
theorem ofExtension?_eq (e : String) : ofExtension? e = Choice.spelled? ManifestFormat (Text.asciiLower e) := by
  rw [ofExtension?]
  split
  case h_5 hjson htoml hyaml hyml =>
    simp [Choice.spelled?, Choice.spellings, Spelling.isExactly, Spelling.all, Ne.symm hjson, Ne.symm htoml,
      Ne.symm hyaml, Ne.symm hyml]
  all_goals
    rename_i h
    rw [h]
    rfl

theorem ofPath?_append {stem e : String} (dir : String) (hstem : stem ≠ "" ∧ '/' ∉ stem.toList)
    (he : '/' ∉ e.toList ∧ '.' ∉ e.toList) : ofPath? (dir ++ stem ++ "." ++ e) = ofExtension? e := by
  rw [ofPath?]
  obtain hextension | ⟨rfl, hextension⟩ := Path.extension?_append dir hstem he
  · rw [hextension, Option.bind_some]
  · rw [hextension]
    rfl

theorem ofExtension?_eq_some_iff {e : String} {format : ManifestFormat} (he : Text.IsAscii e) :
    ofExtension? e = some format ↔ Choice.ofText ManifestFormat e = .ok format := by
  rw [spelledApart.ofText_eq_ok_iff, Text.folded_of_isAscii he, String.ofList_toList, ofExtension?_eq]

end ManifestFormat

namespace Manifest

theorem load_of_ofPath? {path : String} {format : ManifestFormat} (files : Files) (key : String)
    (h : ManifestFormat.ofPath? path = some format) :
    load files path none key = load files path (some format) key := by
  have hnone : (none <|> ManifestFormat.ofPath? path) = some format := h
  have hsome : (some format <|> ManifestFormat.ofPath? path) = some format := rfl
  rw [load, load, hnone, hsome]

/-- **An extension is the name of a format.** Behind any directory and any further name, an ASCII extension suggests the
format that the extension is the name of, regardless of case, and the manifest is loaded as with that format given; if
it is no such name, the path is refused as it was given. A path is also refused if its last component has no extension,
whatever its other components are. -/
theorem extension_names_format :
    (∀ dir stem e : String, stem ≠ "" ∧ '/' ∉ stem.toList →
        '/' ∉ e.toList ∧ '.' ∉ e.toList → Text.IsAscii e →
      let path := dir ++ stem ++ "." ++ e
      (∀ format, ManifestFormat.ofPath? path = some format ↔ Choice.ofText ManifestFormat e = .ok format) ∧
        ∀ files key,
          (∀ format, Choice.ofText ManifestFormat e = .ok format →
            load files path none key = load files path (some format) key) ∧
          ((∀ format, Choice.ofText ManifestFormat e ≠ .ok format) →
            (load files path none key).value = .error (.unknownFormat path))) ∧
      ∀ path, (∀ c ∈ (Path.components path).getLast?, c.Bare) →
        ManifestFormat.ofPath? path = none ∧
          ∀ files key, (load files path none key).value = .error (.unknownFormat path) := by
  refine ⟨?_, ?_⟩
  · intro dir stem e hstem he hascii path
    have hformat : ∀ format,
        ManifestFormat.ofPath? path = some format ↔ Choice.ofText ManifestFormat e = .ok format := by
      intro format
      rw [ManifestFormat.ofPath?_append dir hstem he]
      exact ManifestFormat.ofExtension?_eq_some_iff hascii
    refine ⟨hformat, fun files key => ⟨?_, ?_⟩⟩
    · intro format hnamed
      exact load_of_ofPath? files key ((hformat format).mpr hnamed)
    · intro hunnamed
      apply load_of_no_format files key
      rw [Option.eq_none_iff_forall_ne_some]
      intro format hsuggested
      exact hunnamed format ((hformat format).mp hsuggested)
  · intro path hbare
    have hnone : ManifestFormat.ofPath? path = none := by
      rw [ManifestFormat.ofPath?, Path.extension?_eq_none hbare]
      rfl
    exact ⟨hnone, fun files key => load_of_no_format files key hnone⟩

/-- An extension in mixed case behind points in directories and in the name, one that no format has, a name that begins
with its only point, and `..` behind a directory with an extension. -/
theorem extension_names_format_mixed_case :
    ManifestFormat.ofPath? "/a.json/../.x.tar.YmL" = some .yaml ∧
      (∀ files key, (load files "x.toml/deps.txt" none key).value = .error (.unknownFormat "x.toml/deps.txt")) ∧
      ManifestFormat.ofPath? "a.toml/.json" = none ∧
      ∀ files key, (load files "a.toml/.." none key).value = .error (.unknownFormat "a.toml/..") := by
  obtain ⟨hnamed, hbare⟩ := extension_names_format
  refine ⟨?_, fun files key => ?_, ?_, ?_⟩
  · exact ((hnamed "/a.json/../" ".x.tar" "YmL" (by decide) (by decide) (by decide)).1 .yaml).mpr rfl
  · refine ((hnamed "x.toml/" "deps" "txt" (by decide) (by decide) (by decide)).2 files key).2 ?_
    intro format
    cases format <;> decide
  · exact (hbare "a.toml/.json" (by decide)).1
  · exact (hbare "a.toml/.." (by decide)).2

end Manifest

end BuildOrder
