import BuildOrder.Manifest.Basic
import BuildOrder.Proofs.Json.Written
import BuildOrder.Proofs.Node.Coding

/-!
# What becomes of a document

Once a text has been read, the format is forgotten. A document that is an array is the manifest, a table is asked
for its entry under the key and for nothing else, and every other document is refused. The array that is found
always makes a tree, so no manifest is refused for what one of its elements is.
-/

namespace BuildOrder

theorem ManifestFormat.exists_fields_of_read_toml {text : String} {document : Value}
    (hread : ManifestFormat.toml.read text = .ok document) : ∃ fields, document = .obj fields := by
  rw [ManifestFormat.read] at hread
  split at hread
  · obtain rfl := Except.ok.inj hread
    exact ⟨_, rfl⟩
  · cases hread

/-- What a reader says of a text that it refuses is not about the elements of a manifest, nor about its root. -/
theorem ManifestFormat.ne_of_read_eq_error {format : ManifestFormat} {text : String} {e : ManifestError}
    (hread : format.read text = .error e) : e ≠ .invalidNode ∧ e ≠ .invalidRoot := by
  cases format <;>
  · rw [ManifestFormat.read] at hread
    split at hread
    · cases hread
    · obtain rfl := Except.error.inj hread
      exact ⟨nofun, nofun⟩

theorem ManifestFormat.read_json_written {document : Value} (htidy : document.Tidy) (hwhole : document.Whole)
    (hheight : document.height ≤ Json.depthLimit) :
    ManifestFormat.json.read (String.ofList (document.chars ++ ['\n'])) = .ok document := by
  rw [ManifestFormat.read, Json.parse_written htidy hwhole hheight]

namespace Manifest

/-! ### From a document to its sequence -/

theorem ofElements_eq_ok (vs : List Value) : ofElements vs = .ok (Node.ofValues vs) := by
  rw [ofElements, Node.decodeAll?_some]

section Table

variable {key : String} {fields : List (String × Value)}

theorem ofDocument_obj_of_absent (h : Value.field? key fields = none) :
    ofDocument key (.obj fields) = .error (.missingKey key) := by
  rw [ofDocument, h]

theorem ofDocument_obj_of_array {vs : List Value} (h : Value.field? key fields = some (.arr vs)) :
    ofDocument key (.obj fields) = .ok (Node.ofValues vs) := by
  rw [ofDocument, h]
  exact ofElements_eq_ok vs

theorem ofDocument_obj_of_isArray_eq_false {v : Value} (h : Value.field? key fields = some v)
    (hv : v.isArray = false) : ofDocument key (.obj fields) = .error (.keyNotSequence key) := by
  rw [ofDocument, h]
  cases v with
  | arr vs => exact Bool.noConfusion hv
  | null | bool | num | str | obj => rfl

theorem ofDocument_obj_congr {fields' : List (String × Value)}
    (h : Value.field? key fields' = Value.field? key fields) :
    ofDocument key (.obj fields') = ofDocument key (.obj fields) := by
  rw [ofDocument, ofDocument, h]

end Table

theorem ofDocument_eq_invalidRoot {key : String} {document : Value} (harray : document.isArray = false)
    (hobject : ∀ fields, document ≠ .obj fields) : ofDocument key document = .error .invalidRoot := by
  cases document with
  | arr vs => exact Bool.noConfusion harray
  | obj fields => exact absurd rfl (hobject fields)
  | null | bool | num | str => rfl

theorem ofDocument_ne_invalidNode (key : String) (document : Value) :
    ofDocument key document ≠ .error .invalidNode := by
  cases document with
  | arr vs =>
    rw [ofDocument, ofElements_eq_ok]
    nofun
  | obj fields =>
    rw [ofDocument]
    split
    · rw [ofElements_eq_ok]
      nofun
    · nofun
    · nofun
  | null | bool | num | str => nofun

theorem ofDocument_obj_ne_invalidRoot (key : String) (fields : List (String × Value)) :
    ofDocument key (.obj fields) ≠ .error .invalidRoot := by
  rw [ofDocument]
  split
  · rw [ofElements_eq_ok]
    nofun
  · nofun
  · nofun

/-! ### From a text to its manifest -/

variable {format : ManifestFormat} {key text : String}

theorem parse_value_eq_ok {nodes : List (Node Value)} (h : nodesOfText format key text = .ok nodes) :
    (parse format key text).value = .ok ⟨nodes, none⟩ := by
  rw [parse, h]
  rfl

theorem parse_value_eq_error {e : ManifestError} (h : nodesOfText format key text = .error e) :
    (parse format key text).value = .error e := by
  rw [parse, h]
  rfl

theorem nodesOfText_eq_ofDocument {document : Value} (hread : format.read text = .ok document) :
    nodesOfText format key text = ofDocument key document := by
  rw [nodesOfText, hread]

theorem parse_value_congr {format' : ManifestFormat} {text' : String}
    (h : nodesOfText format' key text' = nodesOfText format key text) :
    (parse format' key text').value = (parse format key text).value := by
  cases hnodes : nodesOfText format key text with
  | error e => rw [parse_value_eq_error hnodes, parse_value_eq_error (h.trans hnodes)]
  | ok nodes => rw [parse_value_eq_ok hnodes, parse_value_eq_ok (h.trans hnodes)]

theorem nodesOfText_eq_error_of_parse {e : ManifestError} (h : (parse format key text).value = .error e) :
    nodesOfText format key text = .error e := by
  cases hnodes : nodesOfText format key text with
  | error e' =>
    rw [parse_value_eq_error hnodes] at h
    rw [Except.error.inj h]
  | ok nodes =>
    rw [parse_value_eq_ok hnodes] at h
    cases h

theorem parse_value_ne_invalidNode (format : ManifestFormat) (key text : String) :
    (parse format key text).value ≠ .error .invalidNode := by
  intro h
  have hnodes := nodesOfText_eq_error_of_parse h
  cases hread : format.read text with
  | ok document => exact ofDocument_ne_invalidNode key document ((nodesOfText_eq_ofDocument hread).symm.trans hnodes)
  | error e =>
    rw [nodesOfText, hread] at hnodes
    exact (ManifestFormat.ne_of_read_eq_error hread).1 (Except.error.inj hnodes)

theorem parse_toml_value_ne_invalidRoot (key text : String) :
    (parse .toml key text).value ≠ .error .invalidRoot := by
  intro h
  have hnodes := nodesOfText_eq_error_of_parse h
  cases hread : ManifestFormat.toml.read text with
  | ok document =>
    obtain ⟨fields, rfl⟩ := ManifestFormat.exists_fields_of_read_toml hread
    exact ofDocument_obj_ne_invalidRoot key fields ((nodesOfText_eq_ofDocument hread).symm.trans hnodes)
  | error e =>
    rw [nodesOfText, hread] at hnodes
    exact (ManifestFormat.ne_of_read_eq_error hread).2 (Except.error.inj hnodes)

/-- **What becomes of a text that can be read.** A document that is an array is the manifest whatever the key is. Of
a table the entry under the key decides: there is none, it is an array and makes the manifest that the array alone
makes, or it is something else. So two tables with the same entry come to the same, in whatever formats and beside
whatever other entries. Other documents have no root that counts; in TOML there are none. No text is refused because
of an element. -/
theorem parse_outcome (format : ManifestFormat) (key text : String) :
    (∀ vs, format.read text = .ok (.arr vs) → (parse format key text).value = .ok ⟨Node.ofValues vs, none⟩) ∧
      (∀ fields, format.read text = .ok (.obj fields) →
        (Value.field? key fields = none → (parse format key text).value = .error (.missingKey key)) ∧
          (∀ vs, Value.field? key fields = some (.arr vs) →
            (parse format key text).value = .ok ⟨Node.ofValues vs, none⟩) ∧
          (∀ v, Value.field? key fields = some v → v.isArray = false →
            (parse format key text).value = .error (.keyNotSequence key)) ∧
          ∀ format' text' fields', ManifestFormat.read format' text' = .ok (.obj fields') →
            Value.field? key fields' = Value.field? key fields →
              (parse format' key text').value = (parse format key text).value) ∧
      (∀ document, format.read text = .ok document → document.isArray = false →
        (∀ fields, document ≠ .obj fields) → (parse format key text).value = .error .invalidRoot) ∧
      (parse format key text).value ≠ .error .invalidNode ∧
      (parse .toml key text).value ≠ .error .invalidRoot := by
  refine ⟨fun vs hread => ?_, fun fields hread => ⟨fun hfield => ?_, fun vs hfield => ?_, fun v hfield hv => ?_,
    fun format' text' fields' hread' hfield => ?_⟩, fun document hread harray hobject => ?_,
    parse_value_ne_invalidNode format key text, parse_toml_value_ne_invalidRoot key text⟩
  · exact parse_value_eq_ok ((nodesOfText_eq_ofDocument hread).trans (ofElements_eq_ok vs))
  · exact parse_value_eq_error ((nodesOfText_eq_ofDocument hread).trans (ofDocument_obj_of_absent hfield))
  · exact parse_value_eq_ok ((nodesOfText_eq_ofDocument hread).trans (ofDocument_obj_of_array hfield))
  · exact parse_value_eq_error
      ((nodesOfText_eq_ofDocument hread).trans (ofDocument_obj_of_isArray_eq_false hfield hv))
  · apply parse_value_congr
    rw [nodesOfText_eq_ofDocument hread, nodesOfText_eq_ofDocument hread', ofDocument_obj_congr hfield]
  · exact parse_value_eq_error
      ((nodesOfText_eq_ofDocument hread).trans (ofDocument_eq_invalidRoot harray hobject))

/-- An array, a table asked for three keys, a table with one of its entries, and a number. -/
theorem parse_outcome_four :
    let deps : Value := .arr [.str "x", .arr []]
    let one : Value := .num (.int ⟨1, by decide, by decide⟩)
    let text (document : Value) := String.ofList (document.chars ++ ['\n'])
    let table := text (.obj [("a", one), ("deps", deps)])
    let nodes : List (Node Value) := [.item (.str "x"), .seq []]
    (parse .json "deps" (text deps)).value = .ok ⟨nodes, none⟩ ∧
      ((parse .json "b" table).value = .error (.missingKey "b") ∧
        (parse .json "deps" table).value = .ok ⟨nodes, none⟩ ∧
        (parse .json "a" table).value = .error (.keyNotSequence "a") ∧
        (parse .json "deps" (text (.obj [("deps", deps), ("z", one)]))).value = (parse .json "deps" table).value) ∧
      (parse .json "deps" (text one)).value = .error .invalidRoot := by
  intro deps one text table nodes
  have harray : ManifestFormat.json.read (text deps) = .ok deps :=
    ManifestFormat.read_json_written (by decide) (by decide) (by decide)
  have htable : ManifestFormat.json.read table = .ok (.obj [("a", one), ("deps", deps)]) :=
    ManifestFormat.read_json_written (by decide) (by decide) (by decide)
  have hother : ManifestFormat.json.read (text (.obj [("deps", deps), ("z", one)])) =
      .ok (.obj [("deps", deps), ("z", one)]) :=
    ManifestFormat.read_json_written (by decide) (by decide) (by decide)
  have hnumber : ManifestFormat.json.read (text one) = .ok one :=
    ManifestFormat.read_json_written (by decide) (by decide) (by decide)
  refine ⟨(parse_outcome .json "deps" _).1 _ harray, ⟨?_, ?_, ?_, ?_⟩, ?_⟩
  · exact ((parse_outcome .json "b" table).2.1 _ htable).1 rfl
  · exact ((parse_outcome .json "deps" table).2.1 _ htable).2.1 _ rfl
  · exact ((parse_outcome .json "a" table).2.1 _ htable).2.2.1 one rfl rfl
  · exact ((parse_outcome .json "deps" table).2.1 _ htable).2.2.2 _ _ _ hother rfl
  · exact (parse_outcome .json "deps" _).2.2.1 _ hnumber rfl nofun

end Manifest

end BuildOrder
