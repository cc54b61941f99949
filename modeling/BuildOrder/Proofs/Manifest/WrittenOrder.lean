import BuildOrder.Command.Run
import BuildOrder.Proofs.Json.Tidy
import BuildOrder.Proofs.Json.Written
import BuildOrder.Proofs.Manifest.Outcome
import BuildOrder.Proofs.Order.Unrepeated
import BuildOrder.Proofs.Toml.Tidy
import BuildOrder.Proofs.Yaml.Tidy

/-!
# A written order is its own manifest

Whatever format a manifest was read in, its items are tidy and none of them is an array. An order that is written
as one array therefore reads back as itself, and every element becomes an item again and not a sequence. Since the
order repeats nothing, flattening leaves it as it is.

So a run that writes an order as JSON may be fed with its own output: it writes the same bytes.
-/

namespace BuildOrder

theorem ManifestFormat.tidy_of_read {format : ManifestFormat} {text : String} {document : Value}
    (hread : format.read text = .ok document) : document.Tidy := by
  cases format with
  | json =>
    rw [ManifestFormat.read] at hread
    split at hread
    · next hparse => exact Except.ok.inj hread ▸ Json.tidy_of_parse hparse
    · cases hread
  | toml =>
    rw [ManifestFormat.read] at hread
    split at hread
    · next hparse => exact Except.ok.inj hread ▸ Toml.tidy_of_parse hparse
    · cases hread
  | yaml =>
    rw [ManifestFormat.read] at hread
    split at hread
    · next hparse => exact Except.ok.inj hread ▸ Yaml.tidy_of_parse hparse
    · cases hread

/-! ### The items of a manifest -/

namespace Node

mutual

theorem parts_subset_of_mem_leaves_ofValue : ∀ {v : Value}, ∀ a ∈ (ofValue v).leaves, a.parts ⊆ v.parts
  | .arr _, a, ha => by
    rw [ofValue, leaves] at ha
    exact List.Subset.trans (parts_subset_of_mem_leavesAll_ofValues a ha) (List.subset_cons_self ..)
  | .null, _, ha | .bool _, _, ha | .num _, _, ha | .str _, _, ha | .obj _, _, ha => by
    obtain rfl := List.mem_singleton.mp ha
    exact List.Subset.refl _

theorem parts_subset_of_mem_leavesAll_ofValues :
    ∀ {vs : List Value}, ∀ a ∈ leavesAll (ofValues vs), a.parts ⊆ Value.partsAll vs
  | v :: vs, a, ha => by
    rw [ofValues, leavesAll, List.mem_append] at ha
    rw [Value.partsAll]
    rcases ha with ha | ha
    · exact List.subset_append_of_subset_left _ (parts_subset_of_mem_leaves_ofValue a ha)
    · exact List.subset_append_of_subset_right _ (parts_subset_of_mem_leavesAll_ofValues a ha)

end

theorem mem_leavesAll_of_mem_flatten {α : Type} [BEq α] {ns : List (Node α)} {a : α} (h : a ∈ flatten ns) :
    a ∈ leavesAll ns := by
  rw [flatten_eq_pwFilter] at h
  exact List.pwFilter_subset _ h

end Node

namespace Manifest

variable {format : ManifestFormat} {key text : String} {m : Manifest}

theorem exists_elements_of_ofDocument {document : Value} {nodes : List (Node Value)}
    (h : ofDocument key document = .ok nodes) :
    ∃ vs, nodes = Node.ofValues vs ∧ Value.partsAll vs ⊆ document.parts := by
  cases document with
  | arr vs =>
    rw [ofDocument, ofElements_eq_ok] at h
    exact ⟨vs, (Except.ok.inj h).symm, List.subset_cons_self ..⟩
  | obj fields =>
    rw [ofDocument] at h
    split at h
    · next vs hfield =>
      rw [ofElements_eq_ok] at h
      obtain ⟨k, hmem⟩ := mem_of_find?_fst hfield
      refine ⟨vs, (Except.ok.inj h).symm, fun p hp => ?_⟩
      have hentry : p ∈ (Value.arr vs).parts := List.mem_cons_of_mem _ hp
      exact List.mem_cons_of_mem _ (Value.mem_partsFields.mpr ⟨(k, .arr vs), hmem, hentry⟩)
    · cases h
    · cases h
  | null | bool | num | str => cases h

/-- What is inside an item is inside the document that the item comes from. -/
theorem parts_subset_of_ofDocument {document : Value} {nodes : List (Node Value)}
    (h : ofDocument key document = .ok nodes) : ∀ a ∈ Node.leavesAll nodes, a.parts ⊆ document.parts := by
  obtain ⟨vs, rfl, hparts⟩ := exists_elements_of_ofDocument h
  intro a ha
  exact List.Subset.trans (Node.parts_subset_of_mem_leavesAll_ofValues a ha) hparts

theorem exists_document_of_parse (hparse : (parse format key text).value = .ok m) :
    ∃ document, format.read text = .ok document ∧ ofDocument key document = .ok m.nodes := by
  cases hnodes : nodesOfText format key text with
  | error e => cases (parse_value_eq_error hnodes).symm.trans hparse
  | ok nodes =>
    obtain rfl := Except.ok.inj ((parse_value_eq_ok hnodes).symm.trans hparse)
    cases hread : format.read text with
    | error e =>
      rw [nodesOfText, hread] at hnodes
      cases hnodes
    | ok document => exact ⟨document, rfl, (nodesOfText_eq_ofDocument hread).symm.trans hnodes⟩

theorem tidy_of_mem_leavesAll_of_parse (hparse : (parse format key text).value = .ok m) :
    ∀ a ∈ Node.leavesAll m.nodes, a.Tidy := by
  obtain ⟨document, hread, hnodes⟩ := exists_document_of_parse hparse
  intro a ha fs hfs
  exact ManifestFormat.tidy_of_read hread fs (parts_subset_of_ofDocument hnodes a ha hfs)

theorem forall_mem_flatten_of_parse (hparse : (parse format key text).value = .ok m) :
    ∀ v ∈ m.flatten, v.Tidy ∧ v.isArray = false := by
  obtain ⟨document, -, hnodes⟩ := exists_document_of_parse hparse
  obtain ⟨vs, helements, -⟩ := exists_elements_of_ofDocument hnodes
  intro v hv
  have hleaf := Node.mem_leavesAll_of_mem_flatten hv
  have htidy := tidy_of_mem_leavesAll_of_parse hparse v hleaf
  rw [helements] at hleaf
  exact ⟨htidy, Node.isArray_of_mem_leavesAll_ofValues vs v hleaf⟩

/-! ### Reading an order -/

/-- The order as one array, on a line of its own. -/
def written (m : Manifest) : String := String.ofList (Emit.json.text m.flatten)

theorem writeOrder_json (m : Manifest) :
    writeOrder (.empty none) m.flatten .json = (⟨m.written.toUTF8, none⟩, .ok ()) := by
  let body := String.ofList (Emit.json.body m.flatten)
  have hwritten : m.written = body ++ "\n" := by
    rw [written, Emit.text, String.ofList_append]
  have hbytes : (.empty ++ body.toUTF8) ++ "\n".toUTF8 = m.written.toUTF8 := by
    simp only [String.toUTF8_eq_toByteArray, hwritten, String.toByteArray_append, ByteArray.empty_append]
  rw [← hbytes]
  rfl

theorem parse_written (htidy : ∀ v ∈ m.flatten, v.Tidy ∧ v.isArray = false) (hwhole : ∀ v ∈ m.flatten, v.Whole)
    (hheight : (Value.arr m.flatten).height ≤ Json.depthLimit) (key : String) :
    (parse .json key m.written).value = .ok ⟨Node.items m.flatten, none⟩ := by
  have hread : ManifestFormat.json.read m.written = .ok (.arr m.flatten) :=
    ManifestFormat.read_json_written (Value.tidy_arr.mpr fun v hv => (htidy v hv).1) (Value.whole_arr.mpr hwhole)
      hheight
  have hnodes : nodesOfText .json key m.written = .ok (Node.ofValues m.flatten) :=
    (nodesOfText_eq_ofDocument hread).trans (ofElements_eq_ok m.flatten)
  rw [Node.ofValues_eq_items fun v hv => (htidy v hv).2] at hnodes
  exact parse_value_eq_ok hnodes

end Manifest

/-! ### Runs fed with an order -/

theorem textOfBytes_toUTF8 (text : String) : textOfBytes text.toUTF8 = .ok text := by
  have hspelled : String.fromUTF8? text.toUTF8 = some text := dif_pos text.isValidUTF8
  rw [textOfBytes, hspelled]

namespace Invocation

variable {i : Invocation} {origin : Origin} {format? : Option ManifestFormat} {key : String}

theorem loadManifest_standardInput {text : String} (hinput : i.input.drain .empty = .ok text.toUTF8) :
    (i.loadManifest .standardInput none key).value = (Manifest.parse .json key text).value := by
  have htext : i.input.readText = .ok text := by
    rw [ByteStream.readText, hinput]
    exact textOfBytes_toUTF8 text
  change (Manifest.ofStream i.input .json key).value = _
  rw [Manifest.ofStream, htext]

theorem flatten_json_value {m : Manifest} (hload : (i.loadManifest origin format? key).value = .ok m) :
    (i.flatten origin format? .json key (.empty none)).value = (⟨m.written.toUTF8, none⟩, .ok ()) := by
  have hwrite := m.writeOrder_json
  rw [flatten]
  simp only [bind, Logged.bind, hload]
  have horder : m.flattenLogged.value = m.flatten := rfl
  rw [horder, hwrite]
  rfl

end Invocation

/-- **Writing an order as JSON and reading it again changes nothing.** Of every manifest that has been parsed from
any format, if no item has a floating point number in it and the order is nested no deeper than the reader goes: what
is written parses under every key, its nodes are the items of the order, and their order is the same. A run that is
given what such a run wrote, in whatever pieces, writes it again. -/
theorem Manifest.written_order_fixed (format : ManifestFormat) (key text : String) (m : Manifest)
    (hparse : (parse format key text).value = .ok m) (hwhole : ∀ v ∈ Node.leavesAll m.nodes, v.Whole)
    (hheight : (Value.arr m.flatten).height ≤ 127) :
    ∃ written : String,
      writeOrder (.empty none) m.flatten .json = (⟨written.toUTF8, none⟩, .ok ()) ∧
        (∀ k, (parse .json k written).value = .ok ⟨Node.items m.flatten, none⟩) ∧
        flatten ⟨Node.items m.flatten, none⟩ = m.flatten ∧
        ∀ (i j : Invocation) (origin : Origin) (format? : Option ManifestFormat) (source : Option String)
            (k k' : String),
          (i.loadManifest origin format? k).value = .ok { m with sourcePath := source } →
            j.input.drain .empty = .ok (i.flatten origin format? .json k (.empty none)).value.1.written →
              (i.flatten origin format? .json k (.empty none)).value = (⟨written.toUTF8, none⟩, .ok ()) ∧
                (j.flatten .standardInput none .json k' (.empty none)).value =
                  (⟨written.toUTF8, none⟩, .ok ()) := by
  have hitems := forall_mem_flatten_of_parse hparse
  have hback := parse_written hitems (fun v hv => hwhole v (Node.mem_leavesAll_of_mem_flatten hv)) hheight
  have hfixed : flatten ⟨Node.items m.flatten, none⟩ = m.flatten :=
    Node.flatten_items_eq_self_iff.mpr (Node.unrepeated_flatten m.nodes)
  refine ⟨m.written, writeOrder_json m, hback, hfixed, ?_⟩
  -- The path that a manifest was loaded from is no part of what is written.
  intro i j origin format? source k k' hload hinput
  have hfirst := Invocation.flatten_json_value hload
  rw [hfirst] at hinput
  have hreload : (j.loadManifest .standardInput none k').value = .ok ⟨Node.items m.flatten, none⟩ :=
    (Invocation.loadManifest_standardInput hinput).trans (hback k')
  have hsecond := Invocation.flatten_json_value hreload
  rw [written, hfixed] at hsecond
  exact ⟨hfirst, hsecond⟩

/-- A manifest with a repeated number, a nested sequence and an object that holds one. -/
theorem Manifest.written_order_fixed_object :
    let object : Value := .obj [("a", .str "é\x01\""), ("b", .arr [.arr []])]
    let seven : Value := .num (.int ⟨-7, by decide, by decide⟩)
    let text := String.ofList ((Value.obj [("deps", .arr [.arr [seven, object], .null, seven])]).chars ++ ['\n'])
    let m : Manifest := ⟨[.seq [.item seven, .item object], .item .null, .item seven], none⟩
    let order := [object, .null, seven]
    let written := "[\x7b\"a\":\"é\\u0001\\\"\",\"b\":[[]]\x7d,null,-7]\n"
    let run (input : ByteArray) : Invocation := ⟨[], .empty, .none, .gives input .ends⟩
    ((parse .json "deps" text).value = .ok m ∧ (∀ v ∈ Node.leavesAll m.nodes, v.Whole) ∧
        (Value.arr m.flatten).height ≤ 127) ∧
      m.flatten = order ∧
        writeOrder (.empty none) order .json = (⟨written.toUTF8, none⟩, .ok ()) ∧
          (parse .json "any" written).value = .ok ⟨Node.items order, none⟩ ∧
            ((run text.toUTF8).flatten .standardInput none .json "deps" (.empty none)).value =
              (⟨written.toUTF8, none⟩, .ok ()) ∧
              ((run written.toUTF8).flatten .standardInput none .json "any" (.empty none)).value =
                (⟨written.toUTF8, none⟩, .ok ()) := by
  intro object seven text m order written run
  have hread : ManifestFormat.json.read text = .ok (.obj [("deps", .arr [.arr [seven, object], .null, seven])]) :=
    ManifestFormat.read_json_written (by decide) (by decide) (by decide)
  have hparse : (parse .json "deps" text).value = .ok m :=
    parse_value_eq_ok ((nodesOfText_eq_ofDocument hread).trans rfl)
  have horder : m.flatten = order := by
    rw [Manifest.flatten, Node.flatten_eq_pwFilter]
    rfl
  have hwritten : m.written = written := by
    rw [Manifest.written, horder]
    decide
  have hheight : (Value.arr m.flatten).height ≤ 127 := by
    rw [horder]
    decide
  obtain ⟨spelled, hwrite, hback, -, hpiped⟩ := written_order_fixed .json "deps" text m hparse (by decide) hheight
  have hspelled : spelled = written := by
    have hpair := hwrite.symm.trans (writeOrder_json m)
    rw [hwritten] at hpair
    exact String.toByteArray_inj.mp (congrArg (fun p => p.1.written) hpair)
  have hdrain : ∀ input, (run input).input.drain .empty = .ok input := by
    intro input
    exact congrArg Except.ok ByteArray.empty_append
  have hload : ((run text.toUTF8).loadManifest .standardInput none "deps").value = .ok m :=
    (Invocation.loadManifest_standardInput (hdrain _)).trans hparse
  have houtput : (run written.toUTF8).input.drain .empty =
      .ok ((run text.toUTF8).flatten .standardInput none .json "deps" (.empty none)).value.1.written := by
    rw [Invocation.flatten_json_value hload, hwritten]
    exact hdrain _
  obtain ⟨hfirst, hsecond⟩ := hpiped _ _ .standardInput none none "deps" "any" hload houtput
  rw [hspelled] at hwrite hback hfirst hsecond
  rw [horder] at hwrite hback
  exact ⟨⟨hparse, by decide, hheight⟩, horder, hwrite, hback "any", hfirst, hsecond⟩

end BuildOrder
