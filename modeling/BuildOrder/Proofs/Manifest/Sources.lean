import BuildOrder.Manifest.Basic
import BuildOrder.Proofs.Manifest.WrittenOrder

/-!
# Streams and files give the same manifest

A stream is read to its end before anything is made of its bytes, so neither the places where it is cut nor a
character that lies across a cut can matter, and a stream that breaks off is a fault whatever it has given. From its
bytes on a file is read as a stream is; what differs is the path that the manifest or the fault is said to come from.

The format of a file is settled before it is opened. A path that suggests no format is refused even where there is
no file.
-/

namespace BuildOrder

namespace ByteStream

variable (chunks : List ByteArray) (read : ByteArray)

theorem drain_ofChunks : (ofChunks none chunks).drain read = .ok (chunks.foldl (· ++ ·) read) := by
  induction chunks generalizing read with
  | nil => rfl
  | cons chunk rest ih => exact ih (read ++ chunk)

theorem drain_ofChunks_of_fault (fault : ReadFault) : (ofChunks (some fault) chunks).drain read = .error fault := by
  induction chunks generalizing read with
  | nil => rfl
  | cons chunk rest ih => exact ih (read ++ chunk)

def content : ByteArray := chunks.foldl (· ++ ·) .empty

theorem readText_ofChunks : (ofChunks none chunks).readText = textOfBytes (content chunks) := by
  rw [readText, drain_ofChunks]
  rfl

theorem readText_ofChunks_of_fault (fault : ReadFault) : (ofChunks (some fault) chunks).readText = .error fault := by
  rw [readText, drain_ofChunks_of_fault]

end ByteStream

theorem textOfBytes_of_not_isValidUTF8 {bytes : ByteArray} (h : ¬ bytes.IsValidUTF8) :
    textOfBytes bytes = .error .notText := by
  have hspelled : String.fromUTF8? bytes = none := dif_neg h
  rw [textOfBytes, hspelled]

/-- The error as it is said of the file behind a path. -/
def ManifestError.seenAt (path : String) : ManifestError → ManifestError
  | .unreadable _ fault => .unreadable path fault
  | e => e

namespace ManifestFormat

theorem ofExtension?_eq_none_iff {extension : String} :
    ofExtension? extension = none ↔ Text.asciiLower extension ∉ ["json", "toml", "yaml", "yml"] := by
  rw [ofExtension?]
  split <;> simp_all

theorem ofPath?_eq_none_iff {path : String} :
    ofPath? path = none ↔
      ∀ e, Path.extension? path = some e → Text.asciiLower e ∉ ["json", "toml", "yaml", "yml"] := by
  rw [ofPath?, Option.bind_eq_none_iff]
  exact forall₂_congr fun _ _ => ofExtension?_eq_none_iff

end ManifestFormat

namespace Manifest

variable {files : Files} {path key text : String} {format : ManifestFormat}

theorem sourcePath_of_parse {m : Manifest} (h : (parse format key text).value = .ok m) : m.sourcePath = none := by
  cases hnodes : nodesOfText format key text with
  | error e => cases (parse_value_eq_error hnodes).symm.trans h
  | ok nodes => exact Except.ok.inj ((parse_value_eq_ok hnodes).symm.trans h) ▸ rfl

/-- Reading a text has nothing to do with the place that it comes from. -/
theorem seenAt_of_nodesOfText {e : ManifestError} (h : nodesOfText format key text = .error e) (path : String) :
    e.seenAt path = e := by
  rw [nodesOfText] at h
  split at h
  · next document _ =>
    cases document with
    | arr vs => cases (ofElements_eq_ok vs).symm.trans h
    | obj fields =>
      rw [ofDocument] at h
      split at h
      · next vs _ => cases (ofElements_eq_ok vs).symm.trans h
      · exact Except.error.inj h ▸ rfl
      · exact Except.error.inj h ▸ rfl
    | null | bool | num | str => exact Except.error.inj h ▸ rfl
  · next hread =>
    rw [ManifestFormat.read.eq_def] at hread
    obtain rfl := Except.error.inj h
    split at hread <;>
    · split at hread
      · cases hread
      · exact Except.error.inj hread ▸ rfl

/-! ### Loading a file -/

theorem events_load (files : Files) (path : String) (format? : Option ManifestFormat) (key : String) :
    (load files path format? key).events = ⟨.debug, .manifest, s!"Loading manifest: {path}", []⟩ ::
      match format? <|> ManifestFormat.ofPath? path with
      | none => []
      | some format =>
        match files.readText path with
        | .error _ => []
        | .ok text => (parse format key text).events := by
  rw [load]
  simp only [bind, Logged.bind, Logged.report]
  cases format? <|> ManifestFormat.ofPath? path with
  | none => rfl
  | some format =>
    cases files.readText path with
    | error fault => rfl
    | ok text =>
      dsimp only
      cases (parse format key text).value <;> simp [pure, Logged.pure]

theorem value_load (files : Files) (path : String) (format : ManifestFormat) (key : String) :
    (load files path (some format) key).value =
      match files.readText path with
      | .error fault => .error (.unreadable path fault)
      | .ok text =>
        match (parse format key text).value with
        | .ok m => .ok { m with sourcePath := some path }
        | .error e => .error e := by
  have hformat : (some format <|> ManifestFormat.ofPath? path) = some format := rfl
  rw [load]
  simp only [bind, Logged.bind, hformat]
  cases files.readText path with
  | error fault => rfl
  | ok text =>
    dsimp only
    cases (parse format key text).value <;> rfl

theorem load_of_no_format (files : Files) (key : String) (h : ManifestFormat.ofPath? path = none) :
    (load files path none key).value = .error (.unknownFormat path) := by
  have hnone : (none <|> ManifestFormat.ofPath? path) = none := h
  rw [load, hnone]
  rfl

theorem value_load_of_stream {stream : ByteStream} (h : files.readText path = stream.readText) :
    (load files path (some format) key).value =
      match (ofStream stream format key).value with
      | .ok m => .ok { m with sourcePath := some path }
      | .error e => .error (e.seenAt path) := by
  rw [value_load, h, ofStream]
  cases stream.readText with
  | error fault => rfl
  | ok text =>
    dsimp only
    cases hparse : (parse format key text).value with
    | ok m => rfl
    | error e => exact congrArg Except.error (seenAt_of_nodesOfText (nodesOfText_eq_error_of_parse hparse) path).symm

theorem events_load_of_stream {stream : ByteStream} (h : files.readText path = stream.readText) :
    (load files path (some format) key).events =
      ⟨.debug, .manifest, s!"Loading manifest: {path}", []⟩ :: (ofStream stream format key).events := by
  have hformat : (some format <|> ManifestFormat.ofPath? path) = some format := rfl
  rw [events_load, h, ofStream, hformat]
  cases stream.readText <;> rfl

/-- **What a manifest is read from makes no difference.** However bytes are cut into chunks, a stream of them gives what
their text gives, a fault at the standard input if they are no text, and the fault of the stream if it breaks off,
whatever the chunks before are. A file with these bytes gives the same nodes or the same error; only the path that the
manifest comes from, or that cannot be read, is its own. And if the path is to suggest the format and has none of the
known extensions, this is the error, whatever the files are. -/
theorem sources_agree (chunks : List ByteArray) (format : ManifestFormat) (key : String) :
    let content := ByteStream.content chunks
    let stream := ofStream (.ofChunks none chunks) format key
    (∀ text : String, content = text.toUTF8 → stream = parse format key text) ∧
      (¬ content.IsValidUTF8 → stream = .pure (.error (.unreadable "-" .notText))) ∧
      (∀ m, stream.value = .ok m → m.sourcePath = none) ∧
      (∀ fault, ofStream (.ofChunks (some fault) chunks) format key = .pure (.error (.unreadable "-" fault))) ∧
      (∀ (files : Files) (path : String), files.read path = .ok content →
        ((load files path (some format) key).value =
            match stream.value with
            | .ok m => .ok { m with sourcePath := some path }
            | .error e => .error (e.seenAt path)) ∧
          (load files path (some format) key).events =
            ⟨.debug, .manifest, s!"Loading manifest: {path}", []⟩ :: stream.events) ∧
      ∀ (files : Files) (path : String),
        (∀ e, Path.extension? path = some e → Text.asciiLower e ∉ ["json", "toml", "yaml", "yml"]) →
          (load files path none key).value = .error (.unknownFormat path) := by
  intro content stream
  have hstream : (ByteStream.ofChunks none chunks).readText = textOfBytes content := ByteStream.readText_ofChunks chunks
  have hof : stream = ofStream (.ofChunks none chunks) format key := rfl
  refine ⟨fun text htext => ?_, fun hinvalid => ?_, fun m hm => ?_, fun fault => ?_, fun files path hread => ?_,
    fun files path hextension => ?_⟩
  · rw [hof, ofStream, hstream, htext, textOfBytes_toUTF8]
  · rw [hof, ofStream, hstream, textOfBytes_of_not_isValidUTF8 hinvalid]
    rfl
  · rw [hof, ofStream] at hm
    split at hm
    · exact sourcePath_of_parse hm
    · cases hm
  · rw [ofStream, ByteStream.readText_ofChunks_of_fault]
    rfl
  · have hfile : files.readText path = (ByteStream.ofChunks none chunks).readText := by
      rw [Files.readText, hread, hstream]
    exact ⟨value_load_of_stream hfile, events_load_of_stream hfile⟩
  · exact load_of_no_format files key (ManifestFormat.ofPath?_eq_none_iff.mpr hextension)

/-- A letter that lies across two chunks, the first of them alone, and a path without a format to a file that is not
there. -/
theorem sources_agree_split_letter :
    let front : ByteArray := ⟨#[0x5b, 0x22, 0xc3]⟩
    let back : ByteArray := ⟨#[0xa9, 0x22, 0x5d, 0x0a]⟩
    let text := "[\"é\"]\n"
    let nodes : List (Node Value) := [.item (.str "é")]
    let files : Files := ⟨fun _ => .ok (ByteStream.content [front, back]), fun _ => none⟩
    (ByteStream.content [front, back] = text.toUTF8 ∧
        (ofStream (.ofChunks none [front, back]) .json "deps").value = .ok ⟨nodes, none⟩ ∧
        (load files "deps.txt" (some .json) "deps").value = .ok ⟨nodes, some "deps.txt"⟩) ∧
      (¬ (ByteStream.content [front]).IsValidUTF8 ∧
        ofStream (.ofChunks none [front]) .json "deps" = .pure (.error (.unreadable "-" .notText))) ∧
      ofStream (.ofChunks (some (.broken "gone")) [front]) .json "deps" =
        .pure (.error (.unreadable "-" (.broken "gone"))) ∧
      (Path.extension? "a.json/deps.txt" = some "txt" ∧
        (load .none "a.json/deps.txt" none "deps").value = .error (.unknownFormat "a.json/deps.txt")) := by
  intro front back text nodes files
  have hwritten : String.ofList ((Value.arr [.str "é"]).chars ++ ['\n']) = text := by decide
  have hread : ManifestFormat.json.read text = .ok (.arr [.str "é"]) :=
    hwritten ▸ ManifestFormat.read_json_written (by decide) (by decide) (by decide)
  have hparse : (parse .json "deps" text).value = .ok ⟨nodes, none⟩ :=
    parse_value_eq_ok ((nodesOfText_eq_ofDocument hread).trans rfl)
  have hcontent : ByteStream.content [front, back] = text.toUTF8 := by decide
  have hcut : ¬ (ByteStream.content [front]).IsValidUTF8 := by decide
  have hextension : Path.extension? "a.json/deps.txt" = some "txt" := by decide
  obtain ⟨hwhole, -, -, -, hfile, -⟩ := sources_agree [front, back] .json "deps"
  obtain ⟨-, hinvalid, -, hbroken, -, hunknown⟩ := sources_agree [front] .json "deps"
  have hstream := (congrArg Logged.value (hwhole text hcontent)).trans hparse
  have hload := (hfile files "deps.txt" rfl).1
  rw [hstream] at hload
  refine ⟨⟨hcontent, hstream, hload⟩, ⟨hcut, hinvalid hcut⟩, hbroken _, hextension, hunknown _ _ ?_⟩
  intro e he
  obtain rfl := Option.some.inj (hextension.symm.trans he)
  decide

end Manifest

end BuildOrder
