import BuildOrder.Files.Basic
import BuildOrder.Json.Reader
import BuildOrder.Log.Event
import BuildOrder.Manifest.Format
import BuildOrder.Toml.Reader
import BuildOrder.Yaml.Reader

/-!
# Manifests

A manifest is a document that holds a nested dependency sequence: the document is the sequence itself, or a
table that has it under a key. The document is read in one of three formats into a `Value`; what follows does
not depend on the format.
-/

namespace BuildOrder

inductive ManifestError where
  | unreadable (path : String) (fault : ReadFault)
  | unknownFormat (path : String)
  | json (error : Json.Error)
  | toml (error : Toml.Error)
  | yaml (error : Yaml.Error)
  | missingKey (key : String)
  | keyNotSequence (key : String)
  | invalidRoot
  | invalidNode

def ManifestError.message : ManifestError → String
  | .unreadable path fault => s!"Failed to read manifest: {path}: {fault.message}"
  | .unknownFormat path => s!"Cannot infer manifest format from extension: {path}"
  | .json error => s!"Failed to parse JSON manifest: {error.message}"
  | .toml error => s!"Failed to parse TOML manifest: {error.message}"
  | .yaml error => s!"Failed to parse YAML manifest: {error.message}"
  | .missingKey key => s!"Manifest has no '{key}' entry"
  | .keyNotSequence key => s!"Manifest entry '{key}' is not a sequence"
  | .invalidRoot => "Manifest root must be a sequence or a table"
  | .invalidNode => s!"Invalid dependency node: {Json.Cause.noMatchingVariant.text}"

/-- The document that a text spells in a format. -/
def ManifestFormat.read (format : ManifestFormat) (text : String) : Except ManifestError Value :=
  match format with
  | .json =>
    match Json.parse text with
    | .ok v => .ok v
    | .error e => .error (.json e)
  | .toml =>
    match Toml.parse text with
    | .ok fields => .ok (Toml.Value.table fields).toValue
    | .error e => .error (.toml e)
  | .yaml =>
    match Yaml.parse text with
    | .ok v => .ok v
    | .error e => .error (.yaml e)

/-- A nested dependency sequence, and the path it was loaded from. -/
structure Manifest where
  nodes : List (Node Value)
  sourcePath : Option String

namespace Manifest

def ofElements (elements : List Value) : Except ManifestError (List (Node Value)) :=
  match Node.decodeAll? some elements with
  | some nodes => .ok nodes
  | none => .error .invalidNode

def ofDocument (key : String) : Value → Except ManifestError (List (Node Value))
  | .arr elements => ofElements elements
  | .obj fields =>
    match Value.field? key fields with
    | some (.arr elements) => ofElements elements
    | some _ => .error (.keyNotSequence key)
    | none => .error (.missingKey key)
  | _ => .error .invalidRoot

def nodesOfText (format : ManifestFormat) (key text : String) : Except ManifestError (List (Node Value)) :=
  match format.read text with
  | .ok document => ofDocument key document
  | .error e => .error e

def parse (format : ManifestFormat) (key text : String) : Logged (Except ManifestError Manifest) :=
  match nodesOfText format key text with
  | .error e => .pure (.error e)
  | .ok nodes => do
    .report ⟨.trace, .manifest, "Parsed manifest",
      [("format", .name format.title), ("top_level", .count nodes.length)]⟩
    return .ok ⟨nodes, none⟩

def standardInput : String := "-"

def ofStream (stream : ByteStream) (format : ManifestFormat) (key : String) :
    Logged (Except ManifestError Manifest) :=
  match stream.readText with
  | .ok text => parse format key text
  | .error fault => .pure (.error (.unreadable standardInput fault))

/-- The manifest in the file behind a path, in the format given or else the one that the path suggests. The path
is not read if it suggests none. -/
def load (files : Files) (path : String) (format? : Option ManifestFormat) (key : String) :
    Logged (Except ManifestError Manifest) := do
  .report ⟨.debug, .manifest, s!"Loading manifest: {path}", []⟩
  match format? <|> ManifestFormat.ofPath? path with
  | none => return .error (.unknownFormat path)
  | some format =>
    match files.readText path with
    | .error fault => return .error (.unreadable path fault)
    | .ok text =>
      match ← parse format key text with
      | .ok manifest => return .ok { manifest with sourcePath := some path }
      | .error e => return .error e

def flatten (m : Manifest) : List Value := Node.flatten m.nodes

def flattenLogged (m : Manifest) : Logged (List Value) := Node.flattenLogged m.nodes

/-- The number of items in a manifest, duplicates included. -/
def leafCount (m : Manifest) : Nat := Node.leafCountAll m.nodes

end Manifest

end BuildOrder
