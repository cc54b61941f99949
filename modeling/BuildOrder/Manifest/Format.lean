import BuildOrder.Settings.Choice

/-!
# Manifest formats

The formats of a manifest, and the format that a path suggests by its extension.

The name of a file is the last component of its path. Empty components and `.` do not count, except for a `.`
at the start; a path that ends in `..` or has no component names no file. The extension is what follows the
last point of the name, unless that point is the first character and the only one.
-/

namespace BuildOrder

inductive ManifestFormat where
  | json
  | toml
  | yaml
deriving DecidableEq

instance : Choice ManifestFormat where
  spellings := [⟨.json, "json", []⟩, ⟨.toml, "toml", []⟩, ⟨.yaml, "yaml", ["yml"]⟩]
  complaint := "invalid manifest format"

namespace ManifestFormat

def title : ManifestFormat → String
  | .json => "Json"
  | .toml => "Toml"
  | .yaml => "Yaml"

def ofExtension? (extension : String) : Option ManifestFormat :=
  match Text.asciiLower extension with
  | "json" => some .json
  | "toml" => some .toml
  | "yaml" => some .yaml
  | "yml" => some .yaml
  | _ => none

end ManifestFormat

namespace Path

/-- A text cut at every slash. -/
def segments : List Char → List (List Char)
  | [] => [[]]
  | c :: cs =>
    if c = '/' then [] :: segments cs
    else match segments cs with
      | s :: ss => (c :: s) :: ss
      | [] => [[c]]

inductive Component where
  | root
  | here
  | up
  | name (s : String)
deriving DecidableEq

def Component.ofSegment (s : List Char) : Component :=
  if s = ['.', '.'] then .up else .name (String.ofList s)

/-- The components of a path: a slash at the start is the root, a point at the start is kept, and empty
segments and other points are left out. -/
def components (path : String) : List Component :=
  let counted := fun ss => (ss.filter fun s => s ≠ [] ∧ s ≠ ['.']).map Component.ofSegment
  match segments path.toList with
  | [] :: s :: ss => .root :: counted (s :: ss)
  | ['.'] :: ss => .here :: counted ss
  | ss => counted ss

def fileName? (path : String) : Option String :=
  match (components path).getLast? with
  | some (.name s) => some s
  | _ => none

/-- What follows the last point of a name, if there is a point behind its first character. -/
def extensionOf? (name : List Char) : Option (List Char) :=
  let after := name.reverse.takeWhile (· ≠ '.')
  let before := name.length - after.length
  if before ≤ 1 then none else some after.reverse

def extension? (path : String) : Option String :=
  (fileName? path).bind fun name => (extensionOf? name.toList).map String.ofList

end Path

def ManifestFormat.ofPath? (path : String) : Option ManifestFormat :=
  (Path.extension? path).bind ofExtension?

end BuildOrder
