import BuildOrder.Files.Basic
import BuildOrder.Manifest.Format

/-!
# A tree of files

A set of files and directories with a working directory in it. A path is followed segment by segment: whatever
has a segment behind it must be a directory, a point stays where it is, and two points lead up.

A tree is `Files` as data, on which runs can be tried without touching a disk. The program itself takes its `Files` from
the system, and results about runs hold for any `Files`; neither goes through a tree.
-/

namespace BuildOrder

inductive Entry where
  | file (bytes : ByteArray)
  | directory

/-- The names that lead from the root to a place. -/
abbrev Location := List String

/-- Files and directories by their places. The directories above an entry need not be listed. -/
structure FileTree where
  entries : List (Location × Entry)
  workingDirectory : Location

namespace FileTree

/-- What stands at a place. -/
def entry? (t : FileTree) (place : Location) : Option Entry :=
  match t.entries.find? (fun e => e.1 == place) with
  | some e => some e.2
  | none =>
    if place.isPrefixOf t.workingDirectory || t.entries.any (fun e => place.isPrefixOf e.1) then some .directory
    else none

/-- Follow segments from a place, which is where `entry` stands. -/
def follow (t : FileTree) (place : Location) (entry : Entry) : List (List Char) → Except ReadFault Entry
  | [] => .ok entry
  | s :: ss =>
    match entry with
    | .file _ => .error .notDirectory
    | .directory =>
      if s = [] ∨ s = ['.'] then t.follow place .directory ss
      else if s = ['.', '.'] then t.follow place.dropLast .directory ss
      else
        let next := place ++ [String.ofList s]
        match t.entry? next with
        | some entry => t.follow next entry ss
        | none => .error .notFound

def lookup (t : FileTree) (path : String) : Except ReadFault Entry :=
  if path = "" then .error .notFound
  else
    let start := if path.toList.head? = some '/' then [] else t.workingDirectory
    t.follow start .directory (Path.segments path.toList)

def read (t : FileTree) (path : String) : Except ReadFault ByteArray :=
  match t.lookup path with
  | .ok (.file bytes) => .ok bytes
  | .ok .directory => .error .isDirectory
  | .error fault => .error fault

def pathTo (place : Location) : String := "/" ++ "/".intercalate place

/-- The nearest file of a name, given the names that lead from a directory up to the root. -/
def nearestFrom (t : FileTree) (name : String) : List String → Option (String × Except ReadFault ByteArray)
  | [] => here []
  | up :: ups =>
    match here (up :: ups) with
    | some found => some found
    | none => t.nearestFrom name ups
where
  here (upward : List String) : Option (String × Except ReadFault ByteArray) :=
    let place := upward.reverse ++ [name]
    match t.entry? place with
    | some (.file bytes) => some (pathTo place, .ok bytes)
    | _ => none

/-- The files of a tree, seen from its working directory. -/
def files (t : FileTree) : Files := ⟨t.read, fun name => t.nearestFrom name t.workingDirectory.reverse⟩

end FileTree

end BuildOrder
