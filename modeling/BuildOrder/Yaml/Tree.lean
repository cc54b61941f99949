import BuildOrder.Yaml.Cursor
import BuildOrder.Yaml.Scalar

/-!
# Trees of a YAML document

Scalars, sequences and mappings as they are written, with every alias replaced by what it stands for.

`Tree.toValue` is the value of a tree. The keys of a mapping are taken as their text, and no key comes twice. The
plain key `<<` is no key: the fields of the mapping behind it, or of several in a sequence, are merged into the
mapping. Its own fields come first, then those of earlier mappings of a sequence; the fields of a later `<<` come
before those of an earlier one.
-/

namespace BuildOrder.Yaml

inductive Tree where
  | scalar (cursor : Cursor) (tag : Tag) (plain : Bool) (text : String)
  | sequence (cursor : Cursor) (elements : List Tree)
  | mapping (cursor : Cursor) (fields : List (Tree × Tree))

structure Key where
  text : String
  tag : Tag
deriving DecidableEq

namespace Tree

instance : Inhabited Tree := ⟨.sequence (.start []) []⟩

/-- The tree of something that is not written at all. -/
def empty (cursor : Cursor) : Tree := .scalar cursor .none true ""

mutual

def size : Tree → Nat
  | .scalar .. => 1
  | .sequence _ ts => 2 + sizeAll ts
  | .mapping _ fs => 2 + sizeFields fs

def sizeAll : List Tree → Nat
  | [] => 0
  | t :: ts => t.size + sizeAll ts

def sizeFields : List (Tree × Tree) → Nat
  | [] => 0
  | (k, v) :: fs => k.size + v.size + sizeFields fs

end

def cursor : Tree → Cursor
  | .scalar c _ _ _ => c
  | .sequence c _ => c
  | .mapping c _ => c

/-- The key that a tree before a colon is; none if the value is to be merged. -/
def toKey : Tree → Except Fault (Option Key)
  | .scalar cursor tag plain text =>
    if tag = .null ∨ tag = .typed ∨ (plain ∧ isNull text) then cursor.fault .keyNotText
    else if plain ∧ tag = .none ∧ text = "<<" then .ok none
    else .ok (some ⟨text, tag⟩)
  | t => t.cursor.fault .keyNotText

end Tree

/-- The objects whose fields a value of `<<` stands for, those that come first at the front. -/
def mergeSources? : Value → Option (List (List (String × Value)))
  | .null => some []
  | .obj fs => some [fs]
  | .arr vs => vs.mapM fun
    | .obj fs => some fs
    | _ => none
  | _ => none

/-- A mapping whose fields have been read so far: its keys, its own fields, and those to be merged, those that come
first at the front. -/
structure MappingDraft where
  keys : List Key
  own : List (String × Value)
  merged : List (List (String × Value))

def MappingDraft.value (d : MappingDraft) : Value :=
  .ofFields (d.merged.reverse.flatten ++ d.own.reverse)

namespace Tree

mutual

def toValue : Tree → Except Fault Value
  | .scalar cursor tag plain text =>
    match scalarValue tag plain text with
    | .ok v => .ok v
    | .error cause => cursor.fault cause
  | .sequence _ ts =>
    match toValues ts with
    | .ok vs => .ok (.arr vs)
    | .error f => .error f
  | .mapping _ fs =>
    match toFields fs ⟨[], [], []⟩ with
    | .ok d => .ok d.value
    | .error f => .error f

def toValues : List Tree → Except Fault (List Value)
  | [] => .ok []
  | t :: ts =>
    match t.toValue with
    | .error f => .error f
    | .ok v =>
      match toValues ts with
      | .ok vs => .ok (v :: vs)
      | .error f => .error f

/-- The fields of a mapping, behind those read so far. -/
def toFields : List (Tree × Tree) → MappingDraft → Except Fault MappingDraft
  | [], d => .ok d
  | (k, t) :: fs, d =>
    match k.toKey, t.toValue with
    | .error f, _ => .error f
    | _, .error f => .error f
    | .ok none, .ok v =>
      match mergeSources? v with
      | some sources => toFields fs { d with merged := sources ++ d.merged }
      | none => k.cursor.fault .mergeValue
    | .ok (some key), .ok v =>
      if d.keys.contains key then k.cursor.fault .duplicateKey
      else toFields fs { d with keys := key :: d.keys, own := (key.text, v) :: d.own }

end

end Tree

end BuildOrder.Yaml
