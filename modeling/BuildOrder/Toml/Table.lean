import BuildOrder.Toml.Basic

/-!
# Tables under construction

A document builds its tables piece by piece: by headers, by dotted keys, and by arrays of tables whose last table
is open. Each table remembers how it came about, because that decides who may add to it.

- A header may define a table that other headers led through, and no other.
- A dotted key may add to tables that dotted keys made, and no others.
- Values are closed, inline tables and arrays included.
-/

namespace BuildOrder.Toml

inductive Origin where
  /-- A header defined it, or it is the document. -/
  | header
  /-- A header led through it. -/
  | passed
  /-- A dotted key made it. -/
  | dotted
deriving DecidableEq

/-- What stands under a key of a table under construction. -/
inductive Item where
  | value (v : Value)
  | table (origin : Origin) (fields : List (String × Item))
  /-- An array of tables by their fields, the open one first. -/
  | tables (elements : List (List (String × Item)))

/-- The fields of a table under construction, in the order of their keys. -/
abbrev Fields := List (String × Item)

structure Table where
  origin : Origin
  fields : Fields

namespace Fields

def get? (key : String) (fields : Fields) : Option Item :=
  (fields.find? (fun f => f.1 == key)).map Prod.snd

def set (key : String) (item : Item) : Fields → Fields
  | [] => [(key, item)]
  | (k, old) :: fs =>
    if key < k then (key, item) :: (k, old) :: fs
    else if key = k then (key, item) :: fs
    else (k, old) :: set key item fs

end Fields

namespace Table

def document : Table := ⟨.header, []⟩

/-- Change the table that a path leads to, making the tables that are not there. By a header's path every table
can be entered; by a dotted key only those that no header defined. -/
def modify (made : Origin) (change : Table → Option Table) : List String → Table → Option Table
  | [], t => change t
  | key :: path, t =>
    match Fields.get? key t.fields with
    | none => (modify made change path ⟨made, []⟩).map fun u => ⟨t.origin, t.fields.set key (.table u.origin u.fields)⟩
    | some (.table origin fields) =>
      if made = .dotted ∧ origin = .header then none
      else (modify made change path ⟨origin, fields⟩).map fun u =>
        ⟨t.origin, t.fields.set key (.table u.origin u.fields)⟩
    | some (.tables (last :: before)) =>
      if made = .dotted then none
      else (modify made change path ⟨.header, last⟩).map fun u =>
        ⟨t.origin, t.fields.set key (.tables (u.fields :: before))⟩
    | some _ => none

def insert (key : String) (v : Value) (t : Table) : Option Table :=
  match Fields.get? key t.fields with
  | none => some ⟨t.origin, t.fields.set key (.value v)⟩
  | some _ => none

/-- Put a value under a dotted key, given as the path to its table and its last part. -/
def insertAt (path : List String) (key : String) (v : Value) : Table → Option Table :=
  modify .dotted (fun t =>
    if path = [] ∨ t.origin = .dotted then t.insert key v else none) path

/-- Put a value into the table that a header leads to. -/
def insertUnder (header path : List String) (key : String) (v : Value) : Table → Option Table :=
  modify .passed (fun t => t.insertAt path key v) header

/-- Define the table that a header names, by the path to the table above it and its own key. -/
def define (path : List String) (key : String) : Table → Option Table :=
  modify .passed (fun t =>
    match Fields.get? key t.fields with
    | none => some ⟨t.origin, t.fields.set key (.table .header [])⟩
    | some (.table .passed fields) => some ⟨t.origin, t.fields.set key (.table .header fields)⟩
    | some _ => none) path

/-- Open a new table in the array of tables that a header names. -/
def append (path : List String) (key : String) : Table → Option Table :=
  modify .passed (fun t =>
    match Fields.get? key t.fields with
    | none => some ⟨t.origin, t.fields.set key (.tables [[]])⟩
    | some (.tables elements) => some ⟨t.origin, t.fields.set key (.tables ([] :: elements))⟩
    | some _ => none) path

end Table

mutual

def Item.toValue : Item → Value
  | .value v => v
  | .table _ fields => .table (fieldValues fields)
  | .tables elements => .array (elementValues elements).reverse

def fieldValues : List (String × Item) → List (String × Value)
  | [] => []
  | (k, i) :: fs => (k, i.toValue) :: fieldValues fs

/-- The tables of an array of tables, in the order in which it has them. -/
def elementValues : List (List (String × Item)) → List Value
  | [] => []
  | fs :: rest => .table (fieldValues fs) :: elementValues rest

end

/-- The fields of a complete table. -/
def Table.values (t : Table) : List (String × Value) := fieldValues t.fields

end BuildOrder.Toml
