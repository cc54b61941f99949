import BuildOrder.Yaml.Cursor

/-!
# Block scalars

A block scalar holds the lines that are indented under it. A literal one keeps its line feeds; a folded one turns
a line feed between two lines that begin with no blank into a blank. Its header may give the indentation and say
what becomes of the line feeds at the end: all but the first are clipped, or all are stripped, or all are kept.
-/

namespace BuildOrder.Yaml

inductive Chomping where
  | strip
  | clip
  | keep
deriving DecidableEq

/-- The header of a block scalar: chomping, and the indentation if it is given. -/
structure BlockHeader where
  chomping : Chomping
  increment : Option Nat

def chomping? (c : Char) : Option Chomping :=
  if c = '+' then some .keep else if c = '-' then some .strip else none

def isIncrement (c : Char) : Bool := c.isDigit && c != '0'

def blockHeader (cs : List Char) : BlockHeader × Nat :=
  match cs with
  | x :: r =>
    match chomping? x with
    | some ch =>
      match r.head?.filter isIncrement with
      | some y => (⟨ch, some (y.toNat - '0'.toNat)⟩, 2)
      | none => (⟨ch, none⟩, 1)
    | none =>
      if isIncrement x then
        match r.head?.bind chomping? with
        | some ch => (⟨ch, some (x.toNat - '0'.toNat)⟩, 2)
        | none => (⟨.clip, some (x.toNat - '0'.toNat)⟩, 1)
      else (⟨.clip, none⟩, 0)
  | [] => (⟨.clip, none⟩, 0)

def skipIndent (indent : Nat) (c : Cursor) : Cursor :=
  c.skip (min (indent - c.column) (c.rest.takeWhile (· == ' ')).length)

/-- Past empty lines and the indentation of the line behind them, counting the line feeds. -/
def skipEmptyLines (indent : Nat) (c : Cursor) : Except Fault (Cursor × Nat) :=
  repeatTurns (·.1.left) (·.1.stuck) (fun (c, breaks) =>
    let d := skipIndent indent c
    match d.peek? with
    | some '\n' => .ok (.again (d.next, breaks + 1))
    | _ => .ok (.done (d, breaks))) (c, 0)

/-- Past empty lines and the blanks at the start of the line behind them, counting the line feeds and taking the
greatest column. -/
def findIndent (c : Cursor) : Except Fault (Cursor × Nat × Nat) :=
  repeatTurns (·.1.left) (·.1.stuck) (fun (c, breaks, greatest) =>
    let d := c.skipWhile (· == ' ')
    let greatest := max greatest d.column
    match d.peek? with
    | some '\n' => .ok (.again (d.next, breaks + 1, greatest))
    | _ => .ok (.done (d, breaks, greatest))) (c, 0, 0)

/-- A block scalar as far as it has been read; the characters are kept last first. -/
structure BlockDraft where
  cursor : Cursor
  out : List Char
  /-- The last line ended with a line feed. -/
  ended : Bool
  /-- The number of empty lines since. -/
  breaks : Nat
  /-- The last line began with a blank. -/
  blank : Bool

/-- What separates a line from the one before it. -/
def lineGap (literal : Bool) (d : BlockDraft) (blank : Bool) : List Char :=
  if !literal && d.ended && !d.blank && !blank then
    if d.breaks = 0 then [' '] else List.replicate d.breaks '\n'
  else List.replicate (d.breaks + if d.ended then 1 else 0) '\n'

/-- One line of a block scalar and the empty lines behind it. -/
def blockLine (literal : Bool) (indent : Nat) (d : BlockDraft) : Except Fault (Turn BlockDraft BlockDraft) :=
  let c := d.cursor
  if c.column ≠ indent ∨ c.rest.isEmpty then .ok (.done d)
  else if indent = 0 ∧ c.atDocumentMarker then .ok (.done d)
  else
    let blank := c.rest.head?.any isBlank
    let line := c.rest.takeWhile (· ≠ '\n')
    let out := line.reverse ++ (lineGap literal d blank).reverse ++ d.out
    let e := c.skip line.length
    if e.rest.isEmpty then .ok (.done ⟨e, out, false, 0, blank⟩)
    else
      match skipEmptyLines indent e.next with
      | .error f => .error f
      | .ok (e, breaks) => .ok (.again ⟨e, out, true, breaks, blank⟩)

/-- The text of a block scalar that has no content. -/
def emptyBlock (chomping : Chomping) (sameLine : Bool) (breaks : Nat) : List Char :=
  match chomping with
  | .strip => []
  | .clip => if sameLine then [] else ['\n']
  | .keep => if sameLine then [] else List.replicate (max breaks 1) '\n'

/-- The line feeds at the end of a block scalar. -/
def blockTail (chomping : Chomping) (indent : Nat) (d : BlockDraft) : List Char :=
  let last := (if d.ended then ['\n'] else [])
    ++ (if d.cursor.rest.isEmpty && decide (max indent 1 ≤ d.cursor.column) then ['\n'] else [])
  match chomping with
  | .strip => []
  | .clip => last
  | .keep => last ++ List.replicate d.breaks '\n'

/-- The lines of a block scalar under a collection of column `outer`. -/
def blockLines (literal : Bool) (header : BlockHeader) (outer : Int) (sameLine : Bool) (c : Cursor) :
    Except Fault (String × Cursor) :=
  let indented : Except Fault (Cursor × Nat × Nat) :=
    match header.increment with
    | some n =>
      let indent := if 0 ≤ outer then outer.toNat + n else n
      (skipEmptyLines indent c).map fun (c, breaks) => (c, breaks, indent)
    | none =>
      (findIndent c).map fun (c, breaks, greatest) =>
        let indent := max greatest (outer + 1).toNat
        (c, breaks, if 0 < outer then max indent 1 else indent)
  match indented with
  | .error f => .error f
  | .ok (c, breaks, indent) =>
    if c.rest.isEmpty then .ok (String.ofList (emptyBlock header.chomping sameLine breaks), c)
    else if c.column < indent ∧ outer < (c.column : Int) then c.fault .indentation
    else
      match repeatTurns (·.cursor.left) (·.cursor.stuck) (blockLine literal indent) ⟨c, [], false, breaks, false⟩ with
      | .error f => .error f
      | .ok d => .ok (String.ofList (d.out.reverse ++ blockTail header.chomping indent d), d.cursor)

/-- A block scalar under a collection of column `outer`, from its indicator on. -/
def readBlock (literal : Bool) (outer : Int) (c : Cursor) : Except Fault (String × Cursor) :=
  let (header, n) := blockHeader c.next.rest
  match (c.next.skip n).skipBlanks with
  | .error f => .error f
  | .ok (d, _) =>
    match d.peek? with
    | none => blockLines literal header outer true d
    | some x =>
      if x ≠ '\n' then d.fault .blockHeader
      else if d.next.peek? = some '\t' then d.next.fault .tab
      else blockLines literal header outer false d.next

end BuildOrder.Yaml
