import BuildOrder.Yaml.Cursor

/-!
# Plain scalars

A plain scalar goes on over several lines while they are indented far enough. One line feed between lines becomes
a blank; further ones stay.
-/

namespace BuildOrder.Yaml

structure Place where
  /-- Inside a flow collection. -/
  inFlow : Bool
  /-- The least column of its lines. -/
  indent : Nat

/-- A character ends a plain scalar, given what follows it. -/
def endsPlain (inFlow : Bool) (c : Char) (r : List Char) : Bool :=
  (c == ':' && (atGap r || (inFlow && atFlow r))) || (inFlow && isFlow c)

/-- The number of characters up to the next gap or to the end of the scalar. -/
def chunkLength (inFlow : Bool) : List Char → Nat
  | [] => 0
  | c :: r => if isBlank c || c == '\n' || endsPlain inFlow c r then 0 else chunkLength inFlow r + 1

/-- Line feeds that were read and not yet written: the first one, and the number of others. -/
structure Breaks where
  first : Bool
  more : Nat

namespace Breaks

def none : Breaks := ⟨false, 0⟩

def add (b : Breaks) : Breaks := if b.first then { b with more := b.more + 1 } else { b with first := true }

def folded (b : Breaks) : List Char :=
  if b.more = 0 then (if b.first then [' '] else []) else List.replicate b.more '\n'

end Breaks

/-- A plain scalar as far as it has been read; the characters are kept last first. -/
structure PlainDraft where
  cursor : Cursor
  out : List Char
  blanks : List Char
  breaks : Breaks

/-- Blanks and line feeds between the parts of a plain scalar. -/
def plainGap (place : Place) (d : PlainDraft) : Except Fault (Turn PlainDraft PlainDraft) :=
  let c := d.cursor
  match c.rest with
  | '\n' :: _ => .ok (.again { d with cursor := c.next, blanks := [], breaks := d.breaks.add })
  | x :: _ =>
    if !isBlank x then .ok (.done d)
    else if !c.fresh then .ok (.again { d with cursor := c.next, blanks := x :: d.blanks })
    else if c.column < place.indent ∧ x = '\t' then
      match c.skipBlanks with
      | .error f => .error f
      | .ok (c, _) => if atLineEnd c.rest then .ok (.again { d with cursor := c }) else c.fault .tab
    else .ok (.again { d with cursor := c.next })
  | [] => .ok (.done d)

/-- A plain scalar: its text, where it ends, and whether a comment cut it off behind a blank. -/
structure PlainScalar where
  text : String
  cursor : Cursor
  cutOff : Bool

/-- The plain scalar that a draft has become. -/
def PlainDraft.finish (d : PlainDraft) (cutOff : Bool) : Except Fault (Turn PlainDraft PlainScalar) :=
  if d.out.isEmpty then d.cursor.fault .unexpected
  else .ok (.done ⟨String.ofList d.out.reverse, d.cursor, cutOff⟩)

/-- Put the next characters behind the gap before them. -/
def PlainDraft.addChunk (d : PlainDraft) (n : Nat) : PlainDraft :=
  let gap := if d.cursor.fresh then d.breaks.folded else d.blanks.reverse
  { cursor := d.cursor.skip n, out := (d.cursor.rest.take n).reverse ++ (gap.reverse ++ d.out), blanks := [],
    breaks := .none }

/-- One part of a plain scalar and the gap behind it. -/
def plainPart (place : Place) (d : PlainDraft) : Except Fault (Turn PlainDraft PlainScalar) :=
  let c := d.cursor
  if c.peek? = some '#' then d.finish (!d.out.isEmpty && !d.blanks.isEmpty && !place.inFlow)
  else if c.fresh && c.atDocumentMarker then d.finish false
  else if place.inFlow && c.peek? = some '-' && atFlow c.rest.tail then c.fault .unexpected
  else
    let n := chunkLength place.inFlow c.rest
    let d := if n = 0 then d else d.addChunk n
    match repeatTurns (·.cursor.left) (·.cursor.stuck) (plainGap place) d with
    | .error f => .error f
    | .ok e =>
      if e.cursor.left = d.cursor.left then e.finish false
      else if !place.inFlow ∧ e.cursor.column < place.indent then e.finish false
      else .ok (.again e)

def readPlain (place : Place) (c : Cursor) : Except Fault PlainScalar :=
  if place.inFlow ∧ c.column < place.indent then c.fault .indentation
  else repeatTurns (·.cursor.left) (·.cursor.stuck) (plainPart place) ⟨c, [], [], .none⟩

end BuildOrder.Yaml
