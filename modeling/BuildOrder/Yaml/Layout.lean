import BuildOrder.Yaml.Block
import BuildOrder.Yaml.Name

/-!
# The layout of a YAML text

The tokens of a text, taken from left to right. In a block the column of a token says which blocks end before it
and whether one begins; in a flow collection columns hardly matter.

Whether something is a key shows only at the colon behind it. So the layout remembers where a key may have begun,
and marks it among the tokens when the colon comes. In a block such a key stays on one line, of at most 1024
characters.

An indentation is either that of a block or a loose one: a loose one only asks the lines of a scalar to stand
further right.
-/

namespace BuildOrder.Yaml

/-- An indentation that has begun: the one outside it, and whether a block ends with it. -/
structure Indent where
  outer : Int
  block : Bool

structure KeyStart where
  /-- The number of tokens before it. -/
  position : Nat
  cursor : Cursor
  /-- It must be a key, since it begins a line of a block mapping. -/
  required : Bool

inductive FlowKind where
  | sequence
  | mapping
deriving DecidableEq

/-- A flow collection that is open, and the key that may have begun outside it. -/
structure Flow where
  kind : FlowKind
  outerKey : Option KeyStart

/-- The layout of a text up to a cursor. -/
structure Layout where
  cursor : Cursor
  /-- The tokens so far, last first, and their number. -/
  lexemes : List Lexeme
  count : Nat
  /-- A key may begin here. -/
  keyAllowed : Bool
  /-- The column of the innermost indentation, or -1. -/
  indent : Int
  indents : List Indent
  key : Option KeyStart
  flows : List Flow
  /-- The characters left behind a scalar or collection whose colon may be followed at once by a value. -/
  adjacent : Option Nat
  /-- The line of a plain scalar that a comment has just cut off. -/
  cutOff : Option Nat

/-- The deepest nesting of flow collections. -/
def flowLimit : Nat := 255

/-- The longest key of a block mapping. -/
def keyLimit : Nat := 1024

/-- The text has gone on too far for a key of a block mapping. -/
def KeyStart.isStale (k : KeyStart) (c : Cursor) : Bool :=
  k.cursor.line != c.line || decide (c.left + keyLimit < k.cursor.left)

namespace Layout

def start (text : List Char) : Layout := ⟨.start text, [], 0, true, -1, [], none, [], none, none⟩

def inBlock (s : Layout) : Bool := s.flows.isEmpty

/-! ### Tokens -/

def push (cursor : Cursor) (token : Token) (s : Layout) : Layout :=
  { s with lexemes := ⟨token, cursor⟩ :: s.lexemes, count := s.count + 1 }

/-- Put a token behind the first `position` tokens. -/
def insert (position : Nat) (cursor : Cursor) (token : Token) (s : Layout) : Layout :=
  let (later, earlier) := s.lexemes.splitAt (s.count - position)
  { s with lexemes := later ++ ⟨token, cursor⟩ :: earlier, count := s.count + 1 }

/-! ### Indentation -/

/-- Leave the loose indentations inside the innermost block. -/
def dropLooseFrom (indent : Int) : List Indent → Int × List Indent
  | [] => (indent, [])
  | i :: is => if i.block then (indent, i :: is) else dropLooseFrom i.outer is

def dropLoose (s : Layout) : Layout :=
  let (indent, indents) := dropLooseFrom s.indent s.indents
  { s with indent := indent, indents := indents }

/-- Begin a block at a column that lies further right, its token behind the first `position` tokens. -/
def openBlock (column : Cursor) (position : Nat) (token : Token) (s : Layout) : Layout :=
  if !s.inBlock then s
  else
    let s := match s.indents with
      | i :: is =>
        if !i.block && s.indent ≤ (column.column : Int) then { s with indent := i.outer, indents := is } else s
      | [] => s
    if s.indent < (column.column : Int) then
      { s with indents := ⟨s.indent, true⟩ :: s.indents, indent := column.column }.insert position column token
    else s

def indentLoosely (s : Layout) : Layout :=
  if s.inBlock && s.indents.head?.any (·.block) then
    { s with indents := ⟨s.indent, false⟩ :: s.indents, indent := s.indent + 1 }
  else s

/-- The indentations that go on when the text has come back to a column, and the number of blocks that end. -/
def unwind (column indent : Int) : List Indent → Int × List Indent × Nat
  | [] => (indent, [], 0)
  | i :: is =>
    if column < indent then
      let (indent, indents, ended) := unwind column i.outer is
      (indent, indents, if i.block then ended + 1 else ended)
    else (indent, i :: is, 0)

/-- End the blocks that do not reach to a column. -/
def closeBlocks (column : Int) (s : Layout) : Layout :=
  if !s.inBlock then s
  else
    let (indent, indents, ended) := unwind column s.indent s.indents
    ended.fold (fun _ _ s => s.push s.cursor .blockEnd) { s with indent := indent, indents := indents }

/-! ### Keys -/

/-- A key may begin here, if one is allowed. -/
def saveKey (s : Layout) : Layout :=
  if s.keyAllowed then
    let required := s.inBlock && s.indent == s.cursor.column && s.indents.head?.any (·.block)
    { s with key := some ⟨s.count, s.cursor, required⟩ }
  else s

/-- What may have begun a key did not. -/
def dropKey (s : Layout) : Except Fault Layout :=
  match s.key with
  | some k => if k.required then s.cursor.fault .keyExpected else .ok { s with key := none }
  | none => .ok s

/-- Drop a key of a block that has become too long. -/
def dropStaleKey (s : Layout) : Except Fault Layout :=
  match s.key with
  | some k => if s.inBlock && k.isStale s.cursor then s.dropKey else .ok s
  | none => .ok s

/-! ### Blanks -/

/-- Blanks, line feeds and comments between tokens, with or without tabs. A tab is no indentation of a block. -/
def skipTrivia (tabs : Bool) (s : Layout) : Except Fault Layout :=
  repeatTurns (·.cursor.left) (·.cursor.stuck) (fun (s : Layout) =>
    let c := s.cursor
    match c.rest with
    | '\t' :: _ =>
      if !tabs then .ok (.done s)
      else if !s.indents.isEmpty && c.fresh && c.column < s.indent then
        match c.skipBlanks with
        | .error f => .error f
        | .ok (d, _) => if atLineEnd d.rest then .ok (.again { s with cursor := d }) else d.fault .tab
      else .ok (.again { s with cursor := c.next })
    | ' ' :: _ => .ok (.again { s with cursor := c.next })
    | '\n' :: _ => .ok (.again { s with cursor := c.next, keyAllowed := s.keyAllowed || s.inBlock })
    | '#' :: _ => .ok (.again { s with cursor := c.skipLine })
    | _ => .ok (.done s)) s

/-- A plain scalar that a comment cut off does not go on. -/
def endCutOff (s : Layout) : Except Fault Layout :=
  let c := s.cursor
  let goesOn := fun line =>
    s.inBlock && c.line == line + 1 && s.indent < c.column && !c.atDocumentMarker
      && (match c.rest with
        | [] => false
        | x :: r => !endsPlain false x r)
  if s.cutOff.any goesOn then c.fault .comment else .ok { s with cutOff := none }

def toNext (s : Layout) : Except Fault Layout := s.skipTrivia true >>= endCutOff

/-! ### Indicators -/

def finish (s : Layout) : Except Fault Layout :=
  if !s.inBlock then s.cursor.fault .unexpectedEnd
  else s.dropKey.map fun s => (s.closeBlocks (-1)).push s.cursor .textEnd

/-- A token at the margin, outside all blocks. -/
def pushAtMargin (read : Cursor → Except Fault (Token × Cursor)) (s : Layout) : Except Fault Layout :=
  match (s.closeBlocks (-1)).dropKey with
  | .error f => .error f
  | .ok s =>
    match read s.cursor with
    | .error f => .error f
    | .ok (token, d) => .ok { s.push s.cursor token with cursor := d, keyAllowed := false }

/-- The marker at the end of a document, with nothing behind it on its line. -/
def readDocumentEnd (c : Cursor) : Except Fault (Token × Cursor) :=
  match (c.skip 3).skipBlanks with
  | .error f => .error f
  | .ok (d, _) => if atLineEnd d.rest then .ok (.documentEnd, d) else d.fault .documentMarker

/-- An indicator inside a flow collection, and the blanks behind it. -/
def pushIndicator (token : Token) (s : Layout) : Except Fault Layout :=
  match s.cursor.next.skipBlanks with
  | .error f => .error f
  | .ok (d, _) => .ok { s.push s.cursor token with cursor := d }

def openFlow (kind : FlowKind) (s : Layout) : Except Fault Layout :=
  if flowLimit ≤ s.flows.length then s.cursor.fault .tooDeep
  else
    let s := s.saveKey.indentLoosely
    let token := match kind with
      | .sequence => Token.flowSequence
      | .mapping => .flowMapping
    { s with flows := ⟨kind, s.key⟩ :: s.flows, key := none, keyAllowed := true }.pushIndicator token

def closeFlow (kind : FlowKind) (s : Layout) : Except Fault Layout :=
  match s.flows with
  | [] => s.cursor.fault .unexpected
  | f :: fs =>
    if f.kind ≠ kind then s.cursor.fault .separatorExpected
    else
      let token := match kind with
        | .sequence => Token.flowSequenceEnd
        | .mapping => .flowMappingEnd
      match { s with flows := fs, key := f.outerKey, keyAllowed := false }.pushIndicator token with
      | .error f => .error f
      | .ok s => .ok { s with adjacent := if s.inBlock then s.adjacent else some s.cursor.left }

def flowEntry (s : Layout) : Except Fault Layout :=
  match s.dropKey with
  | .error f => .error f
  | .ok s => { s with keyAllowed := true }.pushIndicator .flowEntry

/-- An anchor or a tag at the margin has just come. -/
def behindMarginProperty (s : Layout) : Bool :=
  match s.lexemes.head? with
  | some ⟨.anchor _, c⟩ => c.column == 0
  | some ⟨.tag _, c⟩ => c.column == 0
  | _ => false

/-- A dash and a gap come next. -/
def atBlockEntry : List Char → Bool
  | '-' :: r => atGap r
  | _ => false

def blockEntry (s : Layout) : Except Fault Layout :=
  let c := s.cursor
  if !s.inBlock || !s.keyAllowed then c.fault .entryNotAllowed
  else if c.column == 0 && (0 : Int) ≤ s.indent && s.behindMarginProperty then c.fault .indentation
  else
    let s := s.openBlock c s.count .blockSequence
    match c.next.skipBlanks with
    | .error f => .error f
    | .ok (d, blanks) =>
      if blanks.tab && atBlockEntry d.rest then d.fault .tab
      else
        let s := if d.peek? = some '\n' || atFlow d.rest then s.indentLoosely else s
        s.dropKey.map fun s => { s.push d .blockEntry with cursor := d, keyAllowed := true }

/-- A key behind a question mark. -/
def explicitKey (s : Layout) : Except Fault Layout :=
  let c := s.cursor
  if s.inBlock && !s.keyAllowed then c.fault .keyExpected
  else
    match (s.openBlock c s.count .blockMapping).dropKey with
    | .error f => .error f
    | .ok s =>
      let d := c.next
      if d.peek? ≠ some ' ' ∧ d.peek? ≠ some '\n' then d.fault .unexpected
      else
        match { s with cursor := d, keyAllowed := s.inBlock }.skipTrivia false with
        | .error f => .error f
        | .ok t => if t.cursor.peek? = some '\t' then t.cursor.fault .tab else .ok (t.push c .key)

/-- The blanks behind the colon of a value, if they begin with a tab. -/
def skipValueTab (c : Cursor) : Except Fault Cursor :=
  if c.peek? ≠ some '\t' then .ok c
  else
    match c.skipBlanks with
    | .error f => .error f
    | .ok (d, blanks) => if !blanks.space && d.rest.head?.any isHandleChar then d.fault .tab else .ok d

def value (s : Layout) : Except Fault Layout :=
  let c := s.cursor
  match skipValueTab c.next with
  | .error f => .error f
  | .ok d =>
    let s := { s with cursor := d }
    match s.key with
    | some k =>
      if s.flows.head?.any (·.kind == .sequence) && k.cursor.line != c.line then c.fault .valueNotAllowed
      else
        let s := (s.insert k.position k.cursor .key).openBlock k.cursor k.position .blockMapping
        .ok ({ s.indentLoosely with key := none, keyAllowed := false }.push c .value)
    | none =>
      if s.inBlock && !s.keyAllowed then c.fault .valueNotAllowed
      else
        let s := (s.openBlock c s.count .blockMapping).indentLoosely
        .ok ({ s with keyAllowed := s.inBlock }.push c .value)

/-- A value in a flow collection whose colon has no gap behind it. -/
def flowValue (adjacent : Bool) (s : Layout) : Except Fault Layout :=
  let opens := s.cursor.next.rest.head?.any fun x => x == '[' || x == '\x7b'
  if opens && !adjacent then s.cursor.fault .valueNotAllowed else s.value

/-! ### Scalars and properties -/

/-- A token that may begin a key. -/
def pushNode (read : Cursor → Except Fault (Token × Cursor)) (s : Layout) : Except Fault Layout :=
  let s := s.saveKey
  match read s.cursor with
  | .error f => .error f
  | .ok (token, d) => .ok { s.push s.cursor token with cursor := d, keyAllowed := false }

def quoted (single : Bool) (s : Layout) : Except Fault Layout :=
  let read := fun c => (readQuoted single (!s.inBlock) s.indent c).map fun (text, d) => (Token.scalar false text, d)
  match s.pushNode read with
  | .error f => .error f
  | .ok s => s.toNext.map fun s => { s with adjacent := some s.cursor.left }

def block (literal : Bool) (s : Layout) : Except Fault Layout :=
  let s := s.saveKey
  let c := s.cursor
  let s := s.dropLoose
  match readBlock literal s.indent c with
  | .error f => .error f
  | .ok (text, d) => .ok { s.push c (.scalar false text) with cursor := d, keyAllowed := true }

def plain (s : Layout) : Except Fault Layout :=
  let s := s.saveKey
  let c := s.cursor
  let s := s.dropLoose
  match readPlain ⟨!s.inBlock, (s.indent + 1).toNat⟩ c with
  | .error f => .error f
  | .ok scalar =>
    let d := scalar.cursor
    .ok { s.push c (.scalar true scalar.text) with
      cursor := d, keyAllowed := d.fresh, cutOff := if scalar.cutOff then some d.line else none }

/-! ### The tokens of a text -/

/-- The next token from its first character on, and what comes with it. -/
def takeToken (s : Layout) (x : Char) (r : List Char) : Except Fault Layout :=
  if x = '[' then s.openFlow .sequence
  else if x = '\x7b' then s.openFlow .mapping
  else if x = ']' then s.closeFlow .sequence
  else if x = '\x7d' then s.closeFlow .mapping
  else if x = ',' then s.flowEntry
  else if x = '-' && atGap r then s.blockEntry
  else if x = '?' && atGap r then s.explicitKey
  else if x = ':' && atGap r then s.value
  else if x = ':' && !s.inBlock && (atFlow r || s.adjacent == some s.cursor.left) then
    s.flowValue (s.adjacent == some s.cursor.left)
  else if x = '*' then s.pushNode fun c => (readName c).map fun (name, d) => (.alias name, d)
  else if x = '&' then s.pushNode fun c => (readName c).map fun (name, d) => (.anchor name, d)
  else if x = '!' then s.pushNode fun c => (readTag (!s.inBlock) c).map fun (name, d) => (.tag name, d)
  else if x = '|' && s.inBlock then s.block true
  else if x = '>' && s.inBlock then s.block false
  else if x = '\'' then s.quoted true
  else if x = '"' then s.quoted false
  else if x = '%' || x = '@' || x = '\x60' then s.cursor.fault .unexpected
  else s.plain

/-- Whether a token of a flow collection may stand left of the indentation. -/
def mayStandLeft (s : Layout) (x : Char) : Bool := !s.inBlock && (x == ',' || x == ']' || x == '\x7d')

def step (s : Layout) : Except Fault (Turn Layout Layout) := do
  let s ← s.toNext
  let s ← s.dropStaleKey
  let c := s.cursor
  let s := s.closeBlocks c.column
  match c.rest with
  | [] => s.finish.map .done
  | x :: r =>
    if c.column = 0 ∧ x = '%' then (s.pushAtMargin fun c => readDirective c.next).map .again
    else if c.column = 0 ∧ c.atMarker '-' then
      (s.pushAtMargin fun c => .ok (.documentStart, c.skip 3)).map .again
    else if c.column = 0 ∧ c.atMarker '.' then (s.pushAtMargin readDocumentEnd).map .again
    else if (c.column : Int) < s.indent ∧ !s.mayStandLeft x then c.fault .indentation
    else (s.takeToken x r).map .again

/-- The first token that may still turn out to be a key. -/
def pending? (s : Layout) : Option Nat :=
  let keys := (s.key.filter fun k => !(s.inBlock && k.isStale s.cursor)).toList ++ s.flows.filterMap (·.outerKey)
  (keys.map (·.position)).min?

/-- The tokens of a layout that goes wrong: those that are certain, and the fault. -/
def breakOff (f : Fault) (s : Layout) : List Lexeme :=
  let certain := s.pending?.getD s.count
  (⟨.broken f, s.cursor⟩ :: s.lexemes.drop (s.count - certain)).reverse

def run (s : Layout) : List Lexeme :=
  match s.step with
  | .error f => s.breakOff f
  | .ok (.done t) => t.lexemes.reverse
  | .ok (.again t) => if t.cursor.left < s.cursor.left then run t else s.breakOff s.cursor.stuck
termination_by s.cursor.left

end Layout

def lexemes (text : List Char) : List Lexeme := (Layout.start text).run

end BuildOrder.Yaml
