import BuildOrder.Yaml.Layout
import BuildOrder.Yaml.Tree

/-!
# Reading YAML

The tokens of a text are read as one document, which is a tree or nothing. The recursion goes down a budget of
nesting levels. Anchors are kept with their trees; the tokens of a tree know its anchor while it is read, but
cannot use it yet.

What follows the document must not be another document. Nothing else is asked of it.
-/

namespace BuildOrder.Yaml

/-- The deepest nesting of collections that is read. -/
def depthLimit : Nat := 2000

/-- The size of all trees together that aliases may stand for. -/
def replayLimit : Nat := 1000000

/-- A name for a tree, which is there once it has been read. -/
structure Anchor where
  name : String
  tree? : Option (Tree × Nat)

structure Source where
  lexemes : List Lexeme
  /-- The number of tokens left. -/
  left : Nat
  /-- The handles of tags and the beginnings they stand for. -/
  handles : List (String × String)
  anchors : List Anchor
  /-- The size of the trees that aliases stood for so far. -/
  replayed : Nat

namespace Source

def start (lexemes : List Lexeme) : Source := ⟨lexemes, lexemes.length, [], [], 0⟩

def peek (s : Source) : Token :=
  match s.lexemes with
  | [] => .textEnd
  | l :: _ => l.token

def cursor (s : Source) : Cursor :=
  match s.lexemes with
  | [] => .start []
  | l :: _ => l.cursor

def next (s : Source) : Source := { s with lexemes := s.lexemes.tail, left := s.left - 1 }

/-- The fault at the next token: that of the text if its tokens end here. -/
def faultOf (cause : Cause) (s : Source) : Fault :=
  match s.peek with
  | .broken f => f
  | _ => .before cause s.cursor.rest

def fault {α : Type} (cause : Cause) (s : Source) : Except Fault α := .error (s.faultOf cause)

/-- The fault of a loop that does not go on. -/
def stuck (s : Source) : Fault := s.faultOf .unexpected

def emptyTree (s : Source) : Tree := .empty s.cursor

end Source

/-! ### Tags, anchors and aliases -/

/-- The full name of a tag. A handle between exclamation marks must be known. -/
def TagName.fullName? (name : TagName) (handles : List (String × String)) : Option String :=
  match handles.find? (fun h => h.1 == name.handle) with
  | some h => some (h.2 ++ name.suffix)
  | none =>
    if name.handle = "!!" then some (standardTags ++ name.suffix)
    else if 2 ≤ name.handle.length then none
    else some (name.handle ++ name.suffix)

/-- What stands before the content of a tree. -/
structure Properties where
  anchor : Option String
  tag : Option Tag

def readAnchor (s : Source) : Option String × Source :=
  match s.peek with
  | .anchor name => (some name, { s.next with anchors := ⟨name, none⟩ :: s.anchors })
  | _ => (none, s)

def readTagOf (s : Source) : Except Fault (Option Tag × Source) :=
  match s.peek with
  | .tag name =>
    match name.fullName? s.handles with
    | some full => .ok (some (.ofName full), s.next)
    | none => s.fault .tag
  | _ => .ok (none, s)

def readProperties (s : Source) : Except Fault (Properties × Source) :=
  match readAnchor s with
  | (some anchor, s) => (readTagOf s).map fun (tag, s) => (⟨some anchor, tag⟩, s)
  | (none, s) =>
    match readTagOf s with
    | .error f => .error f
    | .ok (none, s) => .ok (⟨none, none⟩, s)
    | .ok (tag, s) =>
      let (anchor, s) := readAnchor s
      .ok (⟨anchor, tag⟩, s)

/-- Keep the tree of an anchor. -/
def Source.bind (name? : Option String) (tree : Tree) (s : Source) : Source :=
  match name? with
  | some name => { s with anchors := ⟨name, some (tree, tree.size)⟩ :: s.anchors }
  | none => s

/-- The tree that an alias stands for. -/
def Source.replay (name : String) (s : Source) : Except Fault (Tree × Source) :=
  match (s.anchors.find? (·.name == name)).bind Anchor.tree? with
  | none => s.fault .unknownAlias
  | some (tree, size) =>
    if replayLimit < s.replayed + size then s.fault .tooDeep
    else .ok (tree, { s.next with replayed := s.replayed + size })

/-! ### Collections -/

inductive Site where
  | flow
  | block
  /-- In a field of a block mapping, where a sequence may do without an indentation of its own. -/
  | blockField
deriving DecidableEq

abbrev TreeReader := Site → Source → Except Fault (Tree × Source)

/-- A token behind which the field of a block mapping has nothing. -/
def endsBlockField : Token → Bool
  | .key | .value | .blockEnd => true
  | _ => false

/-- A token behind which the entry of a block sequence has nothing. -/
def endsBlockEntry (indented : Bool) : Token → Bool
  | .blockEntry | .blockEnd => true
  | .key | .value => !indented
  | _ => false

/-- A token behind which the part of a flow collection has nothing. -/
def endsFlow : Token → Bool
  | .flowEntry | .flowSequenceEnd | .flowMappingEnd => true
  | _ => false

/-- A tree, or nothing before a token of a kind. -/
def readUnless (ends : Token → Bool) (one : TreeReader) (site : Site) (s : Source) : Except Fault (Tree × Source) :=
  if ends s.peek then .ok (s.emptyTree, s) else one site s

/-- The entries of a block sequence, with or without an indentation of its own. -/
def readBlockEntries (one : TreeReader) (indented : Bool) (s : Source) : Except Fault (List Tree × Source) :=
  repeatTurns (·.1.left) (·.1.stuck) (fun (s, acc) =>
    match s.peek, indented with
    | .blockEntry, _ =>
      (readUnless (endsBlockEntry indented) one .block s.next).map fun (t, s) => .again (s, t :: acc)
    | .blockEnd, true => .ok (.done (acc.reverse, s.next))
    | _, true => s.fault .entryNotAllowed
    | _, false => .ok (.done (acc.reverse, s))) (s, [])

def readBlockValue (one : TreeReader) (s : Source) : Except Fault (Tree × Source) :=
  match s.peek with
  | .value => readUnless endsBlockField one .blockField s.next
  | _ => .ok (s.emptyTree, s)

def readBlockFields (one : TreeReader) (s : Source) : Except Fault (List (Tree × Tree) × Source) :=
  repeatTurns (·.1.left) (·.1.stuck) (fun (s, acc) =>
    let field := fun (k : Tree) (s : Source) =>
      (readBlockValue one s).map fun (v, s) => Turn.again (s, (k, v) :: acc)
    match s.peek with
    | .key =>
      match readUnless endsBlockField one .blockField s.next with
      | .error f => .error f
      | .ok (k, s) => field k s
    | .value => field s.emptyTree s
    | .blockEnd => .ok (.done (acc.reverse, s.next))
    | _ => s.fault .keyExpected) (s, [])

def readFlowValue (one : TreeReader) (s : Source) : Except Fault (Tree × Source) :=
  match s.peek with
  | .value => readUnless endsFlow one .flow s.next
  | _ => .ok (s.emptyTree, s)

def readFlowField (one : TreeReader) (s : Source) : Except Fault ((Tree × Tree) × Source) :=
  match readUnless (fun t => endsFlow t || endsBlockField t) one .flow s with
  | .error f => .error f
  | .ok (k, s) => (readFlowValue one s).map fun (v, s) => ((k, v), s)

/-- The comma before a part of a flow collection, if it is not the first. -/
def readSeparator (first : Bool) (s : Source) : Except Fault Source :=
  match first, s.peek with
  | true, _ => .ok s
  | false, .flowEntry => .ok s.next
  | false, _ => s.fault .separatorExpected

/-- The parts of a flow collection up to its end. -/
def readFlowParts {α : Type} (atEnd : Token → Bool) (part : Source → Except Fault (α × Source)) (s : Source) :
    Except Fault (List α × Source) :=
  repeatTurns (·.1.left) (·.1.stuck) (fun (s, acc) =>
    if atEnd s.peek then .ok (.done (acc.reverse, s.next))
    else
      match readSeparator acc.isEmpty s with
      | .error f => .error f
      | .ok s =>
        if atEnd s.peek then .ok (.done (acc.reverse, s.next))
        else (part s).map fun (a, s) => .again (s, a :: acc)) (s, [])

def isSequenceEnd : Token → Bool
  | .flowSequenceEnd => true
  | _ => false

def isMappingEnd : Token → Bool
  | .flowMappingEnd => true
  | _ => false

/-- A part of a flow sequence: a tree, or a field that is a mapping of its own. -/
def readFlowEntry (one : TreeReader) (s : Source) : Except Fault (Tree × Source) :=
  let single := fun (s : Source) => (readFlowField one s).map fun (field, t) => (Tree.mapping s.cursor [field], t)
  match s.peek with
  | .key => single s.next
  | .value => single s
  | _ => one .flow s

/-- A part of a flow mapping: a field, or a key alone. -/
def readFlowMember (one : TreeReader) (s : Source) : Except Fault ((Tree × Tree) × Source) :=
  match s.peek with
  | .key => readFlowField one s.next
  | .value => readFlowField one s
  | _ => (one .flow s).map fun (k, s) => ((k, s.emptyTree), s)

/-- The collection that begins at a site, if one does. -/
def readCollection? (one : TreeReader) (site : Site) (s : Source) : Option (Except Fault (Tree × Source)) :=
  let sequence := fun (r : Except Fault (List Tree × Source)) => r.map fun (ts, t) => (Tree.sequence s.cursor ts, t)
  let mapping := fun (r : Except Fault (List (Tree × Tree) × Source)) =>
    r.map fun (fs, t) => (Tree.mapping s.cursor fs, t)
  match s.peek, site with
  | .flowSequence, _ => some (sequence (readFlowParts isSequenceEnd (readFlowEntry one) s.next))
  | .flowMapping, _ => some (mapping (readFlowParts isMappingEnd (readFlowMember one) s.next))
  | .blockEntry, .blockField => some (sequence (readBlockEntries one false s))
  | _, .flow => none
  | .blockSequence, _ => some (sequence (readBlockEntries one true s.next))
  | .blockMapping, _ => some (mapping (readBlockFields one s.next))
  | _, _ => none

/-! ### Trees -/

def readContent (one : TreeReader) (site : Site) (properties : Properties) (s : Source) :
    Except Fault (Tree × Source) :=
  match s.peek with
  | .scalar plain text => .ok (.scalar s.cursor (properties.tag.getD .none) plain text, s.next)
  | _ =>
    match readCollection? one site s with
    | some r => r
    | none =>
      if properties.anchor.isSome || properties.tag.isSome then
        .ok (.scalar s.cursor (properties.tag.getD .none) true "", s)
      else s.fault .nodeExpected

/-- A tree that is no alias, given a reader of the trees inside it. -/
def readAnchored (one : TreeReader) (site : Site) (s : Source) : Except Fault (Tree × Source) :=
  match readProperties s with
  | .error f => .error f
  | .ok (properties, s) => (readContent one site properties s).map fun (t, s) => (t, s.bind properties.anchor t)

/-- A tree with collections nested at most `budget` levels deep. -/
def readTree : (budget : Nat) → TreeReader
  | 0, _, s => s.fault .tooDeep
  | budget + 1, site, s =>
    match s.peek with
    | .alias name => s.replay name
    | _ => readAnchored (readTree budget) site s

/-! ### Documents -/

/-- A directive, or the mark at the start of a document. -/
def startsDocument : Token → Bool
  | .version | .tagHandle .. | .reserved | .documentStart => true
  | _ => false

/-- Past the marks at the end of a document. -/
def skipDocumentEnds (s : Source) : Source :=
  let isEnd := fun (l : Lexeme) => match l.token with
    | .documentEnd => true
    | _ => false
  let rest := s.lexemes.dropWhile isEnd
  { s with lexemes := rest, left := rest.length }

/-- The directives before a document: at most one version, and no handle twice. -/
def readDirectives (s : Source) : Except Fault Source :=
  (repeatTurns (·.1.left) (·.1.stuck) (fun (s, versioned) =>
    match s.peek with
    | .version => if versioned then s.fault .directive else .ok (.again (s.next, true))
    | .tagHandle handle beginning =>
      if s.handles.any (·.1 == handle) then s.fault .directive
      else .ok (.again ({ s.next with handles := (handle, beginning) :: s.handles }, versioned))
    | .reserved => .ok (.again (s.next, versioned))
    | _ => .ok (.done s)) (s, false))

def readDocumentTree (s : Source) : Except Fault (Tree × Source) :=
  match s.peek with
  | .documentEnd | .textEnd => .ok (s.emptyTree, s)
  | t => if startsDocument t then .ok (s.emptyTree, s) else readTree (depthLimit + 1) .block s

def readDocument (s : Source) : Except Fault (Tree × Source) :=
  let s := skipDocumentEnds s
  if startsDocument s.peek then
    match readDirectives s with
    | .error f => .error f
    | .ok s =>
      match s.peek with
      | .documentStart => readDocumentTree s.next
      | _ => s.fault .documentMarker
  else readDocumentTree s

/-- Another document begins behind the mark at the end of the first. -/
def startsAnother (s : Source) : Bool :=
  match s.peek with
  | .broken _ | .textEnd => false
  | t =>
    if startsDocument t then
      match readDirectives s with
      | .ok s => match s.peek with
        | .documentStart => true
        | _ => false
      | .error _ => false
    else true

/-- There is no second document. A directive needs a mark at the end of the document before it. -/
def expectEnd (s : Source) : Except Fault Unit :=
  match s.peek with
  | .broken f => .error f
  | .documentStart => s.fault .severalDocuments
  | .documentEnd => if startsAnother (skipDocumentEnds s) then s.fault .severalDocuments else .ok ()
  | t => if startsDocument t then s.fault .documentMarker else .ok ()

def readValue (s : Source) : Except Fault Value :=
  match readDocument s with
  | .error f => .error f
  | .ok (tree, s) =>
    match tree.toValue, expectEnd s with
    | .ok v, .ok _ => .ok v
    | .error f, _ => .error f
    | _, .error f => .error f

/-- A text without a byte order mark at its start. -/
def dropMark : List Char → List Char
  | '\uFEFF' :: r => r
  | s => s

def parse (text : String) : Except Error Value :=
  let cs := normalized (dropMark text.toList)
  match readValue (.start (lexemes cs)) with
  | .ok v => .ok v
  | .error f => .error (f.locate cs)

end BuildOrder.Yaml
