import BuildOrder.Log.Event
import BuildOrder.Text.Alphanumeric
import BuildOrder.Text.Blank
import BuildOrder.Text.Fold

/-!
# Filters of events

A filter is a list of directives, the most specific first. The first directive that concerns an event decides by
its level whether the event is let through; an event that none concerns is not.

A directive is written `source[{field}]=level`. The source is the beginning of a path; every part may be missing,
and a level alone concerns every source. Directives are separated by commas. A directive about a span, or about
the value of a field, concerns no event here.
-/

namespace BuildOrder

/-- A rule of a filter: which events it concerns, and the finest level that it lets through. -/
structure Directive where
  /-- How the path of the source begins. -/
  source : Option String
  /-- Fields that the event has. -/
  fields : List String
  /-- The finest level that is let through, if any is. -/
  level : Option Level
deriving DecidableEq

namespace Directive

/-- An event has a field. Its message counts as one. -/
def hasField (e : Event) (name : String) : Bool := name == "message" || e.fields.any (·.1 == name)

def concerns (d : Directive) (e : Event) : Bool :=
  d.source.all (fun start => e.source.path.startsWith start) && d.fields.all (hasField e)

def lets (d : Directive) (level : Level) : Bool := d.level.any fun finest => level.toNat ≤ finest.toNat

/-- How specific a directive is: the length of its source, then the number of its fields, then the texts. -/
def comparePriority (a b : Directive) : Ordering :=
  let length := fun (d : Directive) => (d.source.map fun s => s.utf8ByteSize + 1).getD 0
  ((compare (length a) (length b)).then (compare a.fields.length b.fields.length)).then
    ((compare (a.source.getD "") (b.source.getD "")).then (compare a.fields b.fields))

end Directive

structure Filter where
  directives : List Directive
deriving DecidableEq

namespace Filter

/-- Put in a directive; it takes the place of one about the same events. -/
def insert (d : Directive) : List Directive → List Directive
  | [] => [d]
  | e :: es =>
    match d.comparePriority e with
    | .gt => d :: e :: es
    | .eq => d :: es
    | .lt => e :: insert d es

def ofList (ds : List Directive) : Filter := ⟨ds.foldl (fun es d => insert d es) []⟩

def lets (f : Filter) (e : Event) : Bool :=
  match f.directives.find? (·.concerns e) with
  | some d => d.lets e.level
  | none => false

/-- What is let through unless asked otherwise: warnings, and from this program all up to a level. -/
def ofLevel (level : Level) : Filter :=
  .ofList [⟨none, [], some .warning⟩, ⟨some "mkdeps", [], some level⟩]

/-- The text of that filter, which reading gives back: `ofText?_textOfLevel`. -/
def textOfLevel (level : Level) : String := s!"warn,mkdeps={level.filterName}"

end Filter

/-! ### Reading filters -/

namespace Level

def byNumber : List (Option Level) := [none, some .error, some .warning, some .info, some .debug, some .trace]

def number? (cs : List Char) : Option Nat :=
  let digits := if cs.head? = some '+' then cs.tail else cs
  if digits.isEmpty || !digits.all Char.isDigit then none
  else some (digits.foldl (fun n c => 10 * n + (c.toNat - '0'.toNat)) 0)

/-- The finest level that a filter lets through, by its number or by its name in any case. -/
def ofFilterText? (cs : List Char) : Option (Option Level) :=
  match number? cs with
  | some n => byNumber[n]?
  | none =>
    match Text.asciiLower (String.ofList cs) with
    | "off" => some none
    | "error" => some (some .error)
    | "warn" => some (some .warning)
    | "info" => some (some .info)
    | "debug" => some (some .debug)
    | "trace" => some (some .trace)
    | _ => none

end Level

/-- What a directive says, once it has been read: a rule, or nothing about any event here. -/
inductive DirectiveText where
  | rule (d : Directive)
  | aboutSpans

namespace Directive

/-- The characters of a text from one place up to another. -/
def slice (text : List Char) (first last : Nat) : List Char := (text.drop first).take (last - first)

/-- What a rule about a source and fields says; a field with a value is about spans. -/
def ofParts (source : Option String) (fields : List String) (level : Option Level) : DirectiveText :=
  if fields.any (·.toList.contains '=') then .aboutSpans else .rule ⟨source, fields, level⟩

/-- The level behind an equals sign at the end of a directive. -/
def readLevel? (cs : List Char) : Option (Option Level) :=
  if cs.isEmpty then some (some .trace) else Level.ofFilterText? cs

/-- What stands behind the bracket of a span at `start`, where `rest` is left: a level, or nothing. -/
def behindSpan (text : List Char) (span : Bool) (source : Option String) (fields : List String) (start : Nat)
    (rest : List Char) : Option DirectiveText :=
  let level? : Option (Option Level) := match rest with
    | [] => some (some .trace)
    | '=' :: _ => readLevel? (text.drop (start + 1))
    | _ => none
  level?.map fun level => if span then .aboutSpans else ofParts source fields level

/-- A span from behind its opening bracket at `start`, where `rest` is left. -/
def readSpan (text : List Char) (source : Option String) (start : Nat) (rest : List Char) : Option DirectiveText :=
  let name := rest.takeWhile fun c => c ≠ ']' && c ≠ '\x7b'
  match rest.drop name.length with
  | ']' :: r => behindSpan text true source [] (start + name.length + 1) r
  | '\x7b' :: r =>
    let field := r.takeWhile (· ≠ '\x7d')
    let first := start + name.length + 1
    match r.drop field.length with
    | '\x7d' :: ']' :: r =>
      let fieldText := slice text first (first + field.length)
      if fieldText.isEmpty then none
      else behindSpan text (!(slice text start (start + name.length)).isEmpty) source [String.ofList fieldText]
        (first + field.length + 2) r
    | _ => none
  | _ => none

/-- The characters that a directive may begin with, a bracket apart. -/
def mayBegin (c : Char) : Bool := c == '-' || c == ':' || c == '_' || Text.isAlphanumeric c

/-- Read a directive. The parts are found in the text without blanks around it, and then taken from the same places
of the whole text, so a blank in front shifts them. -/
def read? (text : List Char) : Option DirectiveText :=
  let trimmed := Text.trimEnd (Text.trimStart text)
  match trimmed with
  | [] => none
  | '[' :: r => readSpan text none 1 r
  | c :: _ =>
    if !mayBegin c then none
    else
      let word := trimmed.takeWhile fun c => c ≠ '=' && c ≠ '['
      let source := some (String.ofList (slice text 0 word.length))
      match trimmed.drop word.length with
      | '=' :: _ => (readLevel? (text.drop (word.length + 1))).map fun level => .rule ⟨source, [], level⟩
      | '[' :: r => readSpan text source (word.length + 1) r
      | _ =>
        match Level.ofFilterText? text with
        | some level => some (.rule ⟨none, [], level⟩)
        | none => some (.rule ⟨some (String.ofList text), [], some .trace⟩)

end Directive

namespace Filter

/-- The parts of a text between commas. -/
def parts : List Char → List (List Char)
  | [] => [[]]
  | c :: cs =>
    if c = ',' then [] :: parts cs
    else match parts cs with
      | p :: ps => (c :: p) :: ps
      | [] => [[c]]

def ofText? (text : String) : Option Filter :=
  (((parts text.toList).filter fun p => !p.isEmpty).mapM Directive.read?).map fun ds =>
    .ofList (ds.filterMap fun
      | .rule d => some d
      | .aboutSpans => none)

/-- The filter of a level reads back from its text. -/
theorem ofText?_textOfLevel (level : Level) : ofText? (textOfLevel level) = some (ofLevel level) := by
  cases level <;> decide +kernel

def variableName : String := "RUST_LOG"

/-- The filter in an environment: the one that its variable spells, or else that of a level. -/
def ofEnvironmentText (level : Level) (text? : Option String) : Filter :=
  (text?.bind ofText?).getD (.ofLevel level)

end Filter

end BuildOrder
