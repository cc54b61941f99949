import BuildOrder.Yaml.Plain

/-!
# Quoted scalars

In single quotes a quote is written twice. In double quotes there are escapes; a backslash at the end of a line
joins it to the next. Between lines a quoted scalar is folded like a plain one.

An escape may be one half of a surrogate pair if the other half follows as an escape.
-/

namespace BuildOrder.Yaml

/-- The character that a letter after a backslash stands for. -/
def escapeLetter? (c : Char) : Option Char :=
  match c with
  | '0' => some '\x00'
  | 'a' => some '\x07'
  | 'b' => some '\x08'
  | 't' => some '\t'
  | '\t' => some '\t'
  | 'n' => some '\n'
  | 'v' => some '\x0b'
  | 'f' => some '\x0c'
  | 'r' => some '\r'
  | 'e' => some '\x1b'
  | ' ' => some ' '
  | '"' => some '"'
  | '/' => some '/'
  | '\\' => some '\\'
  | 'N' => some '\u0085'
  | '_' => some '\u00a0'
  | 'L' => some '\u2028'
  | 'P' => some '\u2029'
  | _ => none

def codeDigits? (c : Char) : Option Nat :=
  match c with
  | 'x' => some 2
  | 'u' => some 4
  | 'U' => some 8
  | _ => none

def hexValue? (c : Char) : Option Nat :=
  if c.isDigit then some (c.toNat - '0'.toNat)
  else if 'a' ≤ c ∧ c ≤ 'f' then some (c.toNat - 'a'.toNat + 10)
  else if 'A' ≤ c ∧ c ≤ 'F' then some (c.toNat - 'A'.toNat + 10)
  else none

def hexNumber? (count : Nat) (cs : List Char) : Option Nat :=
  match (cs.take count).mapM hexValue? with
  | some ds => if ds.length = count then some (ds.foldl (fun n d => 16 * n + d) 0) else none
  | none => none

def charOf? (n : Nat) : Option Char := if n.isValidChar then some (Char.ofNat n) else none

/-- The second half of a surrogate pair, written as an escape of four digits. -/
def trailingHalf? (cs : List Char) : Option Nat :=
  match cs with
  | '\\' :: 'u' :: r => (hexNumber? 4 r).filter fun n => 0xDC00 ≤ n ∧ n ≤ 0xDFFF
  | _ => none

/-- The character that an escape stands for, from behind its backslash on, and the length of the escape. -/
def escape? : List Char → Option (Char × Nat)
  | [] => none
  | c :: r =>
    match escapeLetter? c, codeDigits? c with
    | some d, _ => some (d, 1)
    | none, some count =>
      match hexNumber? count r with
      | none => none
      | some n =>
        if 0xD800 ≤ n ∧ n ≤ 0xDBFF then
          match trailingHalf? (r.drop count) with
          | some m => (charOf? (0x10000 + (n - 0xD800) * 0x400 + (m - 0xDC00))).map fun d => (d, count + 7)
          | none => none
        else (charOf? n).map fun d => (d, count + 1)
    | none, none => none

/-- A quoted scalar as far as it has been read; the characters are kept last first. -/
structure QuotedDraft where
  cursor : Cursor
  out : List Char
  blanks : List Char
  breaks : Breaks
  /-- A line has ended since the last character. -/
  broken : Bool

namespace QuotedDraft

/-- Put a character, written with `n` characters, behind the others. -/
def add (d : QuotedDraft) (c : Char) (n : Nat) : QuotedDraft :=
  { d with cursor := d.cursor.skip n, out := c :: d.out }

/-- Write the blanks or line feeds that came before the next character. -/
def flush (d : QuotedDraft) : QuotedDraft :=
  let gap := if d.broken then d.breaks.folded else d.blanks.reverse
  { d with out := gap.reverse ++ d.out, blanks := [], breaks := .none, broken := false }

end QuotedDraft

/-- The characters of a quoted scalar up to a gap, to its closing quote, or past a joined line. -/
def quotedChars (single : Bool) (d : QuotedDraft) : Except Fault (Turn QuotedDraft QuotedDraft) :=
  match d.cursor.rest with
  | [] => .ok (.done d)
  | c :: r =>
    if isBlank c || c == '\n' then .ok (.done d)
    else if single then
      if c = '\'' then
        match r with
        | '\'' :: _ => .ok (.again (d.add '\'' 2))
        | _ => .ok (.done d)
      else .ok (.again (d.add c 1))
    else if c = '"' then .ok (.done d)
    else if c = '\\' then
      match r with
      | '\n' :: _ => .ok (.done { d with cursor := d.cursor.skip 2, broken := true })
      | _ =>
        match escape? r with
        | some (e, n) => .ok (.again (d.add e (n + 1)))
        | none => d.cursor.fault .escape
    else .ok (.again (d.add c 1))

def quotedGap (indent : Int) (d : QuotedDraft) : Except Fault (Turn QuotedDraft QuotedDraft) :=
  let c := d.cursor
  match c.rest with
  | '\n' :: _ =>
    .ok (.again { d with
      cursor := c.next, blanks := [], broken := true
      breaks := if d.broken ∧ !d.breaks.first then { d.breaks with more := d.breaks.more + 1 } else d.breaks.add })
  | x :: _ =>
    if !isBlank x then .ok (.done d)
    else if !d.broken then .ok (.again { d with cursor := c.next, blanks := x :: d.blanks })
    else if x = '\t' ∧ (c.column : Int) < indent then c.fault .tab
    else .ok (.again { d with cursor := c.next })
  | [] => .ok (.done d)

def quoteOf (single : Bool) : Char := if single then '\'' else '"'

def quotedPart (single : Bool) (indent : Int) (d : QuotedDraft) :
    Except Fault (Turn QuotedDraft (String × Cursor)) :=
  let c := d.cursor
  if c.column = 0 ∧ c.atDocumentMarker then c.fault .documentMarker
  else if c.rest.isEmpty then c.fault .unexpectedEnd
  else if (c.column : Int) < indent then c.fault .indentation
  else
    match repeatTurns (·.cursor.left) (·.cursor.stuck) (quotedChars single) d with
    | .error f => .error f
    | .ok d =>
      if d.cursor.peek? = some (quoteOf single) then .ok (.done (String.ofList d.out.reverse, d.cursor.next))
      else
        match repeatTurns (·.cursor.left) (·.cursor.stuck) (quotedGap indent) d with
        | .error f => .error f
        | .ok d => .ok (.again d.flush)

/-- Content may stand behind a quoted scalar that began on line `line`. -/
def mayFollowQuote (inFlow : Bool) (line : Nat) (c : Cursor) : Bool :=
  match c.peek? with
  | none => true
  | some x =>
    if x = '\n' then true
    else if inFlow then x == ',' || x == '\x7d' || x == ']' || x == ':'
    else x == ':' && line == c.line

/-- A quoted scalar, from its opening quote on, and the blanks behind it. -/
def readQuoted (single inFlow : Bool) (indent : Int) (c : Cursor) : Except Fault (String × Cursor) :=
  match repeatTurns (·.cursor.left) (·.cursor.stuck) (quotedPart single indent)
      ⟨c.next, [], [], .none, false⟩ with
  | .error f => .error f
  | .ok (text, d) =>
    match d.skipBlanks with
    | .error f => .error f
    | .ok (d, _) => if mayFollowQuote inFlow c.line d then .ok (text, d) else d.fault .quoteEnd

end BuildOrder.Yaml
