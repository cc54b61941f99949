import BuildOrder.Toml.Fault

/-!
# Quoted text

Text in one or three double quotes has escapes, text in single quotes has none. Text in three quotes may span
lines: a line feed behind the opening quotes does not count, and of up to five closing quotes the last three
close. A backslash at the end of a line takes all blanks and line feeds behind it along.

A tab is the only control character that may stand for itself on a line.
-/

namespace BuildOrder.Toml

/-- A character that may stand for itself on a line. -/
def isPlain (c : Char) : Bool := c == '\t' || (0x20 ≤ c.toNat && c.toNat != 0x7f)

def isSpace (c : Char) : Bool := c == ' ' || c == '\t'

def hexValue? (c : Char) : Option Nat :=
  if c.isDigit then some (c.toNat - '0'.toNat)
  else if 'a' ≤ c ∧ c ≤ 'f' then some (c.toNat - 'a'.toNat + 10)
  else if 'A' ≤ c ∧ c ≤ 'F' then some (c.toNat - 'A'.toNat + 10)
  else none

def charOf? (n : Nat) : Option Char := if n.isValidChar then some (Char.ofNat n) else none

/-- The character whose code point the next `count` digits give. -/
def readCode (count : Nat) (s : List Char) : Except Fault (Char × Remaining s) :=
  match (s.take count).mapM hexValue? with
  | some ds =>
    if ds.length < count then .error (.atEnd .unexpectedEnd)
    else match charOf? (ds.foldl (fun n d => 16 * n + d) 0) with
      | some c => .ok (c, ⟨s.drop count, by simp⟩)
      | none => .error (.before .invalidEscape s)
  | none => .error (.before .invalidEscape s)

/-- The character that a letter after a backslash stands for. -/
def escapeLetter? (c : Char) : Option Char :=
  match c with
  | '"' => some '"'
  | '\\' => some '\\'
  | 'b' => some '\x08'
  | 't' => some '\t'
  | 'n' => some '\n'
  | 'f' => some '\x0c'
  | 'r' => some '\r'
  | 'e' => some '\x1b'
  | _ => none

def readEscape : Reader Char
  | [] => .error (.atEnd .unexpectedEnd)
  | c :: r =>
    let coded (count : Nat) : Except Fault (Char × Rest (r.length + 1)) :=
      match readCode count r with
      | .ok (d, rest) => .ok (d, ⟨rest.1, Nat.lt_succ_of_le rest.2⟩)
      | .error f => .error f
    match escapeLetter? c with
    | some d => .ok (d, ⟨r, length_lt_succ r⟩)
    | none =>
      if c = 'x' then coded 2
      else if c = 'u' then coded 4
      else if c = 'U' then coded 8
      else .error (.on .invalidEscape (c :: r))

/-- The rest of a text in double quotes on one line, behind the characters read so far. -/
def readBasic {n : Nat} (s : List Char) (h : s.length < n) (acc : List Char) :
    Except Fault (String × Rest n) :=
  match s with
  | [] => .error (.atEnd .unexpectedEnd)
  | c :: r =>
    if c = '"' then .ok (String.ofList acc.reverse, ⟨r, length_tail_lt h⟩)
    else if c = '\\' then
      match readEscape r with
      | .error f => .error f
      | .ok (d, rest) => readBasic rest.1 (rest.lt_of_cons h) (d :: acc)
    else if isPlain c then readBasic r (length_tail_lt h) (c :: acc)
    else .error (.on .invalidControl (c :: r))
termination_by s.length
decreasing_by
  · exact Nat.lt_succ_of_lt rest.2
  · exact Nat.lt_succ_self _

/-- The rest of a text in single quotes on one line, behind the characters read so far. -/
def readLiteral {n : Nat} : (s : List Char) → s.length < n → List Char → Except Fault (String × Rest n)
  | [], _, _ => .error (.atEnd .unexpectedEnd)
  | c :: r, h, acc =>
    if c = '\'' then .ok (String.ofList acc.reverse, ⟨r, length_tail_lt h⟩)
    else if isPlain c then readLiteral r (length_tail_lt h) (c :: acc)
    else .error (.on .invalidControl (c :: r))

/-! ### Text that spans lines -/

/-- Three closing quotes, and up to two quotes in front of them that belong to the text. -/
def closing? (quote : Char) (s : List Char) : Option (List Char × Remaining s) :=
  let count := (s.takeWhile (· == quote)).length
  if count < 3 then none
  else
    let inside := min (count - 3) 2
    some (List.replicate inside quote, ⟨s.drop (inside + 3), by simp⟩)

/-- A line feed behind the opening quotes does not count. -/
def dropFirstNewline (s : List Char) : Remaining s :=
  match s with
  | '\n' :: r => ⟨r, length_le_succ r⟩
  | '\r' :: '\n' :: r => ⟨r, by simp; omega⟩
  | r => ⟨r, length_le_self r⟩

/-- Blanks and line feeds; a carriage return counts with the line feed behind it. -/
def dropBlanksAndNewlines : (s : List Char) → Remaining s
  | c :: d :: r =>
    if isSpace c || c == '\n' || (c == '\r' && d == '\n') then
      let rest := dropBlanksAndNewlines (d :: r)
      ⟨rest.1, Nat.le_succ_of_le rest.2⟩
    else ⟨c :: d :: r, length_cons_le_self c (d :: r)⟩
  | [c] => if isSpace c || c == '\n' then ⟨[], Nat.zero_le _⟩ else ⟨[c], length_cons_le_self c []⟩
  | t => ⟨t, length_le_self t⟩

/-- A backslash ends its line: nothing but blanks stands behind it. -/
def endsLine (s : List Char) : Bool :=
  match s.dropWhile isSpace with
  | '\n' :: _ => true
  | '\r' :: '\n' :: _ => true
  | _ => false

def startsNewline : List Char → Bool
  | '\n' :: _ => true
  | '\r' :: '\n' :: _ => true
  | _ => false

/-- The rest of a text in three quotes, behind the characters read so far. -/
def readLines (quote : Char) {n : Nat} (s : List Char) (h : s.length < n) (acc : List Char) :
    Except Fault (String × Rest n) :=
  match s with
  | [] => .error (.atEnd .unexpectedEnd)
  | c :: r =>
    match closing? quote (c :: r) with
    | some (inside, rest) =>
      .ok (String.ofList (inside ++ acc).reverse, ⟨rest.1, Nat.lt_of_le_of_lt rest.2 h⟩)
    | none =>
      if c = '\\' ∧ quote = '"' then
        if endsLine r then
          let rest := dropBlanksAndNewlines r
          readLines quote rest.1 (Nat.lt_of_le_of_lt rest.2 (Nat.lt_of_succ_lt h)) acc
        else
          match readEscape r with
          | .error f => .error f
          | .ok (d, rest) =>
            readLines quote rest.1 (rest.lt_of_cons h) (d :: acc)
      else if isPlain c || startsNewline (c :: r) then readLines quote r (length_tail_lt h) (c :: acc)
      else .error (.on .invalidControl (c :: r))
termination_by s.length
decreasing_by
  · exact Nat.lt_succ_of_le rest.2
  · exact Nat.lt_succ_of_lt rest.2
  · exact Nat.lt_succ_self _

/-- Text in quotes on one line, from its quote on. -/
def readLine : Reader String
  | '"' :: r => later (length_cons_le_self '"' r) (readBasic r (length_lt_succ r) [])
  | '\'' :: r => later (length_cons_le_self '\'' r) (readLiteral r (length_lt_succ r) [])
  | s => .error (.on .unexpected s)

/-- Text in quotes, from its quote on. -/
def readQuoted : Reader String
  | '"' :: '"' :: '"' :: r =>
    let s := dropFirstNewline r
    readLines '"' s.1 (Nat.lt_of_le_of_lt s.2 (by simp; omega)) []
  | '\'' :: '\'' :: '\'' :: r =>
    let s := dropFirstNewline r
    readLines '\'' s.1 (Nat.lt_of_le_of_lt s.2 (by simp; omega)) []
  | s => readLine s

end BuildOrder.Toml
