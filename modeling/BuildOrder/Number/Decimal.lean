import BuildOrder.Number.Shortest

/-!
# Reading decimals

A decimal is rounded once, to the nearest binary64 number. Exponents may be huge, so a decimal that is
certainly too large or too small is settled by its number of digits before any power is formed.

`Binary64.ofText?` reads the usual spelling: an optional sign, digits with an optional point among or beside
them, an optional exponent; or a word for infinity or for no number, in any case.
-/

namespace BuildOrder

/-- The number nearest to `± digits * 10 ^ exponent`. -/
def Binary64.ofDecimal (negative : Bool) (d : Decimal) : Binary64 :=
  let magnitude := d.exponent + decimalLength d.digits
  if d.digits = 0 ∨ magnitude < -400 then .finite ⟨negative, 0, rankLimit_pos⟩
  else if 400 < magnitude then .infinite negative
  else ofRatio negative (d.digits * Nat.pow 10 d.exponent.toNat) (Nat.pow 10 (-d.exponent).toNat)

def digitValue (c : Char) : Nat := c.toNat - '0'.toNat

def ofDigits (cs : List Char) : Nat := cs.foldl (fun n c => 10 * n + digitValue c) 0

/-- The parts of an unsigned decimal: whole digits, fraction digits, and the exponent. -/
structure DecimalText where
  whole : List Char
  fraction : List Char
  exponent : Int

namespace DecimalText

def value (t : DecimalText) : Decimal :=
  ⟨ofDigits (t.whole ++ t.fraction), t.exponent - t.fraction.length⟩

/-- A signed run of digits that takes all of the text. -/
def readExponent? (cs : List Char) : Option Int :=
  let (negative, ds) := match cs with
    | '-' :: r => (true, r)
    | '+' :: r => (false, r)
    | r => (false, r)
  if ds.isEmpty || !ds.all Char.isDigit then none
  else some (if negative then -(ofDigits ds : Int) else ofDigits ds)

/-- An unsigned decimal that takes all of the text and has a digit before its exponent. -/
def read? (cs : List Char) : Option DecimalText :=
  let whole := cs.takeWhile Char.isDigit
  let (fraction, rest) := match cs.dropWhile Char.isDigit with
    | '.' :: r => (r.takeWhile Char.isDigit, r.dropWhile Char.isDigit)
    | r => ([], r)
  if whole.isEmpty && fraction.isEmpty then none
  else match rest with
    | [] => some ⟨whole, fraction, 0⟩
    | c :: r =>
      if c = 'e' ∨ c = 'E' then (readExponent? r).map (fun e => ⟨whole, fraction, e⟩) else none

end DecimalText

def Binary64.ofText? (cs : List Char) : Option Binary64 :=
  let (negative, body) := match cs with
    | '-' :: r => (true, r)
    | '+' :: r => (false, r)
    | r => (false, r)
  let word := String.ofList (body.map Char.toLower)
  if word = "inf" ∨ word = "infinity" then some (.infinite negative)
  else if word = "nan" then some .nan
  else (DecimalText.read? body).map (fun t => .ofDecimal negative t.value)

end BuildOrder
