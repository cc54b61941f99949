import BuildOrder.Value.Basic
import BuildOrder.Number.Shortest

/-!
# Values as text

The compact JSON text of a value has no blanks, and the fields of an object stand in the order of their keys.
In a string only the quote, the backslash and the characters below the blank are escaped, so a text never
holds a line feed.

Floating point numbers have the fewest digits that read back. They are written with a point while the exponent
is between -5 and 15, and with an explicit exponent outside.
-/

namespace BuildOrder.Value

/-! ### Numbers -/

def digits (n : Nat) : List Char := Nat.toDigits 10 n

def intText (i : Int) : List Char := if i < 0 then '-' :: digits i.natAbs else digits i.natAbs

/-- The exponents that are written by placing the point among the digits. -/
structure PointRange where
  least : Int
  greatest : Int

/-- A point is placed from hundred-thousandths up to sixteen whole digits. -/
def pointRange : PointRange := ⟨-5, 15⟩

def decimalText (d : Decimal) : List Char :=
  let ds := digits d.digits
  let exponent := d.exponent + ds.length - 1
  if exponent < pointRange.least ∨ pointRange.greatest < exponent then
    let mantissa := match ds with
      | [c] => [c]
      | c :: cs => c :: '.' :: cs
      | [] => []
    mantissa ++ 'e' :: (if exponent < 0 then '-' else '+') :: digits exponent.natAbs
  else if exponent < 0 then
    '0' :: '.' :: List.replicate (exponent.natAbs - 1) '0' ++ ds
  else
    let whole := exponent.toNat + 1
    if ds.length ≤ whole then ds ++ List.replicate (whole - ds.length) '0' ++ ['.', '0']
    else ds.take whole ++ '.' :: ds.drop whole

def floatChars (x : Finite64) : List Char :=
  let body := if x.rank = 0 then ['0', '.', '0'] else decimalText (shortestDecimal x.rank)
  if x.negative then '-' :: body else body

def floatText (x : Finite64) : String := String.ofList (floatChars x)

def numberChars : Number → List Char
  | .int i => intText i.val
  | .float x => floatChars x

/-! ### Strings -/

def hexDigit (n : Nat) : Char := Nat.digitChar n

/-- How a character is written inside a string. -/
def escaped (c : Char) : List Char :=
  if c = '"' then ['\\', '"']
  else if c = '\\' then ['\\', '\\']
  else if c = '\n' then ['\\', 'n']
  else if c = '\r' then ['\\', 'r']
  else if c = '\t' then ['\\', 't']
  else if c = '\x08' then ['\\', 'b']
  else if c = '\x0c' then ['\\', 'f']
  else if c.toNat < 0x20 then ['\\', 'u', '0', '0', hexDigit (c.toNat / 16), hexDigit (c.toNat % 16)]
  else [c]

def quoted (s : String) : List Char := '"' :: s.toList.flatMap escaped ++ ['"']

/-! ### Values -/

mutual

/-- The compact text of a value. -/
def chars : Value → List Char
  | .null => ['n', 'u', 'l', 'l']
  | .bool true => ['t', 'r', 'u', 'e']
  | .bool false => ['f', 'a', 'l', 's', 'e']
  | .num n => numberChars n
  | .str s => quoted s
  | .arr [] => ['[', ']']
  | .arr (x :: xs) => '[' :: x.chars ++ moreElements xs
  | .obj [] => ['\x7b', '\x7d']
  | .obj ((k, v) :: fs) => '\x7b' :: quoted k ++ ':' :: v.chars ++ moreFields fs

/-- The elements after the first, and the closing bracket. -/
def moreElements : List Value → List Char
  | [] => [']']
  | x :: xs => ',' :: x.chars ++ moreElements xs

/-- The fields after the first, and the closing brace. -/
def moreFields : List (String × Value) → List Char
  | [] => ['\x7d']
  | (k, v) :: fs => ',' :: quoted k ++ ':' :: v.chars ++ moreFields fs

end

def text (v : Value) : String := String.ofList v.chars

end BuildOrder.Value
