/-!
# Octets written as text in base 64

Four digits stand for three octets. The last group may stand for fewer: it is filled up with equals signs, and the
bits that stand for nothing are zero.
-/

namespace BuildOrder.Text.Base64

def digit? (c : Char) : Option Nat :=
  if c.isUpper then some (c.toNat - 'A'.toNat)
  else if c.isLower then some (c.toNat - 'a'.toNat + 26)
  else if c.isDigit then some (c.toNat - '0'.toNat + 52)
  else if c = '+' then some 62
  else if c = '/' then some 63
  else none

/-- The octets of the last group: its digits, and how many of its octets count. -/
def lastOctets (digits : List Nat) : Option (List UInt8) :=
  match digits with
  | [a, b] => if b % 16 = 0 then some [(4 * a + b / 16).toUInt8] else none
  | [a, b, c] =>
    if c % 4 = 0 then some [(4 * a + b / 16).toUInt8, (b % 16 * 16 + c / 4).toUInt8] else none
  | _ => none

def decode? : List Char → Option (List UInt8)
  | [] => some []
  | [a, b, '=', '='] => ([a, b].mapM digit?).bind lastOctets
  | [a, b, c, '='] => ([a, b, c].mapM digit?).bind lastOctets
  | a :: b :: c :: d :: r =>
    match digit? a, digit? b, digit? c, digit? d, decode? r with
    | some w, some x, some y, some z, some octets =>
      some ((4 * w + x / 16).toUInt8 :: (x % 16 * 16 + y / 4).toUInt8 :: (y % 4 * 64 + z).toUInt8 :: octets)
    | _, _, _, _, _ => none
  | _ => none

end BuildOrder.Text.Base64
