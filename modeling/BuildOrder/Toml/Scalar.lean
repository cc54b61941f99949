import BuildOrder.Toml.Basic

/-!
# Unquoted values

Words, numbers and moments. Digits may have underscores between them, each with a digit on both sides, and
decimal numbers have no zeros in front. A floating point number is rounded once and must be finite, unless it is
written as a word.
-/

namespace BuildOrder.Toml

/-- Digits of some base, with underscores between them but not at the ends and not side by side. -/
def digits? (isDigit : Char → Bool) (cs : List Char) : Option (List Char) :=
  go false cs
where
  /-- The digits from here on; `behind` tells that a digit has just come. -/
  go (behind : Bool) : List Char → Option (List Char)
    | [] => if behind then some [] else none
    | c :: r =>
      if isDigit c then (go true r).map (c :: ·)
      else if c = '_' ∧ behind then go false r
      else none

/-- Decimal digits without zeros in front. -/
def wholeDigits? (cs : List Char) : Option (List Char) :=
  match digits? Char.isDigit cs with
  | some ['0'] => some ['0']
  | some ('0' :: _) => none
  | ds? => ds?

def digitOf (c : Char) : Nat :=
  if c.isDigit then c.toNat - '0'.toNat else c.toLower.toNat - 'a'.toNat + 10

def isDigitOf (base : Nat) (c : Char) : Bool :=
  (c.isDigit || ('a' ≤ c && c ≤ 'f') || ('A' ≤ c && c ≤ 'F')) && decide (digitOf c < base)

def ofBase (base : Nat) (ds : List Char) : Nat := ds.foldl (fun n c => base * n + digitOf c) 0

/-- A whole number written in a base, after the letter that tells the base. -/
def based? (base : Nat) (cs : List Char) : Option Value :=
  (digits? (isDigitOf base) cs).bind fun ds => (Signed.ofInt? (ofBase base ds)).map .int

def splitSign : List Char → Option Bool × List Char
  | '+' :: r => (some false, r)
  | '-' :: r => (some true, r)
  | r => (none, r)

def whole? (negative : Bool) (cs : List Char) : Option Value :=
  (wholeDigits? cs).bind fun ds =>
    (Signed.ofInt? (if negative then -(ofBase 10 ds : Int) else ofBase 10 ds)).map .int

/-- The exponent of a floating point number: nothing, or a letter and a signed number. -/
def exponent? : List Char → Option Int
  | [] => some 0
  | _ :: r =>
    let (sign, ds) := splitSign r
    (digits? Char.isDigit ds).map fun ds => if sign = some true then -(ofBase 10 ds : Int) else ofBase 10 ds

/-- A floating point number after its sign: digits, and a fraction or an exponent or both. -/
def float? (negative : Bool) (cs : List Char) : Option Value :=
  let isExponent := fun c => c = 'e' ∨ c = 'E'
  let mantissa := cs.takeWhile (fun c => ¬ isExponent c)
  let whole := mantissa.takeWhile (· ≠ '.')
  let fraction? := match mantissa.dropWhile (· ≠ '.') with
    | [] => some []
    | _ :: r => digits? Char.isDigit r
  match wholeDigits? whole, fraction?, exponent? (cs.dropWhile (fun c => ¬ isExponent c)) with
  | some whole, some fraction, some exponent =>
    match Binary64.ofDecimal negative ⟨ofBase 10 (whole ++ fraction), exponent - fraction.length⟩ with
    | .finite x => some (.float (.finite x))
    | _ => none
  | _, _, _ => none

def number? (negative : Bool) (cs : List Char) : Option Value :=
  if cs.any fun c => c = '.' ∨ c = 'e' ∨ c = 'E' then float? negative cs else whole? negative cs

def word? (cs : List Char) : Option Value :=
  match String.ofList cs with
  | "true" => some (.bool true)
  | "false" => some (.bool false)
  | "inf" => some (.float (.infinite false))
  | "+inf" => some (.float (.infinite false))
  | "-inf" => some (.float (.infinite true))
  | "nan" => some (.float .nan)
  | "+nan" => some (.float .nan)
  | "-nan" => some (.float .nan)
  | _ => none

/-- The text begins like a moment: digits, and a dash or a colon behind them. -/
def looksLikeMoment (cs : List Char) : Bool :=
  !(cs.takeWhile Char.isDigit).isEmpty
    && (cs.dropWhile Char.isDigit).head?.any (fun c => c == '-' || c == ':')

def scalar? (cs : List Char) : Option Value :=
  match word? cs with
  | some v => some v
  | none =>
    if looksLikeMoment cs then (Moment.read? cs).map .moment
    else match cs with
      | '0' :: 'x' :: r => based? 16 r
      | '0' :: 'o' :: r => based? 8 r
      | '0' :: 'b' :: r => based? 2 r
      | cs =>
        let (sign, r) := splitSign cs
        number? (sign = some true) r

end BuildOrder.Toml
