import BuildOrder.Number.Decimal
import BuildOrder.Text.Base64
import BuildOrder.Text.Blank
import BuildOrder.Text.Fold
import BuildOrder.Value.Basic
import BuildOrder.Yaml.Fault

/-!
# The values of scalars

A plain scalar is tried as null, a truth value, a whole number and a floating point number, in this order, and
else is a string. Every other scalar is a string. A tag can make a string, null or decoded octets of a scalar, but
a plain scalar that looks like null stays null.

Numbers that are not finite become strings.
-/

namespace BuildOrder.Yaml

/-- What a tag says about a scalar. -/
inductive Tag where
  | none
  | text
  | null
  | binary
  /-- A tag of another type, which no scalar has here. -/
  | typed
  | other
deriving DecidableEq

/-- The beginning of the tags of the standard. -/
def standardTags : String := "tag:yaml.org,2002:"

/-- What a tag says, given as its full name. -/
def Tag.ofName (name : String) : Tag :=
  if name = "!" then .text
  else if name = standardTags ++ "str" then .text
  else if name = standardTags ++ "null" then .null
  else if name = standardTags ++ "binary" then .binary
  else if ["int", "float", "bool", "seq", "map"].any (fun type => name = standardTags ++ type) then .typed
  else .other

/-! ### Plain scalars -/

def isNull (text : String) : Bool := ["", "~", "null"].contains (Text.asciiLower text)

def truth? (text : String) : Option Bool :=
  let word := Text.asciiLower text
  if ["y", "yes", "true", "on"].contains word then some true
  else if ["n", "no", "false", "off"].contains word then some false
  else none

/-- The value of a digit in a base up to sixteen. -/
def digitIn? (base : Nat) (c : Char) : Option Nat := (hexDigit? c).filter (· < base)
where
  hexDigit? (c : Char) : Option Nat :=
    if c.isDigit then some (c.toNat - '0'.toNat)
    else if 'a' ≤ c.toLower ∧ c.toLower ≤ 'f' then some (c.toLower.toNat - 'a'.toNat + 10)
    else none

/-- The base of a whole number, and its digits. -/
def splitBase : List Char → Nat × List Char
  | '0' :: x :: r =>
    match x.toLower with
    | 'x' => (16, r)
    | 'o' => (8, r)
    | 'b' => (2, r)
    | _ => (10, '0' :: x :: r)
  | cs => (10, cs)

def magnitude? (base : Nat) (cs : List Char) : Option Nat :=
  match (cs.filter (· ≠ '_')).mapM (digitIn? base) with
  | some (d :: ds) => some ((d :: ds).foldl (fun n d => base * n + d) 0)
  | _ => none

def splitSign : List Char → Bool × List Char
  | '-' :: r => (true, r)
  | '+' :: r => (false, r)
  | r => (false, r)

def whole? (cs : List Char) : Option Value :=
  let (negative, r) := splitSign cs
  let (base, digits) := splitBase r
  (magnitude? base digits).bind fun n => Value.ofInt? (if negative then -(n : Int) else n)

def ofFloat : Binary64 → Value
  | .finite x => .num (.float x)
  | .infinite false => .str ".inf"
  | .infinite true => .str "-.inf"
  | .nan => .str ".nan"

def float? (cs : List Char) : Option Binary64 :=
  let (negative, r) := splitSign cs
  match String.ofList (r.map Char.toLower) with
  | ".inf" => some (.infinite negative)
  | ".nan" => some .nan
  | _ => Binary64.ofText? cs

def plainValue (text : String) : Value :=
  if isNull text then .null
  else
    match truth? text, whole? text.toList, float? text.toList with
    | some b, _, _ => .bool b
    | none, some n, _ => n
    | none, none, some x => ofFloat x
    | none, none, none => .str text

/-! ### Scalars -/

/-- The text behind a text in base 64, blanks apart. -/
def binaryText? (text : String) : Option String :=
  (Text.Base64.decode? (text.toList.filter fun c => !Text.isBlank c)).bind fun octets =>
    String.fromUTF8? (ByteArray.mk octets.toArray)

def scalarValue (tag : Tag) (plain : Bool) (text : String) : Except Cause Value :=
  if tag = .null ∨ (plain ∧ isNull text) then .ok .null
  else
    match tag with
    | .typed => .error .tag
    | .binary =>
      match binaryText? text with
      | some decoded => .ok (.str decoded)
      | none => .error .tag
    | .text => .ok (.str text)
    | _ => .ok (if plain then plainValue text else .str text)

end BuildOrder.Yaml
