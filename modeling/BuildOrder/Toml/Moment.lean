/-!
# Moments

A moment is a date, a time of day, or both, and in the last case perhaps an offset. It is written year first;
the `T` between date and time may be a blank or small when it is read, and the seconds may be left out.

Fractions of a second are kept to nine digits, and written without zeros at their end.
-/

namespace BuildOrder.Toml

structure Date where
  year : Nat
  month : Nat
  day : Nat
deriving DecidableEq

structure Time where
  hour : Nat
  minute : Nat
  second : Option Nat
  /-- Billionths of a second. -/
  fraction : Option Nat
deriving DecidableEq

/-- The distance from universal time. -/
inductive Offset where
  | universal
  | minutes (n : Int)
deriving DecidableEq

inductive Moment where
  | date (d : Date)
  | time (t : Time)
  | both (d : Date) (t : Time) (offset : Option Offset)
deriving DecidableEq

/-! ### Writing -/

def padded (width n : Nat) : List Char :=
  let ds := Nat.toDigits 10 n
  List.replicate (width - ds.length) '0' ++ ds

def Date.chars (d : Date) : List Char :=
  padded 4 d.year ++ '-' :: padded 2 d.month ++ '-' :: padded 2 d.day

/-- Billionths of a second as a decimal fraction of at least one digit. -/
def fractionChars (n : Nat) : List Char :=
  match (padded 9 n).reverse.dropWhile (· == '0') with
  | [] => ['0']
  | ds => ds.reverse

def Time.chars (t : Time) : List Char :=
  padded 2 t.hour ++ ':' :: padded 2 t.minute
    ++ (match t.second with
      | some s => ':' :: padded 2 s
      | none => [])
    ++ (match t.fraction with
      | some n => '.' :: fractionChars n
      | none => [])

def Offset.chars : Offset → List Char
  | .universal => ['Z']
  | .minutes n =>
    (if n < 0 then '-' else '+') :: padded 2 (n.natAbs / 60) ++ ':' :: padded 2 (n.natAbs % 60)

def Moment.chars : Moment → List Char
  | .date d => d.chars
  | .time t => t.chars
  | .both d t offset =>
    d.chars ++ 'T' :: t.chars ++ (match offset with
      | some o => o.chars
      | none => [])

/-! ### Reading -/

def number (ds : List Char) : Nat := ds.foldl (fun n c => 10 * n + (c.toNat - '0'.toNat)) 0

/-- A number of exactly `width` digits, and what is left. -/
def takeNumber? (width : Nat) (cs : List Char) : Option (Nat × List Char) :=
  let ds := cs.takeWhile Char.isDigit
  if ds.length = width then some (number ds, cs.dropWhile Char.isDigit) else none

def isLeapYear (year : Nat) : Bool := year % 4 == 0 && (year % 100 != 0 || year % 400 == 0)

def daysOfMonth (year month : Nat) : Nat :=
  if month = 2 then (if isLeapYear year then 29 else 28)
  else if month = 4 ∨ month = 6 ∨ month = 9 ∨ month = 11 then 30
  else 31

/-- A date from the calendar. -/
def Date.take? (cs : List Char) : Option (Date × List Char) :=
  match takeNumber? 4 cs with
  | some (year, '-' :: cs) =>
    match takeNumber? 2 cs with
    | some (month, '-' :: cs) =>
      match takeNumber? 2 cs with
      | some (day, cs) =>
        if 1 ≤ month ∧ month ≤ 12 ∧ 1 ≤ day ∧ day ≤ daysOfMonth year month then some (⟨year, month, day⟩, cs)
        else none
      | none => none
    | _ => none
  | _ => none

/-- The first nine digits of a fraction as billionths. -/
def billionths (ds : List Char) : Nat := number (ds.take 9) * Nat.pow 10 (9 - ds.length)

/-- The seconds of a time, if there are any, with their fraction. A leap second is allowed. -/
def Time.takeSeconds? (hour minute : Nat) (cs : List Char) : Option (Time × List Char) :=
  match cs with
  | ':' :: cs =>
    match takeNumber? 2 cs with
    | some (second, cs) =>
      if 60 < second then none
      else match cs with
        | '.' :: cs =>
          let ds := cs.takeWhile Char.isDigit
          if ds.isEmpty then none
          else some (⟨hour, minute, some second, some (billionths ds)⟩, cs.dropWhile Char.isDigit)
        | cs => some (⟨hour, minute, some second, none⟩, cs)
    | none => none
  | cs => some (⟨hour, minute, none, none⟩, cs)

def Time.take? (cs : List Char) : Option (Time × List Char) :=
  match takeNumber? 2 cs with
  | some (hour, ':' :: cs) =>
    match takeNumber? 2 cs with
    | some (minute, cs) => if hour ≤ 23 ∧ minute ≤ 59 then Time.takeSeconds? hour minute cs else none
    | none => none
  | _ => none

def Offset.read? (cs : List Char) : Option (Option Offset) :=
  match cs with
  | [] => some none
  | [c] => if c = 'Z' ∨ c = 'z' then some (some .universal) else none
  | sign :: cs =>
    if sign = '+' ∨ sign = '-' then
      match takeNumber? 2 cs with
      | some (h, ':' :: cs) =>
        match takeNumber? 2 cs with
        | some (m, []) =>
          if h ≤ 23 ∧ m ≤ 59 then
            let n : Int := h * 60 + m
            some (some (.minutes (if sign = '-' then -n else n)))
          else none
        | _ => none
      | _ => none
    else none

def Moment.read? (cs : List Char) : Option Moment :=
  match Date.take? cs with
  | some (d, []) => some (.date d)
  | some (d, sep :: cs) =>
    if sep = 'T' ∨ sep = 't' ∨ sep = ' ' then
      match Time.take? cs with
      | some (t, cs) => (Offset.read? cs).map (.both d t)
      | none => none
    else none
  | none =>
    match Time.take? cs with
    | some (t, []) => some (.time t)
    | _ => none

end BuildOrder.Toml
