/-!
# The time of day

Points in time as they are written in a log: date and time in the Gregorian calendar, with six digits of a second,
and without an offset.

Years are counted from March here, so that the day a leap year adds is the last of its year.
-/

namespace BuildOrder.Log

structure Day where
  year : Nat
  month : Nat
  day : Nat
deriving DecidableEq

def daysInCycle : Nat := 146097

/-- The day that lies a number of days behind the start of 1970. -/
def Day.ofNumber (number : Nat) : Day :=
  let shifted := number + 719468
  let inCycle := shifted % daysInCycle
  let yearInCycle := (inCycle - inCycle / 1460 + inCycle / 36524 - inCycle / 146096) / 365
  let inYear := inCycle - (365 * yearInCycle + yearInCycle / 4 - yearInCycle / 100)
  let month := (5 * inYear + 2) / 153
  let year := shifted / daysInCycle * 400 + yearInCycle
  ⟨if month < 10 then year else year + 1, if month < 10 then month + 3 else month - 9,
    inYear - (153 * month + 2) / 5 + 1⟩

def padded (width n : Nat) : String :=
  let digits := toString n
  String.ofList (List.replicate (width - digits.length) '0') ++ digits

/-- The text of a point in time, given in microseconds behind the start of 1970. -/
def timestamp (micros : Nat) : String :=
  let seconds := micros / 1000000
  let day := Day.ofNumber (seconds / 86400)
  let clock := seconds % 86400
  s!"{padded 4 day.year}-{padded 2 day.month}-{padded 2 day.day}T{padded 2 (clock / 3600)}:"
    ++ s!"{padded 2 (clock / 60 % 60)}:{padded 2 (clock % 60)}.{padded 6 (micros % 1000000)}Z"

end BuildOrder.Log
