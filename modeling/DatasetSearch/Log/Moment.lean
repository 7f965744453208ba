/-!
# Moments

A moment as a date and a time of day, in universal time and counted in microseconds.
-/

namespace DatasetSearch.Log

structure Moment where
  year : Nat
  month : Nat
  day : Nat
  hour : Nat
  minute : Nat
  second : Nat
  microsecond : Nat
deriving DecidableEq, Repr

/-- A number with at least that many digits. -/
def padded (width n : Nat) : String :=
  let digits := toString n
  String.ofList (List.replicate (width - digits.length) '0') ++ digits

namespace Moment

/-- The year, month and day of a day counted from the first of January 1970.  Years are taken to
begin in March, so that a leap day ends one, and 400 of them have 146097 days. -/
def dateOf (days : Nat) : Nat × Nat × Nat :=
  let shifted := days + 719468
  let era := shifted / 146097
  let dayOfEra := shifted % 146097
  let yearOfEra := (dayOfEra - dayOfEra / 1460 + dayOfEra / 36524 - dayOfEra / 146096) / 365
  let dayOfYear := dayOfEra - (365 * yearOfEra + yearOfEra / 4 - yearOfEra / 100)
  let monthFromMarch := (5 * dayOfYear + 2) / 153
  let day := dayOfYear - (153 * monthFromMarch + 2) / 5 + 1
  let month := if monthFromMarch < 10 then monthFromMarch + 3 else monthFromMarch - 9
  let year := yearOfEra + era * 400
  (if month ≤ 2 then year + 1 else year, month, day)

/-- The moment that many microseconds after the beginning of 1970. -/
def ofMicroseconds (n : Nat) : Moment :=
  let seconds := n / 1000000
  let (year, month, day) := dateOf (seconds / 86400)
  let second := seconds % 86400
  ⟨year, month, day, second / 3600, second / 60 % 60, second % 60, n % 1000000⟩

def date (m : Moment) : String :=
  padded 4 m.year ++ "-" ++ padded 2 m.month ++ "-" ++ padded 2 m.day

/-- The date and the time of day. -/
def text (m : Moment) : String :=
  m.date ++ "T" ++ padded 2 m.hour ++ ":" ++ padded 2 m.minute ++ ":" ++ padded 2 m.second ++
    "." ++ padded 6 m.microsecond ++ "Z"

end Moment

end DatasetSearch.Log
