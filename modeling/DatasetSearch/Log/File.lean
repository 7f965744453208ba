import DatasetSearch.Log.Moment

/-!
# Log files

A log file belongs to a period, and its name tells when the period begins.
-/

namespace DatasetSearch.Log

/-- How often a new file is begun. -/
inductive Rotation where
  | daily
  | hourly
  | minutely
  | never
deriving DecidableEq, Repr

namespace Rotation

/-- The rotation that a text names; daily unless it names another. -/
def ofName : String → Rotation
  | "hourly" => .hourly
  | "minutely" => .minutely
  | "never" => .never
  | _ => .daily

/-- The beginning of a period in the name of its file. -/
def stamp (r : Rotation) (m : Moment) : String :=
  match r with
  | .daily => m.date
  | .hourly => m.date ++ "-" ++ padded 2 m.hour
  | .minutely => m.date ++ "-" ++ padded 2 m.hour ++ "-" ++ padded 2 m.minute
  | .never => ""

/-- The name of the file for a moment.  Without rotation it has a fixed ending in place of the
beginning of a period. -/
def fileName (r : Rotation) (stem : String) (m : Moment) : String :=
  if r = .never then stem ++ ".log"
  else if stem = "" then r.stamp m
  else stem ++ "." ++ r.stamp m

end Rotation

end DatasetSearch.Log
