import DatasetSearch.Decimal.Shortest

/-!
# Doubles with infinities

The values that the text of a floating-point setting can have.  A decimal text is rounded to the
nearest double in one step.
-/

namespace DatasetSearch

/-- A double, possibly infinite or not a number. -/
inductive Real64 where
  | finite (value : Binary64)
  | infinite (negative : Bool)
  | notANumber
deriving DecidableEq, Repr

namespace Real64

/-- The value of decimal digits with a power of ten.  Powers far outside the range of doubles give
zero or infinity without being computed. -/
def ofDecimal (negative : Bool) (digits : List Char) (power : Int) : Real64 :=
  let n := digits.foldl (fun n c => n * 10 + (c.toNat - 48)) 0
  let size : Int := (digits.length : Int) + power
  if n = 0 ∨ size < -400 then .finite (.zero negative)
  else if 400 < power then .infinite negative
  else
    let (num, den) :=
      if 0 ≤ power then (n * Nat.pow 10 power.toNat, 1) else (n, Nat.pow 10 (-power).toNat)
    match Binary64.round negative num den with
    | some x => .finite x
    | none => .infinite negative

/-- The exponent after its letter: an optional sign and digits to the end. -/
def exponent? (s : List Char) : Option Int :=
  let digits? (run : List Char) : Option Nat :=
    if run.isEmpty ∨ !run.all Char.isDigit then none
    else some (run.foldl (fun n c => n * 10 + (c.toNat - 48)) 0)
  match s with
  | '+' :: run => (digits? run).map Int.ofNat
  | '-' :: run => (digits? run).map (fun n => -Int.ofNat n)
  | run => (digits? run).map Int.ofNat

/-- The value of an unsigned number: digits with an optional point, at least one digit in all, and
an optional exponent. -/
def unsigned? (negative : Bool) (s : List Char) : Option Real64 :=
  let whole := s.takeWhile Char.isDigit
  let rest := s.dropWhile Char.isDigit
  let (fraction, rest) := match rest with
    | '.' :: rest => (rest.takeWhile Char.isDigit, rest.dropWhile Char.isDigit)
    | rest => ([], rest)
  let power : Option Int := match rest with
    | [] => some 0
    | 'e' :: rest => exponent? rest
    | 'E' :: rest => exponent? rest
    | _ => none
  if whole.isEmpty ∧ fraction.isEmpty then none
  else power.map (fun power => ofDecimal negative (whole ++ fraction) (power - fraction.length))

/-- The value that a text denotes: a number, or the words for infinity and not a number in any
case, after an optional sign. -/
def ofText? (text : String) : Option Real64 :=
  let (negative, body) := match text.toList with
    | '+' :: rest => (false, rest)
    | '-' :: rest => (true, rest)
    | cs => (false, cs)
  match String.ofList (body.map Char.toLower) with
  | "inf" => some (.infinite negative)
  | "infinity" => some (.infinite negative)
  | "nan" => some .notANumber
  | _ => unsigned? negative body

/-- The shortest positional text; integers carry no point. -/
def text : Real64 → String
  | .finite x =>
    let body := if x.isZero then ['0'] else (Decimal.shortest x).positional
    String.ofList (if x.negative then '-' :: body else body)
  | .infinite false => "inf"
  | .infinite true => "-inf"
  | .notANumber => "NaN"

/-- The value rounded to a natural number of at most `limit`, a half going up; values outside the
range go to its nearer end, and what is no number to zero. -/
def toNatClamped (limit : Nat) : Real64 → Nat
  | .finite x => if x.negative then 0 else min limit x.roundToNat
  | .infinite false => limit
  | .infinite true => 0
  | .notANumber => 0

def isNonZero : Real64 → Bool
  | .finite x => !x.isZero
  | _ => true

end Real64

end DatasetSearch
