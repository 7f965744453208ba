import DatasetSearch.Decimal.Binary64

/-!
# The shortest decimal that reads back as a given double

Every double stands for an interval of reals that round to it.  The chosen decimal has the fewest
digits of all decimals in that interval, and among those it is the one nearest to the double.
-/

namespace DatasetSearch

/-- A positive decimal: the `digits` read as a natural number, times `10 ^ exponent`. -/
structure Decimal where
  digits : Nat
  exponent : Int
deriving DecidableEq, Repr

namespace Decimal

/-- The same decimal without trailing zero digits.  The first argument bounds the zeros removed. -/
def dropZeros : Nat → Decimal → Decimal
  | 0, d => d
  | fuel + 1, d =>
    if d.digits ≠ 0 ∧ d.digits % 10 = 0 then dropZeros fuel ⟨d.digits / 10, d.exponent + 1⟩ else d

/-- `num / den` divided by `10 ^ exponent`, again as a quotient of naturals. -/
def unscale (num den : Nat) (exponent : Int) : Nat × Nat :=
  if 0 ≤ exponent then (num, den * Nat.pow 10 exponent.toNat)
  else (num * Nat.pow 10 (-exponent).toNat, den)

def belowPower (num den : Nat) (exponent : Int) : Bool :=
  let (n, d) := unscale num den exponent
  decide (n < d)

/-- The number of integer digits of `num / den`; zero or negative for small quotients.

The estimate from the binary lengths is at most one off, so one of the four candidates fits. -/
def magnitude (num den : Nat) : Int :=
  let estimate : Int := ((num.log2 : Int) - (den.log2 : Int)) * 30103 / 100000
  let candidates := [estimate - 1, estimate, estimate + 1, estimate + 2]
  (candidates.find? (belowPower num den)).getD (estimate + 3)

/-- The reals that round to one double, as naturals over the common denominator `den`. -/
structure Interval where
  value : Nat
  low : Nat
  high : Nat
  den : Nat
  /-- Whether the end points belong to the interval. -/
  closed : Bool

/-- The rounding interval of a positive double.  Below a power of two the doubles lie twice as
    dense, so the lower half is half as wide there. -/
def Interval.of (x : Binary64) : Interval :=
  let up := x.exponent.toNat
  let unit := 1 <<< up
  let value := (4 * x.mantissa) <<< up
  let narrow := x.mantissa = 1 <<< 52 ∧ Binary64.leastExponent < x.exponent
  { value
    low := value - (if narrow then unit else 2 * unit)
    high := value + 2 * unit
    den := 4 <<< (-x.exponent).toNat
    closed := x.mantissa % 2 = 0 }

def Interval.holds (i : Interval) (exponent : Int) (candidate : Nat) : Bool :=
  let at10 (bound : Nat) : Nat × Nat := unscale bound i.den exponent
  let (low, den) := at10 i.low
  let (high, _) := at10 i.high
  if i.closed then decide (low ≤ candidate * den) && decide (candidate * den ≤ high)
  else decide (low < candidate * den) && decide (candidate * den < high)

/-- The point of the grid `10 ^ exponent` in the interval that is nearest to the double. -/
def Interval.nearest? (i : Interval) (exponent : Int) : Option Nat :=
  let (num, den) := unscale i.value i.den exponent
  let below := num / den
  let above := below + 1
  match i.holds exponent below, i.holds exponent above with
  | true, true =>
    let fromBelow := num - below * den
    let fromAbove := above * den - num
    if fromBelow < fromAbove ∨ (fromBelow = fromAbove ∧ below % 2 = 0) then some below
    else some above
  | true, false => some below
  | false, true => some above
  | false, false => none

/-- The first grid, from coarse to fine, that has a point in the interval. -/
def Interval.search (i : Interval) (top : Int) : List Nat → Option Decimal
  | [] => none
  | count :: rest =>
    let exponent := top - (count : Int)
    match i.nearest? exponent with
    | some digits => some (dropZeros 20 ⟨digits, exponent⟩)
    | none => i.search top rest

/-- The shortest decimal that reads back as the absolute value of a double. -/
def shortest (x : Binary64) : Decimal :=
  if x.isZero then ⟨0, 0⟩
  else
    let i := Interval.of x
    let top := magnitude i.value i.den
    (i.search top (List.range' 1 17)).getD ⟨0, 0⟩

def digitText (d : Decimal) : List Char := (Nat.repr d.digits).toList

/-- The power of ten of the first digit. -/
def leading (d : Decimal) : Int := (d.digitText.length : Int) - 1 + d.exponent

/-- Positional text: integer part, and a fractional part only if it is not empty. -/
def positional (d : Decimal) : List Char :=
  let text := d.digitText
  if 0 ≤ d.exponent then text ++ List.replicate d.exponent.toNat '0'
  else
    let places := (-d.exponent).toNat
    if places < text.length then
      text.take (text.length - places) ++ '.' :: text.drop (text.length - places)
    else '0' :: '.' :: List.replicate (places - text.length) '0' ++ text

/-- Scientific text: one digit, the others after a point, and an exponent with its sign. -/
def scientific (d : Decimal) : List Char :=
  let sign := if 0 ≤ d.leading then '+' else '-'
  let power := (Nat.repr d.leading.natAbs).toList
  match d.digitText with
  | [] => []
  | [digit] => digit :: 'e' :: sign :: power
  | digit :: others => digit :: '.' :: others ++ 'e' :: sign :: power

end Decimal

end DatasetSearch
