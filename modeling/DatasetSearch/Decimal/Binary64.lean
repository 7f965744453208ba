/-!
# Double-precision numbers as exact values

A finite double is `mantissa * 2 ^ exponent` with a sign.  Nothing here uses machine floating
point: a real number given as a quotient of naturals is rounded to the nearest double, a tie going
to the even mantissa, and products and quotients of doubles are the rounded exact results.
-/

namespace DatasetSearch

/-- A finite double: `mantissa * 2 ^ exponent`, negated when `negative` holds.

Values built by `Binary64.round` are canonical: the mantissa has 53 bits, or the exponent is the
least one, `-1074`.  Zero keeps its sign. -/
structure Binary64 where
  negative : Bool
  mantissa : Nat
  exponent : Int
deriving DecidableEq, Repr

namespace Binary64

/-- The exponent of the smallest positive double. -/
def leastExponent : Int := -1074

/-- The exponent of the largest finite doubles. -/
def greatestExponent : Int := 971

/-- The quotient `num / den` rounded to a natural number, a half going to the even neighbour. -/
def roundHalfEven (num den : Nat) : Nat :=
  let quotient := num / den
  let rest := num % den
  if 2 * rest < den then quotient
  else if den < 2 * rest then quotient + 1
  else quotient + quotient % 2

/-- `num / den` divided by `2 ^ exponent`, again as a quotient of naturals. -/
def unscale (num den : Nat) (exponent : Int) : Nat × Nat :=
  if 0 ≤ exponent then (num, den <<< exponent.toNat) else (num <<< (-exponent).toNat, den)

def zero (negative : Bool) : Binary64 := ⟨negative, 0, leastExponent⟩

/-- The double nearest to `num / den`, or none when it would be infinite. -/
def round (negative : Bool) (num den : Nat) : Option Binary64 :=
  if num = 0 then some (zero negative)
  else
    let estimate : Int := (num.log2 : Int) - (den.log2 : Int) - 53
    let (n, d) := unscale num den estimate
    let tight := if n < d <<< 53 then estimate else estimate + 1
    let exponent := max tight leastExponent
    let (n, d) := unscale num den exponent
    let mantissa := roundHalfEven n d
    let carried := mantissa = 1 <<< 53
    let value : Binary64 :=
      if carried then ⟨negative, 1 <<< 52, exponent + 1⟩ else ⟨negative, mantissa, exponent⟩
    if greatestExponent < value.exponent then none else some value

/-- The absolute value as a quotient of naturals. -/
def ratio (x : Binary64) : Nat × Nat :=
  if 0 ≤ x.exponent then (x.mantissa <<< x.exponent.toNat, 1)
  else (x.mantissa, 1 <<< (-x.exponent).toNat)

/-- The double nearest to a natural number. -/
def ofNat (n : Nat) : Option Binary64 := round false n 1

/-- The rounded product; none when it would be infinite. -/
def mul (x y : Binary64) : Option Binary64 :=
  let (a, b) := x.ratio
  let (c, d) := y.ratio
  round (x.negative != y.negative) (a * c) (b * d)

/-- The rounded quotient by a non-zero double; none when it would be infinite. -/
def div (x y : Binary64) : Option Binary64 :=
  let (a, b) := x.ratio
  let (c, d) := y.ratio
  round (x.negative != y.negative) (a * d) (b * c)

/-- The same value with the other sign. -/
def neg (x : Binary64) : Binary64 := { x with negative := !x.negative }

/-- Whether the value is a zero of either sign. -/
def isZero (x : Binary64) : Bool := x.mantissa = 0

def powerOfTen (power : Nat) : Option Binary64 := round false (Nat.pow 10 power) 1

/-- The absolute value rounded to a natural number, a half going up. -/
def roundToNat (x : Binary64) : Nat :=
  let (n, d) := x.ratio
  (2 * n + d) / (2 * d)

end Binary64

end DatasetSearch
