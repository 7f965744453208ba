/-!
# Integers in text

A decimal integer is an optional sign followed by at least one ASCII digit and nothing else.  A
plus sign is always allowed, a minus sign only where negative numbers are.
-/

namespace DatasetSearch.Text

/-- The value of a run of ASCII digits; none if it is empty or holds anything else. -/
def digitsValue? : List Char → Option Nat
  | [] => none
  | digits =>
    if digits.all Char.isDigit then
      some (digits.foldl (fun n c => n * 10 + (c.toNat - 48)) 0)
    else none

/-- The natural number of at most `limit` that a text denotes. -/
def natUpTo? (limit : Nat) (s : String) : Option Nat :=
  let digits := match s.toList with
    | '+' :: rest => rest
    | cs => cs
  (digitsValue? digits).filter (· ≤ limit)

/-- Whether a number is a signed 64-bit integer. -/
def fitsInt64 (n : Int) : Bool :=
  decide (-9223372036854775808 ≤ n) && decide (n ≤ 9223372036854775807)

/-- The signed 64-bit integer that a text denotes. -/
def int64? (s : String) : Option Int :=
  let value : Option Int := match s.toList with
    | '+' :: rest => (digitsValue? rest).map Int.ofNat
    | '-' :: rest => (digitsValue? rest).map (fun n => -Int.ofNat n)
    | cs => (digitsValue? cs).map Int.ofNat
  value.filter fitsInt64

/-- The 32-bit word that a text denotes. -/
def word32? (s : String) : Option UInt32 := (natUpTo? (UInt32.size - 1) s).map UInt32.ofNat

end DatasetSearch.Text
