import DatasetSearch.Text.Utf8
import DatasetSearch.Text.Pieces

/-!
# Percent encoding and form data

A percent sign with two hexadecimal digits stands for a byte; any other percent sign stands for
itself.  Form data is a list of pairs between ampersands in which a plus sign is a blank.
-/

namespace DatasetSearch.Text.Percent

/-- The value of a hexadecimal digit in either case. -/
def hexDigit? (byte : UInt8) : Option UInt8 :=
  if 48 ≤ byte ∧ byte ≤ 57 then some (byte - 48)
  else if 65 ≤ byte ∧ byte ≤ 70 then some (byte - 55)
  else if 97 ≤ byte ∧ byte ≤ 102 then some (byte - 87)
  else none

/-- The bytes with every well-formed escape replaced by its byte. -/
def decodeBytes : List UInt8 → List UInt8
  | [] => []
  | [byte] => [byte]
  | [first, second] => [first, second]
  | first :: second :: third :: rest =>
    if first = 37 then
      match hexDigit? second, hexDigit? third with
      | some high, some low => (high * 16 + low) :: decodeBytes rest
      | _, _ => first :: decodeBytes (second :: third :: rest)
    else first :: decodeBytes (second :: third :: rest)

/-- A path segment as text; none if its bytes are not well-formed UTF-8. -/
def decodeSegment? (segment : String) : Option String :=
  Utf8.decode? (decodeBytes (Utf8.encode segment))

/-- A key or value of form data as text. -/
def decodeField (field : List Char) : String :=
  let spaced := field.map (fun c => if c = '+' then ' ' else c)
  Utf8.decodeLossy (decodeBytes (Utf8.encode (String.ofList spaced)))

/-- The key and value of one piece of form data; without an equals sign the value is empty. -/
def pairOf (piece : List Char) : String × String :=
  (decodeField (piece.takeWhile (· ≠ '=')), decodeField ((piece.dropWhile (· ≠ '=')).drop 1))

/-- The pairs of form data in order.  Empty pieces count for nothing. -/
def pairs (query : String) : List (String × String) :=
  ((splitChars '&' query.toList).filter (!·.isEmpty)).map pairOf

end DatasetSearch.Text.Percent
