import DatasetSearch.Json.Value
import DatasetSearch.Text.Pieces

/-!
# Compact JSON text

No blanks between tokens.  A string escapes the quotation mark, the backslash and the control
characters below a blank; every other character stands for itself.
-/

namespace DatasetSearch.Json

/-- The lower-case hexadecimal digit of a number below sixteen. -/
def hexDigit (n : Nat) : Char := if n < 10 then Char.ofNat (48 + n) else Char.ofNat (87 + n)

/-- One character inside a string literal. -/
def escapeChar (c : Char) : List Char :=
  if c = '"' then ['\\', '"']
  else if c = '\\' then ['\\', '\\']
  else if c = '\x08' then ['\\', 'b']
  else if c = '\x0c' then ['\\', 'f']
  else if c = '\n' then ['\\', 'n']
  else if c = '\r' then ['\\', 'r']
  else if c = '\t' then ['\\', 't']
  else if c.toNat < 0x20 then
    ['\\', 'u', '0', '0', hexDigit (c.toNat / 16), hexDigit (c.toNat % 16)]
  else [c]

def quote (s : String) : String :=
  String.ofList ('"' :: s.toList.flatMap escapeChar ++ ['"'])

mutual

def text : Json → String
  | .null => "null"
  | .bool true => "true"
  | .bool false => "false"
  | .number n => n.text
  | .string s => quote s
  | .array items => "[" ++ itemsText items ++ "]"
  | .object fields => "\x7b" ++ fieldsText fields ++ "\x7d"

/-- The items of an array, separated by commas. -/
def itemsText : List Json → String
  | [] => ""
  | [item] => text item
  | item :: rest => text item ++ "," ++ itemsText rest

/-- The fields of an object, separated by commas. -/
def fieldsText : List (String × Json) → String
  | [] => ""
  | [(name, value)] => quote name ++ ":" ++ text value
  | (name, value) :: rest => quote name ++ ":" ++ text value ++ "," ++ fieldsText rest

end

end DatasetSearch.Json
