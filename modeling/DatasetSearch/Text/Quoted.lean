import DatasetSearch.Text.Pieces
import DatasetSearch.Text.Unseen

/-!
# Texts between quotation marks

How a text is shown where its limits matter: between quotation marks, with an escape for the
backslash, for the quotation mark, and for every character that shows no glyph of its own.
-/

namespace DatasetSearch.Text

def quotedChar (c : Char) : List Char :=
  if c = '"' then ['\\', '"']
  else if c = '\\' then ['\\', '\\']
  else if c = '\n' then ['\\', 'n']
  else if c = '\r' then ['\\', 'r']
  else if c = '\t' then ['\\', 't']
  else if c = '\x00' then ['\\', '0']
  else if isVisible c then [c]
  else ['\\', 'u', '\x7b'] ++ Nat.toDigits 16 c.toNat ++ ['\x7d']

/-- A text between quotation marks. -/
def quoted (s : String) : String := String.ofList ('"' :: s.toList.flatMap quotedChar ++ ['"'])

/-- Texts between quotation marks, as a list between brackets. -/
def quotedList (texts : List String) : String := "[" ++ join ", " (texts.map quoted) ++ "]"

end DatasetSearch.Text
