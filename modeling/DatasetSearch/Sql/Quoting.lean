/-!
# Quoted names and literals

A delimited identifier stands between double quotes and a string literal between single quotes; a
quote inside is written twice.  A name of two or more characters that both starts and ends with a
double quote is taken to be delimited already and is left as it is.
-/

namespace DatasetSearch.Sql

/-- The characters with every `quote` written twice. -/
def doubled (quote : Char) (s : List Char) : List Char :=
  s.flatMap (fun c => if c = quote then [c, c] else [c])

/-- Whether a name already carries its double quotes. -/
def isDelimited (name : List Char) : Bool :=
  decide (2 ≤ name.length) && name.head? == some '"' && name.getLast? == some '"'

def quoteIdentifier (name : String) : String :=
  if isDelimited name.toList then name
  else String.ofList ('"' :: doubled '"' name.toList ++ ['"'])

def escapeLiteral (text : String) : String := String.ofList (doubled '\'' text.toList)

def quoteLiteral (text : String) : String := "'" ++ escapeLiteral text ++ "'"

def textOperand (column : String) : String := "CAST(" ++ quoteIdentifier column ++ " AS TEXT)"

end DatasetSearch.Sql
