import DatasetSearch.Json.Value
import DatasetSearch.Text.Blank
import DatasetSearch.Text.Pieces

/-!
# Table names

A table name is one to three segments separated by points: an optional database, an optional schema
and the table.  A segment is a letter or underscore followed by letters, digits, underscores and
dollar signs, all of them ASCII; so a table name needs no quotes in a statement.  As a JSON value a
table name is its text.
-/

namespace DatasetSearch

structure TableName where
  segments : List String
deriving DecidableEq, Repr

/-- Why there is no table name: the text that was given denotes none. -/
structure TableNameError where
  raw : String
deriving DecidableEq, Repr

/-- What is wrong with the text. -/
def TableNameError.message (e : TableNameError) : String := "Invalid table name: " ++ e.raw

namespace TableName

/-- Whether a character may begin a segment. -/
def isStart (c : Char) : Bool := c.isAlpha || c == '_'

/-- Whether a character may follow in a segment. -/
def isRest (c : Char) : Bool := c.isAlphanum || c == '_' || c == '$'

def isSegment : List Char → Bool
  | [] => false
  | c :: rest => isStart c && rest.all isRest

/-- The table name that a text denotes; blanks around it are ignored. -/
def parse? (raw : String) : Option TableName :=
  let segments := Text.splitChars '.' (Text.trimChars raw.toList)
  if segments.length ≤ 3 ∧ segments.all isSegment then some ⟨segments.map String.ofList⟩ else none

/-- The table name that a text denotes, or what is wrong with the text. -/
def parse (raw : String) : Except TableNameError TableName :=
  match parse? raw with
  | some t => .ok t
  | none => .error ⟨raw⟩

def text (t : TableName) : String := Text.join "." t.segments

def table (t : TableName) : String := t.segments.getLastD ""

def schema? (t : TableName) : Option String := t.segments.reverse[1]?

def toJson (t : TableName) : Json := .string t.text

/-- The table name that a JSON value denotes. -/
def ofJson? (json : Json) : Option TableName := json.string?.bind parse?

end TableName

end DatasetSearch
