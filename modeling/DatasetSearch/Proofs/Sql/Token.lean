import DatasetSearch.Sql.Condition

/-!
# SQL tokens

How a database cuts a statement into tokens.  A delimited identifier ends at the first double quote
that is not doubled, a string literal at the first single quote that is not doubled, and a backslash
is an ordinary character.  Outside quotes stand words, numbers with an optional sign and a few
symbols; every token is as long as possible.

`lex` never drops a character that is not a blank: what begins no token, and a token that does not
come to its end, gives a `stray` token.  In particular `--`, `/*` and `;` are stray, so a statement
without stray tokens has neither comments nor a second statement in it.
-/

namespace DatasetSearch.Sql

/-! ### The vocabulary -/

inductive Keyword where
  | select
  | count
  | as
  | totalCount
  | from
  | where
  | and
  | or
  | not
  | is
  | null
  | in
  | ilike
  | cast
  | text
  | containsText
  | true
  | false
  | order
  | by
  | limit
  | offset
deriving DecidableEq, Repr

namespace Keyword

def spelling : Keyword → String
  | .select => "SELECT"
  | .count => "COUNT"
  | .as => "AS"
  | .totalCount => "total_count"
  | .from => "FROM"
  | .where => "WHERE"
  | .and => "AND"
  | .or => "OR"
  | .not => "NOT"
  | .is => "IS"
  | .null => "NULL"
  | .in => "IN"
  | .ilike => "ILIKE"
  | .cast => "CAST"
  | .text => "TEXT"
  | .containsText => "CONTAINS_TEXT"
  | .true => "TRUE"
  | .false => "FALSE"
  | .order => "ORDER"
  | .by => "BY"
  | .limit => "LIMIT"
  | .offset => "OFFSET"

def all : List Keyword :=
  [.select, .count, .as, .totalCount, .from, .where, .and, .or, .not, .is, .null, .in, .ilike,
    .cast, .text, .containsText, .true, .false, .order, .by, .limit, .offset]

def ofSpelling? (s : String) : Option Keyword := all.find? (·.spelling == s)

end Keyword

/-- The symbols; `<>` and `!=` are two spellings of one of them. -/
inductive Symbol where
  | opening
  | closing
  | comma
  | point
  | star
  | comparison (op : Comparison)
deriving DecidableEq, Repr

namespace Symbol

def ofChar? (c : Char) : Option Symbol :=
  match c with
  | '(' => some .opening
  | ')' => some .closing
  | ',' => some .comma
  | '.' => some .point
  | '*' => some .star
  | '=' => some (.comparison .eq)
  | '<' => some (.comparison .lt)
  | '>' => some (.comparison .gt)
  | _ => none

def extend? : Symbol → Char → Option Symbol
  | .comparison .lt, '=' => some (.comparison .le)
  | .comparison .lt, '>' => some (.comparison .ne)
  | .comparison .gt, '=' => some (.comparison .ge)
  | _, _ => none

end Symbol

inductive Token where
  /-- A delimited identifier, by the name that it denotes. -/
  | identifier (name : String)
  /-- A string literal, by the text that it denotes. -/
  | literal (text : String)
  | number (digits : String)
  | keyword (k : Keyword)
  /-- A word outside the vocabulary. -/
  | name (word : String)
  | symbol (s : Symbol)
  /-- What is no token. -/
  | stray (text : String)
deriving DecidableEq, Repr

/-! ### The lexer -/

inductive NumberPart where
  | start
  | sign
  | whole
  | point
  | fraction
  | mark
  | markSign
  | power
deriving DecidableEq, Repr

namespace NumberPart

/-- The part of a number that one more character leads to. -/
def next? (part : NumberPart) (c : Char) : Option NumberPart :=
  match part with
  | .start =>
    if c.isDigit then some .whole else if c = '+' ∨ c = '-' then some .sign else none
  | .sign => if c.isDigit then some .whole else none
  | .whole =>
    if c.isDigit then some .whole
    else if c = '.' then some .point
    else if c = 'e' ∨ c = 'E' then some .mark
    else none
  | .point => if c.isDigit then some .fraction else none
  | .fraction =>
    if c.isDigit then some .fraction else if c = 'e' ∨ c = 'E' then some .mark else none
  | .mark =>
    if c.isDigit then some .power else if c = '+' ∨ c = '-' then some .markSign else none
  | .markSign => if c.isDigit then some .power else none
  | .power => if c.isDigit then some .power else none

def isComplete : NumberPart → Bool
  | .whole | .fraction | .power => true
  | _ => false

end NumberPart

def isWordStart (c : Char) : Bool := c.isAlpha || c == '_'

def isWordPart (c : Char) : Bool := c.isAlphanum || c == '_' || c == '$'

def wordToken (word : String) : Token :=
  match Keyword.ofSpelling? word with
  | some k => .keyword k
  | none => .name word

/-- Where a lexer stands: between tokens, or in one, with the characters read so far, the last one
first. -/
inductive Mode where
  | between
  | word (read : List Char)
  | number (part : NumberPart) (read : List Char)
  | symbol (s : Symbol)
  /-- After an exclamation mark. -/
  | exclaimed
  /-- After the opening quote. -/
  | quoted (quote : Char) (read : List Char)
  /-- After a quote that is the last one unless another follows. -/
  | closed (quote : Char) (read : List Char)
  | lost (c : Char)
deriving DecidableEq, Repr

namespace Mode

/-- The mode in which a character puts a lexer that stands between tokens. -/
def begin (c : Char) : Mode :=
  if c.isWhitespace then .between
  else if c = '"' ∨ c = '\'' then .quoted c []
  else if isWordStart c then .word [c]
  else
    match NumberPart.start.next? c with
    | some part => .number part [c]
    | none =>
      match Symbol.ofChar? c with
      | some s => .symbol s
      | none => if c = '!' then .exclaimed else .lost c

/-- The mode in which the current token goes on with a character. -/
def extend? : Mode → Char → Option Mode
  | .between, _ => none
  | .word read, c => if isWordPart c then some (.word (c :: read)) else none
  | .number part read, c => (part.next? c).map (.number · (c :: read))
  | .symbol s, c => (s.extend? c).map .symbol
  | .exclaimed, c => if c = '=' then some (.symbol (.comparison .ne)) else none
  | .quoted quote read, c =>
    some (if c = quote then .closed quote read else .quoted quote (c :: read))
  | .closed quote read, c => if c = quote then some (.quoted quote (c :: read)) else none
  | .lost _, _ => none

/-- The token that ends here. -/
def tokens : Mode → List Token
  | .between => []
  | .word read => [wordToken (String.ofList read.reverse)]
  | .number part read =>
    let digits := String.ofList read.reverse
    [if part.isComplete then .number digits else .stray digits]
  | .symbol s => [.symbol s]
  | .exclaimed => [.stray "!"]
  | .quoted quote read => [.stray (String.ofList (quote :: read.reverse))]
  | .closed quote read =>
    let text := String.ofList read.reverse
    [if quote = '"' then .identifier text else .literal text]
  | .lost c => [.stray (String.ofList [c])]

end Mode

def scan : Mode → List Char → List Token
  | mode, [] => mode.tokens
  | mode, c :: rest =>
    match mode.extend? c with
    | some longer => scan longer rest
    | none => mode.tokens ++ scan (.begin c) rest

def lex (statement : String) : List Token := scan .between statement.toList

/-- Quotes that stand alone are stray, and so are comments. -/
example : lex "\"a\"\"b\" <> 'it''s' -- x 'y" =
    [.identifier "a\"b", .symbol (.comparison .ne), .literal "it's", .stray "-", .stray "-",
      .name "x", .stray "'y"] := by
  decide

end DatasetSearch.Sql
