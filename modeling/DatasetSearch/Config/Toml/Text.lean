/-!
# The tokens of TOML: blanks, comments, strings and keys

A reader takes characters and gives what it read together with the rest, or nothing when the text
is malformed.  Lines end with a line feed, before which a carriage return may stand; inside a
string either is one line feed.
-/

namespace DatasetSearch.Config.Toml

/-- A reader of some kind of token. -/
abbrev Reader (α : Type) := List Char → Option (α × List Char)

/-! ### Blanks, lines and comments -/

def isBlank (c : Char) : Bool := c == ' ' || c == '\t'

/-- The text without leading blanks. -/
def skipBlanks (s : List Char) : List Char := s.dropWhile isBlank

/-- Whether a character may stand in a comment: a tab or anything that is no control character. -/
def isCommentChar (c : Char) : Bool := c == '\t' || (0x20 ≤ c.toNat && c.toNat != 0x7F)

/-- The text without a comment at its start. -/
def skipComment : List Char → List Char
  | '#' :: rest => rest.dropWhile isCommentChar
  | s => s

/-- What follows the end of a line. -/
def newline? : List Char → Option (List Char)
  | '\n' :: rest => some rest
  | '\r' :: '\n' :: rest => some rest
  | _ => none

/-- What follows the rest of a line: blanks, a comment, and its end or the end of the text. -/
def lineEnd? (s : List Char) : Option (List Char) :=
  match skipComment (skipBlanks s) with
  | [] => some []
  | rest => newline? rest

/-- The text without leading blanks, line ends and comments; the flag says whether it starts within
a comment. -/
def skipSpace : Bool → List Char → List Char
  | _, [] => []
  | inComment, c :: rest =>
    if c = '\n' then skipSpace false rest
    else if c = '\r' ∧ rest.head? = some '\n' then skipSpace false rest
    else if inComment ∧ isCommentChar c then skipSpace true rest
    else if !inComment ∧ isBlank c then skipSpace false rest
    else if !inComment ∧ c = '#' then skipSpace true rest
    else c :: rest

/-! ### Strings -/

/-- The value of a hexadecimal digit in either case. -/
def hexValue? (c : Char) : Option Nat :=
  if c.isDigit then some (c.toNat - 48)
  else if 'a' ≤ c ∧ c ≤ 'f' then some (c.toNat - 87)
  else if 'A' ≤ c ∧ c ≤ 'F' then some (c.toNat - 55)
  else none

/-- The character with a code point of exactly that many hexadecimal digits. -/
def codePoint (count : Nat) : Reader Char := fun s =>
  let run := s.take count
  match run.mapM hexValue? with
  | none => none
  | some digits =>
    let value := digits.foldl (fun n d => n * 16 + d) 0
    let valid := value < 0xD800 ∨ (0xDFFF < value ∧ value ≤ 0x10FFFF)
    if run.length = count ∧ valid then some (Char.ofNat value, s.drop count) else none

def escape : Reader Char
  | 'b' :: rest => some ('\x08', rest)
  | 't' :: rest => some ('\t', rest)
  | 'n' :: rest => some ('\n', rest)
  | 'f' :: rest => some ('\x0c', rest)
  | 'r' :: rest => some ('\r', rest)
  | '"' :: rest => some ('"', rest)
  | '\\' :: rest => some ('\\', rest)
  | 'u' :: rest => codePoint 4 rest
  | 'U' :: rest => codePoint 8 rest
  | _ => none

structure StringForm where
  /-- The character on both sides, once or three times. -/
  mark : Char
  escapes : Bool
  /-- Whether the string may contain line ends; its mark then stands three times on both sides. -/
  multiline : Bool

/-- The number of marks at the start of the text. -/
def markRun (mark : Char) (s : List Char) : Nat := (s.takeWhile (· == mark)).length

/-- What follows a backslash at the end of a line: nothing counts up to the next character that is
neither a blank nor a line end. -/
def continuation? (s : List Char) : Option (List Char) :=
  (newline? (skipBlanks s)).map fun rest =>
    rest.dropWhile (fun c => isBlank c || c == '\n' || c == '\r')

/-- The characters of a string up to its closing mark.  Of three to five marks in a row the last
three close a string over several lines.  The first argument bounds the characters, the second
holds those read so far in reverse. -/
def stringTail (form : StringForm) : Nat → List Char → Reader String
  | 0, _, _ => none
  | fuel + 1, done, s =>
    match s with
    | [] => none
    | c :: rest =>
      if c = form.mark then
        let run := markRun form.mark s
        if !form.multiline then some (String.ofList done.reverse, rest)
        else if run < 3 then stringTail form fuel (c :: done) rest
        else
          let inner := min run 5 - 3
          some (String.ofList (done.reverse ++ List.replicate inner c), s.drop (inner + 3))
      else if c = '\\' ∧ form.escapes then
        match if form.multiline then continuation? rest else none with
        | some rest => stringTail form fuel done rest
        | none =>
          match escape rest with
          | some (c, rest) => stringTail form fuel (c :: done) rest
          | none => none
      else
        match if form.multiline then newline? s else none with
        | some rest => stringTail form fuel ('\n' :: done) rest
        | none => if isCommentChar c then stringTail form fuel (c :: done) rest else none

/-- The contents of a string, after its opening marks. -/
def stringBody (form : StringForm) (s : List Char) : Option (String × List Char) :=
  stringTail form (s.length + 1) [] s

/-- A string with or without escapes, on one line or on several. -/
def string : Reader String
  | '"' :: '"' :: '"' :: rest => stringBody ⟨'"', true, true⟩ ((newline? rest).getD rest)
  | '\'' :: '\'' :: '\'' :: rest => stringBody ⟨'\'', false, true⟩ ((newline? rest).getD rest)
  | '"' :: rest => stringBody ⟨'"', true, false⟩ rest
  | '\'' :: rest => stringBody ⟨'\'', false, false⟩ rest
  | _ => none

/-! ### Keys -/

/-- Whether a character may stand in a bare key. -/
def isKeyChar (c : Char) : Bool := c.isAlphanum || c == '_' || c == '-'

/-- One segment of a key: bare, or a string on one line. -/
def keySegment : Reader String
  | '"' :: rest => stringBody ⟨'"', true, false⟩ rest
  | '\'' :: rest => stringBody ⟨'\'', false, false⟩ rest
  | s =>
    match s.takeWhile isKeyChar with
    | [] => none
    | name => some (String.ofList name, s.dropWhile isKeyChar)

/-- The segments of a key between points; blanks may stand around them.  The first argument bounds
their number. -/
def keyTail : Nat → Reader (List String)
  | 0, _ => none
  | fuel + 1, s =>
    match keySegment (skipBlanks s) with
    | none => none
    | some (name, rest) =>
      match skipBlanks rest with
      | '.' :: rest => (keyTail fuel rest).map (fun (path, rest) => (name :: path, rest))
      | rest => some ([name], rest)

def key (s : List Char) : Option ((List String) × List Char) := keyTail (s.length + 1) s

end DatasetSearch.Config.Toml
