import DatasetSearch.Config.Setting
import DatasetSearch.Config.Toml.Table
import DatasetSearch.Config.Toml.Text

/-!
# The values of TOML

Strings, integers of 64 bits, doubles, booleans, arrays and inline tables.
-/

namespace DatasetSearch.Config.Toml

/-! ### Numbers -/

/-- Digits between which single underscores may stand; at least one digit. -/
def digitRun (isDigit : Char → Bool) : List Char → List Char × List Char
  | [] => ([], [])
  | c :: rest =>
    if isDigit c then
      let (run, rest) := digitRun isDigit rest
      (c :: run, rest)
    else
      match c, rest with
      | '_', d :: _ =>
        if isDigit d then digitRun isDigit rest else ([], c :: rest)
      | _, _ => ([], c :: rest)

/-- A run of digits, which an underscore cannot begin. -/
def digits (isDigit : Char → Bool) (s : List Char) : Option ((List Char) × List Char) :=
  match s with
  | c :: _ => if isDigit c then some (digitRun isDigit s) else none
  | [] => none

/-- The decimal digits of an integer without leading zeros. -/
def wholeDigits (s : List Char) : Option ((List Char) × List Char) :=
  match s with
  | '0' :: rest => some (['0'], rest)
  | _ => digits Char.isDigit s

def ofDigits (base : Nat) (run : List Char) : Nat :=
  run.foldl (fun n c => n * base + (hexValue? c).getD 0) 0

/-- An integer within 64 bits. -/
def int? (n : Int) : Option Setting :=
  if Text.fitsInt64 n then some (.int n) else none

/-- An integer in another base, after the two characters that tell the base. -/
def based (base : Nat) : Reader Setting := fun s => do
  let (run, rest) ← digits (fun c => ((hexValue? c).map (decide <| · < base)).getD false) s
  let value ← int? (ofDigits base run)
  some (value, rest)

def fraction (s : List Char) : Option ((List Char) × List Char) :=
  match s with
  | '.' :: rest => digits Char.isDigit rest
  | _ => some ([], s)

def exponent (s : List Char) : Option ((List Char) × List Char) :=
  let signed (sign : List Char) (s : List Char) : Option ((List Char) × List Char) :=
    (digits Char.isDigit s).map (fun (run, rest) => (sign ++ run, rest))
  let afterLetter (s : List Char) : Option ((List Char) × List Char) :=
    match s with
    | '+' :: rest => signed ['+'] rest
    | '-' :: rest => signed ['-'] rest
    | _ => signed [] s
  match s with
  | 'e' :: rest => afterLetter rest
  | 'E' :: rest => afterLetter rest
  | _ => some ([], s)

/-- A decimal integer or a double, after its sign. -/
def decimal (negative : Bool) : Reader Setting := fun s => do
  let (whole, s) ← wholeDigits s
  let (part, s) ← fraction s
  let (power, s) ← exponent s
  if part.isEmpty ∧ power.isEmpty then
    let n : Int := ofDigits 10 whole
    let value ← int? (if negative then -n else n)
    some (value, s)
  else
    let power ← if power.isEmpty then some 0 else Real64.exponent? power
    match Real64.ofDecimal negative (whole ++ part) (power - part.length) with
    | .infinite _ => none
    | x => some (.real x, s)

/-- A number or one of the words for infinity and not a number, after an optional sign. -/
def signedNumber (negative : Bool) : Reader Setting
  | 'i' :: 'n' :: 'f' :: rest => some (.real (.infinite negative), rest)
  | 'n' :: 'a' :: 'n' :: rest => some (.real .notANumber, rest)
  | s => decimal negative s

def number : Reader Setting
  | '0' :: 'x' :: rest => based 16 rest
  | '0' :: 'o' :: rest => based 8 rest
  | '0' :: 'b' :: rest => based 2 rest
  | '+' :: rest => signedNumber false rest
  | '-' :: rest => signedNumber true rest
  | s => signedNumber false s

/-! ### Containers -/

mutual

/-- A value.  The first argument bounds the number of nested calls. -/
def valueWithin : Nat → Reader Setting
  | 0, _ => none
  | fuel + 1, s =>
    match s with
    | 't' :: 'r' :: 'u' :: 'e' :: rest => some (.flag true, rest)
    | 'f' :: 'a' :: 'l' :: 's' :: 'e' :: rest => some (.flag false, rest)
    | '[' :: rest => (itemsWithin fuel rest).map (fun (items, rest) => (.list items, rest))
    | '\x7b' :: rest =>
      match skipBlanks rest with
      | '\x7d' :: rest => some (.table [], rest)
      | rest => (pairsWithin fuel (.empty .header) rest).map (fun (t, rest) => (t.toSetting, rest))
    | c :: _ =>
      if c = '"' ∨ c = '\'' then (string s).map (fun (text, rest) => (.text text, rest))
      else number s
    | [] => none

/-- The items of an array up to its end; a comma may follow the last one. -/
def itemsWithin : Nat → Reader (List Setting)
  | 0, _ => none
  | fuel + 1, s =>
    match skipSpace false s with
    | ']' :: rest => some ([], rest)
    | s =>
      match valueWithin fuel s with
      | none => none
      | some (item, rest) =>
        match skipSpace false rest with
        | ',' :: rest => (itemsWithin fuel rest).map (fun (items, rest) => (item :: items, rest))
        | ']' :: rest => some ([item], rest)
        | _ => none

/-- The pairs of an inline table up to its end, set in the table so far. -/
def pairsWithin : Nat → Table → Reader Table
  | 0, _, _ => none
  | fuel + 1, done, s =>
    match key s with
    | some (path, '=' :: rest) =>
      match valueWithin fuel (skipBlanks rest) with
      | none => none
      | some (value, rest) =>
        match done.setAt path value, skipBlanks rest with
        | some done, ',' :: rest => pairsWithin fuel done rest
        | some done, '\x7d' :: rest => some (done, rest)
        | _, _ => none
    | _ => none

end

def value (s : List Char) : Option (Setting × List Char) := valueWithin (s.length + 2) s

end DatasetSearch.Config.Toml
