import DatasetSearch.Text.Alphanumeric
import DatasetSearch.Text.Pieces

/-!
# Patterns

Whether a text is a regular expression.  What it matches is of no concern here.  A brace is never
part of a pattern, and the edges of words cannot be asked for.
-/

namespace DatasetSearch.Log.Pattern

/-! ### Escapes -/

/-- What an escape stands for: one character, several, or a place in the text. -/
inductive Escape where
  | one (c : Char)
  | several
  | place
deriving DecidableEq, Repr

/-- The value of a hexadecimal digit in either case. -/
def hexDigit? (c : Char) : Option Nat :=
  if c.isDigit then some (c.toNat - 48)
  else if 'a' ≤ c ∧ c ≤ 'f' then some (c.toNat - 87)
  else if 'A' ≤ c ∧ c ≤ 'F' then some (c.toNat - 55)
  else none

/-- The character with a code point written in exactly `count` hexadecimal digits. -/
def codePoint? (count : Nat) (s : List Char) : Option (Escape × List Char) := do
  let digits ← (s.take count).mapM hexDigit?
  let n := digits.foldl (fun n d => n * 16 + d) 0
  if digits.length = count ∧ n.isValidChar then some (.one (Char.ofNat n), s.drop count) else none

def categories : List Char := ['C', 'L', 'M', 'N', 'P', 'S', 'Z']

/-- What follows a backslash, and the rest. -/
def escape? : List Char → Option (Escape × List Char)
  | [] => none
  | 'x' :: rest => codePoint? 2 rest
  | 'u' :: rest => codePoint? 4 rest
  | 'U' :: rest => codePoint? 8 rest
  | c :: rest =>
    if c = 'p' ∨ c = 'P' then
      if (rest.head?.map Char.toUpper).any categories.contains then some (.several, rest.drop 1)
      else none
    else if ['d', 's', 'w', 'D', 'S', 'W'].contains c then some (.several, rest)
    else if ['a', 'f', 't', 'n', 'r', 'v'].contains c then some (.one c, rest)
    else if c = 'A' ∨ c = 'z' then some (.place, rest)
    else if c.toNat < 0x80 ∧ !c.isAlphanum ∧ c ≠ '<' ∧ c ≠ '>' then some (.one c, rest)
    else none

/-! ### Classes of characters -/

/-- The names of classes that may stand between colons in brackets. -/
def classNames : List String :=
  ["alnum", "alpha", "ascii", "blank", "cntrl", "digit", "graph", "lower", "print", "punct", "space",
    "upper", "word", "xdigit"]

/-- What follows a named class, after its opening bracket. -/
def namedClass? : List Char → Option (List Char)
  | ':' :: s =>
    let s := if s.head? = some '^' then s.drop 1 else s
    match s.dropWhile (· ≠ ':') with
    | ':' :: ']' :: rest =>
      if classNames.contains (String.ofList (s.takeWhile (· ≠ ':'))) then some rest else none
    | _ => none
  | _ => none

/-- A class after its opening bracket, without what stands for itself there: dashes, or a closing
bracket. -/
def classStart (s : List Char) : List Char :=
  let s := if s.head? = some '^' then s.drop 1 else s
  match s with
  | ']' :: rest => rest
  | s => s.dropWhile (· = '-')

def classItem : List Char → Option (Escape × List Char)
  | [] => none
  | '\\' :: rest => escape? rest
  | c :: rest => some (.one c, rest)

/-- What follows a class.  The first argument bounds the steps, the second counts the classes
around. -/
def afterClass : Nat → Nat → List Char → Option (List Char)
  | 0, _, _ => none
  | _, _, [] => none
  | fuel + 1, depth, '[' :: rest =>
    match namedClass? rest with
    | some rest => afterClass fuel depth rest
    | none => afterClass fuel (depth + 1) (classStart rest)
  | fuel + 1, depth, ']' :: rest =>
    match depth with
    | 0 => some rest
    | depth + 1 => afterClass fuel depth rest
  | fuel + 1, depth, '&' :: '&' :: rest => afterClass fuel depth rest
  | fuel + 1, depth, '-' :: '-' :: rest => afterClass fuel depth rest
  | fuel + 1, depth, '~' :: '~' :: rest => afterClass fuel depth rest
  | fuel + 1, depth, s => do
    let (first, rest) ← classItem s
    match rest with
    | '-' :: c :: more =>
      if c = ']' ∨ c = '-' then
        if first = .place then none else afterClass fuel depth rest
      else
        match first, ← classItem (c :: more) with
        | .one low, (.one high, rest) => if low ≤ high then afterClass fuel depth rest else none
        | _, _ => none
    | _ => if first = .place then none else afterClass fuel depth rest

/-! ### Groups -/

/-- Whether a text is a list of flags, each at most once, with at most one minus sign, which does
not end it. -/
def areFlags (s : List Char) : Bool :=
  s.all ['i', 'm', 's', 'U', 'u', 'R', 'x', '-'].contains && decide s.Nodup &&
    s.getLast? != some '-'

def isGroupName (s : List Char) : Bool :=
  s.head?.any (fun c => c == '_' || (Text.isAlphanumeric c && !c.isDigit)) &&
    s.all (fun c => ['_', '.', '[', ']'].contains c || Text.isAlphanumeric c)

/-- What follows the name of a group, after its opening angle bracket. -/
def afterName (s : List Char) : Option (List Char) :=
  match s.dropWhile (· ≠ '>') with
  | '>' :: rest => if isGroupName (s.takeWhile (· ≠ '>')) then some rest else none
  | _ => none

/-- What an opening parenthesis begins: a group, or flags alone. -/
inductive Opening where
  | group (rest : List Char)
  | flags (rest : List Char)

/-- What begins after an opening parenthesis. -/
def opening? : List Char → Option Opening
  | '?' :: 'P' :: '<' :: rest => (afterName rest).map .group
  | '?' :: '<' :: rest => (afterName rest).map .group
  | '?' :: rest =>
    let flags := rest.takeWhile (fun c => c ≠ ':' ∧ c ≠ ')')
    if !areFlags flags then none
    else
      match rest.drop flags.length with
      | ':' :: rest => some (.group rest)
      | ')' :: rest => if flags.isEmpty then none else some (.flags rest)
      | _ => none
  | rest => some (.group rest)

/-! ### Patterns -/

/-- Whether the rest of a pattern is well formed.  The first argument bounds the steps, the second
counts the open groups, the third says whether something stands before that can be repeated. -/
def isRest : Nat → Nat → Bool → List Char → Bool
  | 0, _, _, _ => false
  | _, depth, _, [] => depth == 0
  | fuel + 1, depth, repeatable, c :: rest =>
    if c = '(' then
      match opening? rest with
      | some (.group rest) => isRest fuel (depth + 1) false rest
      | some (.flags rest) => isRest fuel depth false rest
      | none => false
    else if c = ')' then depth != 0 && isRest fuel (depth - 1) true rest
    else if c = '|' then isRest fuel depth false rest
    else if c = '[' then
      match afterClass fuel 0 (classStart rest) with
      | some rest => isRest fuel depth true rest
      | none => false
    else if c = '?' ∨ c = '*' ∨ c = '+' then repeatable && isRest fuel depth true rest
    else if c = '\x7b' then false
    else if c = '\\' then
      match escape? rest with
      | some (_, rest) => isRest fuel depth true rest
      | none => false
    else isRest fuel depth true rest

/-- Whether a text is a regular expression. -/
def isPattern (text : String) : Bool := isRest (text.length + 1) 0 false text.toList

end DatasetSearch.Log.Pattern
