import DatasetSearch.Json.Value

/-!
# Reading JSON text

A reader takes characters and gives what it read together with the rest, or nothing when the text
is malformed.  A whole text may be followed by blanks only.

* Containers nest at most 127 deep.
* Lone surrogate escapes, raw control characters in strings, leading zeros and trailing commas are
  malformed, and so is a number too large for a double.
* A name given twice in an object keeps its first place and its last value.
-/

namespace DatasetSearch.Json

/-- The greatest depth of nested containers. -/
def depthLimit : Nat := 127

/-- The text without leading blanks; only the four ASCII blanks of JSON count. -/
def skipBlank : List Char → List Char :=
  List.dropWhile (fun c => c = ' ' || c = '\n' || c = '\t' || c = '\r')

/-- What follows a fixed piece of text. -/
def expect (piece : String) (s : List Char) : Option (List Char) :=
  let expected := piece.toList
  if expected.isPrefixOf s then some (s.drop expected.length) else none

/-! ### Numbers -/

structure NumberToken where
  negative : Bool
  integer : List Char
  fraction : Option (List Char)
  /-- The sign (true for plus) and the digits of the exponent. -/
  exponent : Option (Bool × List Char)

def digitRun (s : List Char) : List Char × List Char :=
  (s.takeWhile Char.isDigit, s.dropWhile Char.isDigit)

def digits1 (s : List Char) : Option ((List Char) × List Char) :=
  match digitRun s with
  | ([], _) => none
  | run => some run

/-- A point with its digits, if there is one. -/
def fractionPart : List Char → Option ((Option (List Char)) × List Char)
  | '.' :: rest => (digits1 rest).map (fun (run, rest) => (some run, rest))
  | s => some (none, s)

def exponentPart (s : List Char) : Option ((Option (Bool × List Char)) × List Char) :=
  let signed : List Char → Option ((Option (Bool × List Char)) × List Char)
    | '+' :: rest => (digits1 rest).map (fun (run, rest) => (some (true, run), rest))
    | '-' :: rest => (digits1 rest).map (fun (run, rest) => (some (false, run), rest))
    | rest => (digits1 rest).map (fun (run, rest) => (some (true, run), rest))
  match s with
  | 'e' :: rest => signed rest
  | 'E' :: rest => signed rest
  | s => some (none, s)

/-- A number as written, without a value yet. -/
def numberToken (s : List Char) : Option (NumberToken × List Char) := do
  let (negative, s) := match s with
    | '-' :: rest => (true, rest)
    | s => (false, s)
  let (integer, s) ← digits1 s
  if integer.head? = some '0' ∧ integer.length ≠ 1 then none
  else
    let (fraction, s) ← fractionPart s
    let (exponent, s) ← exponentPart s
    some (⟨negative, integer, fraction, exponent⟩, s)

def digitValue (c : Char) : Nat := c.toNat - 48

def natOf (digits : List Char) : Nat := digits.foldl (fun n c => n * 10 + digitValue c) 0

/-- The greatest 64-bit natural number. -/
def greatestWord : Nat := UInt64.size - 1

/-- Digits appended to a significand as long as it stays a 64-bit word, and how many were left. -/
def appendDigits (significand : Nat) : List Char → Nat × Nat
  | [] => (significand, 0)
  | c :: rest =>
    let next := significand * 10 + digitValue c
    if next ≤ greatestWord then appendDigits next rest else (significand, rest.length + 1)

/-- A significand times a power of ten.  The power is applied in one rounded multiplication or
division if it is at most 308; smaller powers first divide by `10 ^ 308`.  The first argument bounds
these steps: a 64-bit significand is zero after three. -/
def scaleByTen : Nat → Binary64 → Int → Option Binary64
  | 0, x, _ => some x
  | fuel + 1, x, exponent =>
    if exponent.natAbs ≤ 308 then do
      let power ← Binary64.powerOfTen exponent.natAbs
      if 0 ≤ exponent then x.mul power else x.div power
    else if x.isZero then some x
    else if 0 ≤ exponent then none
    else do
      let power ← Binary64.powerOfTen 308
      let smaller ← x.div power
      scaleByTen fuel smaller (exponent + 308)

/-- The value of a number as written; none if it is too large for a double.

Without fraction and exponent it is an integer if it is in range and not `-0`.  Otherwise the
significand is the longest run of digits that fits a 64-bit word, and its scaling rounds. -/
def NumberToken.value (t : NumberToken) : Option Number := do
  let (significand, skipped) := appendDigits 0 t.integer
  let whole := t.fraction.isNone && t.exponent.isNone && skipped = 0
  if whole ∧ t.negative = false then some (.int significand)
  else if whole ∧ 0 < significand ∧ significand ≤ 1 <<< 63 then some (.int (-significand))
  else
    let fraction := t.fraction.getD []
    let (significand, left) := appendDigits significand fraction
    let shift : Int := (skipped : Int) - ((fraction.length - left : Nat) : Int)
    let (positive, power) := match t.exponent with
      | none => (true, 0)
      | some (sign, run) => (sign, natOf run)
    let start ← Binary64.ofNat significand
    let magnitude ←
      if power < 1 <<< 31 then
        scaleByTen 8 start (if positive then shift + power else shift - power)
      else if significand ≠ 0 ∧ positive then none
      else some (Binary64.zero false)
    some (.float (if t.negative then magnitude.neg else magnitude))

def numberValue (s : List Char) : Option (Number × List Char) := do
  let (token, rest) ← numberToken s
  let value ← token.value
  some (value, rest)

/-! ### Strings -/

/-- The value of a hexadecimal digit in either case. -/
def hexValue? (c : Char) : Option Nat :=
  if '0' ≤ c ∧ c ≤ '9' then some (c.toNat - 48)
  else if 'a' ≤ c ∧ c ≤ 'f' then some (c.toNat - 87)
  else if 'A' ≤ c ∧ c ≤ 'F' then some (c.toNat - 55)
  else none

/-- Four hexadecimal digits. -/
def hex4 : List Char → Option (Nat × List Char)
  | a :: b :: c :: d :: rest => do
    let a ← hexValue? a
    let b ← hexValue? b
    let c ← hexValue? c
    let d ← hexValue? d
    some (((a * 16 + b) * 16 + c) * 16 + d, rest)
  | _ => none

def simpleEscape? : Char → Option Char
  | '"' => some '"'
  | '\\' => some '\\'
  | '/' => some '/'
  | 'b' => some '\x08'
  | 'f' => some '\x0c'
  | 'n' => some '\n'
  | 'r' => some '\r'
  | 't' => some '\t'
  | _ => none

/-- The character of a Unicode escape, after its letter; a high surrogate needs a low one. -/
def unicodeEscape (s : List Char) : Option (Char × List Char) := do
  let (unit, rest) ← hex4 s
  if unit < 0xD800 ∨ 0xDFFF < unit then some (Char.ofNat unit, rest)
  else if 0xDC00 ≤ unit then none
  else
    match rest with
    | '\\' :: 'u' :: rest => do
      let (low, rest) ← hex4 rest
      if 0xDC00 ≤ low ∧ low ≤ 0xDFFF then
        some (Char.ofNat (0x10000 + (unit - 0xD800) * 0x400 + (low - 0xDC00)), rest)
      else none
    | _ => none

/-- The characters of a string up to its closing quotation mark.  The first argument bounds the
number of characters, the second holds those read so far in reverse. -/
def stringTail : Nat → List Char → List Char → Option (String × List Char)
  | 0, _, _ => none
  | fuel + 1, done, s =>
    match s with
    | [] => none
    | '"' :: rest => some (String.ofList done.reverse, rest)
    | '\\' :: 'u' :: rest =>
      match unicodeEscape rest with
      | some (c, rest) => stringTail fuel (c :: done) rest
      | none => none
    | '\\' :: letter :: rest =>
      match simpleEscape? letter with
      | some c => stringTail fuel (c :: done) rest
      | none => none
    | c :: rest =>
      if c.toNat < 0x20 ∨ c = '\\' then none else stringTail fuel (c :: done) rest

/-- What follows the opening quotation mark of a string. -/
def stringBody (s : List Char) : Option (String × List Char) := stringTail (s.length + 1) [] s

/-! ### Values -/

/-- What comes after one item of a container: another item, or the end. -/
def afterItem (close : Char) (s : List Char) : Option (Bool × List Char) :=
  match skipBlank s with
  | c :: rest =>
    if c = ',' then some (true, rest) else if c = close then some (false, rest) else none
  | [] => none

def fieldName (s : List Char) : Option (String × List Char) :=
  match skipBlank s with
  | '"' :: rest => do
    let (name, rest) ← stringBody rest
    match skipBlank rest with
    | ':' :: rest => some (name, rest)
    | _ => none
  | _ => none

mutual

/-- A value.  The first argument bounds the number of nested calls, the second the depth of
containers that may still be opened. -/
def valueWithin : Nat → Nat → List Char → Option (Json × List Char)
  | 0, _, _ => none
  | fuel + 1, depth, s =>
    match skipBlank s with
    | 'n' :: rest => (expect "ull" rest).map (Json.null, ·)
    | 't' :: rest => (expect "rue" rest).map (Json.bool true, ·)
    | 'f' :: rest => (expect "alse" rest).map (Json.bool false, ·)
    | '"' :: rest => (stringBody rest).map (fun (text, rest) => (.string text, rest))
    | '[' :: rest =>
      match depth with
      | 0 => none
      | depth + 1 =>
        match skipBlank rest with
        | ']' :: rest => some (.array [], rest)
        | rest => (itemsWithin fuel depth [] rest).map (fun (items, rest) => (.array items, rest))
    | '\x7b' :: rest =>
      match depth with
      | 0 => none
      | depth + 1 =>
        match skipBlank rest with
        | '\x7d' :: rest => some (.object [], rest)
        | rest =>
          (fieldsWithin fuel depth [] rest).map (fun (fields, rest) => (.object fields, rest))
    | s => (numberValue s).map (fun (n, rest) => (.number n, rest))

/-- The items of an array up to its end, after those read so far in reverse. -/
def itemsWithin : Nat → Nat → List Json → List Char → Option ((List Json) × List Char)
  | 0, _, _, _ => none
  | fuel + 1, depth, done, s =>
    match valueWithin fuel depth s with
    | none => none
    | some (item, rest) =>
      match afterItem ']' rest with
      | some (true, rest) => itemsWithin fuel depth (item :: done) rest
      | some (false, rest) => some ((item :: done).reverse, rest)
      | none => none

/-- The fields of an object up to its end, after those read so far. -/
def fieldsWithin : Nat → Nat → Fields → List Char → Option (Fields × List Char)
  | 0, _, _, _ => none
  | fuel + 1, depth, done, s =>
    match fieldName s with
    | none => none
    | some (name, rest) =>
      match valueWithin fuel depth rest with
      | none => none
      | some (value, rest) =>
        match afterItem '\x7d' rest with
        | some (true, rest) => fieldsWithin fuel depth (Fields.insert name value done) rest
        | some (false, rest) => some (Fields.insert name value done, rest)
        | none => none

end

/-- Enough nested calls for a text: each character begins at most two. -/
def callBound (s : List Char) : Nat := 2 * s.length + 2

/-- A value at the start of a text, below `depth` further containers. -/
def value (depth : Nat) (s : List Char) : Option (Json × List Char) :=
  valueWithin (callBound s) depth s

/-- The value that a whole text denotes. -/
def parse? (s : String) : Option Json := do
  let (json, rest) ← value depthLimit s.toList
  if (skipBlank rest).isEmpty then some json else none

end DatasetSearch.Json
