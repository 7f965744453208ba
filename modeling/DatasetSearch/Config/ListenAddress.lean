import DatasetSearch.Text.Integer
import DatasetSearch.Text.Pieces

/-!
# Listen addresses

An IPv4 address with a port, or an IPv6 address in brackets with a port and an optional numeric
scope.  IPv6 addresses are written with lower-case digits, their first longest run of two or more
zero groups shortened, and mapped IPv4 addresses in dotted form.
-/

namespace DatasetSearch

inductive ListenAddress where
  | v4 (octets : List Nat) (port : Nat)
  | v6 (groups : List Nat) (scope : Nat) (port : Nat)
deriving DecidableEq, Repr

namespace ListenAddress

/-! ### Reading -/

/-- The value of a hexadecimal digit in either case. -/
def hexValue? (c : Char) : Option Nat :=
  if c.isDigit then some (c.toNat - 48)
  else if 'a' ≤ c ∧ c ≤ 'f' then some (c.toNat - 87)
  else if 'A' ≤ c ∧ c ≤ 'F' then some (c.toNat - 55)
  else none

/-- A decimal number of at most `limit` at the start of the text. -/
def decimal (limit : Nat) (s : List Char) : Option (Nat × List Char) :=
  (Text.digitsValue? (s.takeWhile Char.isDigit)).bind fun value =>
    if value ≤ limit then some (value, s.dropWhile Char.isDigit) else none

/-- An octet: at most three digits without a leading zero. -/
def octet (s : List Char) : Option (Nat × List Char) :=
  let run := s.takeWhile Char.isDigit
  if 3 < run.length ∨ (1 < run.length ∧ run.head? = some '0') then none else decimal 255 s

def after (c : Char) : List Char → Option (List Char)
  | [] => none
  | d :: rest => if d = c then some rest else none

/-- Four octets separated by points. -/
def ipv4 (s : List Char) : Option (List Nat × List Char) := do
  let (a, s) ← octet s
  let (b, s) ← (after '.' s).bind octet
  let (c, s) ← (after '.' s).bind octet
  let (d, s) ← (after '.' s).bind octet
  some ([a, b, c, d], s)

/-- A group of one to four hexadecimal digits. -/
def group (s : List Char) : Option (Nat × List Char) :=
  let isHex (c : Char) : Bool := (hexValue? c).isSome
  let run := s.takeWhile isHex
  if run.isEmpty ∨ 4 < run.length then none
  else some (run.foldl (fun n c => n * 16 + (hexValue? c).getD 0) 0, s.dropWhile isHex)

/-- A reader, after a colon unless it is the first of its sequence. -/
def separated {α : Type} (first : Bool) (reader : List Char → Option (α × List Char))
    (s : List Char) : Option (α × List Char) :=
  if first then reader s else (after ':' s).bind reader

/-- Up to `count` groups separated by colons, whether they end in a dotted IPv4 address, and the
rest.  A dotted address takes the place of two groups. -/
def groups : Nat → Bool → List Char → List Nat × Bool × List Char
  | 0, _, s => ([], false, s)
  | count + 1, first, s =>
    let dotted := if 1 ≤ count then separated first ipv4 s else none
    match dotted with
    | some ([a, b, c, d], rest) => ([a * 256 + b, c * 256 + d], true, rest)
    | _ =>
      match separated first group s with
      | none => ([], false, s)
      | some (value, rest) =>
        let (values, endsDotted, rest) := groups count false rest
        (value :: values, endsDotted, rest)

/-- The eight groups of an IPv6 address; two colons stand for the groups left out, at least one. -/
def ipv6 (s : List Char) : Option (List Nat × List Char) :=
  let (head, endsDotted, rest) := groups 8 true s
  if head.length = 8 then some (head, rest)
  else if endsDotted then none
  else
    match rest with
    | ':' :: ':' :: rest =>
      let (tail, _, rest) := groups (7 - head.length) true rest
      some (head ++ List.replicate (8 - head.length - tail.length) 0 ++ tail, rest)
    | _ => none

def port? (s : List Char) : Option Nat :=
  match (after ':' s).bind (decimal 65535) with
  | some (port, []) => some port
  | _ => none

/-- The scope after a percent sign, if there is one. -/
def scope (s : List Char) : Nat × List Char :=
  match s with
  | '%' :: rest => (decimal (UInt32.size - 1) rest).getD (0, s)
  | _ => (0, s)

def parse? (text : String) : Option ListenAddress :=
  let s := text.toList
  let four : Option ListenAddress := do
    let (octets, rest) ← ipv4 s
    let port ← port? rest
    some (.v4 octets port)
  let six : Option ListenAddress := do
    let (groups, rest) ← (after '[' s).bind ipv6
    let (scope, rest) := scope rest
    let rest ← after ']' rest
    let port ← port? rest
    some (.v6 groups scope port)
  four.or six

/-! ### Writing -/

def dotted (octets : List Nat) : String := Text.join "." (octets.map toString)

/-- A group in hexadecimal without leading zeros. -/
def groupText (n : Nat) : String := String.ofList (Nat.toDigits 16 n)

def groupsText (groups : List Nat) : String := Text.join ":" (groups.map groupText)

/-- The number of zero groups at the start. -/
def zeroRun : List Nat → Nat
  | 0 :: rest => zeroRun rest + 1
  | _ => 0

/-- The start and length of the first longest run of zero groups. -/
def longestRun (groups : List Nat) : Nat × Nat :=
  (List.range groups.length).foldl
    (fun best start =>
      let length := zeroRun (groups.drop start)
      if best.2 < length then (start, length) else best)
    (0, 0)

def ipv6Text (groups : List Nat) : String :=
  match groups with
  | [0, 0, 0, 0, 0, 0xFFFF, high, low] =>
    "::ffff:" ++ dotted [high / 256, high % 256, low / 256, low % 256]
  | _ =>
    let (start, length) := longestRun groups
    if length < 2 then groupsText groups
    else groupsText (groups.take start) ++ "::" ++ groupsText (groups.drop (start + length))

def text : ListenAddress → String
  | .v4 octets port => dotted octets ++ ":" ++ toString port
  | .v6 groups 0 port => "[" ++ ipv6Text groups ++ "]:" ++ toString port
  | .v6 groups scope port =>
    "[" ++ ipv6Text groups ++ "%" ++ toString scope ++ "]:" ++ toString port

end ListenAddress

end DatasetSearch
