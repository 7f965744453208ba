import DatasetSearch.Text.Integer
import DatasetSearch.Text.Pieces

/-!
# Addresses of databases

What keeps a text from being the address of a database: an address starts with a scheme, and the
port after its host, if it has one, is a 16-bit number.
-/

namespace DatasetSearch.Config.DatabaseUrl

/-- What is wrong with an address. -/
inductive Fault where
  | noScheme
  /-- There is a port but no host before it. -/
  | emptyHost
  | invalidPort
deriving DecidableEq, Repr

def Fault.message : Fault → String
  | .noScheme => "relative URL without a base"
  | .emptyHost => "empty host"
  | .invalidPort => "invalid port number"

def isSchemeChar (c : Char) : Bool := c.isAlphanum || c == '+' || c == '-' || c == '.'

def afterScheme? (s : List Char) : Option (List Char) :=
  if (s.head?.map Char.isAlpha).getD false then
    match s.dropWhile isSchemeChar with
    | ':' :: rest => some rest
    | _ => none
  else none

def isControlOrBlank (c : Char) : Bool := decide (c.toNat ≤ 0x20)

/-- The text without controls and blanks around it, and without tabs and line ends inside. -/
def cleaned (s : List Char) : List Char :=
  let trimmed := ((s.dropWhile isControlOrBlank).reverse.dropWhile isControlOrBlank).reverse
  trimmed.filter (fun c => c ≠ '\t' ∧ c ≠ '\n' ∧ c ≠ '\r')

def endsAuthority (c : Char) : Bool := c == '/' || c == '?' || c == '#'

def afterLast (separator : Char) (s : List Char) : List Char :=
  (s.reverse.takeWhile (· ≠ separator)).reverse

def hostAndPort (authority : List Char) : List Char × List Char :=
  let s := afterLast '@' authority
  if s.head? = some '[' then
    (s.takeWhile (· ≠ ']'), (s.dropWhile (· ≠ ']')).drop 1)
  else (s.takeWhile (· ≠ ':'), s.dropWhile (· ≠ ':'))

/-- What is wrong with the port, given with its colon.  A backslash ends it. -/
def portFault? (port : List Char) : Option Fault :=
  let digits := (port.drop 1).takeWhile (· ≠ '\\')
  if digits.isEmpty then none
  else if (Text.digitsValue? digits).any (· ≤ 65535) then none
  else some .invalidPort

/-- What is wrong with an address, if anything is. -/
def fault? (url : String) : Option Fault :=
  match afterScheme? (cleaned url.toList) with
  | none => some .noScheme
  | some ('/' :: '/' :: rest) =>
    let (host, port) := hostAndPort (rest.takeWhile (fun c => !endsAuthority c))
    if host.isEmpty ∧ port.head? = some ':' then some .emptyHost else portFault? port
  | some _ => none

end DatasetSearch.Config.DatabaseUrl
