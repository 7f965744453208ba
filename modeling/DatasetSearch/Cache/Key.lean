import DatasetSearch.Statement
import DatasetSearch.Text.Sha256
import DatasetSearch.Text.Utf8

/-!
# Cache keys and settings

A key is a label, a colon and the start of a digest.  The digest is taken of the statement's text
followed at once by the compact JSON of its binds.
-/

namespace DatasetSearch.Cache

/-- How much of the digest goes into a key. -/
inductive KeyDigest where
  | full
  /-- That many characters, but at least one and at most all. -/
  | truncated (count : Nat)
deriving DecidableEq, Repr

/-- The part of a digest that goes into a key. -/
def KeyDigest.cut (k : KeyDigest) (digest : String) : String :=
  match k with
  | .full => digest
  | .truncated count => String.ofList (digest.toList.take (max count 1))

/-- The settings of a cache; times are in milliseconds. -/
structure Settings where
  defaultTtl : Nat
  keyDigest : KeyDigest
  /-- Whether calls for one key wait for an execution that is under way. -/
  singleFlight : Bool
deriving DecidableEq, Repr

/-- Five minutes, 32 characters, every call for itself. -/
def Settings.standard : Settings := ⟨300000, .truncated 32, false⟩

/-- The label of a key when the caller gives none. -/
def defaultLabel : String := "query"

def digestInput (statement : Statement) : String :=
  statement.sql ++ (Json.array (statement.binds.map Bind.toJson)).text

/-- The key of a statement under a label, for any digest function. -/
def keyWith (digest : List UInt8 → String) (k : KeyDigest) (label : String)
    (statement : Statement) : String :=
  label ++ ":" ++ k.cut (digest (Text.Utf8.encode (digestInput statement)))

def key (k : KeyDigest) (label : String) (statement : Statement) : String :=
  keyWith Text.Sha256.hex k label statement

/-! ### Settings as text -/

/-- A number of milliseconds in the largest of the units second and millisecond that it reaches,
without trailing zeros. -/
def durationText (ms : Nat) : String :=
  if ms = 0 then "0ns"
  else if ms < 1000 then toString ms ++ "ms"
  else
    let digits := (toString (1000 + ms % 1000)).toList.drop 1
    let decimals := (digits.reverse.dropWhile (· == '0')).reverse
    let point := if decimals.isEmpty then "" else "."
    toString (ms / 1000) ++ point ++ String.ofList decimals ++ "s"

def KeyDigest.describe : KeyDigest → String
  | .full => "Full"
  | .truncated count => "Truncated(" ++ toString count ++ ")"

def Settings.describe (s : Settings) : String :=
  "ResultCache \x7b config: CacheConfig \x7b default_ttl: " ++ durationText s.defaultTtl ++
    ", key_digest: " ++ s.keyDigest.describe ++
    ", single_flight: " ++ (if s.singleFlight then "true" else "false") ++ " \x7d, .. \x7d"

end DatasetSearch.Cache
