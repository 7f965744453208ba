import DatasetSearch.Http.MediaType
import DatasetSearch.Text.Percent
import DatasetSearch.Text.Utf8

/-!
# Requests

A request as it comes in: a method, a target, headers and a body.  A target is a path and perhaps a
query string, before which a scheme and an authority may stand; a fragment does not count.  A body
is a run of bytes, which need not be the bytes of a text.
-/

namespace DatasetSearch.Http

structure Request where
  method : String
  target : String
  headers : List (String × String)
  body : List UInt8
deriving DecidableEq, Repr

namespace Request

def isSchemeChar (c : Char) : Bool := c.isAlphanum || c == '+' || c == '-' || c == '.'

/-- The target without a fragment, a scheme and an authority. -/
def bareTarget (r : Request) : List Char :=
  let s := r.target.toList.takeWhile (· ≠ '#')
  match s.takeWhile isSchemeChar, s.dropWhile isSchemeChar with
  | _ :: _, ':' :: '/' :: '/' :: rest =>
    let rest := rest.dropWhile (fun c => c ≠ '/' ∧ c ≠ '?')
    if rest.head? = some '/' then rest else '/' :: rest
  | _, _ => s

/-- The path: what precedes the query string. -/
def path (r : Request) : String := String.ofList (r.bareTarget.takeWhile (· ≠ '?'))

def queryString (r : Request) : String := String.ofList ((r.bareTarget.dropWhile (· ≠ '?')).drop 1)

def parameters (r : Request) : List (String × String) := Text.Percent.pairs r.queryString

/-- The value of the first header with a name, whose case does not matter. -/
def header? (r : Request) (name : String) : Option String :=
  (r.headers.find? (fun (key, _) => Text.sameIgnoringCase key name)).map (·.2)

def isJson (r : Request) : Bool := (r.header? "content-type").any MediaType.isJson

def bodySize (r : Request) : Nat := r.body.length

/-- What stands for bytes that are no character: the escape of a lone surrogate.  A reader takes it
in a string that is skipped, where bytes are not looked at, and nowhere else; the letter in front
keeps it from ending an escape. -/
def unreadable : List Char := ['x', '\\', 'u', 'd', 'c', '0', '0']

/-- The characters of the body. -/
def bodyChars (r : Request) : List Char :=
  (Text.Utf8.read none r.body).flatMap (fun c => c.elim unreadable (fun c => [c]))

end Request

end DatasetSearch.Http
