import DatasetSearch.Text.Pieces

/-!
# Media types

A media type is a type and a subtype, followed by parameters after semicolons.  JSON is the subtype
`json` of `application`, or any subtype of it that ends in `+json`.
-/

namespace DatasetSearch.Http.MediaType

def tokenPunctuation : List Char :=
  ['!', '#', '$', '%', '&', '\'', '*', '+', '-', '.', '^', '_', '\x60', '|', '~']

def isTokenChar (c : Char) : Bool := c.isAlphanum || tokenPunctuation.contains c

/-- Whether a character may stand in a media type: visible ASCII or a blank. -/
def isPlainChar (c : Char) : Bool := 0x20 ≤ c.toNat && c.toNat < 0x7F

/-- What follows the value of a parameter between quotation marks, after the opening one, and the
semicolon or blanks after it.  The value has at least one character, whatever it is. -/
def afterQuoted (s : List Char) : Option (List Char) :=
  match (s.drop 1).dropWhile (· ≠ '"') with
  | '"' :: rest =>
    match rest.dropWhile (· = ' ') with
    | [] => some []
    | ';' :: rest => some rest
    | _ => none
  | _ => none

/-- What follows the value of a parameter, and the semicolon after it. -/
def afterValue (s : List Char) : Option (List Char) :=
  match s with
  | '"' :: rest => afterQuoted rest
  | _ =>
    match s.dropWhile isTokenChar with
    | [] => some []
    | ';' :: rest => if (s.takeWhile isTokenChar).isEmpty then none else some rest
    | _ => none

/-- Whether the text is a sequence of parameters with semicolons between them.  The first argument
bounds their number. -/
def areParameters : Nat → List Char → Bool
  | 0, _ => false
  | fuel + 1, s =>
    match s.dropWhile (· = ' ') with
    | [] => true
    | s =>
      match s.dropWhile isTokenChar with
      | '=' :: rest =>
        if (s.takeWhile isTokenChar).isEmpty then false
        else (afterValue rest).any (areParameters fuel)
      | _ => false

/-- The parts of a subtype before and after its last plus sign, if it has one that does not begin
it. -/
def suffixOf (subtype : String) : String × Option String :=
  let reversed := subtype.toList.reverse
  match reversed.dropWhile (· ≠ '+') with
  | _ :: rest@(_ :: _) =>
    (String.ofList rest.reverse, some (String.ofList (reversed.takeWhile (· ≠ '+')).reverse))
  | _ => (subtype, none)

def isJsonType (type subtype : String) : Bool :=
  let (base, suffix) := suffixOf subtype
  Text.sameIgnoringCase type "application" &&
    (Text.sameIgnoringCase base "json" || suffix.any (Text.sameIgnoringCase · "json"))

/-- Whether a text is a media type that stands for JSON. -/
def isJson (text : String) : Bool :=
  let s := text.toList
  let type := s.takeWhile isTokenChar
  match s.dropWhile isTokenChar with
  | '/' :: rest =>
    let subtype := rest.takeWhile isTokenChar
    let parameters := match rest.dropWhile isTokenChar with
      | [] => true
      | ';' :: rest => areParameters (rest.length + 1) rest
      | ' ' :: rest => areParameters (rest.length + 1) rest
      | _ => false
    s.all isPlainChar && !subtype.isEmpty && parameters &&
      isJsonType (String.ofList type) (String.ofList subtype)
  | _ => false

end DatasetSearch.Http.MediaType
