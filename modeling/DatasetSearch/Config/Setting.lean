import DatasetSearch.Config.Json
import DatasetSearch.Decimal.Real

/-!
# Untyped settings and their layers

Settings from files and from the environment are values whose types are not settled yet.  Layers
are laid over one another table by table; the lenient reading then converts each value to the type
that is asked for.
-/

namespace DatasetSearch.Config

/-- A value whose type is not settled. -/
inductive Setting where
  | nothing
  | flag (value : Bool)
  | int (value : Int)
  | real (value : Real64)
  | text (value : String)
  | list (items : List Setting)
  | table (entries : List (String × Setting))
deriving Repr, Inhabited

abbrev Entries := List (String × Setting)

namespace Setting

/-! ### Layers -/

/-- The entries of a table; any other value has none. -/
def entries : Setting → Entries
  | .table entries => entries
  | _ => []

/-- The entries with the value under a key changed; a key that is missing has no value before. -/
def update (key : String) (change : Option Setting → Setting) : Entries → Entries
  | [] => [(key, change none)]
  | (name, old) :: rest =>
    if name = key then (name, change (some old)) :: rest
    else (name, old) :: update key change rest

mutual

/-- A value with another laid over it.  The entries of a table are laid over one by one; without
entries it changes nothing.  Any other value takes the place of what was there. -/
def overlay (under : Option Setting) : Setting → Setting
  | .table [] => under.getD (.table [])
  | .table (entry :: rest) =>
    .table (overlayEntries ((under.map entries).getD []) (entry :: rest))
  | value => value

/-- The entries of a table with others laid over them one by one. -/
def overlayEntries (under : Entries) : List (String × Setting) → Entries
  | [] => under
  | (key, value) :: rest =>
    overlayEntries (update key (fun old => overlay old value) under) rest

end

/-- A step of a path: to an entry of a table, or to an item of a list, counted from the end of the
list if the index is negative. -/
inductive Step where
  | entry (key : String)
  | item (index : Int)
deriving DecidableEq, Repr

/-- The items of a list; any other value has none. -/
def items : Setting → List Setting
  | .list items => items
  | _ => []

/-- The items with one of them changed; a list that is too short is filled up with nothing.  Before
the first item there is none to change. -/
def updateItem (index : Int) (change : Setting → Setting) (items : List Setting) : List Setting :=
  let place := if index < 0 then items.length + index else index
  if place < 0 then items
  else
    let filled := items ++ List.replicate (place.toNat + 1 - items.length) .nothing
    filled.modify place.toNat change

/-- A value with another laid over what is at the end of a path.  An item of a list is replaced. -/
def overlayAt (under : Option Setting) (value : Setting) : List Step → Setting
  | [] => overlay under value
  | .entry key :: path =>
    .table (update key (fun old => overlayAt old value path) ((under.map entries).getD []))
  | [.item index] => .list (updateItem index (fun _ => value) ((under.map items).getD []))
  | .item index :: path =>
    .list (updateItem index (fun old => overlayAt (some old) value path)
      ((under.map items).getD []))

/-- Whether a character may stand in the key of a step. -/
def isPathChar (c : Char) : Bool :=
  c.isAlphanum || c == '_' || c == '-' || c == ' '

/-- The index of a step, after its opening bracket, and what follows the closing one. -/
def indexStep? (s : List Char) : Option (Step × List Char) := do
  let isSpace (c : Char) : Bool := c == ' ' || c == '\t'
  let s := s.dropWhile isSpace
  let (negative, s) := match s with
    | '-' :: rest => (true, rest)
    | s => (false, s)
  let value ← Text.digitsValue? (s.takeWhile Char.isDigit)
  let index : Int := if negative then -value else value
  match (s.dropWhile Char.isDigit).dropWhile isSpace with
  | ']' :: rest => if Text.fitsInt64 index then some (.item index, rest) else none
  | _ => none

/-- The key of a step, and what follows it. -/
def entryStep? (s : List Char) : Option (Step × List Char) :=
  match s.takeWhile isPathChar with
  | [] => none
  | key => some (.entry (String.ofList key), s.dropWhile isPathChar)

/-- The steps that follow the first one: keys after points, and indices between brackets.  The first
argument bounds their number. -/
def steps? : Nat → List Char → Option (List Step)
  | _, [] => some []
  | 0, _ => none
  | fuel + 1, c :: rest => do
    let (step, rest) ←
      if c = '.' then entryStep? rest else if c = '[' then indexStep? rest else none
    return step :: (← steps? fuel rest)

/-- The path that a key denotes.  A key that is not well formed is a path of one step, to itself. -/
def pathOf (key : String) : List Step :=
  let path := do
    let (first, rest) ← entryStep? key.toList
    return first :: (← steps? rest.length rest)
  path.getD [.entry key]

/-- A table with the entries of a layer laid over it, each at the path that its key denotes. -/
def overlayLayer (under : Setting) (layer : Entries) : Setting :=
  layer.foldl (fun result (key, value) => overlayAt (some result) value (pathOf key)) under

/-! ### Values of JSON -/

mutual

/-- A JSON value as a setting.  An integer that does not fit a signed 64-bit word is a double. -/
def ofJson : Json → Setting
  | .null => .nothing
  | .bool b => .flag b
  | .number (.int n) =>
    if Text.fitsInt64 n then .int n
    else ((Binary64.ofNat n.toNat).map (fun x => Setting.real (.finite x))).getD .nothing
  | .number (.float x) => .real (.finite x)
  | .string s => .text s
  | .array items => .list (ofItems items)
  | .object fields => .table (ofFields fields)

def ofItems : List Json → List Setting
  | [] => []
  | item :: rest => ofJson item :: ofItems rest

def ofFields : List (String × Json) → Entries
  | [] => []
  | (name, value) :: rest => (name, ofJson value) :: ofFields rest

end

/-! ### The lenient reading -/

/-- A number with the words for true and false counting as one and zero. -/
def naturalOfText? (limit : Nat) (text : String) : Option Nat :=
  match Text.lower text with
  | "true" | "on" | "yes" => some 1
  | "false" | "off" | "no" => some 0
  | _ => Text.natUpTo? limit text

/-- A value as a 64-bit natural number. -/
def natural? : Setting → Option Nat
  | .flag true => some 1
  | .flag false => some 0
  | .int n => if 0 ≤ n then some n.toNat else none
  | .real x => some (x.toNatClamped (UInt64.size - 1))
  | .text s => naturalOfText? (UInt64.size - 1) s
  | _ => none

def flag? : Setting → Option Bool
  | .flag b => some b
  | .int n => some (n ≠ 0)
  | .real x => some x.isNonZero
  | .text s =>
    match Text.lower s with
    | "1" | "true" | "on" | "yes" => some true
    | "0" | "false" | "off" | "no" => some false
    | _ => none
  | _ => none

def text? : Setting → Option String
  | .flag true => some "true"
  | .flag false => some "false"
  | .int n => some (toString n)
  | .real x => some x.text
  | .text s => some s
  | _ => none

def items? : Setting → Option (List Setting)
  | .list items => some items
  | _ => none

/-- The entries of a table, if the value is one. -/
def entries? : Setting → Option Entries
  | .table entries => some entries
  | _ => none

/-- The fields of a record: the entries of a table, or the items of a list in order. -/
def record? (names : List String) : Setting → Option (String → Option Setting)
  | .table entries => some (entries.lookup ·)
  | .list items => some ((names.zip items).lookup ·)
  | _ => none

/-- The name of a constant in any case: a text, or the key of a table's only entry. -/
def constant? : Setting → Option String
  | .text s => some (Text.lower s)
  | .table [(key, _)] => some (Text.lower key)
  | _ => none

def isNothing : Setting → Bool
  | .nothing => true
  | _ => false

end Setting

def lenient : Reading Setting where
  record? := Setting.record?
  entries? := Setting.entries?
  items? := Setting.items?
  text? := Setting.text?
  flag? := Setting.flag?
  natural? limit value := (Setting.natural? value).filter (· ≤ limit)
  constant? := Setting.constant?
  isNull := Setting.isNothing

/-- The lowest layer: the default settings. -/
def defaultLayer : Setting := .ofJson standard.toJson

end DatasetSearch.Config
