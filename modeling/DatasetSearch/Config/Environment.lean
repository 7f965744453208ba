import DatasetSearch.Config.Setting
import DatasetSearch.Text.Alphanumeric
import DatasetSearch.Text.Blank

/-!
# Environment variables

The variables of the process, completed by an environment file, and the layer of settings that they
make up.

A line of an environment file assigns a value to a name.  Inside quotes a line goes on over line
ends.  The first malformed line ends the file; what stands before it counts.  A variable that is set
already keeps its value.
-/

namespace DatasetSearch.Config

/-- Variables by name; the first of a name counts. -/
abbrev Variables := List (String × String)

namespace EnvironmentFile

/-! ### Lines -/

/-- Where a text leaves off: outside quotes, after a blank, in double or single quotes, after a
backslash, or in a comment. -/
inductive Mode where
  | plain
  | blank
  | escaped
  | double
  | doubleEscaped
  | single
  | singleEscaped
  | comment
deriving DecidableEq, Repr

/-- What a character outside quotes leads to. -/
def Mode.opening (c : Char) : Mode :=
  if c = '\\' then .escaped
  else if c = '"' then .double
  else if c = '\'' then .single
  else .plain

/-- Where a text leaves off after one more character. -/
def Mode.step (mode : Mode) (c : Char) : Mode :=
  match mode with
  | .plain => if Text.isBlank c ∧ c ≠ '\n' ∧ c ≠ '\r' then .blank else opening c
  | .blank => if c = '#' then .comment else opening c
  | .escaped => .plain
  | .double => if c = '\\' then .doubleEscaped else if c = '"' then .plain else .double
  | .doubleEscaped => .double
  | .single => if c = '\\' then .singleEscaped else if c = '\'' then .plain else .single
  | .singleEscaped => .single
  | .comment => .comment

/-- Where a text leaves off, and the text without a comment. -/
def scan : Mode → List Char → Mode × List Char
  | mode, [] => (mode, [])
  | mode, c :: rest =>
    match mode.step c with
    | .comment => (.comment, [])
    | next =>
      let (last, kept) := scan next rest
      (last, c :: kept)

/-- The lines of a text with their line feeds. -/
def physicalLines : List Char → List (List Char)
  | [] => []
  | c :: rest =>
    if c = '\n' then [c] :: physicalLines rest
    else
      match physicalLines rest with
      | [] => [[c]]
      | line :: lines => (c :: line) :: lines

def withoutLineEnd (line : List Char) : List Char :=
  match line.reverse with
  | '\n' :: '\r' :: rest => rest.reverse
  | '\n' :: rest => rest.reverse
  | _ => line

/-- The lines joined where they go on, each without its line end; none for a text that leaves off
anywhere but outside quotes.  The first two arguments are what has been read of a line so far. -/
def logicalLines (pending : List Char) (mode : Mode) :
    List (List Char) → List (Option (List Char))
  | [] => if mode = .plain then [] else [none]
  | line :: rest =>
    let whole := pending ++ line
    if (Text.trimStart whole).head? = some '#' then some [] :: logicalLines [] .plain rest
    else
      let (last, kept) := scan mode line
      match last with
      | .plain => some (withoutLineEnd whole) :: logicalLines [] .plain rest
      | .comment => some (pending ++ kept) :: logicalLines [] .plain rest
      | _ => logicalLines whole last rest

/-! ### Values -/

/-- Where a value leaves off.  The flags say whether double quotes are open, the texts are the name
of a variable read so far, in reverse. -/
inductive Place where
  | plain
  | double
  | single
  | escaped (double : Bool)
  /-- In the name of a variable after a dollar sign. -/
  | name (double : Bool) (read : List Char)
  /-- In the name of a variable between braces. -/
  | braced (double : Bool) (read : List Char)
  | after
deriving DecidableEq, Repr

def Place.quoted (double : Bool) : Place := if double then .double else .plain

def escape? (c : Char) : Option Char :=
  if c = 'n' then some '\n'
  else if c = '\\' ∨ c = '\'' ∨ c = '"' ∨ c = '$' ∨ c = ' ' then some c
  else none

/-- The characters of a value after those read so far in reverse; `resolve` gives the value of a
variable. -/
def valueTail (resolve : String → String) : Place → List Char → List Char → Option (List Char)
  | .plain, done, [] => some done.reverse
  | .escaped false, done, [] => some done.reverse
  | .after, done, [] => some done.reverse
  | .name false read, done, [] =>
    some (done.reverse ++ (resolve (String.ofList read.reverse)).toList)
  | _, _, [] => none
  | place, done, c :: rest =>
    let resolved (read : List Char) : List Char :=
      (resolve (String.ofList read.reverse)).toList.reverse ++ done
    match place with
    | .after =>
      if c = ' ' ∨ c = '\t' then valueTail resolve .after done rest
      else if c = '#' then some done.reverse
      else none
    | .escaped double =>
      match escape? c with
      | some c => valueTail resolve (.quoted double) (c :: done) rest
      | none => none
    | .single =>
      if c = '\'' then valueTail resolve .plain done rest
      else valueTail resolve .single (c :: done) rest
    | .name double read =>
      if Text.isAlphanumeric c then valueTail resolve (.name double (c :: read)) done rest
      else if c = '\x7b' ∧ read.isEmpty then valueTail resolve (.braced double []) done rest
      else if c = '$' then valueTail resolve (.name double []) (resolved read) rest
      else valueTail resolve (.quoted double) (c :: resolved read) rest
    | .braced double read =>
      if c = '\x7d' then valueTail resolve (.quoted double) (resolved read) rest
      else valueTail resolve (.braced double (c :: read)) done rest
    | .double =>
      if c = '$' then valueTail resolve (.name true []) done rest
      else if c = '"' then valueTail resolve .plain done rest
      else if c = '\\' then valueTail resolve (.escaped true) done rest
      else valueTail resolve .double (c :: done) rest
    | .plain =>
      if c = '$' then valueTail resolve (.name false []) done rest
      else if c = '\'' then valueTail resolve .single done rest
      else if c = '"' then valueTail resolve .double done rest
      else if c = '\\' then valueTail resolve (.escaped false) done rest
      else if c = ' ' ∨ c = '\t' then valueTail resolve .after done rest
      else valueTail resolve .plain (c :: done) rest

/-! ### Assignments -/

def isNameStart (c : Char) : Bool := c.isAlpha || c == '_'

def isNameChar (c : Char) : Bool := c.isAlphanum || c == '_' || c == '.'

/-- A name, and what follows it and any blanks after it. -/
def name (s : List Char) : Option (String × List Char) :=
  if (s.head?.map isNameStart).getD false then
    some (String.ofList (s.takeWhile isNameChar), Text.trimStart (s.dropWhile isNameChar))
  else none

/-- The name that a line assigns to, and the value as written.  The word `export` may precede it. -/
def target (s : List Char) : Option (String × List Char) := do
  let (key, rest) ← name s
  match rest with
  | '=' :: rest => some (key, Text.trimStart rest)
  | _ =>
    if key = "export" then
      let (key, rest) ← name rest
      match rest with
      | '=' :: rest => some (key, Text.trimStart rest)
      | _ => none
    else none

/-- The value of a variable, which is empty if it is not set. -/
def resolve (env : Variables) (name : String) : String :=
  (env.lookup name).getD ""

/-- The variables after a line; none if it is malformed.  A variable keeps the value it has. -/
def assign (env : Variables) (line : List Char) : Option Variables :=
  let s := Text.trimChars line
  match s with
  | [] => some env
  | '#' :: _ => some env
  | _ => do
    let (key, written) ← target s
    let value ← match written with
      | [] => some []
      | '#' :: _ => some []
      | _ => valueTail (resolve env) .plain [] written
    if (env.lookup key).isSome then some env
    else some (env ++ [(key, String.ofList value)])

/-- The variables after the lines up to the first malformed one. -/
def assignAll (env : Variables) : List (Option (List Char)) → Variables
  | some line :: rest =>
    match assign env line with
    | some env => assignAll env rest
    | none => env
  | _ => env

/-- The variables completed by an environment file.  A byte order mark may stand before it. -/
def complete (env : Variables) (text : String) : Variables :=
  let s := match text.toList with
    | '\ufeff' :: rest => rest
    | s => s
  assignAll env (logicalLines [] .plain (physicalLines s))

end EnvironmentFile

/-! ### Variables as settings -/

namespace Setting

/-- The start of the names of variables that are settings, in lower case. -/
def variableStart : String := "fedspend__"

/-- The key of the setting whose variable holds a list between commas. -/
def listKey : String := "server.cors_origins"

/-- A character of the name of a variable in lower case.  Beyond ASCII only the Kelvin sign matters:
its lower case is a letter of ASCII, and no setting has a character beyond ASCII in its name. -/
def lowerNameChar (c : Char) : Char := if c = '\u212a' then 'k' else c.toLower

/-- The key of the setting that a variable names; two underscores separate its segments. -/
def keyOfVariable? (name : String) : Option String :=
  (Text.dropStart? variableStart.toList (name.toList.map lowerNameChar)).map
    (fun rest => Text.replace "__" "." (String.ofList rest))

/-- The setting that the text of a variable denotes: a flag, an integer, a double or a text. -/
def ofVariable (key text : String) : Setting :=
  match Text.lower text, Text.int64? text, Real64.ofText? text with
  | "true", _, _ => .flag true
  | "false", _, _ => .flag false
  | _, some n, _ => .int n
  | _, none, some x => .real x
  | _, none, none =>
    if key = listKey then .list ((Text.split ',' text).map Setting.text) else .text text

def variableLayer (env : Variables) : Entries :=
  env.filterMap fun (name, value) =>
    (keyOfVariable? name).map (fun key => (key, ofVariable key value))

end Setting

end DatasetSearch.Config
