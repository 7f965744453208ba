import DatasetSearch.Config.Environment
import DatasetSearch.Config.Toml.Document
import DatasetSearch.Json.Reader
import DatasetSearch.Log.Event
import DatasetSearch.Text.Quoted

/-!
# Loading the settings

Three layers make up the settings, each laid over the one before: the defaults, a file in TOML or
JSON, and the environment.  The file is the one that is asked for, else the one that a variable
names; it must exist.  Without either, a file of the standard name is read if there is one.
-/

namespace DatasetSearch.Config

abbrev Files := List (String × String)

/-- Why there are no settings. -/
inductive LoadError where
  /-- The file is missing or malformed. -/
  | sources
  /-- A setting is missing or does not have its type. -/
  | types
deriving DecidableEq, Repr

def LoadError.message : LoadError → String
  | .sources => "Failed to read configuration sources"
  | .types => "Failed to deserialize configuration"

/-! ### The file -/

/-- The path without segments that lead nowhere; an absolute path stays absolute. -/
def plainPath (path : String) : String :=
  if Text.startsWith path "/" then path
  else Text.join "/" ((Text.split '/' path).filter (fun segment => segment ≠ "" ∧ segment ≠ "."))

/-- The text of a file. -/
def Files.find? (files : Files) (path : String) : Option String :=
  (List.find? (fun (name, _) => plainPath name == plainPath path) files).map (·.2)

inductive Format where
  | toml
  | json
deriving DecidableEq, Repr

/-- The formats, in the order in which their files are looked for. -/
def Format.all : List Format := [.toml, .json]

def Format.ending : Format → String
  | .toml => "toml"
  | .json => "json"

/-- The ending of a path: what follows the last point in its last segment, but not if that point
begins the segment. -/
def endingOf? (path : String) : Option String :=
  let segment := ((Text.split '/' path).getLastD "").toList.reverse
  let ending := segment.takeWhile (· ≠ '.')
  if segment.length ≤ ending.length + 1 then none else some (String.ofList ending.reverse)

def Format.entries? (n : Format) (text : String) : Option Entries :=
  match n with
  | .toml => Toml.parse? text
  | .json => (Json.parse? text).bind (fun json => (Setting.ofJson json).entries?)

/-- What becomes of a path. -/
inductive Lookup where
  | missing
  /-- The file has no known format. -/
  | unknown
  | found (format : Format) (text : String)

/-- Whether a path can only be that of a directory: its last segment is empty, or the directory
itself. -/
def isDirectoryPath (path : String) : Bool :=
  let last := (Text.split '/' path).getLastD ""
  last == "" || last == "."

/-- The file of a path: the file itself, else the first that the path names without its ending. -/
def lookUp (files : Files) (path : String) : Lookup :=
  let itself := if isDirectoryPath path then none else files.find? path
  match itself with
  | some text =>
    match Format.all.find? (fun n => some n.ending == endingOf? path) with
    | some n => .found n text
    | none => .unknown
  | none =>
    let path := plainPath path
    let candidates := if path = "" then [] else Format.all
    let texts := candidates.filterMap fun n =>
      (files.find? (path ++ "." ++ n.ending)).map (fun text => (n, text))
    match texts with
    | (n, text) :: _ => .found n text
    | [] => .missing

/-- The path of the file that is read if no other is asked for. -/
def standardPath : String := "fedspend"

def pathVariable : String := "FEDSPEND_CONFIG"

/-- The layer of the file: of the path that is asked for, else of the standard one. -/
def fileLayer (files : Files) (asked : Option String) : Except LoadError Entries :=
  match lookUp files (asked.getD standardPath) with
  | .found n text =>
    match n.entries? text with
    | some entries => .ok entries
    | none => .error .sources
  | _ => if asked.isSome then .error .sources else .ok []

/-! ### The layers together -/

/-- Where the settings come from: the variables of the process and the files in reach. -/
structure Surroundings where
  env : Variables
  files : Files
deriving Repr

def environmentPath : String := ".env"

/-- All variables: those of the process, completed by the environment file. -/
def Surroundings.allVariables (s : Surroundings) : Variables :=
  match s.files.find? environmentPath with
  | some text => EnvironmentFile.complete s.env text
  | none => s.env

/-- The path that is asked for: the one given, else the one that the variable names. -/
def Surroundings.askedPath (s : Surroundings) (path : Option String) : Option String :=
  path.or (s.allVariables.lookup pathVariable)

/-- The paths whose files can matter when a path is asked for, or none. -/
def candidatePaths (asked : Option String) : List String :=
  let path := asked.getD standardPath
  path :: Format.all.map (fun n => plainPath path ++ "." ++ n.ending)

/-- The settings of the layers. -/
def load (s : Surroundings) (path : Option String) : Except LoadError Config := do
  let file ← fileLayer s.files (s.askedPath path)
  let layers := (defaultLayer.overlayLayer file).overlayLayer (Setting.variableLayer s.allVariables)
  match read? lenient layers with
  | some config => .ok config
  | none => .error .types

def loadEvents (s : Surroundings) (path : Option String) (config : Config) : List Log.Event :=
  let file := match s.askedPath path with
    | some path => "Some(" ++ Text.quoted path ++ ")"
    | none => "None"
  [{ level := .debug
     target := "fedspend::config"
     message := "Configuration loaded"
     fields := [("file", .plain file), ("datasets", .number config.datasets.length)] }]

end DatasetSearch.Config
