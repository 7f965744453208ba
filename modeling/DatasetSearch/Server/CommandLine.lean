import DatasetSearch.Text.Pieces
import DatasetSearch.Text.Similarity

/-!
# The command line

One option names the configuration file; two flags ask for help and for the version, and end the
reading of the command line where they stand.
-/

namespace DatasetSearch.Server

def programName : String := "fedspend-server"

def programVersion : String := "0.1.0"

namespace CommandLine

/-- What the program is asked to do. -/
inductive Request where
  | help
  | version
  /-- Serve with the settings of a file; without a path it is looked for. -/
  | serve (configPath : Option String)
deriving DecidableEq, Repr

/-- The options. -/
inductive Flag where
  | config
  | help
  | version
deriving DecidableEq, Repr

namespace Flag

def all : List Flag := [.config, .help, .version]

def long : Flag → String
  | .config => "config"
  | .help => "help"
  | .version => "version"

def letter : Flag → Char
  | .config => 'c'
  | .help => 'h'
  | .version => 'V'

/-- How an option is written. -/
def usage : Flag → String
  | .config => "--config <CONFIG>"
  | .help => "--help"
  | .version => "--version"

end Flag

/-- What is wrong with a command line. -/
inductive Fault where
  /-- An argument that means nothing; `used` are the options on the usage line. -/
  | unexpected (argument : String) (suggestion : Option Flag) (used : List Flag)
  /-- The option for the configuration file has no value. -/
  | missingValue
  | unwantedValue (flag : Flag) (value : String) (used : List Flag)
deriving DecidableEq, Repr

/-! ### Reading -/

/-- A command line read so far. -/
structure Progress where
  path : Option String
  /-- Whether the option has been settled, with a value or without. -/
  settled : Bool
  /-- The option as last given, if it is not settled: it awaits its value, or has it. -/
  pending : Option (Option String)

/-- The command line before its first argument. -/
def Progress.start : Progress := ⟨none, false, none⟩

/-- The options on the usage line. -/
def Progress.used (p : Progress) : List Flag :=
  if p.settled ∨ p.pending.isSome then [.config] else []

/-- The command line with a value for the option; the empty text is none. -/
def Progress.assign (value : String) : Except Fault Progress :=
  if value = "" then .error .missingValue else .ok ⟨some value, true, none⟩

/-- The command line with nothing pending: a value is settled, and an option that awaits its value
is left without one. -/
def Progress.settle (p : Progress) : Except Fault Progress :=
  match p.pending with
  | none => .ok p
  | some (some value) => assign value
  | some none => .ok ⟨none, true, none⟩

/-- The request of a whole command line.  An option without a value is at fault. -/
def Progress.finish (p : Progress) : Except Fault Request := do
  let p ← p.settle
  if p.settled ∧ p.path.isNone then .error .missingValue else .ok (.serve p.path)

/-- The part of similarity beyond which a name is suggested. -/
def suggestionLimit : Text.Share := ⟨4, 5⟩

def suggestion? (name : String) : Option Flag :=
  (Text.mostSimilar? suggestionLimit name (Flag.all.map Flag.long)).bind
    (fun long => Flag.all.find? (·.long == long))

def stray (argument : String) : Fault := .unexpected argument none []

/-- The fault of a long name that means nothing. -/
def Progress.strayName (p : Progress) (name : String) : Fault :=
  let suggestion := suggestion? name
  let more := suggestion.toList.filter (fun flag => !p.used.contains flag)
  .unexpected ("--" ++ name) suggestion (p.used ++ more)

/-- What becomes of an argument: the reading goes on, or ends with a request. -/
abbrev Step := Except Fault (Request ⊕ Progress)

/-- An option without a value attached to it. -/
def Progress.option (p : Progress) (flag : Flag) : Step :=
  match flag with
  | .config => p.settle.map (fun p => .inr { p with pending := some none })
  | .help => p.settle.map (fun _ => .inl .help)
  | .version => p.settle.map (fun _ => .inl .version)

/-- An argument that begins with two dashes, without these. -/
def Progress.long (p : Progress) (argument : List Char) : Step :=
  let name := String.ofList (argument.takeWhile (· ≠ '='))
  let attached := match argument.dropWhile (· ≠ '=') with
    | '=' :: value => some (String.ofList value)
    | _ => none
  match Flag.all.find? (·.long == name), attached with
  | none, _ => .error (p.strayName name)
  | some .config, some value => do
    let _ ← p.settle
    (Progress.assign value).map .inr
  | some flag, some value =>
    .error (.unwantedValue flag value (if p.settled then [.config] else []))
  | some flag, none => p.option flag

/-- An argument that begins with one dash, without it: a letter, and for the configuration file a
value attached to it, with or without an equals sign. -/
def Progress.letters (p : Progress) : List Char → Step
  | [] => .ok (.inr p)
  | c :: rest =>
    match Flag.all.find? (·.letter == c) with
    | none => .error (stray (String.ofList ['-', c]))
    | some .config =>
      match rest with
      | [] => p.option .config
      | _ => do
        let _ ← p.settle
        let value := if rest.head? = some '=' then rest.drop 1 else rest
        (Progress.assign (String.ofList value)).map .inr
    | some flag => p.option flag

/-- An argument that is no option: the value that is awaited, or nothing. -/
def Progress.plain (p : Progress) (argument : String) : Step :=
  match p.pending with
  | some none => .ok (.inr { p with pending := some (some argument) })
  | _ => .error (stray argument)

/-- The request of the arguments that are left.  After two dashes alone no argument is expected. -/
def Progress.read (p : Progress) : List String → Except Fault Request
  | [] => p.finish
  | argument :: rest =>
    let step : Step := match argument.toList with
      | '-' :: '-' :: name => p.long name
      | '-' :: c :: letters => p.letters (c :: letters)
      | _ => p.plain argument
    if argument = "--" then
      match rest with
      | [] => p.finish
      | next :: _ => .error (stray next)
    else
      match step with
      | .error fault => .error fault
      | .ok (.inl request) => .ok request
      | .ok (.inr p) => p.read rest

/-- The request that a command line makes. -/
def request (arguments : List String) : Except Fault Request := Progress.start.read arguments

/-! ### Answers -/

def versionText : String := programName ++ " " ++ programVersion ++ "\n"

def helpText : String :=
  versionText ++
  "Federal spending dataset search server\n\nUSAGE:\n    fedspend-server [OPTIONS]\n\nOPTIONS:\n" ++
  "    -c, --config <CONFIG>    Path to a TOML configuration file\n" ++
  "    -h, --help               Print help information\n" ++
  "    -V, --version            Print version information\n"

/-- The usage line; the options used stand for all of them. -/
def usageLine (used : List Flag) : String :=
  programName ++ " " ++
    (if used.isEmpty then "[OPTIONS]" else Text.join " " (used.map Flag.usage))

def usageText (used : List Flag) : String := "USAGE:\n    " ++ usageLine used

/-- The last line of an error text. -/
def moreText : String := "For more information try --help\n"

def valueHint (argument : String) : String :=
  if Text.startsWith argument "-" then
    "\tIf you tried to supply `" ++ argument ++ "` as a value rather than a flag, use `-- " ++
      argument ++ "`\n\n"
  else ""

def Fault.message : Fault → String
  | .unexpected argument suggestion used =>
    let meant := match suggestion with
      | some flag => "\tDid you mean '--" ++ flag.long ++ "'?\n\n"
      | none => ""
    "error: Found argument '" ++ argument ++
      "' which wasn't expected, or isn't valid in this context\n\n" ++ meant ++
      valueHint argument ++ usageText used ++ "\n\n" ++ moreText
  | .missingValue =>
    "error: The argument '--config <CONFIG>' requires a value but none was supplied\n\n" ++ moreText
  | .unwantedValue flag value used =>
    "error: The value '" ++ value ++ "' was provided to '" ++ flag.usage ++
      "' but it wasn't expecting any more values\n\n" ++ usageLine used ++ "\n\n" ++ moreText

end CommandLine

end DatasetSearch.Server
