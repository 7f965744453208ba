import DatasetSearch.Config.DatabaseUrl
import DatasetSearch.Config.Load
import DatasetSearch.Log.Directives
import DatasetSearch.Log.File
import DatasetSearch.Log.Line
import DatasetSearch.Server.CommandLine
import DatasetSearch.Service.Error

/-!
# Starting the server

From the command line to the connection with the warehouse: what is logged on the way, and what can
stop it.  Nothing is logged before the settings are known to be acceptable.
-/

namespace DatasetSearch.Server

/-- What stops the start: a text, and the text of what caused it. -/
structure Failure where
  message : String
  cause : Option String
deriving DecidableEq, Repr

/-- Where and how events are logged. -/
structure LogSetup where
  directives : List Log.Directive
  json : Bool
  /-- The directory, the rotation and the start of the name of the log file. -/
  file : Option (String × Log.Rotation × String)
deriving Repr

/-- What keeps the directory of the log files from being made: a file in its place, or in the place
of a directory above it. -/
inductive DirectoryFault where
  | taken
  | underFile
deriving DecidableEq, Repr

def DirectoryFault.message : DirectoryFault → String
  | .taken => "File exists (os error 17)"
  | .underFile => "Not a directory (os error 20)"

/-- The paths of the directories above a path, and its own. -/
def pathsTo (path : String) : List String :=
  let segments := Text.split '/' path
  (List.range segments.length).map (fun count => Text.join "/" (segments.take (count + 1)))

/-- What keeps a directory from being made among files, if anything does. -/
def directoryFault? (files : Config.Files) (directory : String) : Option DirectoryFault :=
  let path := Config.plainPath directory
  if (files.find? path).isSome then some .taken
  else if (pathsTo path).any (fun above => (files.find? above).isSome) then some .underFile
  else none

/-- What keeps the log from being set up among files, if anything does. -/
def LogSetup.fault? (log : LogSetup) (files : Config.Files) : Option DirectoryFault :=
  log.file.bind (fun (directory, _, _) => directoryFault? files directory)

/-- How far the start went. -/
structure Start where
  /-- The log, once it is set up. -/
  log : Option LogSetup
  events : List Log.Event
  /-- What stopped the start before the connection to the warehouse. -/
  failure : Option Failure
deriving Repr

def directivesVariable : String := "RUST_LOG"

def logSetup (logging : Config.Logging) (env : Config.Variables) : LogSetup where
  directives := Log.directivesFor (env.lookup directivesVariable) logging.level
  json := logging.json
  file :=
    if logging.fileEnabled then
      some (logging.fileDirectory, Log.Rotation.ofName logging.fileRotation, logging.fileStem)
    else none

def loggingEvent (logging : Config.Logging) : Log.Event where
  level := .info
  target := "fedspend::logging"
  message := "Logging initialized"
  fields :=
    [("service_name", .plain logging.serviceName), ("json", .flag logging.json),
      ("file_enabled", .flag logging.fileEnabled)]

def startingEvent : Log.Event where
  level := .info
  target := "fedspend_server"
  message := "Starting fedspend server"
  fields := [("version", .quoted programVersion)]

def settingsEvent (config : Config) (address : ListenAddress) : Log.Event where
  level := .info
  target := "fedspend_server"
  message := "Configuration loaded"
  fields :=
    [("listen_addr", .plain address.text),
      ("datasets", .plain (Text.quotedList (config.datasets.map (·.1)))),
      ("cache_ttl_seconds", .number config.cache.defaultTtlSeconds.toNat)]

/-- The error of a database whose address is wrong. -/
def databaseFault? (url : String) : Option Service.Error :=
  (Config.DatabaseUrl.fault? url).map
    (fun fault => .database ("error with configuration: " ++ fault.message))

/-- The start with acceptable settings, once the log is set up. -/
def startLogging (config : Config) (log : LogSetup) : Start :=
  let early := [loggingEvent config.logging, startingEvent]
  match config.listenAddress? with
  | none =>
    ⟨some log, early, some ⟨"Failed to determine socket address", some config.listenAddressFault⟩⟩
  | some address =>
    let failure := (databaseFault? config.database.url).map
      (fun error => ⟨"Failed to initialize application state", some error.text⟩)
    ⟨some log, early ++ [settingsEvent config address], failure⟩

def startWith (config : Config) (surroundings : Config.Surroundings) : Start :=
  let log := logSetup config.logging surroundings.allVariables
  match log.fault? surroundings.files with
  | some fault => ⟨none, [], some ⟨"Failed to initialize logging", some fault.message⟩⟩
  | none => startLogging config log

def start (surroundings : Config.Surroundings) (configPath : Option String) : Start :=
  match Config.load surroundings configPath with
  | .error error => ⟨none, [], some ⟨"Failed to load configuration", some error.message⟩⟩
  | .ok config =>
    match config.validate with
    | .error fault => ⟨none, [], some ⟨"Invalid configuration: " ++ fault.message, none⟩⟩
    | .ok () => startWith config surroundings

def Start.shown (s : Start) : List Log.Event :=
  match s.log with
  | some log => s.events.filter (Log.isShown log.directives)
  | none => []

end DatasetSearch.Server
