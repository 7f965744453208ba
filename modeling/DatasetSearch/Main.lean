import DatasetSearch.Server.Start
import Std.Time.DateTime.Timestamp

/-!
# The program

Reads the command line, the variables and the files, starts the server as far as the connection to
the warehouse, and writes the log and what stopped the start.
-/

namespace DatasetSearch.Main

def fileText? (path : String) : IO (Option String) := do
  try
    return some (Text.Utf8.decodeLossy (← IO.FS.readBinFile path).toList)
  catch _ => return none

/-- The files among the paths that can be read. -/
def filesAt (paths : List String) : IO Config.Files := do
  let texts ← paths.mapM fun path => return (path, ← fileText? path)
  return texts.filterMap (fun (path, text) => text.map (path, ·))

/-- The path under which the system keeps the variables of the process. -/
def variablesPath : String := "/proc/self/environ"

def processVariables : IO Config.Variables := do
  let text := (← fileText? variablesPath).getD ""
  return (Text.split '\x00' text).filterMap fun entry =>
    match (Text.splitChars '=' entry.toList) with
    | name :: value :: rest =>
      some (String.ofList name, Text.join "=" ((value :: rest).map String.ofList))
    | _ => none

def now : IO Log.Moment := do
  let time ← Std.Time.Timestamp.now
  return .ofMicroseconds (time.toNanosecondsSinceUnixEpoch.val / 1000).toNat

/-- Write the events that the log shows, to standard output and to the log file. -/
def writeLog (start : Server.Start) : IO Unit := do
  match start.log with
  | none => return
  | some log =>
    let moment ← now
    let lines := start.shown.map (fun e => e.logLine log.json moment ++ "\n")
    lines.forM IO.print
    match log.file with
    | none => return
    | some (directory, rotation, stem) =>
      IO.FS.createDirAll directory
      let name := rotation.fileName stem moment
      let path := if directory = "" then name else directory ++ "/" ++ name
      let file ← IO.FS.Handle.mk path .append
      lines.forM file.putStr

/-- What is written of a failure: its text, and the text of its cause. -/
def failureText (failure : Server.Failure) : String :=
  "Error: " ++ failure.message ++ "\n" ++
    ((failure.cause.map (fun cause => "\nCaused by:\n    " ++ cause ++ "\n")).getD "")

/-- Start the server; yields the exit code. -/
def serve (configPath : Option String) : IO UInt32 := do
  let bare : Config.Surroundings := ⟨← processVariables, ← filesAt [Config.environmentPath]⟩
  let settings ← filesAt (Config.candidatePaths (bare.askedPath configPath))
  let files := bare.files ++ settings
  let directory := ((Server.start ⟨bare.env, files⟩ configPath).log.bind (·.file)).map (·.1)
  let inTheWay ← filesAt ((directory.map Server.pathsTo).getD [])
  let start := Server.start ⟨bare.env, files ++ inTheWay⟩ configPath
  writeLog start
  match start.failure with
  | some failure =>
    IO.eprint (failureText failure)
    return 1
  | none => return 0

/-- Do what the command line asks for; yields the exit code. -/
def run (arguments : List String) : IO UInt32 := do
  match Server.CommandLine.request arguments with
  | .error fault =>
    IO.eprint fault.message
    return 2
  | .ok .help =>
    IO.print Server.CommandLine.helpText
    return 0
  | .ok .version =>
    IO.print Server.CommandLine.versionText
    return 0
  | .ok (.serve configPath) => serve configPath

end DatasetSearch.Main

/-- The program. -/
def main (arguments : List String) : IO UInt32 := DatasetSearch.Main.run arguments
