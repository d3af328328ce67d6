import BuildInjection.CommandLine.Program
import BuildInjection.FileSystem.Path

/-!
# The executable

Reads the arguments, the environment and the project file, runs the program, writes the files and
prints the output.  A run is computed twice: once with a storage that takes everything, which tells
what is to be written, and once with the answers that the writing gave.
-/

namespace BuildInjection.Main

open CommandLine

/-- The fault that a failed access to a file shows. -/
def faultOf : IO.Error → IoFault
  | .noFileOrDirectory _ _ _ => .notFound
  | .alreadyExists _ _ _ => .alreadyExists
  | .inappropriateType _ _ _ => .notADirectory
  | e => .other (toString e)

/-- The bytes of a file. -/
def readBytes (path : String) : IO (Except IoFault (List UInt8)) := do
  try
    let bytes ← IO.FS.readBinFile path
    return .ok bytes.toList
  catch e => return .error (faultOf e)

/-- Write a file, and make the directory that it is in. -/
def writeText (directory name text : String) : IO (Except IoFault Unit) := do
  try
    IO.FS.createDirAll directory
    IO.FS.writeFile (Path.join directory name) text
    return .ok ()
  catch e => return .error (faultOf e)

/-- A storage that answers from a list, and takes everything when the list is at its end.  It
    records what was written. -/
def scripted : Storage (List (Except IoFault Unit) × List (String × String)) where
  write name text
    | ([], files) => (.ok (), ([], files ++ [(name, text)]))
    | (answer :: answers, files) => (answer, (answers, files ++ [(name, text)]))

/-- Write files in order up to the first fault, and collect the answers. -/
def writeAll (directory : String) : List (String × String) → IO (List (Except IoFault Unit))
  | [] => return []
  | (name, text) :: files => do
    match ← writeText directory name text with
    | .ok () => return .ok () :: (← writeAll directory files)
    | .error fault => return [.error fault]

/-- The variables to which the texts of a project file refer, as far as they are set. -/
def readEnvironment (file : Except IoFault (List UInt8)) : IO Environment := do
  -- a text that cannot be read refers to nothing
  let names := match file.toOption.bind fun bytes => (Text.decodeUtf8 bytes).toOption with
    | some s => (((Toml.read s).toOption).map Environment.namesOfEntries).getD []
    | none => []
  let mut set : List (String × String) := []
  for name in names do
    if let some value ← IO.getEnv name then
      set := (name, value) :: set
  let pairs := set
  return fun name => (pairs.find? (·.1 = name)).map Prod.snd

/-- Print something that a run prints; a report is one line, plain or as JSON. -/
def display (json : Bool) : Print Log.Entry → String
  | .report e =>
    if json then
      (Json.object [("level", .string e.level.name),
        ("fields", .object [("message", .string e.text)])]).compact
    else s!"{e.level.name} {e.text}"
  | .summary s => s.toJson.pretty
  | .line s => s

/-- The options in short. -/
def usage : String :=
  "Usage: profile-inject [-p|--project FILE] [-g|--goal GOAL]... [--prefix PREFIX] " ++
    "[--output-path DIRECTORY] [--dry-run] [-v|--verbose] [--log-json] [-h|--help]"

/-- Run the program with options that have been read. -/
def runWith (o : Options) (arguments : List String) : IO UInt32 := do
  let file ← readBytes (Path.join "." o.project)
  let world := {
    environment := ← readEnvironment file
    logFilter := ← IO.getEnv "PROFILE_INJECT_LOG"
    read := fun _ => file
    storage := fun _ => scripted : World _ }
  match run world arguments ([], []) with
  | .error fault => return fault.exitCode.toUInt32
  | .ok (_, _, files) =>
    -- the first run has told which files there are
    let answers ← writeAll o.outputPath files
    match run world arguments (answers, []) with
    | .error fault => return fault.exitCode.toUInt32
    | .ok (ending, _) =>
      for print in ending.output do
        IO.println (display o.logJson print)
      IO.eprint ending.errors
      return ending.exitCode.toUInt32

/-- Read the options and run the program with them. -/
def start (arguments : List String) : IO UInt32 := do
  match Options.ofArguments arguments with
  | .ok o => runWith o arguments
  | .error fault =>
    if fault = .helpRequested then IO.println usage else IO.eprintln usage
    return fault.exitCode.toUInt32

end BuildInjection.Main

/-- The program. -/
def main (arguments : List String) : IO UInt32 := BuildInjection.Main.start arguments
