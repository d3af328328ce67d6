import BuildInjection.Check
import BuildInjection.Goal

/-!
# Options

The options of the command line.  An option may be given in full (`--goal inject`,
`--goal=inject`) or by its letter (`-g inject`, `-ginject`, `-g=inject`), and letters of options
without a value may be written together.

An option whose value is still to come, or has come as an argument of its own, is settled only when
the next option is met or the arguments end.  This decides which of two faults is reported.
-/

namespace BuildInjection.CommandLine

/-- What the command line asks for. -/
structure Options where
  /-- The path of the project file. -/
  project : String := "project.toml"
  /-- The names of the goals to run; without any, the project file names them. -/
  goals : List String := []
  /-- A key prefix for every goal, in place of those of the project file. -/
  keyPrefix : Option String := none
  /-- The directory of the output. -/
  outputPath : String := "./output"
  /-- Run, but write nothing. -/
  dryRun : Bool := false
  /-- Log more. -/
  verbose : Bool := false
  /-- Log as JSON. -/
  logJson : Bool := false
deriving DecidableEq, Repr, Inhabited

/-- Why arguments are not options. -/
inductive UsageFault where
  /-- An argument that is no option, or a value without one. -/
  | unknownArgument
  /-- An option whose value is not given. -/
  | missingValue
  /-- An option that may be given once was given again. -/
  | givenTwice
  /-- A value is attached to an option that takes none. -/
  | unneededValue
  /-- Not a fault: help was asked for. -/
  | helpRequested
deriving DecidableEq, Repr

/-- The options that there are. -/
inductive OptionName where
  | project
  | goal
  | keyPrefix
  | outputPath
  | dryRun
  | verbose
  | logJson
  | help
deriving DecidableEq, Repr

namespace OptionName

/-- Every option. -/
def all : List OptionName :=
  [.project, .goal, .keyPrefix, .outputPath, .dryRun, .verbose, .logJson, .help]

/-- The full name of an option. -/
def long : OptionName → String
  | .project => "project"
  | .goal => "goal"
  | .keyPrefix => "prefix"
  | .outputPath => "output-path"
  | .dryRun => "dry-run"
  | .verbose => "verbose"
  | .logJson => "log-json"
  | .help => "help"

/-- The letter of an option, if it has one. -/
def letter? : OptionName → Option Char
  | .project => some 'p'
  | .goal => some 'g'
  | .verbose => some 'v'
  | .help => some 'h'
  | _ => none

/-- Whether an option takes a value. -/
def takesValue : OptionName → Bool
  | .project | .goal | .keyPrefix | .outputPath => true
  | .dryRun | .verbose | .logJson | .help => false

/-- The option of a full name. -/
def ofLong? (name : String) : Option OptionName := all.find? (·.long = name)

/-- The option of a letter. -/
def ofLetter? (c : Char) : Option OptionName := all.find? (·.letter? = some c)

end OptionName

/-- Options that are being read. -/
structure Reading where
  /-- What has been settled. -/
  options : Options := {}
  /-- The options that have been settled and may be given once. -/
  given : List OptionName := []
  /-- The option that is not settled yet, with its value as soon as that has come. -/
  pending : Option (OptionName × Option String) := none

namespace Reading

/-- The options with a value in its place. -/
def assign (o : Options) (value : String) : OptionName → Options
  | .project => { o with project := value }
  | .goal => { o with goals := o.goals ++ [value] }
  | .keyPrefix => { o with keyPrefix := some value }
  | .outputPath => { o with outputPath := value }
  | .dryRun => { o with dryRun := true }
  | .verbose => { o with verbose := true }
  | .logJson => { o with logJson := true }
  | .help => o

/-- Take an option as given, when nothing is pending.  Only the goal may be given again. -/
def settleOne (r : Reading) (name : OptionName) (value : Option String) :
    Except UsageFault Reading :=
  if name.takesValue && value.isNone then .error .missingValue
  -- help is looked at before repetition, so asking twice is no fault
  else if name = .help then .error .helpRequested
  else if name ∈ r.given then .error .givenTwice
  else .ok { r with
    options := assign r.options (value.getD "") name
    -- goals add up, so they are never remembered as given
    given := if name = .goal then r.given else name :: r.given }

/-- Settle what is pending. -/
def settle (r : Reading) : Except UsageFault Reading :=
  match r.pending with
  | none => .ok r
  -- an option that still waits for its value is a fault only now
  | some (name, value) => { r with pending := none }.settleOne name value

/-- Settle what is pending, and then an option. -/
def take (r : Reading) (name : OptionName) (value : Option String) : Except UsageFault Reading :=
  r.settle.bind (·.settleOne name value)

/-- Settle what is pending, and wait for the value of an option. -/
def await (r : Reading) (name : OptionName) : Except UsageFault Reading :=
  r.settle.map fun r => { r with pending := some (name, none) }

/-- Read an argument that names an option in full; `attached` is what follows an equals sign. -/
def readLong (r : Reading) (name : String) (attached : Option String) :
    Except UsageFault Reading :=
  match OptionName.ofLong? name with
  | none => .error .unknownArgument
  | some name =>
    match name.takesValue, attached with
    | true, some value => r.take name (some value)
    | true, none => r.await name
    | false, some _ => .error .unneededValue
    | false, none => r.take name none

/-- Read the letters of an argument; an option with a value takes the letters after it. -/
def readLetters : Reading → List Char → Except UsageFault Reading
  | r, [] => .ok r
  | r, c :: cs =>
    match OptionName.ofLetter? c with
    | none => .error .unknownArgument
    | some name =>
      if name.takesValue then
        match cs with
        | [] => r.await name
        -- an equals sign after the letter does not belong to the value
        | '=' :: value => r.take name (some (String.ofList value))
        | value => r.take name (some (String.ofList value))
      -- a letter without a value leaves the others to be read as letters
      else (r.take name none).bind (·.readLetters cs)

/-- Read an argument that is no option: the value of the option that waits for one. -/
def readValue (r : Reading) (value : String) : Except UsageFault Reading :=
  match r.pending with
  | some (name, none) => .ok { r with pending := some (name, some value) }
  -- no option waits, or the one that does has its value already
  | _ => .error .unknownArgument

/-- Read one argument other than `--`. -/
def readArgument (r : Reading) (argument : String) : Except UsageFault Reading :=
  match argument.toList with
  | '-' :: '-' :: s =>
    r.readLong (String.ofList (s.takeWhile (· != '=')))
      ((s.dropWhile (· != '=')).tail?.map String.ofList)
  -- a hyphen alone is a value
  | '-' :: c :: cs => r.readLetters (c :: cs)
  | _ => r.readValue argument

/-- Read all arguments.  After `--` nothing is an option, and there is no place for anything
    else. -/
def readAll : Reading → List String → Except UsageFault Reading
  | r, [] => r.settle
  | r, argument :: arguments =>
    if argument = "--" then
      -- the program takes no arguments besides options
      if arguments.isEmpty then r.settle else .error .unknownArgument
    else (r.readArgument argument).bind (·.readAll arguments)

end Reading

namespace Options

/-- The options that arguments give. -/
def ofArguments (arguments : List String) : Except UsageFault Options :=
  (Reading.readAll {} arguments).map (·.options)

/-- Each of some names is the name of a goal. -/
def checkGoals : List String → Except Error Unit
  | [] => .ok ()
  | name :: names => (Check.oneOf "goal" name Goal.names).bind fun _ => checkGoals names

/-- The paths are usable and the goals are known. -/
def validate (o : Options) : Except Error Unit :=
  (Check.path "project" o.project).bind fun _ =>
    (Check.path "output_path" o.outputPath).bind fun _ => checkGoals o.goals

end Options

end BuildInjection.CommandLine
