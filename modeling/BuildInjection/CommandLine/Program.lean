import BuildInjection.Log.Entry
import BuildInjection.Log.Filter
import BuildInjection.Output
import BuildInjection.ProjectFile.Model
import BuildInjection.ProjectFile.Validation

/-!
# The program

A run from the command line: read the options, load the project file, run the goals, write the
output, and say what came of it.  Everything outside is a parameter: the environment, the reading of
files and the storage.
-/

namespace BuildInjection.CommandLine

/-- Something that the program prints on its standard output, where `ρ` is what stands for a
    report to the log. -/
inductive Print (ρ : Type) where
  /-- A report to the log. -/
  | report (r : ρ)
  /-- The summary, as JSON. -/
  | summary (s : Summary)
  /-- A line of text. -/
  | line (s : String)

/-- How a run ends, where `ρ` is what stands for a report to the log. -/
structure Ending (ρ : Type) where
  /-- The exit code. -/
  exitCode : Nat
  /-- What is printed, in order. -/
  output : List (Print ρ)
  /-- What is printed on the error output. -/
  errors : String := ""

/-- What a run needs from outside, where a storage has a state of type `σ`. -/
structure World (σ : Type) where
  environment : Environment
  /-- The filter for the log, if one is set. -/
  logFilter : Option String
  /-- The bytes of a file. -/
  read : String → Except IoFault (List UInt8)
  /-- The storage in a directory. -/
  storage : String → Storage σ

/-! ## Loading -/

/-- The project file that the bytes of a file hold. -/
def projectFileOfBytes (env : Environment) (bytes : List UInt8) : Except Error ProjectFile :=
  match Text.decodeUtf8 bytes with
  | .error fault =>
    .error (.configuration ("Project file is not valid UTF-8: " ++ fault.message))
  | .ok s => do
    let file ← ProjectFile.ofText env s
    file.validate
    return file

/-- The project file under a path. -/
def load {σ : Type} (world : World σ) (path : String) : Except Error ProjectFile :=
  match world.read path with
  | .error fault => .error (.io fault)
  | .ok bytes => projectFileOfBytes world.environment bytes

/-! ## Running -/

namespace Options

/-- The goals to run: those of the command line, or else those of the project file. -/
def chosenGoals (o : Options) (file : ProjectFile) : Except Error (List Goal) :=
  if o.goals.isEmpty then file.goals else o.goals.mapM (ProjectFile.goalOfName "goal")

/-- The goals to run, of which there is at least one. -/
def resolveGoals (o : Options) (file : ProjectFile) : Except Error (List Goal) :=
  (o.chosenGoals file).bind fun goals =>
    -- names on the command line are never none, so the project file is to blame
    if goals.isEmpty then .error (.missing "inject.goals") else .ok goals

/-- The key prefix of a goal: that of the command line, or else that of the project file. -/
def resolvePrefix (o : Options) (file : ProjectFile) (g : Goal) : Option String :=
  o.keyPrefix.or (file.prefixFor g)

/-- The steps that goals make. -/
def steps (o : Options) (file : ProjectFile) (goals : List Goal) : List Step :=
  goals.map fun g => ⟨g, o.resolvePrefix file g⟩

end Options

/-- What is reported on a summary. -/
def summaryEvents (s : Summary) : List Event :=
  .summaryFollows :: s.lines.map fun (key, value) => .summaryLine key value

/-- Run the goals on the project of a project file, and write the output unless nothing is to be
    written. -/
def inject {σ : Type} (world : World σ) (o : Options) (file : ProjectFile) (s : σ) :
    Logged (Except Error Report × σ) :=
  match o.resolveGoals file with
  | .error e => pure (.error e, s)
  | .ok goals => do
    let project ← file.toProject
    match project with
    | .error e => pure (.error e, s)
    | .ok project =>
      Sequence.runAndWrite (o.steps file goals) project
        -- without a storage nothing can be written
        (if o.dryRun then none else some (world.storage o.outputPath)) s

/-- What is printed when the goals have run. -/
def printReport (o : Options) (r : Report) : List (Print Event) :=
  let summary := Summary.ofResults r.results
  (summaryEvents summary).map .report ++
    -- where no file is written, the summary is the output
    (if o.dryRun then [.summary summary] else []) ++
    r.written.map (fun file => .line s!"📁 Output saved to: {o.outputPath}/{file}") ++
    [.report .completed, .line Event.completed.message]

/-- What is printed on the error output for an error. -/
def errorLine (e : Error) : String := s!"❌ {e.friendly}\n"

/-- What is printed on the error output for what to do about an error. -/
def recoveryLine (e : Error) : String := s!"💡 建議: {e.suggestion}\n"

/-- The exit code for an error in a run. -/
def exitCodeOf (e : Error) : Nat :=
  match e.severity with
  | .medium => 2
  | .high => 1
  | .critical => 3

/-- The end of a run that does not get as far as the goals. -/
def refused (event e : Error → Event) (output : List (Print Event)) (error : Error) :
    Ending Event where
  exitCode := 1
  output := output ++ [.report (event error), .report (e error)]
  errors := errorLine error

/-- The end of a run whose goals have been run, where `output` was printed before. -/
def finish (o : Options) (output : List (Print Event)) : Except Error Report → Ending Event
  | .ok r => { exitCode := 0, output := output ++ printReport o r }
  | .error e => {
      exitCode := exitCodeOf e
      output := output ++ [.report (.failed e), .report (.recovery e)]
      errors := errorLine e ++ recoveryLine e }

/-- Run the program with some options. -/
def runOptions {σ : Type} (world : World σ) (o : Options) (s : σ) : Ending Event × σ :=
  let opening : List (Print Event) :=
    .report .programStarted :: if o.verbose then [.report (.options o)] else []
  match o.validate with
  | .error e => (refused .optionsRefused .suggestion opening e, s)
  | .ok () =>
    let opening := opening ++ [.report (.loading o.project)]
    match load world o.project with
    | .error e => (refused (.loadFailed o.project) .suggestion opening e, s)
    | .ok file =>
      let ⟨(result, s), events⟩ := inject world o file s
      (finish o (opening ++ events.map .report) result, s)

/-- What is shown of the output under a filter for the log, as JSON or in plain form. -/
def shownOutput (f : Log.Filter) (json : Bool) (output : List (Print Event)) :
    List (Print Log.Entry) :=
  output.flatMap fun
    | .report e =>
      if f.shows e then
        let (entry, lines) := Log.entry json e
        -- the further lines of a report stand outside the log
        .report entry :: lines.map .line
      else []
    | .summary s => [.summary s]
    | .line s => [.line s]

/-- What is shown of the end of a run with some options. -/
def shownEnding (filterText : Option String) (o : Options) (ending : Ending Event) :
    Ending Log.Entry :=
  { ending with output := shownOutput (.forRun filterText o) o.logJson ending.output }

/-- Run the program on arguments.  Arguments that are not options, or ask for help, are answered
    without a run. -/
def run {σ : Type} (world : World σ) (arguments : List String) (s : σ) :
    Except UsageFault (Ending Log.Entry × σ) :=
  (Options.ofArguments arguments).map fun o =>
    let (ending, s) := runOptions world o s
    (shownEnding world.logFilter o ending, s)

/-- The exit code for arguments that are answered without a run. -/
def UsageFault.exitCode : UsageFault → Nat
  | .helpRequested => 0
  | _ => 2

end BuildInjection.CommandLine
