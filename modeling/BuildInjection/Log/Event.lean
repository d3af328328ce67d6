import BuildInjection.ConfigTree.Printer
import BuildInjection.EarModule
import BuildInjection.Injection.Outcome
import BuildInjection.Log.Detail

/-!
# Events

Everything that a run reports to its log, each report with its level and its wording.
-/

namespace BuildInjection

/-- How much a report matters, the most important first. -/
inductive Level where
  | error
  | warn
  | info
  | debug
deriving DecidableEq, Repr

namespace Level

/-- The name of a level in the log. -/
def name : Level → String
  | .error => "ERROR"
  | .warn => "WARN"
  | .info => "INFO"
  | .debug => "DEBUG"

/-- The place of a level in the order of importance. -/
def rank : Level → Nat
  | .error => 1
  | .warn => 2
  | .info => 3
  | .debug => 4

end Level

/-- A report to the log. -/
inductive Event where
  /-- A goal is about to run. -/
  | started (goal : Goal)
  /-- The key prefix with which it runs. -/
  | keyPrefix (value : Option String)
  /-- The key prefix cannot be used. -/
  | prefixRefused (error : Error)
  /-- The number of active profiles. -/
  | activeProfiles (count : Nat)
  /-- A plugin is looked at. -/
  | pluginExamined (groupId artifactId : String)
  /-- The configuration that cannot take modules. -/
  | configurationRefused (configuration : Option Configuration)
  /-- The number of modules that the configuration has. -/
  | modulesConfigured (count : Nat)
  /-- The properties of a profile. -/
  | properties (profile : String) (values : Properties)
  /-- A property is looked at. -/
  | propertyExamined (key : String)
  /-- A property is selected. -/
  | propertySelected (key value : String)
  /-- A spec of a selected property. -/
  | specFound (goal : Goal) (spec : String)
  /-- The dependency that a spec describes. -/
  | dependencyRead (dependency : Dependency)
  /-- The node of the module that a spec describes. -/
  | moduleRead (tree : ConfigTree)
  /-- A spec is left out. -/
  | specLeftOut (fault : SpecFault)
  /-- The numbers of items to inject and of specs left out. -/
  | batch (count leftOut : Nat)
  /-- The dependencies to inject. -/
  | dependencyBatch (dependencies : List Dependency)
  /-- The nodes to inject. -/
  | moduleBatch (trees : List ConfigTree)
  /-- A dependency was injected. -/
  | dependencyInjected (dependency : Dependency)
  /-- The module of a spec was injected. -/
  | moduleInjected (spec : String)
  /-- A goal does nothing. -/
  | noOp (reason : NoOp)
  /-- A goal has run and injected something or nothing. -/
  | goalExecuted (goal : Goal) (count leftOut : Nat)
  /-- A goal has run and done nothing. -/
  | goalSkipped (goal : Goal) (reason : NoOp)
  /-- A goal has failed. -/
  | goalFailed (goal : Goal) (error : Error)
  /-- Goals are about to run on a project. -/
  | running (goals : Nat) (artifactId : String)
  /-- A file of the output was written. -/
  | saved (file : String)
  /-- Nothing is written because nothing was to be written. -/
  | dryRun
  /-- The configuration of a plugin of the project file is no tree. -/
  | notATree (groupId artifactId : String)
  /-- The program starts. -/
  | programStarted
  /-- The options of the command line. -/
  | options (options : CommandLine.Options)
  /-- The options cannot be used. -/
  | optionsRefused (error : Error)
  /-- What to look at. -/
  | suggestion (error : Error)
  /-- A project file is about to be read. -/
  | loading (path : String)
  /-- A project file cannot be used. -/
  | loadFailed (path : String) (error : Error)
  /-- The summary follows. -/
  | summaryFollows
  /-- A line of the summary. -/
  | summaryLine (key : String) (value : Json)
  /-- The program has done its work. -/
  | completed
  /-- The program has failed. -/
  | failed (error : Error)
  /-- What to do about the failure. -/
  | recovery (error : Error)

namespace Event

/-- The level of a report. -/
def level : Event → Level
  -- of the reasons to do nothing only this one may be intended
  | .noOp .noActiveProfiles => .warn
  | .notATree _ _ => .warn
  | .noOp _ | .specLeftOut _ | .goalFailed _ _ | .optionsRefused _ | .suggestion _
  | .loadFailed _ _ | .failed _ | .recovery _ => .error
  | .started _ | .dependencyInjected _ | .moduleInjected _ | .goalExecuted _ _ _
  | .goalSkipped _ _ | .running _ _ | .saved _ | .dryRun | .programStarted | .loading _
  | .summaryFollows | .summaryLine _ _ | .completed => .info
  | .keyPrefix _ | .prefixRefused _ | .activeProfiles _ | .pluginExamined _ _
  | .configurationRefused _ | .modulesConfigured _ | .properties _ _ | .propertyExamined _
  | .propertySelected _ _ | .specFound _ _ | .dependencyRead _ | .moduleRead _ | .batch _ _
  | .dependencyBatch _ | .moduleBatch _ | .options _ => .debug

/-- The part of the program that makes a report, by the name that filters know. -/
def part : Event → String
  | .started _ | .keyPrefix _ | .prefixRefused _ | .activeProfiles _ | .noOp _ | .specFound _ _
  | .specLeftOut _ | .batch _ _ => "profile_inject::core::engine"
  | .properties _ _ | .propertyExamined _ | .propertySelected _ _ =>
    "profile_inject::core::selector"
  | .dependencyRead _ => "profile_inject::core::grammar"
  | .moduleRead _ => "profile_inject::core::builder"
  | .pluginExamined _ _ | .configurationRefused _ | .modulesConfigured _ | .moduleBatch _
  | .moduleInjected _ => "profile_inject::app::pipelines::ear_module_pipeline"
  | .dependencyBatch _ | .dependencyInjected _ =>
    "profile_inject::app::pipelines::dependency_pipeline"
  | .goalExecuted _ _ _ | .goalSkipped _ _ | .goalFailed _ _ =>
    "profile_inject::app::pipelines::sequence"
  | .running _ _ | .saved _ | .dryRun => "profile_inject::app::runner"
  | .notATree _ _ => "profile_inject::config::project_config"
  | .programStarted | .options _ | .optionsRefused _ | .suggestion _ | .loading _
  | .loadFailed _ _ | .summaryFollows | .summaryLine _ _ | .completed | .failed _
  | .recovery _ => "profile_inject"

/-- The wording of a report.  What depends on a clock or on the reader's own words for a fault of
    the text is an underscore. -/
def message : Event → String
  | .started goal => s!"Injecting profile {goal.subject}"
  | .keyPrefix value => s!"prefix = {Log.optionalText value}"
  | .prefixRefused error => s!"prefix check: {error.message}"
  | .activeProfiles count => s!"{count} active profile(s)"
  | .pluginExamined groupId artifactId => s!"plugin = {groupId}:{artifactId}"
  | .configurationRefused configuration =>
    s!"configuration = {Text.optionForm Log.configuration configuration}"
  | .modulesConfigured count => s!"{count} module(s) already configured"
  | .properties profile values =>
    s!"{values.size} properties of '{profile}' = {Log.properties values}"
  | .propertyExamined key => s!"property key = {key}"
  | .propertySelected key value => s!"Find matching property: {key} = {value}"
  | .specFound goal spec => s!"{goal.name} specification = {spec}"
  | .dependencyRead dependency => s!"dependency instance = {Log.dependency dependency}"
  | .moduleRead tree => s!"module config = {tree.render}"
  | .specLeftOut fault => fault.message
  | .batch count leftOut => s!"{count} item(s) to inject, {leftOut} skipped"
  | .dependencyBatch dependencies =>
    s!"injected dependencies = {Text.listForm Log.dependency dependencies}"
  | .moduleBatch trees =>
    "injected modules = " ++ Text.listForm (fun t => Text.quoted t.render) trees
  | .dependencyInjected dependency => s!"* {dependency.display}"
  | .moduleInjected spec => s!"* {spec}"
  | .noOp reason => reason.message
  | .goalExecuted goal count leftOut =>
    s!"✅ Goal executed: {goal.name} (injected: {count}, skipped: {leftOut}, duration: _)"
  | .goalSkipped goal reason => s!"⏭️ Goal skipped: {goal.name} ({reason.message})"
  | .goalFailed goal error => s!"❌ Goal execution failed: {goal.name}: {error.message}"
  | .running goals artifactId => s!"🚀 Running {goals} goal(s) on {artifactId}"
  | .saved file => s!"📁 Output saved: {file}"
  | .dryRun => "🔍 Dry run, nothing written"
  | .notATree groupId artifactId =>
    s!"Configuration of {groupId}:{artifactId} is not a configuration tree: _"
  | .programStarted => "Starting profile-inject CLI"
  | .options o => s!"CLI config: {Log.options o}"
  | .optionsRefused error => s!"❌ Configuration validation failed: {error.message}"
  | .suggestion error => s!"💡 Suggestion: {error.suggestion}"
  | .loading path => s!"📄 Loading project: {path}"
  | .loadFailed path error => s!"❌ Failed to load project {path}: {error.message}"
  | .summaryFollows => "📊 Execution summary:"
  | .summaryLine key value => s!"  {key}: {value.compact}"
  | .completed => "✅ Injection completed successfully!"
  | .failed error =>
    s!"❌ Injection failed: {error.message} (Category: {error.category.name}, " ++
      s!"Severity: {error.severity.name})"
  | .recovery error => s!"💡 Recovery suggestion: {error.suggestion}"

end Event

end BuildInjection
