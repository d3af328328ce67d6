import BuildInjection.Injection.Outcome
import BuildInjection.Log.Logged

/-!
# Where modules go

Modules are injected into the first node named `modules` in the configuration of the first plugin
that packs enterprise archives.
-/

namespace BuildInjection.Target

/-- The group of the EAR plugin. -/
def groupId : String := "org.apache.maven.plugins"

/-- The artifact of the EAR plugin. -/
def artifactId : String := "maven-ear-plugin"

/-- The name of the node that holds the modules. -/
def nodeName : String := "modules"

/-- Whether a plugin is the EAR plugin. -/
def isTarget (p : Plugin) : Bool := p.hasId groupId artifactId

/-- The plugins up to the first EAR plugin, which is the last of them if there is one. -/
def examined : List Plugin → List Plugin
  | [] => []
  | p :: ps => if isTarget p then [p] else p :: examined ps

/-- What is reported when the EAR plugin is looked for. -/
def searchEvents (plugins : List Plugin) : List Event :=
  (examined plugins).map fun p => .pluginExamined p.groupId p.artifactId

/-- There is no EAR plugin. -/
def notFound : NoOp := .pluginNotFound groupId artifactId

/-- What a configuration lacks that has no node for modules. -/
def shapeFault : Option Configuration → ConfigurationFault
  | some (.tree _) => .noModules
  | some (.raw _) => .notATree
  | none => .noConfiguration

/-- The node of a plugin's configuration that holds the modules. -/
def node? (p : Plugin) : Option ConfigTree :=
  (p.configuration.bind (·.tree?)).bind (·.child? nodeName)

/-- Whether modules could be injected.  The node for them is looked for, but nothing is changed. -/
def check (plugins : List Plugin) : Logged (Except NoOp Unit) := do
  Logged.logAll (searchEvents plugins)
  -- only the first one counts, even if a later one could take modules
  match plugins.find? isTarget with
  | none => pure (.error notFound)
  | some p =>
    match node? p with
    | some t => do
      Logged.log (.modulesConfigured t.children.length)
      pure (.ok ())
    | none => do
      -- the configuration is reported as it is
      Logged.log (.configurationRefused p.configuration)
      pure (.error (.unsupportedConfiguration (shapeFault p.configuration)))

/-- A plugin with more modules after the old ones. -/
def addToPlugin (modules : List ConfigTree) (p : Plugin) : Except NoOp Plugin :=
  match p.configuration with
  | some (.tree t) =>
    -- without the node nothing would be changed, and that is a fault
    if (t.child? nodeName).isSome then
      .ok { p with
        configuration := some (.tree (t.modifyChild nodeName (·.addChildren modules))) }
    else .error (.unsupportedConfiguration .noModules)
  -- a text is not searched for the node
  | other => .error (.unsupportedConfiguration (shapeFault other))

/-- The plugins with more modules in the first EAR plugin. -/
def add (modules : List ConfigTree) : List Plugin → Except NoOp (List Plugin)
  | [] => .error notFound
  | p :: ps =>
    if isTarget p then (addToPlugin modules p).map (· :: ps)
    else (add modules ps).map (p :: ·)

end BuildInjection.Target
