import BuildInjection.CommandLine.Options
import BuildInjection.Dependency
import BuildInjection.OrderedMap
import BuildInjection.Plugin
import BuildInjection.Text.Quoted

/-!
# Values in the detailed log

The forms in which the detailed log shows the values that a run works with.
-/

namespace BuildInjection.Log

open Text (quoted optionForm listForm recordForm)

/-- An optional text. -/
def optionalText (s : Option String) : String := optionForm quoted s

/-- A truth value. -/
def truth (b : Bool) : String := if b then "true" else "false"

/-- A dependency with all its positions. -/
def dependency (d : Dependency) : String :=
  recordForm "DependencyRecord" [("group_id", optionalText d.groupId),
    ("artifact_id", optionalText d.artifactId), ("version", optionalText d.version),
    ("type", optionalText d.type), ("scope", optionalText d.scope)]

/-- Properties in their order. -/
def properties (m : Properties) : String :=
  recordForm "PropertyMap" [("entries",
    listForm (fun (key, value) => "(" ++ quoted key ++ ", " ++ quoted value ++ ")") m.entries)]

mutual

/-- A configuration tree with everything below it. -/
def tree : ConfigTree → String
  | ⟨name, value, children⟩ =>
    recordForm "ConfigNode" [("name", quoted name), ("value", optionalText value),
      ("children", "[" ++ ", ".intercalate (trees children) ++ "]")]

/-- Several configuration trees. -/
def trees : List ConfigTree → List String
  | [] => []
  | t :: ts => tree t :: trees ts

end

/-- The configuration of a plugin. -/
def configuration : Configuration → String
  | .tree t => "Tree(" ++ tree t ++ ")"
  | .raw text => "Raw(" ++ quoted text ++ ")"

/-- The options of the command line. -/
def options (o : CommandLine.Options) : String :=
  recordForm "CliConfig" [("project", quoted o.project), ("goals", listForm quoted o.goals),
    ("prefix", optionalText o.keyPrefix), ("output_path", quoted o.outputPath),
    ("dry_run", truth o.dryRun), ("verbose", truth o.verbose), ("log_json", truth o.logJson)]

end BuildInjection.Log
