import BuildInjection.Goal

/-!
# Outcomes

What running one goal came to: a number of items was injected, or nothing was done for a reason
that is no fault of the project.
-/

namespace BuildInjection

/-- Why the configuration of a plugin cannot take modules. -/
inductive ConfigurationFault where
  /-- The tree has no node for modules. -/
  | noModules
  /-- The configuration was not read as a tree. -/
  | notATree
  /-- There is no configuration. -/
  | noConfiguration
  /-- A reason given in words. -/
  | other (text : String)
deriving DecidableEq, Repr

/-- The text of a fault of a configuration. -/
def ConfigurationFault.message : ConfigurationFault → String
  | .noModules => "no <modules> element in configuration"
  | .notATree => "configuration is not a configuration tree"
  | .noConfiguration => "plugin has no configuration"
  | .other text => text

/-- Why a goal did nothing. -/
inductive NoOp where
  /-- No key prefix was given, or only a blank one. -/
  | missingPrefix
  /-- No profile is active. -/
  | noActiveProfiles
  /-- The plugin to be configured is not there. -/
  | pluginNotFound (groupId artifactId : String)
  /-- The configuration of the plugin cannot take what is to be injected. -/
  | unsupportedConfiguration (fault : ConfigurationFault)
deriving DecidableEq, Repr

/-- The text that says why a goal did nothing. -/
def NoOp.message : NoOp → String
  | .missingPrefix => "No property prefix"
  | .noActiveProfiles => "No active profile"
  | .pluginNotFound groupId artifactId => s!"Plugin {groupId}:{artifactId} is not set up"
  | .unsupportedConfiguration fault => s!"Unsupported configuration: {fault.message}"

/-- What running a goal came to. -/
inductive Outcome where
  /-- This many items were injected, and this many specs were left out. -/
  | injected (count leftOut : Nat)
  /-- Nothing was done. -/
  | noOp (reason : NoOp)
deriving DecidableEq, Repr

namespace Outcome

/-- The number of items that were injected. -/
def count : Outcome → Nat
  | .injected count _ => count
  | .noOp _ => 0

/-- The number of specs that were left out. -/
def leftOut : Outcome → Nat
  | .injected _ leftOut => leftOut
  | .noOp _ => 0

/-- Why nothing was done, if nothing was done. -/
def reason? : Outcome → Option NoOp
  | .injected _ _ => none
  | .noOp reason => some reason

end Outcome

end BuildInjection
