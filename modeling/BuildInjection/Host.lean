import BuildInjection.Error
import BuildInjection.Project

/-!
# Hosts

The build tool in which a goal runs.  It shows its profiles, whose properties it may refuse to give
out, and it owns the dependencies and the plugins that a goal changes.
-/

namespace BuildInjection

/-- A profile as the host shows it. -/
structure HostProfile where
  id : String
  active : Bool := true
  /-- The properties, or the error with which the host refuses to give them out. -/
  properties : Except Error Properties

/-- A build tool with a project. -/
structure Host where
  profiles : List HostProfile
  dependencies : List Dependency
  plugins : List Plugin
  /-- Whether the plugins are shown for reading only. -/
  pluginsWithheld : Bool := false

namespace HostProfile

/-- A profile whose properties are given out. -/
def ofProfile (p : Profile) : HostProfile := ⟨p.id, p.active, .ok p.properties⟩

end HostProfile

namespace Host

/-- A host that shows everything in a project. -/
def ofProject (p : Project) : Host where
  profiles := p.profiles.map .ofProfile
  dependencies := p.dependencies
  plugins := p.plugins

/-- The profiles that are switched on. -/
def activeProfiles (h : Host) : List HostProfile := h.profiles.filter (·.active)

/-- The plugins that may be changed. -/
def writablePlugins (h : Host) : List Plugin := if h.pluginsWithheld then [] else h.plugins

/-- The host in which the profile of an index does not give out its properties.  Where it does not
    give them out already, the first words stay. -/
def refuse (h : Host) (index : Nat) (text : String) : Host :=
  { h with profiles := h.profiles.modify index fun p =>
      { p with properties := p.properties.bind fun _ => .error (.profileProperties p.id text) } }

/-- A project with the dependencies and the plugins of a host. -/
def updateProject (h : Host) (p : Project) : Project :=
  { p with dependencies := h.dependencies, plugins := h.plugins }

end Host

end BuildInjection
