import BuildInjection.Host
import BuildInjection.Injection.Target

/-!
# Items of a goal

What a goal injects, and the three steps in which goals differ: whether there is a place for the
items, how a spec becomes an item, and how a batch of items is added to the host.
-/

namespace BuildInjection.Goal

/-- What a goal injects. -/
def Item : Goal → Type
  | .dependencies => Dependency
  | .earModules => ConfigTree

/-- Whether there is a place for the items of a goal. -/
def check : Goal → Host → Logged (Except NoOp Unit)
  | .dependencies, _ => pure (.ok ())
  | .earModules, h => Target.check h.plugins

/-- The item that a spec describes. -/
def read : (g : Goal) → String → Except SpecFault g.Item
  | .dependencies, spec => .ok (Dependency.ofSpec spec)
  | .earModules, spec => EarModule.treeOfSpec spec

/-- What is reported on an item that was read. -/
def readEvent : (g : Goal) → g.Item → Event
  | .dependencies, d => .dependencyRead d
  | .earModules, t => .moduleRead t

/-- What is reported on a whole batch before it is added. -/
def batchEvent : (g : Goal) → List g.Item → Event
  | .dependencies, ds => .dependencyBatch ds
  | .earModules, ts => .moduleBatch ts

/-- What is reported on an item that was injected, where `spec` is what it was read from. -/
def injectedEvent : (g : Goal) → String → g.Item → Event
  | .dependencies, _, d => .dependencyInjected d
  | .earModules, spec, _ => .moduleInjected spec

/-- Add the items of a batch to a host, after what it has: their number, or why there is no place
    for them, and the host that is left. -/
def add : (g : Goal) → List g.Item → Host → Except NoOp Nat × Host
  | .dependencies, (ds : List Dependency), h =>
    -- there is always a place for dependencies
    (.ok ds.length, { h with dependencies := h.dependencies ++ ds })
  | .earModules, (ts : List ConfigTree), h =>
    match Target.add ts h.writablePlugins with
    -- the host stays as it was
    | .error reason => (.error reason, h)
    | .ok plugins => (.ok ts.length, { h with plugins := plugins })

/-- What is reported while the place for the items is looked for. -/
def placeEvents : Goal → Host → List Event
  | .dependencies, _ => []
  | .earModules, h => Target.searchEvents h.writablePlugins

/-- Add a batch of items, each with the spec it was read from, to a host: the number of items, or
    why there is no place for them, and the host that is left. -/
def load (g : Goal) (batch : List (String × g.Item)) (h : Host) :
    Logged (Except NoOp Nat × Host) := do
  Logged.logAll (g.placeEvents h)
  match g.add (batch.map Prod.snd) h with
  | (.error reason, h) => pure (.error reason, h)
  | (.ok count, h) => do
    -- the reports on the items come after all of them were added
    Logged.log (g.batchEvent (batch.map Prod.snd))
    Logged.logAll (batch.map fun (spec, item) => g.injectedEvent spec item)
    pure (.ok count, h)

/-- Read specs one after the other: the items that came of them, each with its spec, and the faults
    of the specs that are left out. -/
def readAll (g : Goal) : List String → List (String × g.Item) × List SpecFault
  | [] => ([], [])
  | spec :: specs =>
    let (items, faults) := g.readAll specs
    match g.read spec with
    | .ok item => ((spec, item) :: items, faults)
    -- a fault of one spec does not concern the others
    | .error fault => (items, fault :: faults)

/-- Add the items of a property's value to a host, without a selection: the faults of the specs that
    are left out, and what came of adding the items. -/
def loadValue (g : Goal) (value : String) (h : Host) :
    Logged (List SpecFault × Except NoOp Nat × Host) := do
  let (batch, faults) := g.readAll (Text.specs value)
  Logged.logAll (batch.map fun (_, item) => g.readEvent item)
  let loaded ← g.load batch h
  pure (faults, loaded)

/-- What is reported on reading a spec. -/
def specEvents (g : Goal) (spec : String) : List Event :=
  .specFound g spec :: match g.read spec with
    | .ok item => [g.readEvent item]
    | .error fault => [.specLeftOut fault]

end BuildInjection.Goal
