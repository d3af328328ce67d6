import BuildInjection.Injection.Item
import BuildInjection.Injection.Selection

/-!
# Running a goal

A run selects properties, reads the specs in them and adds all items in one batch.  It ends early
where there is no key prefix, no active profile or no place for the items; a profile that does not
give out its properties is an error.  Every run leaves a host, however it ends.
-/

namespace BuildInjection.Goal

/-- The end of a run that does nothing for a reason. -/
def doNothing (reason : NoOp) (h : Host) : Logged (Except Error Outcome × Host) := do
  Logged.log (.noOp reason)
  pure (.ok (.noOp reason), h)

/-- The part of a run after the selection: read the specs and add the items. -/
def inject (g : Goal) (specs : List String) (h : Host) :
    Logged (Except Error Outcome × Host) := do
  Logged.logAll (specs.flatMap g.specEvents)
  let (batch, faults) := g.readAll specs
  Logged.log (.batch batch.length faults.length)
  let (loaded, h) ← g.load batch h
  match loaded with
  -- the place was there when it was looked for, but it cannot be changed
  | .error reason => doNothing reason h
  | .ok count => pure (.ok (.injected count faults.length), h)

/-- The part of a run after the check of the key prefix. -/
def runWithPrefix (g : Goal) (keyPrefix : String) (h : Host) :
    Logged (Except Error Outcome × Host) :=
  if h.activeProfiles.isEmpty then doNothing .noActiveProfiles h
  else do
    Logged.log (.activeProfiles h.activeProfiles.length)
    let checked ← g.check h
    match checked with
    | .error reason => doNothing reason h
    | .ok () => do
      -- only a run that has got this far asks for properties
      let selected ← Selection.select keyPrefix h.activeProfiles
      match selected with
      | .error e => pure (.error e, h)
      | .ok properties => g.inject (Selection.specsOf properties) h

/-- Run a goal on a host. -/
def run (g : Goal) (keyPrefix : Option String) (h : Host) :
    Logged (Except Error Outcome × Host) := do
  Logged.log (.started g)
  Logged.log (.keyPrefix keyPrefix)
  match Selection.checkPrefix keyPrefix with
  | .error e => do
    -- the reason comes before the error that it stands for
    let result ← doNothing .missingPrefix h
    Logged.log (.prefixRefused e)
    pure result
  | .ok keyPrefix => g.runWithPrefix keyPrefix h

end BuildInjection.Goal
