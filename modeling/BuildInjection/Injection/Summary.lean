import BuildInjection.Injection.Sequence

/-!
# Summaries

What a sequence of goals came to, all taken together.
-/

namespace BuildInjection

/-- The totals of a sequence. -/
structure Summary where
  /-- The number of goals that have run. -/
  goals : Nat
  /-- The number of items that were injected. -/
  injected : Nat
  /-- The number of specs that were left out. -/
  leftOut : Nat
  /-- The time that all runs took together, in whole milliseconds. -/
  millis : Nat
  /-- The goals that were not skipped, once for each time. -/
  executed : List Goal
  /-- The goals that were skipped, each with the last reason. -/
  skipped : List (Goal × NoOp)

namespace Summary

/-- The last reason for which a goal was skipped. -/
def lastReason? (results : List GoalResult) (g : Goal) : Option NoOp :=
  -- later reasons of the same goal take the place of earlier ones
  ((results.filter (·.goal = g)).filterMap (·.outcome.reason?)).getLast?

/-- A number summed up over results. -/
def total (number : GoalResult → Nat) (results : List GoalResult) : Nat :=
  results.foldr (fun r n => number r + n) 0

/-- The summary of some results. -/
def ofResults (results : List GoalResult) : Summary where
  goals := results.length
  injected := total (·.outcome.count) results
  leftOut := total (·.outcome.leftOut) results
  millis := total (·.micros) results / 1000
  executed := (results.filter (·.outcome.reason?.isNone)).map (·.goal)
  -- in the order of the goals and not of the results
  skipped := Goal.all.filterMap fun g => (lastReason? results g).map (g, ·)

/-- The lines of a summary, each under its key. -/
def lines (s : Summary) : List (String × Json) := [
  ("total_goals", .number s.goals),
  ("total_injected", .number s.injected),
  ("total_skipped_specs", .number s.leftOut),
  ("total_duration_ms", .number s.millis),
  ("executed_goals", .array (s.executed.map (.string ·.name))),
  ("skipped_goals", .object (s.skipped.map fun (g, reason) => (g.name, .string reason.message)))]

/-- A summary as JSON. -/
def toJson (s : Summary) : Json := .object s.lines

end Summary

end BuildInjection
