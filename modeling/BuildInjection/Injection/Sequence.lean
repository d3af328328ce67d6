import BuildInjection.Injection.Run

/-!
# Sequences of goals

Several goals run one after the other on one host.  An error ends the sequence; what was injected
before it stays.
-/

namespace BuildInjection

/-- A goal to be run, with its key prefix. -/
structure Step where
  goal : Goal
  keyPrefix : Option String
deriving DecidableEq, Repr

/-- What came of one goal of a sequence. -/
structure GoalResult where
  goal : Goal
  outcome : Outcome
  /-- The time that the run took, in microseconds; nothing where no clock is looked at. -/
  micros : Nat := 0
deriving DecidableEq, Repr

namespace GoalResult

/-- What is reported on a goal that has run. -/
def event (r : GoalResult) : Event :=
  match r.outcome with
  | .injected count leftOut => .goalExecuted r.goal count leftOut
  | .noOp reason => .goalSkipped r.goal reason

end GoalResult

namespace Sequence

/-- Run the goals of a sequence in order. -/
def run : List Step → Host → Logged (Except Error (List GoalResult) × Host)
  | [], h => pure (.ok [], h)
  | step :: steps, h => do
    let (done, h) ← step.goal.run step.keyPrefix h
    match done with
    | .error e => do
      Logged.log (.goalFailed step.goal e)
      pure (.error e, h)
    | .ok outcome => do
      let result : GoalResult := { goal := step.goal, outcome }
      Logged.log result.event
      -- the other goals run on the host that this one has left
      let (results, h) ← run steps h
      pure (results.map (result :: ·), h)

end Sequence

end BuildInjection
