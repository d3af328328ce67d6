import Mathlib.Data.List.Nodup
import BuildInjection.Injection.Summary
import BuildInjection.Proofs.Injection.Configuration
import BuildInjection.Proofs.Injection.Reference

/-!
# What a summary accounts for

A sequence of goals reports numbers, and it leaves a project that has grown.  The two belong
together: what the goals say that they have injected is what the project has more of, what they say
that they have left out are the selected specs that describe no module, and every goal is either
among those that were executed or was skipped for a reason (`Sequence.summary_of_run`).
-/

namespace BuildInjection

/-! ## The modules of a project -/

/-- The modules that a project has: the children of the first node for modules in the configuration
    tree of the first EAR plugin. -/
def Project.modules (p : Project) : List ConfigTree :=
  match p.earTree?.bind (·.child? Target.nodeName) with
  | some node => node.children
  | none => []

/-- Modules that are added to a project come after those that it has. -/
theorem Project.Extends.modules_eq {ds : List Dependency} {ts : List ConfigTree} {p q : Project}
    (h : p.Extends ds ts q) : q.modules = p.modules ++ ts := by
  rcases h.plugins with ⟨place, children, hp, hq⟩ | ⟨rfl, hsame⟩
  · -- in the place, what is found are the children of its node
    have hmodules : ∀ {r : Project} {cs : List ConfigTree}, r.plugins = place.plugins cs →
        r.modules = cs := by
      intro r cs hr
      rw [modules, place.earTree?_eq cs hr, Option.bind_some, place.child?_tree]
      rfl
    rw [hmodules hp, hmodules hq]
  · have htree : q.earTree? = p.earTree? := by
      rw [earTree?, earTree?, pluginTree?, pluginTree?, plugin?, plugin?, hsame]
    rw [modules, modules, htree, List.append_nil]

/-! ## Counting -/

namespace Host

variable (h : Host)

/-- The specs that a step selects; none without a key prefix. -/
def stepSpecs (step : Step) : List String := step.keyPrefix.toList.flatMap h.selectedSpecs

/-- A step that injects modules leaves out the specs that describe none, and no other step leaves
    out anything. -/
theorem leftOut_result (step : Step) :
    (h.result step).outcome.leftOut =
      if step.goal = .earModules ∧ (h.result step).outcome.reason? = none then
        (h.stepSpecs step).countP fun spec => (EarModule.treeOfSpec spec).toOption.isNone
      else 0 := by
  obtain ⟨g, keyPrefix⟩ := step
  show (g.outcome keyPrefix h).leftOut =
    if g = .earModules ∧ (g.outcome keyPrefix h).reason? = none then _ else 0
  rw [Goal.outcome]
  cases hidle : g.idle? keyPrefix h with
  | some reason =>
    have hskipped : (Outcome.noOp reason).reason? ≠ none := Option.some_ne_none reason
    exact (if_neg fun hboth => hskipped hboth.2).symm
  | none =>
    -- a step that is not idle has a key prefix
    obtain ⟨hrefusal, -⟩ := Option.or_eq_none_iff.1 hidle
    obtain ⟨⟨k, rfl, -⟩, -, -⟩ := Goal.refusal?_eq_none_iff.1 hrefusal
    cases g with
    -- every spec describes a dependency, so none is left out
    | dependencies =>
      rw [Goal.snd_readAll_dependencies]
      rfl
    | earModules =>
      rw [if_pos ⟨rfl, rfl⟩]
      show (Goal.readAll .earModules (h.specs (some k))).2.length = _
      rw [Goal.length_snd_readAll, specs_some]
      simp only [stepSpecs, Option.toList_some, List.flatMap_cons, List.flatMap_nil,
        List.append_nil, Goal.item?, Option.isNone_map]
      rfl

/-- The counts of all steps together are the numbers of all items that they add. -/
theorem total_count_result (steps : List Step) :
    Summary.total (·.outcome.count) (steps.map h.result) =
      (steps.flatMap h.dependencyBatch).length + (steps.flatMap h.moduleBatch).length := by
  induction steps with
  | nil => rfl
  | cons step steps ih =>
    have hstep := h.count_result step
    rw [Summary.total] at ih ⊢
    simp only [List.map_cons, List.foldr_cons, List.flatMap_cons, List.length_append]
    omega

/-- The numbers of specs that all steps leave out are together the number of specs that describe no
    module, in the steps that inject modules and are not skipped. -/
theorem total_leftOut_result (steps : List Step) :
    Summary.total (·.outcome.leftOut) (steps.map h.result) =
      (((steps.zip (steps.map h.result)).filter fun (step, result) =>
          step.goal = .earModules ∧ result.outcome.reason? = none).flatMap fun (step, _) =>
        h.stepSpecs step).countP fun spec => (EarModule.treeOfSpec spec).toOption.isNone := by
  induction steps with
  | nil => rfl
  | cons step steps ih =>
    have hstep := h.leftOut_result step
    rw [Summary.total] at ih ⊢
    simp only [List.map_cons, List.foldr_cons, List.zip_cons_cons, List.filter_cons,
      decide_eq_true_eq]
    -- the first step leaves out its own specs, or it is not among those that are counted
    by_cases hear : step.goal = .earModules ∧ (h.result step).outcome.reason? = none
    · rw [if_pos hear] at hstep ⊢
      rw [List.flatMap_cons, List.countP_append, hstep, ih]
    · rw [if_neg hear] at hstep ⊢
      rw [hstep, ih, Nat.zero_add]

end Host

namespace Summary

variable {results : List GoalResult}

/-! ## Reasons -/

/-- The last reason for which a goal was skipped: it was not skipped after that. -/
theorem lastReason?_eq_some_iff {g : Goal} {reason : NoOp} :
    lastReason? results g = some reason ↔
      ∃ before r after, results = before ++ r :: after ∧ r.goal = g ∧ r.outcome = .noOp reason ∧
        ∀ other ∈ after, other.goal = g → other.outcome.reason? = none := by
  -- a result says why the goal was skipped if it is one of the goal and did nothing
  have hsome : ∀ r : GoalResult, (if r.goal = g then r.outcome.reason? else none) = some reason ↔
      r.goal = g ∧ r.outcome = .noOp reason := by
    intro r
    cases r.outcome <;> simp [Outcome.reason?]
  have hnone : ∀ r : GoalResult, (if r.goal = g then r.outcome.reason? else none) = none ↔
      (r.goal = g → r.outcome.reason? = none) := by
    intro r
    by_cases hgoal : r.goal = g <;> simp [hgoal]
  rw [lastReason?, List.filterMap_filter, List.getLast?_filterMap, List.findSome?_eq_some_iff]
  simp only [decide_eq_true_eq, hsome, hnone]
  -- what stands first in the reversed list stands last
  constructor
  · rintro ⟨later, r, earlier, hsplit, ⟨hgoal, houtcome⟩, hlater⟩
    refine ⟨earlier.reverse, r, later.reverse, ?_, hgoal, houtcome, ?_⟩
    · rw [← List.reverse_reverse results, hsplit]
      simp
    · intro other hother
      exact hlater other (List.mem_reverse.1 hother)
  · rintro ⟨before, r, after, rfl, hgoal, houtcome, hafter⟩
    refine ⟨after.reverse, r, before.reverse, by simp, ⟨hgoal, houtcome⟩, ?_⟩
    intro other hother
    exact hafter other (List.mem_reverse.1 hother)

/-- The members of the object that tells which goals were skipped. -/
def skippedMembers (s : Summary) : List (String × Json) :=
  s.skipped.map fun (g, reason) => (g.name, .string reason.message)

/-- Each goal is named at most once among those that were skipped. -/
theorem nodup_skippedMembers : ((ofResults results).skippedMembers.map Prod.fst).Nodup := by
  have hkeys : (ofResults results).skippedMembers.map Prod.fst =
      Goal.all.filterMap fun g => (lastReason? results g).map fun _ => g.name := by
    rw [skippedMembers, ofResults, List.map_map, List.map_filterMap]
    simp [Function.comp_def]
  rw [hkeys]
  -- there is one member for each goal, and no two goals have a name in common
  refine List.Nodup.filterMap ?_ (by decide)
  intro g g' name hg hg'
  obtain ⟨reason, -, hname⟩ := Option.map_eq_some_iff.1 hg
  obtain ⟨reason', -, hname'⟩ := Option.map_eq_some_iff.1 hg'
  exact Goal.name_injective (hname.trans hname'.symm)

/-- A goal is among those that were skipped with the text of the last reason. -/
theorem mem_skippedMembers_iff {name : String} {value : Json} :
    (name, value) ∈ (ofResults results).skippedMembers ↔
      ∃ before r after reason, results = before ++ r :: after ∧ r.goal.name = name ∧
        r.outcome = .noOp reason ∧ value = .string reason.message ∧
        ∀ other ∈ after, other.goal.name = name → other.outcome.reason? = none := by
  -- a member is there for each goal that has a last reason
  have hmem : (name, value) ∈ (ofResults results).skippedMembers ↔
      ∃ g reason, lastReason? results g = some reason ∧ g.name = name ∧
        Json.string reason.message = value := by
    simp [skippedMembers, ofResults, Goal.mem_all]
  rw [hmem]
  constructor
  · rintro ⟨g, reason, hlast, rfl, rfl⟩
    obtain ⟨before, r, after, hsplit, rfl, houtcome, hafter⟩ := lastReason?_eq_some_iff.1 hlast
    exact ⟨before, r, after, reason, hsplit, rfl, houtcome, rfl,
      fun other hother hname => hafter other hother (Goal.name_injective hname)⟩
  · rintro ⟨before, r, after, reason, hsplit, rfl, houtcome, rfl, hafter⟩
    refine ⟨r.goal, reason, lastReason?_eq_some_iff.2 ?_, rfl, rfl⟩
    exact ⟨before, r, after, hsplit, rfl, houtcome,
      fun other hother hgoal => hafter other hother (congrArg Goal.name hgoal)⟩

/-! ## Executed goals -/

/-- The names of the goals that were not skipped, in order. -/
def executedNames (results : List GoalResult) : List String :=
  results.filterMap fun r =>
    match r.outcome with
    | .injected _ _ => some r.goal.name
    | .noOp _ => none

/-- The names in the summary are those of the goals that were not skipped. -/
theorem map_name_executed :
    (ofResults results).executed.map Goal.name = executedNames results := by
  show ((results.filter (·.outcome.reason?.isNone)).map (·.goal)).map Goal.name = _
  rw [List.map_map, executedNames]
  induction results with
  | nil => rfl
  | cons r results ih =>
    rw [List.filter_cons, List.filterMap_cons]
    cases r.outcome with
    | injected count leftOut => exact congrArg (r.goal.name :: ·) ih
    | noOp reason => exact ih

/-- Every goal is executed or skipped. -/
theorem length_eq_executedNames_add :
    results.length =
      (executedNames results).length + results.countP (·.outcome.reason?.isSome) := by
  induction results with
  | nil => rfl
  | cons r results ih =>
    rw [executedNames] at ih ⊢
    rw [List.filterMap_cons, List.countP_cons, List.length_cons, ih]
    generalize results.countP (·.outcome.reason?.isSome) = skipped
    cases r.outcome with
    | injected count leftOut =>
      simp only [Outcome.reason?, List.length_cons, Option.isSome_none, Bool.false_eq_true,
        if_false]
      omega
    | noOp reason =>
      simp only [Outcome.reason?, Option.isSome_some, if_true]
      omega

end Summary

namespace Sequence

/-- The summary of a sequence on a project, line by line.  What was injected is the growth of the
    dependencies and of the modules.  What was left out are the specs that describe no module, of
    those that were selected for a goal that was not skipped.  Every goal was executed or skipped;
    those that were executed are named once for each time, and those that were skipped at least
    once are named with the last reason for it. -/
theorem summary_of_run (p : Project) (steps : List Step) :
    ∃ (results : List GoalResult) (q : Project) (skipped : List (String × Json)),
      (run steps (.ofProject p)).value = (.ok results, .ofProject q) ∧
      results.map (·.goal) = steps.map (·.goal) ∧
      p.dependencies.length ≤ q.dependencies.length ∧ p.modules.length ≤ q.modules.length ∧
      (Summary.ofResults results).lines.lookup "total_injected" = some (.number
        ((q.dependencies.length - p.dependencies.length) +
          (q.modules.length - p.modules.length))) ∧
      (Summary.ofResults results).lines.lookup "total_skipped_specs" = some (.number
        ((((steps.zip results).filter fun (step, result) =>
            step.goal = .earModules ∧ result.outcome.reason? = none).flatMap fun (step, _) =>
          (Host.ofProject p).stepSpecs step).countP fun spec =>
            (EarModule.treeOfSpec spec).toOption.isNone)) ∧
      (Summary.ofResults results).lines.lookup "total_goals" = some (.number steps.length) ∧
      steps.length = (Summary.executedNames results).length +
        results.countP (·.outcome.reason?.isSome) ∧
      (Summary.ofResults results).lines.lookup "executed_goals" = some (.array
        ((Summary.executedNames results).map .string)) ∧
      (Summary.ofResults results).lines.lookup "skipped_goals" = some (.object skipped) ∧
      (skipped.map Prod.fst).Nodup ∧
      ∀ name value, (name, value) ∈ skipped ↔
        ∃ before r after reason, results = before ++ r :: after ∧ r.goal.name = name ∧
          r.outcome = .noOp reason ∧ value = .string reason.message ∧
          ∀ other ∈ after, other.goal.name = name → other.outcome.reason? = none := by
  obtain ⟨q, hrun, -, hgrown⟩ := exists_project_of_run p steps
  have hgoals : (steps.map (Host.ofProject p).result).map (·.goal) = steps.map (·.goal) := by
    rw [List.map_map]
    rfl
  have hdependencies := congrArg List.length hgrown.dependencies_eq
  have hmodules := congrArg List.length hgrown.modules_eq
  rw [List.length_append] at hdependencies hmodules
  -- what the steps count is what the project has gained, of both kinds together
  have hcount := (Host.ofProject p).total_count_result steps
  refine ⟨_, q, _, hrun, hgoals, by omega, by omega, ?_, ?_, ?_, ?_, ?_, rfl,
    Summary.nodup_skippedMembers, fun name value => Summary.mem_skippedMembers_iff⟩
  · -- what was injected
    have hinjected : (Summary.ofResults (steps.map (Host.ofProject p).result)).injected =
        (q.dependencies.length - p.dependencies.length) +
          (q.modules.length - p.modules.length) := by
      show Summary.total _ _ = _
      omega
    rw [← hinjected]
    rfl
  · -- what was left out
    rw [← Host.total_leftOut_result]
    rfl
  · -- the number of goals
    have hlength : (steps.map (Host.ofProject p).result).length = steps.length :=
      List.length_map _
    rw [← hlength]
    rfl
  · rw [← Summary.length_eq_executedNames_add, List.length_map]
  · rw [← Summary.map_name_executed, List.map_map]
    rfl

end Sequence

end BuildInjection
