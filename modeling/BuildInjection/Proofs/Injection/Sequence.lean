import BuildInjection.Injection.Sequence
import BuildInjection.Proofs.Injection.Run

/-!
# What a sequence comes to

No goal changes what a later goal reads.  So every goal of a sequence comes to what it comes to when
it runs alone on the host before the sequence, and the host gains all batches in order
(`exists_value_run`).  On a project, where nothing refuses anything, this is the whole of a
sequence, and goals of different kinds can change places (`value_run_ofProject`).
-/

namespace BuildInjection

/-- What only the steps of one goal have does not depend on where the others stand. -/
theorem Step.flatMap_filter_goal {α : Type} {g : Goal} {f : Step → List α}
    (hf : ∀ step : Step, step.goal ≠ g → f step = []) (steps : List Step) :
    (steps.filter (·.goal = g)).flatMap f = steps.flatMap f := by
  induction steps with
  | nil => rfl
  | cons step steps ih =>
    rw [List.flatMap_cons]
    by_cases hgoal : step.goal = g
    · rw [List.filter_cons_of_pos (by simpa using hgoal), List.flatMap_cons, ih]
    · rw [List.filter_cons_of_neg (by simpa using hgoal), ih, hf step hgoal, List.nil_append]

namespace Host

variable (h : Host) (step : Step)

/-- What comes of a step that runs alone on a host that gives out all properties. -/
def result : GoalResult := { goal := step.goal, outcome := step.goal.outcome step.keyPrefix h }

/-- The dependencies that a step adds when it runs alone. -/
def dependencyBatch : List Dependency :=
  step.goal.dependenciesOf (step.goal.batch step.keyPrefix h)

/-- The modules that a step adds when it runs alone. -/
def moduleBatch : List ConfigTree := step.goal.modulesOf (step.goal.batch step.keyPrefix h)

/-- A step adds as many items as its outcome says, so none if it does nothing. -/
theorem count_result :
    (h.result step).outcome.count =
      (h.dependencyBatch step).length + (h.moduleBatch step).length := by
  obtain ⟨g, keyPrefix⟩ := step
  show (g.outcome keyPrefix h).count = _
  rw [← Goal.length_batch, dependencyBatch, moduleBatch]
  cases g with
  | dependencies => exact (Nat.add_zero _).symm
  | earModules => exact (Nat.zero_add _).symm

/-- Only a step that injects dependencies adds any. -/
theorem dependencyBatch_of_ne (step : Step) (hgoal : step.goal ≠ .dependencies) :
    h.dependencyBatch step = [] := by
  obtain ⟨g, keyPrefix⟩ := step
  cases g with
  | dependencies => exact absurd rfl hgoal
  | earModules => rfl

/-- Only a step that injects modules adds any. -/
theorem moduleBatch_of_ne (step : Step) (hgoal : step.goal ≠ .earModules) :
    h.moduleBatch step = [] := by
  obtain ⟨g, keyPrefix⟩ := step
  cases g with
  | dependencies => rfl
  | earModules => exact absurd rfl hgoal

end Host

/-! ## Projects that grow -/

namespace Project

/-- A project after dependencies and modules were added to it, with all else as it was. -/
structure Extends (dependencies : List Dependency) (modules : List ConfigTree)
    (before after : Project) : Prop where
  /-- Nothing but the dependencies and the plugins becomes another. -/
  eq : after =
    { before with dependencies := before.dependencies ++ dependencies, plugins := after.plugins }
  /-- The modules come into their place. -/
  plugins : Target.Grows modules before.plugins after.plugins

variable {ds : List Dependency} {ts : List ConfigTree} {p q : Project}

/-- What is added to the dependencies of a project stands at their end. -/
theorem Extends.dependencies_eq (hq : p.Extends ds ts q) :
    q.dependencies = p.dependencies ++ ds :=
  congrArg Project.dependencies hq.eq

end Project

/-- A host that shows a project still shows a project after it has grown. -/
theorem Host.Extends.exists_project {ds : List Dependency} {ts : List ConfigTree} {p : Project}
    {h : Host} (hextends : (Host.ofProject p).Extends ds ts h) :
    h = .ofProject (h.updateProject p) ∧ p.Extends ds ts (h.updateProject p) := by
  obtain ⟨hprofiles, hdeps, hplugins, hwithheld⟩ := hextends
  obtain ⟨profiles, dependencies, plugins, pluginsWithheld⟩ := h
  simp only at hprofiles hdeps hplugins hwithheld
  -- profiles and visibility are those of the project, and the rest is put back into it
  subst hprofiles hdeps hwithheld
  exact ⟨rfl, rfl, hplugins⟩

/-! ## Sequences -/

namespace Sequence

/-- The first step of a sequence either ends it or leaves the host to the others. -/
theorem value_run_cons (step : Step) (steps : List Step) (h : Host) :
    (run (step :: steps) h).value =
      match (step.goal.run step.keyPrefix h).value with
      | (.error e, h') => (.error e, h')
      | (.ok outcome, h') =>
        ((run steps h').value.1.map (⟨step.goal, outcome, 0⟩ :: ·), (run steps h').value.2) := by
  -- an outcome hands on the host it has left
  simp only [run, Logged.value_bind]
  rcases (step.goal.run step.keyPrefix h).value with ⟨e | outcome, h'⟩ <;> rfl

/-- On a host that gives out all properties every step comes to what it comes to alone, and the host
    gains the batches of all steps in order. -/
theorem exists_value_run {h : Host} (hfault : h.fault? = none) (steps : List Step) :
    ∃ h', (run steps h).value = (.ok (steps.map h.result), h') ∧
      h.Extends (steps.flatMap h.dependencyBatch) (steps.flatMap h.moduleBatch) h' := by
  induction steps generalizing h with
  | nil => exact ⟨h, rfl, .refl h⟩
  | cons step steps ih =>
    obtain ⟨h₁, hrun, hstep⟩ := step.goal.exists_value_run step.keyPrefix hfault
    obtain ⟨h₂, hruns, hsteps⟩ := ih (hstep.fault?_eq.trans hfault)
    -- the other steps come to what they would have come to before the first
    have hresult : h₁.result = h.result := by
      funext s
      rw [Host.result, Host.result, hstep.outcome_eq]
    have hdeps : h₁.dependencyBatch = h.dependencyBatch := by
      funext s
      rw [Host.dependencyBatch, Host.dependencyBatch, hstep.batch_eq]
    have hmodules : h₁.moduleBatch = h.moduleBatch := by
      funext s
      rw [Host.moduleBatch, Host.moduleBatch, hstep.batch_eq]
    rw [hdeps, hmodules] at hsteps
    refine ⟨h₂, ?_, hstep.trans hsteps⟩
    rw [value_run_cons, hrun]
    simp only [hruns, hresult]
    rfl

/-- A sequence on a project leaves a project, and it is that project which is reported. -/
theorem exists_project_of_run (p : Project) (steps : List Step) :
    ∃ q, (run steps (.ofProject p)).value =
        (.ok (steps.map (Host.ofProject p).result), .ofProject q) ∧
      (Host.ofProject q).updateProject p = q ∧
      p.Extends (steps.flatMap (Host.ofProject p).dependencyBatch)
        (steps.flatMap (Host.ofProject p).moduleBatch) q := by
  obtain ⟨h, hrun, hextends⟩ := exists_value_run (Host.fault?_ofProject p) steps
  obtain ⟨hproject, hgrown⟩ := hextends.exists_project
  refine ⟨h.updateProject p, ?_, ?_, hgrown⟩
  · rw [hrun, ← hproject]
  · -- what is shown of the project that is left is that project
    rw [← hproject]

/-- A sequence of goals on a project: every goal comes to what it comes to when it runs alone on the
    project as it was, the project gains the batches of all goals in order and nothing else changes
    in it.  Goals of one kind in the same order give the same project, wherever the goals of the
    other kind stand among them. -/
theorem value_run_ofProject (p : Project) (steps : List Step) :
    ∃ q,
      (run steps (.ofProject p)).value =
        (.ok (steps.map (Host.ofProject p).result), .ofProject q) ∧
      p.Extends (steps.flatMap (Host.ofProject p).dependencyBatch)
        (steps.flatMap (Host.ofProject p).moduleBatch) q ∧
      (∀ step : Step, ∃ alone,
        (step.goal.run step.keyPrefix (.ofProject p)).value =
          (.ok ((Host.ofProject p).result step).outcome, .ofProject alone) ∧
        p.Extends ((Host.ofProject p).dependencyBatch step)
          ((Host.ofProject p).moduleBatch step) alone ∧
        ((Host.ofProject p).result step).outcome.count =
          ((Host.ofProject p).dependencyBatch step).length +
            ((Host.ofProject p).moduleBatch step).length) ∧
      ∀ steps' : List Step,
        (∀ g, steps'.filter (·.goal = g) = steps.filter (·.goal = g)) →
        (run steps' (.ofProject p)).value =
          (.ok (steps'.map (Host.ofProject p).result), .ofProject q) := by
  have hfault := Host.fault?_ofProject p
  obtain ⟨h, hrun, hextends⟩ := exists_value_run hfault steps
  obtain ⟨hproject, hgrown⟩ := hextends.exists_project
  -- the whole sequence, each step alone, and the steps in another order
  refine ⟨h.updateProject p, ?_, hgrown, ?_, ?_⟩
  · rw [hrun, ← hproject]
  · -- a step alone is a run on a host that gives out all properties
    intro step
    obtain ⟨h', halone, hextends'⟩ := step.goal.exists_value_run step.keyPrefix hfault
    obtain ⟨hproject', hgrown'⟩ := hextends'.exists_project
    refine ⟨h'.updateProject p, ?_, hgrown', Host.count_result _ _⟩
    rw [halone, ← hproject']
    rfl
  · -- the batches of either goal are those of its own steps, and these stand in the same order
    intro steps' hsame
    obtain ⟨h', hrun', hextends'⟩ := exists_value_run hfault steps'
    have hdeps : steps'.flatMap (Host.ofProject p).dependencyBatch =
        steps.flatMap (Host.ofProject p).dependencyBatch := by
      have hof := (Host.ofProject p).dependencyBatch_of_ne
      rw [← Step.flatMap_filter_goal hof, hsame, Step.flatMap_filter_goal hof]
    have hmodules : steps'.flatMap (Host.ofProject p).moduleBatch =
        steps.flatMap (Host.ofProject p).moduleBatch := by
      have hof := (Host.ofProject p).moduleBatch_of_ne
      rw [← Step.flatMap_filter_goal hof, hsame, Step.flatMap_filter_goal hof]
    rw [hdeps, hmodules] at hextends'
    rw [hrun', hextends'.unique hextends, ← hproject]

/-- A project whose one profile has a property for each goal. -/
def shop : Project where
  groupId := "org"
  artifactId := "shop"
  version := "1"
  profiles := [{
    id := "dev"
    properties := ⟨[("lib.core", "org:core:1"), ("war.shop", "org:shop:web")], by decide⟩ }]
  plugins := [⟨Target.groupId, Target.artifactId, none,
    some (.tree ⟨"configuration", none, [⟨Target.nodeName, none, []⟩]⟩)⟩]

/-- The two goals in either order. -/
theorem value_run_shop :
    (∀ g : Goal, [Step.mk .earModules (some "war."), ⟨.dependencies, some "lib."⟩].filter
        (·.goal = g) =
      [Step.mk .dependencies (some "lib."), ⟨.earModules, some "war."⟩].filter (·.goal = g)) ∧
    ∃ q,
      (run [⟨.dependencies, some "lib."⟩, ⟨.earModules, some "war."⟩] (.ofProject shop)).value =
        (.ok [⟨.dependencies, .injected 1 0, 0⟩, ⟨.earModules, .injected 1 0, 0⟩],
          .ofProject q) ∧
      (run [⟨.earModules, some "war."⟩, ⟨.dependencies, some "lib."⟩] (.ofProject shop)).value =
        (.ok [⟨.earModules, .injected 1 0, 0⟩, ⟨.dependencies, .injected 1 0, 0⟩],
          .ofProject q) ∧
      q.dependencies = [⟨some "org", some "core", some "1", none, none⟩] := by
  have horder : ∀ g : Goal,
      [Step.mk .earModules (some "war."), ⟨.dependencies, some "lib."⟩].filter (·.goal = g) =
        [Step.mk .dependencies (some "lib."), ⟨.earModules, some "war."⟩].filter
          (·.goal = g) := by
    intro g
    cases g <;> rfl
  have hlib : (Host.ofProject shop).result ⟨.dependencies, some "lib."⟩ =
      ⟨.dependencies, .injected 1 0, 0⟩ := by decide
  have hwar : (Host.ofProject shop).result ⟨.earModules, some "war."⟩ =
      ⟨.earModules, .injected 1 0, 0⟩ := by decide
  obtain ⟨q, hrun, hgrown, -, hsame⟩ :=
    value_run_ofProject shop [⟨.dependencies, some "lib."⟩, ⟨.earModules, some "war."⟩]
  have hrun' := hsame _ horder
  simp only [List.map_cons, List.map_nil, hlib, hwar] at hrun hrun'
  refine ⟨horder, q, hrun, hrun', ?_⟩
  rw [hgrown.dependencies_eq]
  decide

end Sequence

end BuildInjection
