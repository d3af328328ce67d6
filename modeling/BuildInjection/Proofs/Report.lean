import BuildInjection.Proofs.Injection.Configuration
import BuildInjection.Proofs.Storage

/-!
# What a run reports and writes

A sequence of goals on a project is run before anything is written, so a dry run and a run with a
storage leave the same project with the same results.  What is written then depends on that project
alone, and where a write fails the files before it are all that is stored
(`runAndWrite_eq_dry_run`).
-/

namespace BuildInjection

/-- The first EAR plugin of a project is there, and its configuration is a tree. -/
def Project.HasEarTree (p : Project) (t : ConfigTree) : Prop :=
  ∃ before plugin after, p.plugins = before ++ plugin :: after ∧
    (∀ other ∈ before, ¬ (other.groupId = Target.groupId ∧ other.artifactId = Target.artifactId)) ∧
    plugin.groupId = Target.groupId ∧ plugin.artifactId = Target.artifactId ∧
    plugin.configuration = some (.tree t)

/-- A plugin is known by its two coordinates. -/
theorem Plugin.hasId_iff {p : Plugin} {groupId artifactId : String} :
    p.hasId groupId artifactId = true ↔ p.groupId = groupId ∧ p.artifactId = artifactId := by
  rw [hasId, Bool.and_eq_true, decide_eq_true_eq, decide_eq_true_eq]

/-- The tree that is looked up is that of the first EAR plugin. -/
theorem Project.earTree?_eq_some_iff {p : Project} {t : ConfigTree} :
    p.earTree? = some t ↔ p.HasEarTree t := by
  rw [earTree?, pluginTree?, plugin?, Option.bind_eq_some_iff]
  constructor
  · rintro ⟨plugin, hfind, htree⟩
    obtain ⟨hid, before, after, hplugins, hbefore⟩ := List.find?_eq_some_iff_append.1 hfind
    obtain ⟨configuration, hconfiguration, htree⟩ := Option.bind_eq_some_iff.1 htree
    obtain rfl := Configuration.tree?_eq_some_iff.1 htree
    obtain ⟨hgroup, hartifact⟩ := Plugin.hasId_iff.1 hid
    refine ⟨before, plugin, after, hplugins, ?_, hgroup, hartifact, hconfiguration⟩
    intro other hother
    rw [← Plugin.hasId_iff]
    simpa using hbefore other hother
  · rintro ⟨before, plugin, after, hplugins, hbefore, hgroup, hartifact, hconfiguration⟩
    refine ⟨plugin, List.find?_eq_some_iff_append.2 ⟨?_, before, after, hplugins, ?_⟩, ?_⟩
    · exact Plugin.hasId_iff.2 ⟨hgroup, hartifact⟩
    · intro other hother
      have hother := hbefore other hother
      rw [← Plugin.hasId_iff] at hother
      simpa using hother
    · rw [hconfiguration]
      rfl

namespace Output

/-- The configuration is written after the project if there is a tree of it. -/
theorem files_eq (p : Project) :
    (∀ t, p.HasEarTree t →
      files p = [(projectFile, p.toJson.pretty), (configurationFile, t.render)]) ∧
    ((∀ t, ¬ p.HasEarTree t) → files p = [(projectFile, p.toJson.pretty)]) := by
  constructor
  · intro t ht
    have htree : p.pluginTree? Target.groupId Target.artifactId = some t :=
      Project.earTree?_eq_some_iff.2 ht
    rw [files, htree]
    rfl
  · intro hnone
    have htree : p.pluginTree? Target.groupId Target.artifactId = none := by
      rw [Option.eq_none_iff_forall_ne_some]
      intro t ht
      exact hnone t (Project.earTree?_eq_some_iff.1 ht)
    rw [files, htree]
    rfl

end Output

namespace Sequence

variable {σ : Type}

/-- What is reported and written when the goals have run. -/
theorem value_runAndWrite {p q : Project} {steps : List Step} {results : List GoalResult}
    (hrun : (run steps (.ofProject p)).value = (.ok results, .ofProject q))
    (hproject : (Host.ofProject q).updateProject p = q) (s : σ) :
    (runAndWrite steps p (none : Option (Storage σ)) s).value = (.ok ⟨q, results, []⟩, s) ∧
    ∀ storage : Storage σ, (runAndWrite steps p (some storage) s).value =
      ((Output.writeAll storage (Output.files q) s).value.1.map (⟨q, results, ·⟩),
        (Output.writeAll storage (Output.files q) s).value.2) := by
  constructor
  · simp only [runAndWrite, Logged.value_bind, hrun, hproject, Logged.value_pure]
  · intro storage
    simp only [runAndWrite, Logged.value_bind, hrun, hproject, Output.write, Logged.value_pure]

/-- Where the goals fail, nothing is written. -/
theorem value_runAndWrite_of_error {p : Project} {steps : List Step} {e : Error} {h : Host}
    (hrun : (run steps (.ofProject p)).value = (.error e, h)) (storage : Option (Storage σ))
    (s : σ) : (runAndWrite steps p storage s).value = (.error e, s) := by
  simp only [runAndWrite, Logged.value_bind, hrun, Logged.value_pure]

/-- A run with a storage leaves the project and has the results of a dry run.  It stores the project
    and then the configuration of the first EAR plugin, if that is a tree; and if one of the two
    cannot be written, the run fails with the storage's fault, and what was stored before it is all
    that is stored. -/
theorem runAndWrite_eq_dry_run (p : Project) (steps : List Step) :
    ∃ (q : Project) (results : List GoalResult),
      (run steps (.ofProject p)).value = (.ok results, .ofProject q) ∧
      (∀ t, q.HasEarTree t → Output.files q =
        [(Output.projectFile, q.toJson.pretty), (Output.configurationFile, t.render)]) ∧
      ((∀ t, ¬ q.HasEarTree t) → Output.files q = [(Output.projectFile, q.toJson.pretty)]) ∧
      ∀ {σ : Type} (s : σ),
        (runAndWrite steps p (none : Option (Storage σ)) s).value = (.ok ⟨q, results, []⟩, s) ∧
        ∀ storage : Storage σ,
          ((∃ s', storage.Takes (Output.files q) s s') ∨
            ∃ before fault s', storage.FailsAfter before (Output.files q) fault s s') ∧
          (∀ s', storage.Takes (Output.files q) s s' →
            (runAndWrite steps p (some storage) s).value =
              (.ok ⟨q, results, (Output.files q).map Prod.fst⟩, s') ∧
            (runAndWrite steps p (some storage.recording) (s, [])).value.2.2 = Output.files q) ∧
          (∀ before fault s', storage.FailsAfter before (Output.files q) fault s s' →
            (runAndWrite steps p (some storage) s).value = (.error (.io fault), s') ∧
            (runAndWrite steps p (some storage.recording) (s, [])).value.2.2 = before) ∧
          ∀ e h, (run steps (.ofProject p)).value = (.error e, h) →
            (runAndWrite steps p (some storage) s).value = (.error e, s) := by
  obtain ⟨q, hrun, hproject, -⟩ := exists_project_of_run p steps
  obtain ⟨htree, hnone⟩ := Output.files_eq q
  refine ⟨q, _, hrun, htree, hnone, fun s => ?_⟩
  obtain ⟨hdry, hwrite⟩ := value_runAndWrite hrun hproject s
  refine ⟨hdry, fun storage => ?_⟩
  have hrecord := (value_runAndWrite hrun hproject (s, [])).2 storage.recording
  refine ⟨storage.takes_or_fails _ s, ?_, ?_, fun e h he => value_runAndWrite_of_error he _ s⟩
  · -- every file is taken
    intro s' htakes
    rw [hwrite, hrecord, Output.value_writeAll_of_takes htakes,
      Output.value_writeAll_of_takes (htakes.recording [])]
    exact ⟨rfl, rfl⟩
  · -- one file is not taken, after those before it
    intro before fault s' hfails
    rw [hwrite, hrecord, Output.value_writeAll_of_failsAfter hfails,
      Output.value_writeAll_of_failsAfter (hfails.recording [])]
    exact ⟨rfl, rfl⟩

end Sequence

end BuildInjection
