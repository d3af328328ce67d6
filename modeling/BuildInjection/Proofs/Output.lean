import BuildInjection.ProjectFile.Validation
import BuildInjection.Proofs.Injection.Configuration
import BuildInjection.Proofs.Storage

/-!
# What can be read back from the output

The configuration that a run writes is the written form of a tree in which all names are in order.
So whether the same tree can be read back is a matter of the values alone: of the carriage returns
in the configuration as it was loaded, and of everything in the fields of the modules that were
added (`parse?_written`).
-/

namespace BuildInjection

namespace Output

variable {σ : Type} (storage : Storage σ)

/-- Files are written from the first one on, and if all are written there is no fault. -/
theorem exists_written (files : List (String × String)) (s : σ)
    (record : List (String × String)) :
    ∃ written rest, files = written ++ rest ∧
      (writeAll storage.recording files (s, record)).value.2.2 = record ++ written ∧
      (rest = [] →
        ∃ names, (writeAll storage.recording files (s, record)).value.1 = .ok names) := by
  -- all files are taken, or those before the one that fails
  rcases storage.takes_or_fails files s with ⟨s', htakes⟩ | ⟨before, fault, s', hfails⟩
  · rw [value_writeAll_of_takes (htakes.recording record)]
    exact ⟨files, [], (List.append_nil files).symm, rfl, fun _ => ⟨_, rfl⟩⟩
  · rw [value_writeAll_of_failsAfter (hfails.recording record)]
    obtain ⟨name, text, after, -, rfl, -, -⟩ := hfails
    exact ⟨before, (name, text) :: after, rfl, rfl, fun h => absurd h (List.cons_ne_nil _ _)⟩

/-- The configuration that is written is that of the project, and it is written last. -/
theorem eq_render_of_mem_written {p : Project} {written rest : List (String × String)}
    (hfiles : files p = written ++ rest) {xml : String}
    (hxml : (configurationFile, xml) ∈ written) :
    rest = [] ∧ ∃ t, p.earTree? = some t ∧ xml = t.render := by
  have hname : projectFile ≠ configurationFile := by decide
  rw [files] at hfiles
  cases written with
  | nil => simp at hxml
  | cons file written =>
    obtain ⟨rfl, htail⟩ := List.cons.inj hfiles
    -- the first file is the project, so the configuration is among those after it
    have hmem : (configurationFile, xml) ∈ written := by
      rcases List.mem_cons.1 hxml with h | h
      · exact absurd (congrArg Prod.fst h).symm hname
      · exact h
    cases htree : p.pluginTree? Target.groupId Target.artifactId with
    | none =>
      rw [htree] at htail
      obtain ⟨rfl, -⟩ := List.append_eq_nil_iff.1 htail.symm
      simp at hmem
    | some t =>
      rw [htree] at htail
      cases written with
      | nil => simp at hmem
      | cons file written =>
        obtain ⟨rfl, hnil⟩ := List.cons.inj htail
        obtain ⟨rfl, rfl⟩ := List.append_eq_nil_iff.1 hnil.symm
        refine ⟨rfl, t, htree, ?_⟩
        exact congrArg Prod.snd (List.mem_singleton.1 hmem)

end Output

namespace Sequence

/-- The configuration that a run on the project of a project file writes, whatever it is written to.
    It is the written form of the configuration tree in the project that is left, and that tree is
    what comes of reading it exactly if every carriage return in the tree as it was loaded stands
    before an escaped character and every value in the modules that were added survives. -/
theorem parse?_written {σ : Type} {f : ProjectFile} {p : Project}
    (hproject : f.toProject.value = .ok p) (steps : List Step) (storage : Storage σ) (s : σ)
    {result : Except Error Report} {s' : σ} {record : List (String × String)}
    (hrun : (runAndWrite steps p (some storage.recording) (s, [])).value = (result, s', record))
    {xml : String} (hxml : (Output.configurationFile, xml) ∈ record) :
    ∃ report before after,
      result = .ok report ∧ p.earTree? = some before ∧ report.project.earTree? = some after ∧
      xml = after.render ∧
      (ConfigTree.parse? xml = some after ↔
        (∀ n ∈ before.nodes, ∀ v ∈ n.value, ConfigTree.KeepsReturns v.toList) ∧
        ∀ m ∈ steps.flatMap (Host.ofProject p).moduleBatch, ∀ n ∈ m.nodes, ∀ v ∈ n.value,
          ConfigTree.SurvivesReload v) := by
  obtain ⟨h, hsteps, hextends⟩ := exists_value_run (Host.fault?_ofProject p) steps
  obtain ⟨-, hgrown⟩ := hextends.exists_project
  obtain ⟨written, rest, hfiles, hrecord, hnames⟩ :=
    Output.exists_written storage (Output.files (h.updateProject p)) s []
  simp only [runAndWrite, Logged.value_bind, hsteps, Output.write, Logged.value_pure] at hrun
  -- what has been written ends with the configuration, so all has been written
  obtain ⟨hresult, hstate⟩ := Prod.mk.inj hrun
  rw [hstate, List.nil_append] at hrecord
  obtain rfl : record = written := hrecord
  obtain ⟨hrest, after, hafter, rfl⟩ := Output.eq_render_of_mem_written hfiles hxml
  obtain ⟨names, hok⟩ := hnames hrest
  rw [hok] at hresult
  obtain ⟨before, hbefore, hnodes⟩ := hgrown.exists_earTree? hafter
  refine ⟨_, before, after, hresult.symm, hbefore, hafter, rfl, ?_⟩
  rw [ConfigTree.parse?_render_eq_some_iff (ProjectFile.isNamed_of_extends hproject hgrown hafter),
    hnodes fun _ value => ∀ v ∈ value, ConfigTree.SurvivesReload v]
  -- what was loaded is clean, so only its carriage returns are left to be looked at
  have hclean := ProjectFile.isClean_of_toProject hproject hbefore
  refine and_congr_left fun _ => ?_
  constructor
  · -- what survives keeps its carriage returns
    exact fun hall n hn v hv => (hall n hn v hv).keepsReturns
  · exact fun hall n hn v hv => ⟨(hclean n hn).2 v hv, hall n hn v hv⟩

/-! ## A configuration that is lost -/

/-- The configuration of an EAR plugin without modules. -/
def noModules : ConfigTree := ⟨"configuration", none, [⟨Target.nodeName, none, []⟩]⟩

/-- A project file with a control character in the only spec. -/
def unprintable : ProjectFile where
  project := ⟨"org", "shop", "1"⟩
  profiles := [{ id := "dev", properties := some [("war.shop", .string "org:shop\x01:web")] }]
  plugins := [⟨Target.groupId, Target.artifactId, none, some noModules.render⟩]

/-- The project of that file. -/
def unprintableProject : Project where
  groupId := "org"
  artifactId := "shop"
  version := "1"
  profiles := [⟨"dev", true, OrderedMap.empty.insert "war.shop" "org:shop\x01:web"⟩]
  plugins := [⟨Target.groupId, Target.artifactId, none, some (.tree noModules)⟩]

/-- The project is loaded with the control character in its property. -/
theorem toProject_unprintable : unprintable.toProject.value = .ok unprintableProject := by
  -- the configuration of the file is one that survives
  have hread : ConfigTree.parse? noModules.render = some noModules :=
    (ConfigTree.parse?_render_eq_some_iff (by decide)).2 (by simp [noModules])
  have hprofiles : unprintable.profiles.mapM (·.toProfile) = .ok unprintableProject.profiles := by
    rfl
  have hplugins : unprintable.plugins.map (·.toPlugin) = unprintableProject.plugins := by
    show [Plugin.mk _ _ _ (some (PluginEntry.configurationOf noModules.render))] = _
    rw [PluginEntry.configurationOf, hread]
    rfl
  simp only [ProjectFile.toProject, hprofiles, Logged.value_bind, hplugins]
  rfl

/-- The run succeeds and writes a configuration, but what it wrote cannot be read as the tree that
    it left. -/
theorem parse?_written_unprintable :
    unprintable.validate = .ok () ∧ unprintable.toProject.value = .ok unprintableProject ∧
    ∃ result s' record xml report after,
      (runAndWrite [⟨.earModules, some "war."⟩] unprintableProject
        (some (Storage.memory 0).recording) ({}, [])).value = (result, s', record) ∧
      (Output.configurationFile, xml) ∈ record ∧ result = .ok report ∧
      report.project.earTree? = some after ∧ ConfigTree.parse? xml ≠ some after := by
  have hmem : ∃ xml, (Output.configurationFile, xml) ∈
      (runAndWrite [⟨.earModules, some "war."⟩] unprintableProject
        (some (Storage.memory 0).recording) ({}, [])).value.2.2 :=
    ⟨_, .tail _ (.head _)⟩
  obtain ⟨xml, hxml⟩ := hmem
  cases hrun : (runAndWrite [⟨.earModules, some "war."⟩] unprintableProject
      (some (Storage.memory 0).recording) ({}, [])).value with
  | mk result files =>
  obtain ⟨s', record⟩ := files
  rw [hrun] at hxml
  obtain ⟨report, before, after, hok, -, hafter, -, hiff⟩ :=
    parse?_written toProject_unprintable _ _ _ hrun hxml
  refine ⟨by decide, toProject_unprintable, result, s', record, xml, report, after, rfl, hxml, hok,
    hafter, ?_⟩
  intro hparse
  have hbatches : [⟨.earModules, some "war."⟩].flatMap
      (Host.ofProject unprintableProject).moduleBatch =
        [⟨"webModule", none, [.leaf "groupId" "org", .leaf "artifactId" "shop\x01"]⟩] := by
    rfl
  obtain ⟨-, hsurvive⟩ := hiff.1 hparse
  rw [hbatches] at hsurvive
  -- the field would have to survive, but its last character is not legal
  have hsurvives : ConfigTree.SurvivesReload "shop\x01" :=
    hsurvive _ (List.mem_singleton_self _) (.leaf "artifactId" "shop\x01")
      (by simp [ConfigTree.leaf]) _ rfl
  exact absurd (hsurvives.isLegal '\x01' (by decide)) (by decide)

end Sequence

end BuildInjection
