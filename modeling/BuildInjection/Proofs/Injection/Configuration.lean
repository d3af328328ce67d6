import BuildInjection.ProjectFile.Model
import BuildInjection.Proofs.ConfigTree.Loaded
import BuildInjection.Proofs.EarModule
import BuildInjection.Proofs.Injection.Item
import BuildInjection.Proofs.Injection.Sequence

/-!
# The configuration of the EAR plugin

The tree in which modules are put is clean where it comes out of a project file, and every node that
a run adds is named as an element has to be.  What is in the tree after a sequence is what was in it
before and the batches of the sequence (`Project.Extends.exists_earTree?`).
-/

namespace BuildInjection

/-- The configuration tree of the EAR plugin, if it has one. -/
def Project.earTree? (p : Project) : Option ConfigTree :=
  p.pluginTree? Target.groupId Target.artifactId

/-- A configuration has a tree exactly if it is one. -/
theorem Configuration.tree?_eq_some_iff {c : Configuration} {t : ConfigTree} :
    c.tree? = some t ↔ c = .tree t := by
  cases c <;> simp [tree?]

/-! ## Trees out of project files -/

/-- A tree that a text gives is clean. -/
theorem PluginEntry.isClean_of_configurationOf {s : String} {t : ConfigTree}
    (h : configurationOf s = .tree t) : t.IsClean := by
  unfold configurationOf at h
  split at h
  · rename_i u hparse
    obtain rfl := Configuration.tree.inj h
    exact ConfigTree.isClean_of_parse? hparse
  · exact nomatch h

namespace ProjectFile

variable {f : ProjectFile} {p : Project} (hproject : f.toProject.value = .ok p)
include hproject

/-- The configurations in the project of a project file that are trees are clean. -/
theorem isClean_of_mem_plugins {plugin : Plugin} (hplugin : plugin ∈ p.plugins) {t : ConfigTree}
    (ht : plugin.configuration = some (.tree t)) : t.IsClean := by
  unfold toProject at hproject
  split at hproject
  · simp at hproject
  · obtain rfl := Except.ok.inj hproject
    -- the plugin stands for an entry, and the tree was read from the text of it
    obtain ⟨entry, -, rfl⟩ := List.mem_map.1 hplugin
    obtain ⟨text, -, htree⟩ := Option.map_eq_some_iff.1 ht
    exact PluginEntry.isClean_of_configurationOf htree

/-- The tree of the EAR plugin is one of them. -/
theorem isClean_of_toProject {t : ConfigTree} (ht : p.earTree? = some t) : t.IsClean := by
  obtain ⟨plugin, hplugin, ht⟩ := Option.bind_eq_some_iff.1 ht
  obtain ⟨configuration, hconfiguration, ht⟩ := Option.bind_eq_some_iff.1 ht
  obtain rfl := Configuration.tree?_eq_some_iff.1 ht
  exact isClean_of_mem_plugins hproject (List.mem_of_find?_eq_some hplugin) hconfiguration

end ProjectFile

/-! ## Nodes that are injected -/

/-- Every module that a step adds was read from a spec that the step selects. -/
theorem Host.exists_spec_of_mem_moduleBatch {h : Host} {step : Step} {m : ConfigTree}
    (hm : m ∈ h.moduleBatch step) :
    ∃ spec ∈ h.specs step.keyPrefix, EarModule.treeOfSpec spec = .ok m := by
  obtain ⟨g, keyPrefix⟩ := step
  cases g with
  -- this goal adds no modules
  | dependencies => cases hm
  | earModules =>
    have hbatch : m ∈ Goal.batch .earModules keyPrefix h := hm
    unfold Goal.batch at hbatch
    split at hbatch
    · cases hbatch
    · obtain ⟨⟨spec, m'⟩, hmem, rfl⟩ := List.mem_map.1 hbatch
      obtain ⟨hspec, hread⟩ := (Goal.mem_fst_readAll _).1 hmem
      exact ⟨spec, hspec, hread⟩

/-! ## The tree after a sequence -/

namespace Target.Place

variable (place : Place) (children : List ConfigTree)

/-- The tree around the node for modules is the one that is found. -/
theorem earTree?_eq {p : Project} (h : p.plugins = place.plugins children) :
    p.earTree? = some (place.tree children) := by
  have hfind : p.plugin? groupId artifactId = some (place.plugin children) := by
    rw [Project.plugin?, h]
    exact place.find?_plugins children
  rw [Project.earTree?, Project.pluginTree?, hfind]
  rfl

/-- What is said of names and values holds in the tree with more modules if it holds in the tree and
    in the modules. -/
theorem forall_nodes_tree {P : String → Option String → Prop} (modules : List ConfigTree) :
    (∀ n ∈ (place.tree (children ++ modules)).nodes, P n.name n.value) ↔
      (∀ n ∈ (place.tree children).nodes, P n.name n.value) ∧
        ∀ m ∈ modules, ∀ n ∈ m.nodes, P n.name n.value := by
  simp only [tree, node, ConfigTree.forall_nodes_mk, List.forall_mem_append,
    List.forall_mem_cons]
  constructor
  · rintro ⟨htop, hearlier, ⟨hnode, hchildren, hmodules⟩, hlater⟩
    exact ⟨⟨htop, hearlier, ⟨hnode, hchildren⟩, hlater⟩, hmodules⟩
  · rintro ⟨⟨htop, hearlier, ⟨hnode, hchildren⟩, hlater⟩, hmodules⟩
    exact ⟨htop, hearlier, ⟨hnode, hchildren, hmodules⟩, hlater⟩

end Target.Place

/-- After a project has grown there is at every level of the tree what was there before and what is
    in the modules. -/
theorem Project.Extends.exists_earTree? {ds : List Dependency} {ts : List ConfigTree}
    {p q : Project} (h : p.Extends ds ts q) {after : ConfigTree} (hafter : q.earTree? = some after) :
    ∃ before, p.earTree? = some before ∧
      ∀ P : String → Option String → Prop,
        (∀ n ∈ after.nodes, P n.name n.value) ↔
          (∀ n ∈ before.nodes, P n.name n.value) ∧
            ∀ m ∈ ts, ∀ n ∈ m.nodes, P n.name n.value := by
  rcases h.plugins with ⟨place, children, hp, hq⟩ | ⟨rfl, hsame⟩
  · rw [place.earTree?_eq _ hq] at hafter
    obtain rfl := Option.some.inj hafter
    exact ⟨_, place.earTree?_eq _ hp, fun P => place.forall_nodes_tree children ts⟩
  · -- without a place nothing was added, and the tree is the one from before
    refine ⟨after, ?_, by simp⟩
    rw [← hafter, earTree?, earTree?, pluginTree?, pluginTree?, plugin?, plugin?, hsame]

/-- The tree of a project out of a project file is named as elements have to be, whatever runs on
    it. -/
theorem ProjectFile.isNamed_of_extends {f : ProjectFile} {p q : Project}
    (hproject : f.toProject.value = .ok p) {ds : List Dependency} {steps : List Step}
    (hextends : p.Extends ds (steps.flatMap (Host.ofProject p).moduleBatch) q) {t : ConfigTree}
    (ht : q.earTree? = some t) : t.IsNamed := by
  obtain ⟨before, hbefore, hnodes⟩ := hextends.exists_earTree? ht
  refine (hnodes fun name _ => Xml.isPlainName name = true).2 ⟨?_, ?_⟩
  · exact (isClean_of_toProject hproject hbefore).isNamed
  · -- a module has its name from a spec
    intro m hm
    obtain ⟨step, -, hm⟩ := List.mem_flatMap.1 hm
    obtain ⟨spec, -, hspec⟩ := Host.exists_spec_of_mem_moduleBatch hm
    exact (EarModule.isSound_of_treeOfSpec hspec).isNamed

end BuildInjection
