import BuildInjection.Proofs.Injection.Configuration

/-!
# Configuration trees stay sound

In every configuration tree, out of a project file and after any goals, the nodes have names without
a colon and values that are not empty.  What a goal injects has the shape of a module, whatever text
is in the property that it came from (`isSound_of_run`).  Markup in a property does not get further
than the value of a leaf: a spec is cut at spaces and colons before anything else is looked at, and
the one field that becomes a name has to be made of the characters of a name.
-/

namespace BuildInjection

/-! ## Plugins -/

/-- The configuration of a plugin is sound if it is a tree. -/
def Plugin.IsSound (p : Plugin) : Prop := ∀ t, p.configuration = some (.tree t) → t.IsSound

namespace Target

/-- The EAR plugin is sound exactly if its tree is. -/
theorem Place.isSound_plugin_iff {place : Place} {children : List ConfigTree} :
    (place.plugin children).IsSound ↔ (place.tree children).IsSound := by
  constructor
  · intro h
    exact h _ rfl
  · intro h t ht
    obtain rfl := Configuration.tree.inj (Option.some.inj ht)
    exact h

/-- Sound modules leave sound plugins sound. -/
theorem Grows.isSound {modules : List ConfigTree} {before after : List Plugin}
    (hgrows : Grows modules before after) (hmodules : ∀ m ∈ modules, m.IsSound)
    (hbefore : ∀ p ∈ before, p.IsSound) : ∀ p ∈ after, p.IsSound := by
  rcases hgrows with ⟨place, children, rfl, rfl⟩ | ⟨-, rfl⟩
  · rw [Place.plugins, List.forall_mem_append, List.forall_mem_cons] at hbefore
    obtain ⟨hearlier, hplugin, hlater⟩ := hbefore
    have htree : (place.tree (children ++ modules)).IsSound :=
      (place.forall_nodes_tree children
        (P := fun name value => Xml.isPlainName name = true ∧ value ≠ some "") modules).2
          ⟨Place.isSound_plugin_iff.1 hplugin, hmodules⟩
    -- the other plugins are the ones from before
    rw [Place.plugins, List.forall_mem_append, List.forall_mem_cons]
    exact ⟨hearlier, Place.isSound_plugin_iff.2 htree, hlater⟩
  · exact hbefore

end Target

/-! ## Modules -/

namespace Host

variable {h : Host} {keyPrefix : Option String} {step : Step}

/-- No spec holds a space: values are cut there. -/
theorem space_not_mem_of_mem_specs {spec : String} (hspec : spec ∈ h.specs keyPrefix) :
    ' ' ∉ spec.toList := by
  obtain ⟨⟨key, value⟩, -, hvalue⟩ := List.mem_flatMap.1 hspec
  exact Text.sep_not_mem_of_mem_pieces hvalue

/-- Every module that a step adds has the shape of a module. -/
theorem isModule_of_mem_moduleBatch {m : ConfigTree} (hm : m ∈ h.moduleBatch step) :
    EarModule.IsModule m := by
  obtain ⟨spec, hspec, htree⟩ := exists_spec_of_mem_moduleBatch hm
  exact EarModule.isModule_of_treeOfSpec (space_not_mem_of_mem_specs hspec) htree

/-- Every module that a step adds is sound. -/
theorem isSound_of_mem_moduleBatch {m : ConfigTree} (hm : m ∈ h.moduleBatch step) : m.IsSound := by
  obtain ⟨spec, -, htree⟩ := exists_spec_of_mem_moduleBatch hm
  exact EarModule.isSound_of_treeOfSpec htree

end Host

/-! ## Projects out of project files -/

namespace Sequence

/-- Goals on the project of a project file.  Every configuration in the project that is left is
    sound if it is a tree.  What it has over the one before are the batches of the goals, after the
    old children of the node for modules, and everything in these has the shape of a module. -/
theorem isSound_of_run {f : ProjectFile} {p : Project} (hproject : f.toProject.value = .ok p)
    (steps : List Step) :
    ∃ q, (run steps (.ofProject p)).value =
        (.ok (steps.map (Host.ofProject p).result), .ofProject q) ∧
      p.Extends (steps.flatMap (Host.ofProject p).dependencyBatch)
        (steps.flatMap (Host.ofProject p).moduleBatch) q ∧
      (∀ plugin ∈ p.plugins, plugin.IsSound) ∧ (∀ plugin ∈ q.plugins, plugin.IsSound) ∧
      ∀ m ∈ steps.flatMap (Host.ofProject p).moduleBatch, EarModule.IsModule m := by
  obtain ⟨q, hrun, -, hgrown⟩ := exists_project_of_run p steps
  -- the trees before were read, and the modules were made from specs
  have hbefore : ∀ plugin ∈ p.plugins, plugin.IsSound := by
    intro plugin hplugin t ht
    exact (ProjectFile.isClean_of_mem_plugins hproject hplugin ht).isSound
  have hmodules : ∀ m ∈ steps.flatMap (Host.ofProject p).moduleBatch, m.IsSound := by
    intro m hm
    obtain ⟨step, -, hm⟩ := List.mem_flatMap.1 hm
    exact Host.isSound_of_mem_moduleBatch hm
  refine ⟨q, hrun, hgrown, hbefore, hgrown.plugins.isSound hmodules hbefore, ?_⟩
  intro m hm
  obtain ⟨step, -, hm⟩ := List.mem_flatMap.1 hm
  exact Host.isModule_of_mem_moduleBatch hm

/-! ## Markup in a property -/

/-- A project file with markup in a property; the first of its specs describes a module. -/
def markup : ProjectFile where
  project := ⟨"org", "shop", "1"⟩
  profiles := [{
    id := "dev"
    properties := some [("war.shop", .string "org:a<b>:web:/x&y</modules> org:a:we<b org:a:Module")] }]
  plugins := [⟨Target.groupId, Target.artifactId, none,
    some "<c:configuration xmlns:c='urn:c'><modules> </modules></c:configuration>"⟩]

/-- The project of that file. -/
def markupProject : Project where
  groupId := "org"
  artifactId := "shop"
  version := "1"
  profiles := [⟨"dev", true,
    OrderedMap.empty.insert "war.shop" "org:a<b>:web:/x&y</modules> org:a:we<b org:a:Module"⟩]
  plugins := [⟨Target.groupId, Target.artifactId, none,
    some (.tree ⟨"configuration", none, [⟨Target.nodeName, none, []⟩]⟩)⟩]

/-- The first configuration of the file is a tree, and its property is a text as it stands. -/
theorem toProject_markup : markup.toProject.value = .ok markupProject := by
  decide +kernel

/-- The markup is in the values of the module, and everything is sound. -/
theorem isSound_of_run_markup :
    markup.toProject.value = .ok markupProject ∧
    ∃ q, (run [⟨.earModules, some "war."⟩] (.ofProject markupProject)).value =
        (.ok [⟨.earModules, .injected 1 2, 0⟩], .ofProject q) ∧
      (∀ plugin ∈ q.plugins, plugin.IsSound) ∧
      EarModule.IsModule ⟨"webModule", none, [.leaf "groupId" "org", .leaf "artifactId" "a<b>",
        .leaf "contextRoot" "/x&y</modules>"]⟩ := by
  obtain ⟨q, hrun, -, -, hsound, hmodules⟩ :=
    isSound_of_run toProject_markup [⟨.earModules, some "war."⟩]
  -- two of the three specs are left out, and the other one has its markup in a value
  have hresults : [⟨.earModules, some "war."⟩].map (Host.ofProject markupProject).result =
      [⟨.earModules, .injected 1 2, 0⟩] := by
    rfl
  have hbatch : [⟨.earModules, some "war."⟩].flatMap (Host.ofProject markupProject).moduleBatch =
      [⟨"webModule", none, [.leaf "groupId" "org", .leaf "artifactId" "a<b>",
        .leaf "contextRoot" "/x&y</modules>"]⟩] := by
    rfl
  rw [hresults] at hrun
  rw [hbatch] at hmodules
  exact ⟨toProject_markup, q, hrun, hsound, hmodules _ (List.mem_singleton_self _)⟩

end Sequence

end BuildInjection
