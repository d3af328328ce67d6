import BuildInjection.Injection.Target

/-!
# The place for modules

Plugins that can take modules have a place for them: the first EAR plugin, in its configuration tree
the first node of the right name, and everything that stands around the two.  The check, the adding
of modules and the look-up of the tree all come upon this one place (`value_check_plugins`,
`add_plugins`), and adding modules changes nothing but the children of its node.
-/

namespace BuildInjection.Target

/-- The surroundings of the node for modules in a list of plugins. -/
structure Place where
  /-- The plugins before the first EAR plugin. -/
  before : List Plugin
  /-- The version of the EAR plugin. -/
  version : Option String
  /-- The name of its configuration tree. -/
  name : String
  /-- The value of its configuration tree. -/
  value : Option String
  /-- The nodes before the node for modules. -/
  earlier : List ConfigTree
  /-- The value of the node for modules. -/
  nodeValue : Option String
  /-- The nodes after the node for modules. -/
  later : List ConfigTree
  /-- The plugins after the first EAR plugin. -/
  after : List Plugin
  /-- No plugin before the first EAR plugin is one. -/
  isTarget_before : ∀ p ∈ before, isTarget p = false
  /-- No node before the first node for modules is one. -/
  name_earlier : ∀ t ∈ earlier, t.name ≠ nodeName

/-- What the check comes to, without its reports. -/
theorem value_check (ps : List Plugin) :
    (check ps).value =
      match ps.find? isTarget with
      | none => .error notFound
      | some p =>
        match node? p with
        | some _ => .ok ()
        | none => .error (.unsupportedConfiguration (shapeFault p.configuration)) := by
  rw [check, Logged.value_bind]
  cases ps.find? isTarget with
  | none => rfl
  | some p =>
    simp only
    cases node? p <;> rfl

namespace Place

variable (place : Place) (children : List ConfigTree)

/-- The node for modules with its children. -/
def node : ConfigTree := ⟨nodeName, place.nodeValue, children⟩

/-- The configuration tree around the node for modules. -/
def tree : ConfigTree :=
  ⟨place.name, place.value, place.earlier ++ place.node children :: place.later⟩

/-- The EAR plugin around the configuration tree. -/
def plugin : Plugin := ⟨groupId, artifactId, place.version, some (.tree (place.tree children))⟩

/-- All plugins around the node for modules, which has the given children. -/
def plugins : List Plugin := place.before ++ place.plugin children :: place.after

/-- The EAR plugin is found first. -/
theorem find?_plugins : (place.plugins children).find? isTarget = some (place.plugin children) := by
  have hnone : place.before.find? isTarget = none := by
    rw [List.find?_eq_none]
    intro p hp
    rw [place.isTarget_before p hp]
    exact Bool.false_ne_true
  have htarget : isTarget (place.plugin children) = true := by
    simp [isTarget, Plugin.hasId, plugin]
  rw [plugins, List.find?_append, hnone, List.find?_cons_of_pos htarget]
  rfl

/-- The node for modules is found first. -/
theorem child?_tree : (place.tree children).child? nodeName = some (place.node children) := by
  have hnone : place.earlier.find? (·.name = nodeName) = none := by
    rw [List.find?_eq_none]
    intro t ht
    simpa using place.name_earlier t ht
  rw [ConfigTree.child?, tree, List.find?_append, hnone,
    List.find?_cons_of_pos (by simp [node])]
  rfl

/-- The EAR plugin has a node for modules, and it is the one of the place. -/
theorem node?_plugin : node? (place.plugin children) = some (place.node children) :=
  place.child?_tree children

/-- More children come to the node and to nothing else in the tree. -/
theorem modifyChild_tree (more : List ConfigTree) :
    (place.tree children).modifyChild nodeName (·.addChildren more) =
      place.tree (children ++ more) := by
  have hmodify : ∀ earlier : List ConfigTree, (∀ t ∈ earlier, t.name ≠ nodeName) →
      ConfigTree.modifyFirst nodeName (·.addChildren more)
          (earlier ++ place.node children :: place.later) =
        earlier ++ place.node (children ++ more) :: place.later := by
    intro earlier hearlier
    -- the walk passes over every node that has another name
    induction earlier with
    | nil => simp [ConfigTree.modifyFirst, node, ConfigTree.addChildren]
    | cons t ts ih =>
      have ht : t.name ≠ nodeName := hearlier t List.mem_cons_self
      have hts := ih fun u hu => hearlier u (List.mem_cons_of_mem t hu)
      rw [List.cons_append, ConfigTree.modifyFirst, if_neg ht, hts]
      rfl
  rw [ConfigTree.modifyChild, tree, hmodify place.earlier place.name_earlier]
  rfl

/-- Modules that are added to the EAR plugin come to the children of the node. -/
theorem addToPlugin_plugin (more : List ConfigTree) :
    addToPlugin more (place.plugin children) = .ok (place.plugin (children ++ more)) := by
  have hsome : ((place.tree children).child? nodeName).isSome = true := by
    rw [child?_tree]
    rfl
  simp only [addToPlugin, plugin, if_pos hsome, modifyChild_tree]

/-- Modules are added to the children of the node, and nothing else is changed. -/
theorem add_plugins (more : List ConfigTree) :
    add more (place.plugins children) = .ok (place.plugins (children ++ more)) := by
  have hadd : ∀ before : List Plugin, (∀ p ∈ before, isTarget p = false) →
      add more (before ++ place.plugin children :: place.after) =
        .ok (before ++ place.plugin (children ++ more) :: place.after) := by
    -- plugins before the first EAR plugin are passed over
    intro before hbefore
    induction before with
    | nil =>
      have htarget : isTarget (place.plugin children) = true := by
        simp [isTarget, Plugin.hasId, plugin]
      rw [List.nil_append, add, if_pos htarget, addToPlugin_plugin]
      rfl
    | cons p ps ih =>
      have hp : ¬ isTarget p = true := by
        rw [hbefore p List.mem_cons_self]
        exact Bool.false_ne_true
      have hps := ih fun q hq => hbefore q (List.mem_cons_of_mem p hq)
      rw [List.cons_append, add, if_neg hp, hps]
      rfl
  exact hadd place.before place.isTarget_before

/-- The check finds the place. -/
theorem value_check_plugins : (check (place.plugins children)).value = .ok () := by
  rw [value_check, find?_plugins]
  simp only [node?_plugin]

end Place

/-- Plugins that pass the check have a place for modules. -/
theorem exists_place_of_check {ps : List Plugin} (h : (check ps).value = .ok ()) :
    ∃ (place : Place) (children : List ConfigTree), ps = place.plugins children := by
  rw [value_check] at h
  split at h
  · simp at h
  · -- the check has found an EAR plugin, and in its tree a node for modules
    rename_i p hfind
    split at h
    · rename_i t hnode
      obtain ⟨htarget, before, after, rfl, hbefore⟩ := List.find?_eq_some_iff_append.1 hfind
      obtain ⟨tree, htree, hchild⟩ := Option.bind_eq_some_iff.1 hnode
      obtain ⟨configuration, hconf, htree⟩ := Option.bind_eq_some_iff.1 htree
      obtain ⟨hname, earlier, later, hchildren, hearlier⟩ := List.find?_eq_some_iff_append.1 hchild
      -- every part of the place has been found
      obtain ⟨groupId', artifactId', version, configuration'⟩ := p
      obtain ⟨name, value, children⟩ := tree
      obtain ⟨name', nodeValue, children'⟩ := t
      -- a configuration that has a tree is that tree
      obtain rfl : configuration = .tree ⟨name, value, children⟩ := by
        cases configuration with
        | tree u => rw [Configuration.tree?, Option.some.injEq] at htree; rw [htree]
        | raw text => cases htree
      simp only [isTarget, Plugin.hasId, Bool.and_eq_true, decide_eq_true_eq] at htarget
      simp only [decide_eq_true_eq] at hname
      obtain ⟨rfl, rfl⟩ := htarget
      subst hname hchildren hconf
      refine ⟨⟨before, version, name, value, earlier, nodeValue, later, after, ?_, ?_⟩,
        children', rfl⟩
      · intro q hq
        simpa using hbefore q hq
      · intro u hu
        simpa using hearlier u hu
    · simp at h

/-- A plugin without a node for modules takes none. -/
theorem addToPlugin_of_node?_eq_none {p : Plugin} (h : node? p = none) (more : List ConfigTree) :
    addToPlugin more p = .error (.unsupportedConfiguration (shapeFault p.configuration)) := by
  unfold addToPlugin
  split
  · rename_i t hconf
    have hchild : t.child? nodeName = none := by
      rw [node?, hconf] at h
      exact h
    rw [hchild, hconf]
    rfl
  · rfl

/-- Where the check fails, nothing is added, for the reason that the check gives. -/
theorem add_of_check_error {ps : List Plugin} {reason : NoOp}
    (h : (check ps).value = .error reason) (more : List ConfigTree) :
    add more ps = .error reason := by
  -- both go through the plugins up to the first EAR plugin, and stop there
  rw [value_check] at h
  induction ps with
  | nil =>
    obtain rfl := Except.error.inj h
    rfl
  | cons p ps ih =>
    rw [add]
    by_cases hp : isTarget p = true
    · rw [List.find?_cons_of_pos hp] at h
      rw [if_pos hp]
      simp only at h
      split at h
      · simp at h
      · rename_i hnode
        obtain rfl := Except.error.inj h
        rw [addToPlugin_of_node?_eq_none hnode]
        rfl
    · rw [List.find?_cons_of_neg hp] at h
      rw [if_neg hp, ih h]
      rfl

end BuildInjection.Target
