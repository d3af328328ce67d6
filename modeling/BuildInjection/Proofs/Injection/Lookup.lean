import BuildInjection.Output
import BuildInjection.Proofs.Injection.Configuration

/-!
# All look-ups agree

The place for modules is looked for four times over: by the check before a run, when modules are
added, when the configuration is asked for, and when it is written.  On every project the check
refuses for the same reasons for which a batch is refused (`Target.Refuses`), and where nothing is
refused the node that takes the batch is the node that is found before and after
(`Goal.load_modules_iff_check`).
-/

namespace BuildInjection

namespace Target

/-- What a configuration lacks that has no node for modules. -/
inductive Lacks : Option Configuration → ConfigurationFault → Prop
  | configuration : Lacks none .noConfiguration
  | tree (text : String) : Lacks (some (.raw text)) .notATree
  | node {t : ConfigTree} (hchildren : ∀ c ∈ t.children, c.name ≠ nodeName) :
    Lacks (some (.tree t)) .noModules

/-- Why plugins take no modules: none of them is an EAR plugin, or the first one that is lacks
    something. -/
inductive Refuses : List Plugin → NoOp → Prop
  | noPlugin {ps : List Plugin} (hnone : ∀ p ∈ ps, isTarget p = false) :
    Refuses ps (.pluginNotFound groupId artifactId)
  | firstPlugin {before after : List Plugin} {p : Plugin} {fault : ConfigurationFault}
    (hbefore : ∀ q ∈ before, isTarget q = false) (htarget : isTarget p = true)
    (hlacks : Lacks p.configuration fault) :
    Refuses (before ++ p :: after) (.unsupportedConfiguration fault)

/-- What a configuration lacks shows in its shape. -/
theorem Lacks.eq_shapeFault {configuration : Option Configuration} {fault : ConfigurationFault}
    (h : Lacks configuration fault) : fault = shapeFault configuration := by
  cases h <;> rfl

/-- The text of the reason goes by the shape of the configuration. -/
theorem Lacks.message_eq : ∀ {configuration : Option Configuration} {fault : ConfigurationFault},
    Lacks configuration fault → fault.message =
      match configuration with
      | some (.tree _) => "no <modules> element in configuration"
      | some (.raw _) => "configuration is not a configuration tree"
      | none => "plugin has no configuration" := by
  intro configuration fault h
  cases h <;> rfl

/-- A plugin has no node for modules exactly if its configuration lacks something. -/
theorem node?_eq_none_iff {p : Plugin} :
    node? p = none ↔ Lacks p.configuration (shapeFault p.configuration) := by
  rw [node?]
  cases p.configuration with
  | none => exact iff_of_true rfl .configuration
  | some configuration =>
    cases configuration with
    | raw text => exact iff_of_true rfl (.tree text)
    | tree t =>
      show t.children.find? (·.name = nodeName) = none ↔ _
      -- a tree lacks the node if none of its children has the name
      rw [List.find?_eq_none]
      simp only [decide_eq_true_eq]
      exact ⟨.node, fun h => by cases h; assumption⟩

/-- The check refuses for the reasons for which plugins take no modules, and for no others. -/
theorem value_check_eq_error_iff {ps : List Plugin} {reason : NoOp} :
    (check ps).value = .error reason ↔ Refuses ps reason := by
  rw [value_check]
  constructor
  · intro h
    cases hfind : ps.find? isTarget with
    | none =>
      rw [hfind] at h
      obtain rfl := Except.error.inj h
      refine .noPlugin fun p hp => ?_
      simpa using List.find?_eq_none.1 hfind p hp
    | some p =>
      -- the first EAR plugin decides, and it has no node for modules
      obtain ⟨htarget, before, after, rfl, hbefore⟩ := List.find?_eq_some_iff_append.1 hfind
      simp only [hfind] at h
      cases hnode : node? p with
      | some t =>
        rw [hnode] at h
        exact nomatch h
      | none =>
        rw [hnode] at h
        obtain rfl := Except.error.inj h
        exact .firstPlugin (fun q hq => by simpa using hbefore q hq) htarget
          (node?_eq_none_iff.1 hnode)
  · intro h
    cases h with
    | noPlugin hnone =>
      have hfind : ps.find? isTarget = none :=
        List.find?_eq_none.2 fun p hp => by simp [hnone p hp]
      rw [hfind]
      rfl
    | @firstPlugin before after p fault hbefore htarget hlacks =>
      have hfind : (before ++ p :: after).find? isTarget = some p :=
        List.find?_eq_some_iff_append.2
          ⟨htarget, before, after, rfl, fun q hq => by simp [hbefore q hq]⟩
      obtain rfl := hlacks.eq_shapeFault
      simp only [hfind, node?_eq_none_iff.2 hlacks]

/-- The configuration that is written is the tree around the place. -/
theorem Place.files_eq (place : Place) {children : List ConfigTree} {p : Project}
    (h : p.plugins = place.plugins children) :
    Output.files p = [(Output.projectFile, p.toJson.pretty),
      (Output.configurationFile, (place.tree children).render)] := by
  have htree : p.pluginTree? groupId artifactId = some (place.tree children) :=
    place.earTree?_eq children h
  rw [Output.files, htree]
  rfl

end Target

namespace Goal

/-- Every plugin that a project shows may be changed. -/
theorem add_modules (p : Project) (ts : List ConfigTree) :
    add .earModules ts (.ofProject p) =
      match Target.add ts p.plugins with
      | .error reason => (.error reason, .ofProject p)
      | .ok plugins => (.ok ts.length, .ofProject { p with plugins }) :=
  rfl

variable (p : Project) (batch : List (String × ConfigTree))

/-- Loading modules on a project is adding them to its plugins. -/
theorem value_load_modules :
    (load .earModules batch (.ofProject p)).value =
      match Target.add (batch.map Prod.snd) p.plugins with
      | .error reason => (.error reason, .ofProject p)
      | .ok plugins => (.ok batch.length, .ofProject { p with plugins }) := by
  have hlength : (batch.map Prod.snd).length = batch.length := List.length_map _
  rw [← hlength, ← add_modules]
  exact value_load (g := .earModules) batch (.ofProject p)

variable {p}

/-- Where the check fails, nothing is loaded, for the reason of the check. -/
theorem value_load_modules_of_check_error {reason : NoOp}
    (hcheck : (check .earModules (.ofProject p)).value = .error reason) :
    (load .earModules batch (.ofProject p)).value = (.error reason, .ofProject p) := by
  have hadd : Target.add (batch.map Prod.snd) p.plugins = .error reason :=
    Target.add_of_check_error hcheck _
  rw [value_load_modules, hadd]

/-- Where the check succeeds, the batch goes to the place that it has found. -/
theorem exists_value_load_modules (hcheck : (check .earModules (.ofProject p)).value = .ok ()) :
    ∃ (place : Target.Place) (children : List ConfigTree), p.plugins = place.plugins children ∧
      (load .earModules batch (.ofProject p)).value =
        (.ok batch.length,
          .ofProject { p with plugins := place.plugins (children ++ batch.map Prod.snd) }) := by
  obtain ⟨place, children, hshown⟩ := Target.exists_place_of_check hcheck
  have hplugins : p.plugins = place.plugins children := hshown
  refine ⟨place, children, hplugins, ?_⟩
  rw [value_load_modules, hplugins, place.add_plugins]

variable (p)

/-- On every project and for every batch of modules, the check and the load come to the same.  Both
    refuse for the same reasons, which leaves the project as it was.  If they do not, the load
    takes the whole batch, and the place that it goes to is the one that the configuration has: the
    batch comes after the children of the first node for modules in the tree of the first EAR
    plugin, nothing around that node is changed, and it is the changed tree that is found and
    written afterwards. -/
theorem load_modules_iff_check :
    ((check .earModules (.ofProject p)).value = .ok () ↔
      ∃ count h, (load .earModules batch (.ofProject p)).value = (.ok count, h)) ∧
    (∀ reason, (check .earModules (.ofProject p)).value = .error reason ↔
      Target.Refuses p.plugins reason) ∧
    (∀ reason h, (load .earModules batch (.ofProject p)).value = (.error reason, h) ↔
      Target.Refuses p.plugins reason ∧ h = .ofProject p) ∧
    (∀ configuration fault, Target.Lacks configuration fault → fault.message =
      match configuration with
      | some (.tree _) => "no <modules> element in configuration"
      | some (.raw _) => "configuration is not a configuration tree"
      | none => "plugin has no configuration") ∧
    ∀ count h, (load .earModules batch (.ofProject p)).value = (.ok count, h) →
      count = batch.length ∧
      ∃ (place : Target.Place) (children : List ConfigTree) (q : Project),
        p.plugins = place.plugins children ∧
        p.pluginTree? Target.groupId Target.artifactId = some (place.tree children) ∧
        (place.tree children).child? Target.nodeName = some (place.node children) ∧
        q = { p with plugins := place.plugins (children ++ batch.map Prod.snd) } ∧
        h = .ofProject q ∧
        q.pluginTree? Target.groupId Target.artifactId =
          some (place.tree (children ++ batch.map Prod.snd)) ∧
        (place.tree (children ++ batch.map Prod.snd)).child? Target.nodeName =
          some (place.node (children ++ batch.map Prod.snd)) ∧
        Output.files q = [(Output.projectFile, q.toJson.pretty),
          (Output.configurationFile, (place.tree (children ++ batch.map Prod.snd)).render)] := by
  have hrefuses : ∀ reason, (check .earModules (.ofProject p)).value = .error reason ↔
      Target.Refuses p.plugins reason := fun reason => Target.value_check_eq_error_iff
  cases hcheck : (check .earModules (.ofProject p)).value with
  | error reason =>
    rw [hcheck] at hrefuses
    rw [value_load_modules_of_check_error batch hcheck]
    refine ⟨?_, hrefuses, ?_, fun _ _ hlacks => hlacks.message_eq, nofun⟩
    · -- neither comes to anything here
      exact iff_of_false nofun fun ⟨_, _, hload⟩ => nomatch congrArg Prod.fst hload
    · -- the load gives the reason of the check, and leaves the project alone
      intro reason' h
      rw [← hrefuses, Prod.mk.injEq, Except.error.injEq, Except.error.injEq, eq_comm (a := h)]
  | ok =>
    obtain ⟨place, children, hplugins, hload⟩ := exists_value_load_modules batch hcheck
    rw [hcheck] at hrefuses
    rw [hload]
    refine ⟨iff_of_true rfl ⟨_, _, rfl⟩, hrefuses, ?_, fun _ _ hlacks => hlacks.message_eq, ?_⟩
    · intro reason' h
      rw [← hrefuses]
      exact iff_of_false (fun hload => nomatch congrArg Prod.fst hload)
        fun hcheck => nomatch hcheck.1
    · -- the load has taken the whole batch, into the place that the check has found
      intro count h hloaded
      obtain ⟨hcount, rfl⟩ := Prod.mk.inj hloaded
      obtain rfl := Except.ok.inj hcount
      exact ⟨rfl, place, children, _, hplugins, place.earTree?_eq _ hplugins, place.child?_tree _,
        rfl, rfl, place.earTree?_eq _ rfl, place.child?_tree _, place.files_eq rfl⟩

end Goal

end BuildInjection
