import BuildInjection.Injection.Item
import BuildInjection.Proofs.Injection.Place

/-!
# What a host gains

A host grows by dependencies at the end of its list and by modules at the end of the children of the
one node for modules; everything else stays (`Host.Extends`).  Growths follow one another
(`Host.Extends.trans`), they are determined by what is added (`Target.Grows.unique`), and none of
them changes what a goal reads.
-/

namespace BuildInjection

namespace Target

/-- Plugins after modules were added to them: the modules stand after the old children of the node
    for modules, and where there is no such node there are no modules either. -/
def Grows (modules : List ConfigTree) (before after : List Plugin) : Prop :=
  (∃ (place : Place) (children : List ConfigTree),
    before = place.plugins children ∧ after = place.plugins (children ++ modules)) ∨
  (modules = [] ∧ after = before)

namespace Grows

variable {modules more : List ConfigTree} {a b c : List Plugin}

theorem refl (ps : List Plugin) : Grows [] ps ps := .inr ⟨rfl, rfl⟩

/-- Modules that are added to a place make it grow by them. -/
theorem of_add {plugins : List Plugin} (hcheck : (check a).value = .ok ())
    (h : add modules a = .ok plugins) : Grows modules a plugins := by
  obtain ⟨place, children, rfl⟩ := exists_place_of_check hcheck
  rw [Place.add_plugins] at h
  exact .inl ⟨place, children, rfl, (Except.ok.inj h).symm⟩

/-- Growths follow one another. -/
theorem trans (hab : Grows modules a b) (hbc : Grows more b c) : Grows (modules ++ more) a c := by
  rcases hab with ⟨place, children, rfl, rfl⟩ | ⟨rfl, rfl⟩
  · rcases hbc with ⟨place', children', hb, rfl⟩ | ⟨rfl, rfl⟩
    · -- the second place need not be the first, but adding to it comes to the same
      have hadd := place'.add_plugins children' more
      rw [← hb, Place.add_plugins] at hadd
      refine .inl ⟨place, children, rfl, ?_⟩
      rw [← List.append_assoc]
      exact (Except.ok.inj hadd).symm
    · rw [List.append_nil]
      exact .inl ⟨place, children, rfl, rfl⟩
  · exact hbc

/-- What plugins become is determined by the modules. -/
theorem unique (hb : Grows modules a b) (hc : Grows modules a c) : b = c := by
  rcases hb with ⟨place, children, rfl, rfl⟩ | ⟨rfl, rfl⟩
  · rcases hc with ⟨place', children', ha, rfl⟩ | ⟨rfl, rfl⟩
    · have hadd := place'.add_plugins children' modules
      rw [← ha, Place.add_plugins] at hadd
      exact Except.ok.inj hadd
    · -- without modules the place does not matter
      rw [List.append_nil]
  · rcases hc with ⟨place, children, rfl, rfl⟩ | ⟨-, rfl⟩
    · rw [List.append_nil]
    · rfl

/-- The check comes to the same before and after. -/
theorem value_check (h : Grows modules a b) : (check b).value = (check a).value := by
  rcases h with ⟨place, children, rfl, rfl⟩ | ⟨-, rfl⟩
  · rw [Place.value_check_plugins, Place.value_check_plugins]
  · rfl

end Grows

end Target

namespace Host

/-- A host after dependencies and modules were added to it. -/
structure Extends (dependencies : List Dependency) (modules : List ConfigTree)
    (before after : Host) : Prop where
  /-- The profiles stay as they are. -/
  profiles : after.profiles = before.profiles
  /-- The dependencies come after the old ones. -/
  dependencies : after.dependencies = before.dependencies ++ dependencies
  /-- The modules come into their place. -/
  plugins : Target.Grows modules before.plugins after.plugins
  /-- The plugins are shown as before. -/
  pluginsWithheld : after.pluginsWithheld = before.pluginsWithheld

namespace Extends

variable {ds ds' : List Dependency} {ts ts' : List ConfigTree} {a b c : Host}

theorem refl (h : Host) : h.Extends [] [] h := ⟨rfl, (List.append_nil _).symm, .refl _, rfl⟩

theorem trans (hab : a.Extends ds ts b) (hbc : b.Extends ds' ts' c) :
    a.Extends (ds ++ ds') (ts ++ ts') c where
  profiles := hbc.profiles.trans hab.profiles
  dependencies := by rw [hbc.dependencies, hab.dependencies, List.append_assoc]
  plugins := hab.plugins.trans hbc.plugins
  pluginsWithheld := hbc.pluginsWithheld.trans hab.pluginsWithheld

/-- What a host becomes is determined by what is added to it. -/
theorem unique (hb : a.Extends ds ts b) (hc : a.Extends ds ts c) : b = c := by
  have hprofiles : b.profiles = c.profiles := hb.profiles.trans hc.profiles.symm
  have hdeps : b.dependencies = c.dependencies := hb.dependencies.trans hc.dependencies.symm
  have hplugins : b.plugins = c.plugins := hb.plugins.unique hc.plugins
  have hwithheld : b.pluginsWithheld = c.pluginsWithheld :=
    hb.pluginsWithheld.trans hc.pluginsWithheld.symm
  cases b
  cases c
  simp_all only

/-- The same profiles are active as before. -/
theorem activeProfiles_eq (h : a.Extends ds ts b) : b.activeProfiles = a.activeProfiles := by
  rw [activeProfiles, activeProfiles, h.profiles]

/-- No goal finds more or less of a place than before. -/
theorem value_check (h : a.Extends ds ts b) (g : Goal) : (g.check b).value = (g.check a).value := by
  cases g with
  | dependencies => rfl
  | earModules => exact h.plugins.value_check

end Extends

end Host

/-! ## Batches -/

namespace Goal

/-- Whether a host withholds what a goal writes to. -/
def isWithheld : Goal → Host → Bool
  | .dependencies, _ => false
  | .earModules, h => h.pluginsWithheld

/-- The dependencies among the items of a goal. -/
def dependenciesOf : (g : Goal) → List g.Item → List Dependency
  | .dependencies, (ds : List Dependency) => ds
  | .earModules, _ => []

/-- The modules among the items of a goal. -/
def modulesOf : (g : Goal) → List g.Item → List ConfigTree
  | .dependencies, _ => []
  | .earModules, (ts : List ConfigTree) => ts

/-- What cannot be written to takes no batch. -/
theorem add_of_isWithheld {g : Goal} {h : Host} (hwithheld : g.isWithheld h = true)
    (items : List g.Item) : g.add items h = (.error Target.notFound, h) := by
  cases g with
  | dependencies => cases hwithheld
  | earModules =>
    have hnone : h.writablePlugins = [] := if_pos hwithheld
    simp only [add, hnone, Target.add]

/-- A batch that is not added leaves the host as it was. -/
theorem add_of_error {g : Goal} {h h' : Host} {items : List g.Item} {reason : NoOp}
    (hadd : g.add items h = (.error reason, h')) : h' = h := by
  match g, items with
  | .dependencies, _ => exact nomatch congrArg Prod.fst hadd
  | .earModules, (ts : List ConfigTree) =>
    cases hplugins : Target.add ts h.writablePlugins with
    | error reason' =>
      simp only [add, hplugins] at hadd
      exact (congrArg Prod.snd hadd).symm
    | ok plugins =>
      simp only [add, hplugins] at hadd
      exact nomatch congrArg Prod.fst hadd

/-- A batch that has a place is added to it whole, and nothing else changes. -/
theorem add_of_check {g : Goal} {h : Host} (hcheck : (g.check h).value = .ok ())
    (hwithheld : g.isWithheld h = false) (items : List g.Item) :
    ∃ h', g.add items h = (.ok items.length, h') ∧
      h.Extends (g.dependenciesOf items) (g.modulesOf items) h' := by
  match g, items with
  | .dependencies, _ => exact ⟨_, rfl, rfl, rfl, .refl _, rfl⟩
  | .earModules, (ts : List ConfigTree) =>
    -- what may be changed is what the check has looked at
    have hplugins : h.writablePlugins = h.plugins := by
      have hfalse : h.pluginsWithheld = false := hwithheld
      rw [Host.writablePlugins, hfalse]
      rfl
    obtain ⟨place, children, hplace⟩ := Target.exists_place_of_check hcheck
    have hadd : Target.add ts h.plugins = .ok (place.plugins (children ++ ts)) := by
      rw [hplace, Target.Place.add_plugins]
    -- the batch ends up in the place, and the counts agree
    refine ⟨{ h with plugins := place.plugins (children ++ ts) }, ?_, ?_⟩
    · simp only [add, hplugins, hadd]
      rfl
    · exact ⟨rfl, (List.append_nil _).symm, .of_add hcheck hadd, rfl⟩

end Goal

end BuildInjection
