import BuildInjection.Proofs.OrderedMap
import BuildInjection.Proofs.ProjectFile.Model
import BuildInjection.Proofs.ProjectFile.Tables

/-!
# What a project file describes

The project of a project file has one profile, dependency or plugin for each that is configured, in
their order, and each of them is what its entry says (`ProjectFile.Describes`).  There is such a
project unless a property is no text, and then the error names the first one that is none
(`ProjectFile.toProject_iff_describes`).
-/

namespace BuildInjection

/-! ## Profiles -/

namespace ProfileEntry

/-- A profile is what its entry says: the entries of the table are its properties, each in its
    place, and it is active unless the entry says otherwise. -/
structure Describes (entry : ProfileEntry) (p : Profile) : Prop where
  id : p.id = entry.id
  active : p.active = entry.active.getD true
  properties : entry.properties.getD [] = p.properties.entries.map ofProperty

/-- An entry has one key and one text, which make up the property. -/
theorem ofProperty_injective : Function.Injective ofProperty := by
  rintro ⟨key, value⟩ ⟨key', value'⟩ h
  simpa [ofProperty] using h

/-- Where no key comes twice, the insertions give the table itself. -/
theorem toProfile_eq_ok_iff {entry : ProfileEntry} {p : Profile} (hkeys : entry.KeysDistinct) :
    entry.toProfile = .ok p ↔ entry.Describes p := by
  rcases texts_or_firstOther (entry.properties.getD []) with ⟨pairs, hpairs⟩ | ⟨key, v, hfirst⟩
  · have hnodup : (pairs.map Prod.fst).Nodup := by
      rw [KeysDistinct, hpairs, List.map_map] at hkeys
      exact hkeys
    rw [toProfile_of_eq_map hpairs, Except.ok.injEq]
    constructor
    · rintro rfl
      have hentries : (OrderedMap.ofList pairs).entries = pairs :=
        OrderedMap.entries_ofList_of_nodup hnodup
      exact ⟨rfl, rfl, by rw [hpairs, hentries]⟩
    · rintro ⟨hid, hactive, hproperties⟩
      -- both sides are the entries of the same table
      have heq : pairs = p.properties.entries :=
        List.map_injective_iff.2 ofProperty_injective (hpairs.symm.trans hproperties)
      rw [heq, OrderedMap.ofList_entries, ← hid, ← hactive]
  · rw [toProfile_of_firstOther hfirst]
    refine iff_of_false nofun fun hdescribes => ?_
    -- a table that gives properties has only texts
    exact not_hasTexts_of_firstOther hfirst (hasTexts_of_eq_map hdescribes.properties)

/-- Profiles are described one by one. -/
theorem forall₂_toProfile_iff {entries : List ProfileEntry} {ps : List Profile}
    (hkeys : ∀ entry ∈ entries, entry.KeysDistinct) :
    List.Forall₂ (fun entry p => entry.toProfile = .ok p) entries ps ↔
      List.Forall₂ Describes entries ps := by
  induction entries generalizing ps with
  | nil => simp
  | cons entry entries ih =>
    obtain ⟨hentry, hentries⟩ := List.forall_mem_cons.1 hkeys
    simp only [List.forall₂_cons_left_iff, toProfile_eq_ok_iff hentry, ih hentries]

end ProfileEntry

/-! ## Plugins -/

namespace PluginEntry

/-- The configuration that comes of a text, if there is one: the tree that is read from it, or the
    text itself where none is. -/
inductive Configures : Option String → Option Configuration → Prop where
  | absent : Configures none none
  | tree {s : String} {t : ConfigTree} (h : ConfigTree.parse? s = some t) :
      Configures (some s) (some (.tree t))
  | raw {s : String} (h : ConfigTree.parse? s = none) : Configures (some s) (some (.raw s))

/-- What a text configures is what the reader makes of it. -/
theorem configures_iff {text : Option String} {c : Option Configuration} :
    Configures text c ↔ text.map configurationOf = c := by
  constructor
  · intro h
    cases h with
    | absent => rfl
    | tree h => rw [Option.map_some, configurationOf, h]
    | raw h => rw [Option.map_some, configurationOf, h]
  · rintro rfl
    cases text with
    | none => exact .absent
    | some s =>
      rw [Option.map_some, configurationOf]
      split
      · rename_i t hparse
        exact .tree hparse
      · rename_i hparse
        exact .raw hparse

/-- A plugin is what its entry says. -/
structure Describes (entry : PluginEntry) (p : Plugin) : Prop where
  groupId : p.groupId = entry.groupId
  artifactId : p.artifactId = entry.artifactId
  version : p.version = entry.version
  configuration : Configures entry.configuration p.configuration

/-- An entry gives the one plugin that it describes. -/
theorem toPlugin_eq_iff {entry : PluginEntry} {p : Plugin} :
    entry.toPlugin = p ↔ entry.Describes p := by
  constructor
  · rintro rfl
    exact ⟨rfl, rfl, rfl, configures_iff.2 rfl⟩
  · rintro ⟨hgroup, hartifact, hversion, hconfiguration⟩
    rw [toPlugin, configures_iff.1 hconfiguration, ← hgroup, ← hartifact, ← hversion]

/-- Plugins are described one by one. -/
theorem map_toPlugin_eq_iff {entries : List PluginEntry} {ps : List Plugin} :
    entries.map toPlugin = ps ↔ List.Forall₂ Describes entries ps := by
  rw [← List.forall₂_eq_eq_eq, List.forall₂_map_left_iff]
  simp only [toPlugin_eq_iff]

end PluginEntry

/-! ## Projects -/

namespace ProjectFile

variable {f : ProjectFile}

/-- A project is what a project file says. -/
structure Describes (f : ProjectFile) (p : Project) : Prop where
  groupId : p.groupId = f.project.groupId
  artifactId : p.artifactId = f.project.artifactId
  version : p.version = f.project.version
  profiles : List.Forall₂ ProfileEntry.Describes f.profiles p.profiles
  dependencies : p.dependencies = f.dependencies
  plugins : List.Forall₂ PluginEntry.Describes f.plugins p.plugins

/-- Where no table has a key twice, a file gives the one project that it describes. -/
theorem toProject_eq_ok_iff {p : Project} (hkeys : f.KeysDistinct) :
    f.toProject.value = .ok p ↔ f.Describes p := by
  simp only [value_toProject, map_eq_ok_iff, mapM_eq_ok_iff,
    ProfileEntry.forall₂_toProfile_iff hkeys]
  constructor
  · rintro ⟨profiles, hprofiles, rfl⟩
    exact ⟨rfl, rfl, rfl, hprofiles, rfl, PluginEntry.map_toPlugin_eq_iff.1 rfl⟩
  · rintro ⟨hgroup, hartifact, hversion, hprofiles, hdependencies, hplugins⟩
    -- the other parts of the project are copied from the file
    refine ⟨p.profiles, hprofiles, ?_⟩
    rw [PluginEntry.map_toPlugin_eq_iff.2 hplugins, ← hgroup, ← hartifact, ← hversion,
      ← hdependencies]

/-- **The project of a project file.**  There is one exactly when every property of every profile
    is a text.  Otherwise the error names the first property that is none, in the order of the
    profiles and of their tables.  Where no table has a key twice, and no table of a project file
    that is read has, the project is what the file describes. -/
theorem toProject_iff_describes (f : ProjectFile) :
    ((∃ p, f.toProject.value = .ok p) ↔ ∀ entry ∈ f.profiles, entry.HasTexts) ∧
    (∀ e, f.toProject.value = .error e ↔
      ∃ before entry after, f.profiles = before ++ entry :: after ∧
        (∀ earlier ∈ before, earlier.HasTexts) ∧
        ∃ (key : String) (v : Toml.Value),
          ProfileEntry.FirstOther (entry.properties.getD []) key v ∧
            e = .invalid s!"profiles.{entry.id}.properties.{key}" v.text .notAString) ∧
    (f.KeysDistinct → ∀ p, f.toProject.value = .ok p ↔ f.Describes p) ∧
    ∀ env s, ofText env s = .ok f → f.KeysDistinct :=
  ⟨exists_toProject_iff, fun _ => toProject_eq_error_iff, fun hkeys _ => toProject_eq_ok_iff hkeys,
    fun _ _ => keysDistinct_of_ofText⟩

/-- A project file with a profile that is switched off and a plugin whose configuration is no tree;
    each of them is an array of its fields. -/
def inactiveProfile : String :=
  "project=['g','a','1']\n" ++
  "profiles=[['p',false,\x7bz='1',a='2'\x7d]]\n" ++
  "build_plugins=[['g','e','1','<']]"

/-- The file is read, and what it describes is the project that it gives. -/
theorem toProject_iff_describes_inactiveProfile :
    ∃ f p, ofText (fun _ => none) inactiveProfile = .ok f ∧ f.toProject.value = .ok p ∧
      f.Describes p ∧ p.profiles = [⟨"p", false, .ofList [("z", "1"), ("a", "2")]⟩] ∧
      p.plugins = [⟨"g", "e", "1", some (.raw "<")⟩] := by
  -- reading and describing in one computation
  have hread : (ofText (fun _ => none) inactiveProfile >>= fun f => f.toProject.value) = .ok
      ⟨"g", "a", "1", [⟨"p", false, .ofList [("z", "1"), ("a", "2")]⟩], [],
        [⟨"g", "e", "1", some (.raw "<")⟩]⟩ := by
    decide +kernel
  obtain ⟨f, hf, hp⟩ := bind_eq_ok_iff.1 hread
  obtain ⟨-, -, hexact, hdistinct⟩ := toProject_iff_describes f
  have hkeys : f.KeysDistinct := hdistinct _ _ hf
  exact ⟨f, _, hf, hp, (hexact hkeys _).1 hp, rfl, rfl⟩

end ProjectFile

end BuildInjection
