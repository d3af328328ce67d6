import Mathlib.Data.List.Basic
import BuildInjection.Output
import BuildInjection.Proofs.ConfigTree.Nodes
import BuildInjection.Proofs.Json

/-!
# Projects and their JSON

The JSON of a project leaves out what is not there: positions of dependencies that are unset,
versions, configurations, values and children.  Nothing is lost by that, because each of them has a
member under a key of its own where it is there, and a configuration that is a text is a string,
where a tree is an object.  So the file with a project is the file of no other project
(`Output.project_text_inj`).
-/

namespace BuildInjection

namespace Json

/-- What stands under the key of a member that may be left out. -/
theorem lookup_toList_map {α : Type} (key k : String) (f : α → Json) (o : Option α) :
    (o.map fun a => (key, f a)).toList.lookup k = if k = key then o.map f else none := by
  cases o with
  | none => simp
  | some a =>
    rw [Option.map_some, Option.toList_some, List.lookup_cons, List.lookup_nil]
    by_cases h : k = key
    · simp [h]
    · rw [if_neg h, beq_false_of_ne h]

/-- An optional text stands under its own key if it is there. -/
theorem lookup_optional (key k : String) (value : Option String) :
    (optional key value).lookup k = if k = key then value.map .string else none := by
  rw [← lookup_toList_map]
  cases value <;> rfl

/-- Optional texts are told apart by their JSON values. -/
@[simp] theorem map_string_inj {v w : Option String} : v.map string = w.map string ↔ v = w :=
  Option.map_inj_right fun _ _ h => Json.string.inj h

end Json

/-! ## Dependencies -/

/-- Each position stands under its own key. -/
theorem Dependency.toJson_injective : Function.Injective toJson := by
  intro d e h
  -- what stands under each key is the same on both sides
  have hunder : ∀ key, _ := fun key => congrArg (List.lookup key) (Json.object.inj h)
  simp only [List.lookup_append, Json.lookup_optional] at hunder
  have hgroup : d.groupId = e.groupId := by simpa using hunder "groupId"
  have hartifact : d.artifactId = e.artifactId := by simpa using hunder "artifactId"
  have hversion : d.version = e.version := by simpa using hunder "version"
  have htype : d.type = e.type := by simpa using hunder "type"
  have hscope : d.scope = e.scope := by simpa using hunder "scope"
  cases d
  cases e
  simp_all only

/-! ## Configurations -/

namespace ConfigTree

/-- Several trees are written one by one. -/
theorem allToJson_eq_map (ts : List ConfigTree) : allToJson ts = ts.map toJson := by
  induction ts with
  | nil => rw [allToJson]; rfl
  | cons t ts ih => rw [allToJson, ih]; rfl

/-- Nothing but the children stands under their key, and there they stand if there are any. -/
theorem lookup_childrenMember (key : String) (ts : List ConfigTree) :
    (childrenMember ts).lookup key =
      if key = "children" ∧ ts ≠ [] then some (.array (ts.map toJson)) else none := by
  cases ts with
  | nil => simp [childrenMember]
  | cons t ts =>
    rw [childrenMember, allToJson_eq_map, List.lookup_cons, List.lookup_nil]
    by_cases h : key = "children"
    · simp [h]
    · rw [if_neg fun hand => h hand.1, beq_false_of_ne h]

/-- Lists of trees are the same if their JSON is and every tree in the first has a JSON of its
    own. -/
theorem eq_of_map_toJson_eq {ts us : List ConfigTree}
    (hts : ∀ t ∈ ts, ∀ u, t.toJson = u.toJson → t = u) (h : ts.map toJson = us.map toJson) :
    ts = us := by
  induction ts generalizing us with
  | nil => exact (List.map_eq_nil_iff.1 h.symm).symm
  | cons t ts ih =>
    obtain ⟨ht, hts⟩ := List.forall_mem_cons.1 hts
    cases us with
    | nil => simp at h
    | cons u us =>
      obtain ⟨hhead, htail⟩ := List.cons.inj h
      rw [ht u hhead, ih hts htail]

/-- A tree is known from its JSON. -/
theorem toJson_injective : Function.Injective toJson := by
  intro t u h
  induction t generalizing u with
  | mk name value children ih =>
    obtain ⟨name', value', children'⟩ := u
    simp only [toJson, List.cons_append, Json.object.injEq, List.cons.injEq, Prod.mk.injEq,
      true_and, Json.string.injEq] at h
    obtain ⟨rfl, hmembers⟩ := h
    have hunder : ∀ key, _ := fun key => congrArg (List.lookup key) hmembers
    simp only [List.lookup_append, Json.lookup_optional, lookup_childrenMember] at hunder
    have hvalue : value = value' := by simpa using hunder "value"
    have hchildren : children.map toJson = children'.map toJson := by
      have hkey := hunder "children"
      cases children <;> cases children' <;> simp_all
    rw [hvalue, eq_of_map_toJson_eq ih hchildren]

end ConfigTree

/-- A tree is an object, and a text is a string. -/
theorem Configuration.toJson_injective : Function.Injective toJson := by
  intro c d h
  have hobject : ∀ t : ConfigTree, ∃ members, t.toJson = .object members := by
    rintro ⟨name, value, children⟩
    exact ⟨_, rfl⟩
  match c, d with
  | .tree t, .tree u => rw [ConfigTree.toJson_injective h]
  | .raw text, .raw text' => rw [Json.string.inj h]
  -- an object is no string
  | .tree t, .raw text =>
    obtain ⟨members, ht⟩ := hobject t
    exact nomatch ht.symm.trans h
  | .raw text, .tree t =>
    obtain ⟨members, ht⟩ := hobject t
    exact nomatch h.trans ht

/-! ## Projects -/

/-- A plugin is known from its JSON. -/
theorem Plugin.toJson_injective : Function.Injective toJson := by
  intro p q h
  simp only [toJson, List.cons_append, Json.object.injEq, List.cons.injEq, Prod.mk.injEq,
    true_and, Json.string.injEq] at h
  obtain ⟨hgroup, hartifact, hmembers⟩ := h
  have hunder : ∀ key, _ := fun key => congrArg (List.lookup key) hmembers
  simp only [List.lookup_append, Json.lookup_optional, Json.lookup_toList_map] at hunder
  have hversion : p.version = q.version := by simpa using hunder "version"
  have hconfiguration : p.configuration = q.configuration := by
    refine Option.map_injective Configuration.toJson_injective ?_
    simpa using hunder "configuration"
  cases p
  cases q
  simp_all only

/-- A profile is known from its JSON. -/
theorem Profile.toJson_injective : Function.Injective toJson := by
  intro p q h
  have hentry : Function.Injective fun e : String × String => (e.1, Json.string e.2) := by
    rintro ⟨key, value⟩ ⟨key', value'⟩ he
    simpa using he
  simp only [toJson, propertiesToJson, Json.object.injEq, List.cons.injEq, Prod.mk.injEq,
    true_and, and_true, Json.string.injEq, Json.bool.injEq] at h
  obtain ⟨hid, hactive, hproperties⟩ := h
  have hentries : p.properties = q.properties :=
    OrderedMap.ext (List.map_injective_iff.2 hentry hproperties)
  cases p
  cases q
  simp_all only

/-- A project is known from its JSON. -/
theorem Project.toJson_injective : Function.Injective toJson := by
  intro p q h
  simp only [toJson, Json.object.injEq, List.cons.injEq, Prod.mk.injEq, true_and, and_true,
    Json.string.injEq, Json.array.injEq] at h
  obtain ⟨hgroup, hartifact, hversion, hprofiles, hdependencies, hplugins⟩ := h
  have hprofiles := List.map_injective_iff.2 Profile.toJson_injective hprofiles
  have hdependencies := List.map_injective_iff.2 Dependency.toJson_injective hdependencies
  have hplugins := List.map_injective_iff.2 Plugin.toJson_injective hplugins
  cases p
  cases q
  simp_all only

/-- The file with a project holds the laid-out JSON of the project, and that is the JSON of no other
    project. -/
theorem Output.project_text_inj :
    (∀ p : Project, (files p).lookup projectFile = some p.toJson.pretty) ∧
      ∀ p q : Project, p.toJson.pretty = q.toJson.pretty ↔ p = q :=
  ⟨fun _ => List.lookup_cons_self, fun _ _ => Json.pretty_inj.trans Project.toJson_injective.eq_iff⟩

end BuildInjection
