import BuildInjection.ProjectFile.Validation
import BuildInjection.Proofs.Check

/-!
# What the checks of a project file rule out

The checks of a project file accept what is well-formed and nothing else, and otherwise report the
first of its demands that is not met (`validate_iff_isWellFormed`).  A project file that passes them
names only goals that there are, so that its goals can always be found (`mem_names_of_validate`,
`exists_goals`).
-/

namespace BuildInjection

/-- A name is accepted if it is one of those that are allowed. -/
theorem Check.oneOf_eq_ok_iff {field value : String} {allowed : List String} :
    oneOf field value allowed = .ok () ↔ value ∈ allowed := by
  unfold oneOf
  split <;> simp [*]

namespace ProjectFile

variable {f : ProjectFile}

/-! ## The demands -/

/-- The demands on coordinates. -/
def coordinateDemands (c : Coordinates) : List Demand := [
  .nonBlank "project.group_id" c.groupId,
  .nonBlank "project.artifact_id" c.artifactId,
  .nonBlank "project.version" c.version]

/-- The demands on a plugin. -/
def pluginDemands (p : PluginEntry) : List Demand := [
  .nonBlank "build_plugins.group_id" p.groupId,
  .nonBlank "build_plugins.artifact_id" p.artifactId]

/-- The demands on a project file, in the order in which they are looked at. -/
def demands (f : ProjectFile) : List Demand :=
  coordinateDemands f.project ++
    (f.profiles.map (·.id)).map (.nonBlank "profiles.id") ++
    Demand.distinct "profiles.id" (f.profiles.map (·.id)) ++
    f.goalNames.map (.oneOf Goal.names "inject.goals") ++
    f.plugins.flatMap pluginDemands

/-- The check of coordinates is the verdict on their demands. -/
theorem checkCoordinates_eq_verdict (c : Coordinates) :
    checkCoordinates c = Demand.verdict (coordinateDemands c) := by
  rw [checkCoordinates]
  simp only [Check.nonBlank_eq_verdict, ← Demand.verdict_append]
  rfl

/-- The check of a plugin is the verdict on its demands. -/
theorem checkPlugin_eq_verdict (p : PluginEntry) :
    checkPlugin p = Demand.verdict (pluginDemands p) := by
  rw [checkPlugin]
  simp only [Check.nonBlank_eq_verdict, ← Demand.verdict_append]
  rfl

/-- The demands of one check after the other. -/
theorem checkAll_eq_verdict {α : Type} {check : α → Except Error Unit} {demandsOf : α → List Demand}
    (h : ∀ a, check a = Demand.verdict (demandsOf a)) (as : List α) :
    checkAll check as = Demand.verdict (as.flatMap demandsOf) := by
  induction as with
  | nil => rfl
  | cons a as ih =>
    rw [checkAll, h a, ih, List.flatMap_cons, Demand.verdict_append]
    rfl

/-- The checks look at the demands in their order. -/
theorem validate_eq_verdict (f : ProjectFile) : f.validate = Demand.verdict f.demands := by
  rw [validate, checkCoordinates_eq_verdict, Check.unique_eq_verdict,
    checkAll_eq_verdict (Check.nonBlank_eq_verdict "profiles.id"),
    checkAll_eq_verdict fun name => Check.oneOf_eq_verdict "inject.goals" name Goal.names,
    checkAll_eq_verdict checkPlugin_eq_verdict]
  -- one verdict after the other is the verdict on all demands in a row
  simp only [← Demand.verdict_append, ← List.append_assoc, ← List.map_eq_flatMap]
  rfl

/-! ## Well-formed project files -/

/-- What a project file has to be like. -/
structure IsWellFormed (f : ProjectFile) : Prop where
  groupId : Text.trim f.project.groupId ≠ ""
  artifactId : Text.trim f.project.artifactId ≠ ""
  version : Text.trim f.project.version ≠ ""
  profileIds : ∀ p ∈ f.profiles, Text.trim p.id ≠ ""
  nodup_profileIds : (f.profiles.map (·.id)).Nodup
  goals : ∀ name ∈ f.goalNames, ∃ g : Goal, g.name = name
  plugins : ∀ p ∈ f.plugins, Text.trim p.groupId ≠ "" ∧ Text.trim p.artifactId ≠ ""

/-- A project file is well-formed exactly if all its demands are met. -/
theorem isWellFormed_iff : f.IsWellFormed ↔ ∀ d ∈ f.demands, d.holds = true := by
  -- group by group, in the order of the demands
  have hcoordinates : (∀ d ∈ coordinateDemands f.project, d.holds = true) ↔
      Text.trim f.project.groupId ≠ "" ∧ Text.trim f.project.artifactId ≠ "" ∧
        Text.trim f.project.version ≠ "" := by
    simp [coordinateDemands, Demand.nonBlank]
  have hids : (∀ d ∈ (f.profiles.map (·.id)).map (Demand.nonBlank "profiles.id"), d.holds = true) ↔
      ∀ p ∈ f.profiles, Text.trim p.id ≠ "" := by
    simp [Demand.nonBlank]
  have hgoals : (∀ d ∈ f.goalNames.map (Demand.oneOf Goal.names "inject.goals"), d.holds = true) ↔
      ∀ name ∈ f.goalNames, ∃ g : Goal, g.name = name := by
    simp [Demand.oneOf, Goal.mem_names_iff, Goal.ofName?_eq_some_iff]
  have hplugins : (∀ d ∈ f.plugins.flatMap pluginDemands, d.holds = true) ↔
      ∀ p ∈ f.plugins, Text.trim p.groupId ≠ "" ∧ Text.trim p.artifactId ≠ "" := by
    rw [List.forall_mem_flatMap]
    simp [pluginDemands, Demand.nonBlank]
  simp only [demands, List.forall_mem_append, hcoordinates, hids,
    Demand.forall_holds_distinct_iff, hgoals, hplugins, and_assoc]
  constructor
  · rintro ⟨hgroup, hartifact, hversion, hids, hnodup, hgoals, hplugins⟩
    exact ⟨hgroup, hartifact, hversion, hids, hnodup, hgoals, hplugins⟩
  · rintro ⟨hgroup, hartifact, hversion, hids, hnodup, hgoals, hplugins⟩
    exact ⟨hgroup, hartifact, hversion, hids, hnodup, hgoals, hplugins⟩

/-- The checks accept what is well-formed. -/
theorem validate_eq_ok_iff : f.validate = .ok () ↔ f.IsWellFormed := by
  rw [validate_eq_verdict, Demand.verdict_eq_ok_iff, isWellFormed_iff]

/-! ## Goals -/

/-- The goal of a name is the one that has the name. -/
theorem goalOfName_eq_ok_iff {setting name : String} {g : Goal} :
    goalOfName setting name = .ok g ↔ g.name = name := by
  rw [← Goal.ofName?_eq_some_iff, goalOfName]
  split <;> simp [*]

/-- A name that no goal has is an error on the setting it came from. -/
theorem goalOfName_eq_error_iff {setting name : String} {e : Error} :
    goalOfName setting name = .error e ↔
      (∀ g : Goal, g.name ≠ name) ∧ e = .invalid setting name (.unknownGoal name) := by
  have hunknown : (∀ g : Goal, g.name ≠ name) ↔ Goal.ofName? name = none := by
    simp only [ne_eq, ← Goal.ofName?_eq_some_iff, Option.eq_none_iff_forall_ne_some]
  rw [hunknown, goalOfName]
  split <;> simp [*, eq_comm]

/-- The goals of some names are those that have these names. -/
theorem mapM_goalOfName_eq_ok_iff {setting : String} {names : List String} {goals : List Goal} :
    names.mapM (goalOfName setting) = .ok goals ↔ goals.map Goal.name = names := by
  simp only [mapM_eq_ok_iff, goalOfName_eq_ok_iff]
  rw [eq_comm, ← List.forall₂_eq_eq_eq, List.forall₂_map_right_iff]
  simp only [eq_comm]

/-- The goals of some names, all of which are known. -/
theorem exists_goals {names : List String} (hknown : ∀ name ∈ names, name ∈ Goal.names)
    (setting : String) :
    ∃ goals, names.mapM (goalOfName setting) = .ok goals ∧ goals.map Goal.name = names := by
  have hfound : ∀ name ∈ names, ∃ g, goalOfName setting name = .ok g := by
    intro name hname
    obtain ⟨g, hg⟩ := Goal.mem_names_iff.1 (hknown name hname)
    exact ⟨g, goalOfName_eq_ok_iff.2 (Goal.ofName?_eq_some_iff.1 hg)⟩
  obtain ⟨goals, hgoals⟩ := exists_mapM_eq_ok_iff.2 hfound
  exact ⟨goals, hgoals, mapM_goalOfName_eq_ok_iff.1 hgoals⟩

/-- A project file that passes its checks names only goals that there are. -/
theorem mem_names_of_validate (hvalid : f.validate = .ok ()) :
    ∀ name ∈ f.goalNames, name ∈ Goal.names := by
  intro name hname
  obtain ⟨g, hg⟩ := (validate_eq_ok_iff.1 hvalid).goals name hname
  exact Goal.mem_names_iff.2 ⟨g, Goal.ofName?_eq_some_iff.2 hg⟩

/-- **The checks of a project file.**  They accept exactly the well-formed ones; the error on any
    other is that of its first demand that is not met.  The goals are found exactly when every name
    is that of a goal, and are then the goals of these names in their order; the error is on the
    first name that is none.  So the goals of a project file that is accepted are found. -/
theorem validate_iff_isWellFormed (f : ProjectFile) :
    (f.validate = .ok () ↔ f.IsWellFormed) ∧
    (∀ e, f.validate = .error e ↔
      ∃ before d after, f.demands = before ++ d :: after ∧ (∀ met ∈ before, met.holds = true) ∧
        d.holds = false ∧ e = d.error) ∧
    (∀ goals, f.goals = .ok goals ↔ goals.map Goal.name = f.goalNames) ∧
    ((∃ goals, f.goals = .ok goals) ↔ ∀ name ∈ f.goalNames, ∃ g : Goal, g.name = name) ∧
    (∀ e, f.goals = .error e ↔
      ∃ before name after, f.goalNames = before ++ name :: after ∧
        (∀ known ∈ before, ∃ g : Goal, g.name = known) ∧ (∀ g : Goal, g.name ≠ name) ∧
        e = .invalid "inject.goals" name (.unknownGoal name)) ∧
    (f.validate = .ok () → ∃ goals, f.goals = .ok goals) := by
  -- goals are found one by one
  have hgoals : (∃ goals, f.goals = .ok goals) ↔
      ∀ name ∈ f.goalNames, ∃ g : Goal, g.name = name := by
    simp only [goals, exists_mapM_eq_ok_iff, goalOfName_eq_ok_iff]
  refine ⟨validate_eq_ok_iff, fun e => ?_, fun _ => mapM_goalOfName_eq_ok_iff, hgoals, fun e => ?_,
    fun hvalid => hgoals.2 (validate_eq_ok_iff.1 hvalid).goals⟩
  · rw [validate_eq_verdict, Demand.verdict_eq_error_iff]
  · rw [goals, mapM_eq_error_iff]
    simp only [goalOfName_eq_ok_iff, goalOfName_eq_error_iff]

/-- The second profile has the identifier of the first, and there is no goal of this name. -/
example :
    validate {
      project := ⟨"org", "shop", "1"⟩
      inject := some { goals := some ["install"] }
      profiles := [⟨"dev", none, none⟩, ⟨"dev", none, none⟩] } =
    .error (.invalid "profiles.id" "dev" .duplicate) := by
  decide

/-- Two profiles and a known goal are accepted, and the goal is found. -/
theorem validate_iff_isWellFormed_two_profiles :
    let f : ProjectFile := {
      project := ⟨"org", "shop", "1"⟩
      inject := some { goals := some ["inject"] }
      profiles := [⟨"dev", none, none⟩, ⟨"test", none, none⟩] }
    f.IsWellFormed ∧ f.goals = .ok [.dependencies] ∧ ∃ goals, f.goals = .ok goals := by
  intro f
  obtain ⟨haccepts, -, hfound, -, -, hgoals⟩ := validate_iff_isWellFormed f
  have hvalid : f.validate = .ok () := by decide
  exact ⟨haccepts.1 hvalid, (hfound _).2 (by decide), hgoals hvalid⟩

end ProjectFile

end BuildInjection
