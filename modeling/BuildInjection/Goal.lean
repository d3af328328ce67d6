/-!
# Goals

What a run can inject: dependencies into the project, or EAR modules into the configuration of the
plugin that packs enterprise archives.
-/

namespace BuildInjection

/-- What is to be injected. -/
inductive Goal where
  /-- Dependencies, into the dependency list of the project. -/
  | dependencies
  /-- EAR modules, into the configuration of the EAR plugin. -/
  | earModules
deriving DecidableEq, Repr, Inhabited

namespace Goal

/-- Every goal. -/
def all : List Goal := [.dependencies, .earModules]

/-- The name under which a goal is asked for. -/
def name : Goal → String
  | .dependencies => "inject"
  | .earModules => "inject-ear-module"

/-- What the log calls the things that a goal injects. -/
def subject : Goal → String
  | .dependencies => "dependencies"
  | .earModules => "EAR modules"

/-- The names that are accepted for a goal. -/
def names : List String := ["inject", "inject-ear-module"]

/-- The goal of a name. -/
def ofName? : String → Option Goal
  | "inject" => some .dependencies
  | "inject-ear-module" => some .earModules
  | _ => none

/-- There are no other goals than those in the list. -/
theorem mem_all (g : Goal) : g ∈ all := by cases g <;> decide

/-- The accepted names are those of the goals. -/
theorem names_eq_map_name : names = all.map name := rfl

/-- The name of a goal leads back to it. -/
theorem ofName?_name (g : Goal) : ofName? g.name = some g := by cases g <;> rfl

/-- No two goals have the same name. -/
theorem name_injective {g h : Goal} (e : g.name = h.name) : g = h :=
  Option.some.inj ((ofName?_name g).symm.trans (e ▸ ofName?_name h))

/-- A goal is found under its own name only. -/
theorem ofName?_eq_some_iff {s : String} {g : Goal} : ofName? s = some g ↔ g.name = s := by
  constructor
  · intro h
    unfold ofName? at h
    split at h
    · obtain rfl := Option.some.inj h
      rfl
    · obtain rfl := Option.some.inj h
      rfl
    · exact nomatch h
  · rintro rfl
    exact ofName?_name g

/-- The accepted names are the ones under which a goal is found. -/
theorem mem_names_iff {s : String} : s ∈ names ↔ ∃ g : Goal, ofName? s = some g := by
  simp only [names_eq_map_name, List.mem_map, ofName?_eq_some_iff]
  constructor
  · rintro ⟨g, -, rfl⟩
    exact ⟨g, rfl⟩
  · rintro ⟨g, rfl⟩
    exact ⟨g, mem_all g, rfl⟩

end Goal

end BuildInjection
