import BuildInjection.Injection.Item

/-!
# What reading and loading come to

Reading specs one after the other keeps the items of those that can be read and counts the others,
so that every spec is accounted for once (`length_readAll`).  Loading a batch adds all its items at
once, and their number is the number that is returned (`eq_length_of_add`).
-/

namespace BuildInjection.Goal

variable (g : Goal)

/-- A spec with the item that it describes, if it describes one. -/
def item? (spec : String) : Option (String × g.Item) := (g.read spec).toOption.map (spec, ·)

/-- A spec that can be read has an item. -/
theorem item?_of_ok {spec : String} {item : g.Item} (hread : g.read spec = .ok item) :
    g.item? spec = some (spec, item) := by
  rw [item?, hread]
  rfl

/-- A spec that cannot be read has none. -/
theorem item?_of_error {spec : String} {fault : SpecFault} (hread : g.read spec = .error fault) :
    g.item? spec = none := by
  rw [item?, hread]
  rfl

/-- The items are those of the specs that can be read, in order. -/
theorem fst_readAll (specs : List String) : (g.readAll specs).1 = specs.filterMap g.item? := by
  induction specs with
  | nil => rfl
  | cons spec specs ih =>
    cases hread : g.read spec with
    | ok item => simp only [readAll, hread, ih, List.filterMap_cons, g.item?_of_ok hread]
    | error fault => simp only [readAll, hread, ih, List.filterMap_cons, g.item?_of_error hread]

/-- What is in a batch was read from its spec. -/
theorem mem_fst_readAll {specs : List String} {spec : String} {item : g.Item} :
    (spec, item) ∈ (g.readAll specs).1 ↔ spec ∈ specs ∧ g.read spec = .ok item := by
  rw [fst_readAll, List.mem_filterMap]
  constructor
  · rintro ⟨spec', hmem, hitem⟩
    -- what was kept was read, and it is kept next to its own spec
    cases hread : g.read spec' with
    | error fault =>
      rw [g.item?_of_error hread] at hitem
      exact nomatch hitem
    | ok item' =>
      rw [g.item?_of_ok hread] at hitem
      obtain ⟨rfl, rfl⟩ := Prod.mk.inj (Option.some.inj hitem)
      exact ⟨hmem, hread⟩
  · rintro ⟨hmem, hread⟩
    exact ⟨spec, hmem, g.item?_of_ok hread⟩

/-- There is a fault for every spec that cannot be read. -/
theorem length_snd_readAll (specs : List String) :
    (g.readAll specs).2.length = specs.countP fun spec => (g.item? spec).isNone := by
  induction specs with
  | nil => rfl
  | cons spec specs ih =>
    rw [List.countP_cons, ← ih]
    cases hread : g.read spec with
    | ok item => simp [readAll, hread, g.item?_of_ok hread]
    | error fault => simp [readAll, hread, g.item?_of_error hread]

/-- Every spec gives an item or a fault. -/
theorem length_readAll (specs : List String) :
    (g.readAll specs).1.length + (g.readAll specs).2.length = specs.length := by
  induction specs with
  | nil => rfl
  | cons spec specs ih =>
    cases hread : g.read spec with
    | ok item =>
      simp only [readAll, hread, List.length_cons]
      omega
    | error fault =>
      simp only [readAll, hread, List.length_cons]
      omega

/-- Every spec describes a dependency. -/
theorem snd_readAll_dependencies (specs : List String) :
    (readAll .dependencies specs).2 = [] := by
  induction specs with
  | nil => rfl
  | cons spec specs ih => simp only [readAll, read, ih]

/-! ## Loading -/

/-- A batch that is added is added whole. -/
theorem eq_length_of_add {g : Goal} {items : List g.Item} {h h' : Host} {count : Nat}
    (hadd : g.add items h = (.ok count, h')) : count = items.length := by
  match g, items with
  | .dependencies, (ds : List Dependency) =>
    exact (Except.ok.inj (congrArg Prod.fst hadd)).symm
  | .earModules, (ts : List ConfigTree) =>
    -- the plugins take all modules, or they take none
    cases hplugins : Target.add ts h.writablePlugins with
    | error reason =>
      simp only [add, hplugins] at hadd
      exact nomatch congrArg Prod.fst hadd
    | ok plugins =>
      simp only [add, hplugins] at hadd
      exact (Except.ok.inj (congrArg Prod.fst hadd)).symm

/-- The specs of a batch are for the reports only. -/
theorem value_load (batch : List (String × g.Item)) (h : Host) :
    (g.load batch h).value = g.add (batch.map Prod.snd) h := by
  rw [load, Logged.value_bind]
  rcases g.add (batch.map Prod.snd) h with ⟨reason | count, h'⟩ <;> rfl

end BuildInjection.Goal
