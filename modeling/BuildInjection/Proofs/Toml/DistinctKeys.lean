import Mathlib.Data.List.Nodup
import BuildInjection.Proofs.Fallible
import BuildInjection.Proofs.Toml.Value
import BuildInjection.Toml.Draft

/-!
# Tables without repeated keys

While a document is read, something is put under a key of a table only where nothing stands, or in
the place of what stands there.  So no table in the making gets a key twice, nor does any table
below it (`Draft.Keeps`).
-/

namespace BuildInjection.Toml

/-- No table in a value, at whatever depth, has a key twice. -/
inductive Value.KeysDistinct : Value → Prop
  | string (s : String) : KeysDistinct (.string s)
  | integer (i : Int) : KeysDistinct (.integer i)
  | float (x : Binary64) : KeysDistinct (.float x)
  | boolean (b : Bool) : KeysDistinct (.boolean b)
  | datetime (d : DateTime) : KeysDistinct (.datetime d)
  | array {items : List Value} (h : ∀ v ∈ items, KeysDistinct v) : KeysDistinct (.array items)
  | table {entries : Entries} (hkeys : (entries.map Prod.fst).Nodup)
      (hvalues : ∀ e ∈ entries, KeysDistinct e.2) : KeysDistinct (.table entries)

/-- An array has no table with a key twice if none of its items has. -/
theorem Value.keysDistinct_array {items : List Value} :
    (array items).KeysDistinct ↔ ∀ v ∈ items, v.KeysDistinct := by
  constructor
  · intro h
    cases h with
    | array h => exact h
  · exact .array

/-- A table has no key twice if its own keys are distinct and no value has one twice. -/
theorem Value.keysDistinct_table {es : Entries} :
    (table es).KeysDistinct ↔ (es.map Prod.fst).Nodup ∧ ∀ e ∈ es, e.2.KeysDistinct := by
  constructor
  · intro h
    cases h with
    | table hkeys hvalues => exact ⟨hkeys, hvalues⟩
  · rintro ⟨hkeys, hvalues⟩
    exact .table hkeys hvalues

/-! ## Tables in the making -/

namespace Draft

/-- No key stands twice in a table in the making, nor in any table below it. -/
structure KeysDistinct (es : Entries) : Prop where
  keys : (es.map Prod.fst).Nodup
  values : ∀ e ∈ es, e.2.toValue.KeysDistinct

/-- Entries become values one by one, under their keys. -/
theorem entriesToValue_eq_map (es : Entries) :
    entriesToValue es = es.map fun e => (e.1, e.2.toValue) := by
  induction es with
  | nil => rw [entriesToValue]; rfl
  | cons e es ih =>
    obtain ⟨key, d⟩ := e
    rw [entriesToValue, ih]
    rfl

/-- Each row of an array becomes a table. -/
theorem rowsToValues_eq_map (rows : List Entries) :
    rowsToValues rows = rows.map fun row => .table (entriesToValue row) := by
  induction rows with
  | nil => rw [rowsToValues]; rfl
  | cons row rows ih => rw [rowsToValues, ih]; rfl

/-- A table in the making has no key twice if the finished one has none. -/
theorem keysDistinct_entriesToValue_iff {es : Entries} :
    (Value.table (entriesToValue es)).KeysDistinct ↔ KeysDistinct es := by
  rw [entriesToValue_eq_map, Value.keysDistinct_table, List.map_map]
  constructor
  · rintro ⟨hkeys, hvalues⟩
    exact ⟨hkeys, fun e he => hvalues _ (List.mem_map_of_mem he)⟩
  · rintro ⟨hkeys, hvalues⟩
    refine ⟨hkeys, ?_⟩
    intro e he
    obtain ⟨e', he', rfl⟩ := List.mem_map.1 he
    exact hvalues e' he'

/-- It does not matter for the keys how a table was begun. -/
theorem keysDistinct_table_iff {origin : Origin} {es : Entries} :
    (table origin es).toValue.KeysDistinct ↔ KeysDistinct es := by
  rw [toValue, keysDistinct_entriesToValue_iff]

/-- An array of tables has no key twice if none of its rows has. -/
theorem keysDistinct_array_iff {rows : List Entries} :
    (array rows).toValue.KeysDistinct ↔ ∀ row ∈ rows, KeysDistinct row := by
  rw [toValue, rowsToValues_eq_map, Value.keysDistinct_array]
  constructor
  · intro h row hrow
    exact keysDistinct_entriesToValue_iff.1 (h _ (List.mem_map_of_mem hrow))
  · intro h v hv
    obtain ⟨row, hrow, rfl⟩ := List.mem_map.1 hv
    exact keysDistinct_entriesToValue_iff.2 (h row hrow)

section

variable {key : String} {d : Draft} {es : Entries}

/-- What is found under a key stands there. -/
theorem mem_of_lookup? (h : lookup? key es = some d) : (key, d) ∈ es := by
  obtain ⟨⟨k, d'⟩, hfind, rfl⟩ := Option.map_eq_some_iff.1 h
  obtain rfl : k = key := by simpa using List.find?_some hfind
  exact List.mem_of_find?_eq_some hfind

/-- A key under which nothing is found is a new one. -/
theorem not_mem_of_lookup? (h : lookup? key es = none) : key ∉ es.map Prod.fst := by
  intro hmem
  obtain ⟨e, he, rfl⟩ := List.mem_map.1 hmem
  simpa using List.find?_eq_none.1 (Option.map_eq_none_iff.1 h) e he

/-- An empty table has no keys. -/
theorem KeysDistinct.nil : KeysDistinct [] := ⟨List.nodup_nil, by simp⟩

/-- A new key goes to the end. -/
theorem KeysDistinct.concat (hes : KeysDistinct es) (hkey : key ∉ es.map Prod.fst)
    (hd : d.toValue.KeysDistinct) : KeysDistinct (es ++ [(key, d)]) where
  keys := by
    rw [List.map_append, List.map_singleton, ← List.concat_eq_append]
    exact hes.keys.concat hkey
  values := by
    intro e he
    rcases List.mem_append.1 he with he | he
    · exact hes.values e he
    · rw [List.mem_singleton.1 he]
      exact hd

/-- A table or a value takes the place of what stands under its key. -/
theorem KeysDistinct.replace (hes : KeysDistinct es) (hd : d.toValue.KeysDistinct) :
    KeysDistinct (replace key d es) where
  keys := by
    -- the entry keeps its key, and all others stay as they are
    have hsame : (Draft.replace key d es).map Prod.fst = es.map Prod.fst := by
      rw [Draft.replace, List.map_map]
      apply List.map_congr_left
      rintro ⟨k, old⟩ _
      show (if k = key then (k, d) else (k, old)).1 = k
      split <;> rfl
    rw [hsame]
    exact hes.keys
  values := by
    intro e he
    obtain ⟨⟨k, old⟩, hmem, rfl⟩ := List.mem_map.1 he
    show (if k = key then (k, d) else (k, old)).2.toValue.KeysDistinct
    split
    · exact hd
    · exact hes.values _ hmem

/-- Taking an entry out leaves the other keys distinct. -/
theorem KeysDistinct.erase (hes : KeysDistinct es) : KeysDistinct (erase key es) where
  keys := hes.keys.sublist (List.filter_sublist.map Prod.fst)
  values := fun e he => hes.values e (List.mem_of_mem_filter he)

/-- The key of the entry that was taken out is free again. -/
theorem not_mem_erase : key ∉ (erase key es).map Prod.fst := by
  intro hmem
  obtain ⟨e, he, hkey⟩ := List.mem_map.1 hmem
  simpa [hkey] using (List.mem_filter.1 he).2

end

/-! ## Changes -/

/-- A change leaves the keys of a table distinct, and those of the tables below it. -/
def Keeps (f : Entries → Except Fault Entries) : Prop :=
  ∀ ⦃es es'⦄, f es = .ok es' → KeysDistinct es → KeysDistinct es'

section

variable {f : Entries → Except Fault Entries} (hf : Keeps f) {key : String} {es : Entries}
include hf

/-- The change is made to a table that did not exist. -/
theorem Keeps.new {sub : Entries} {origin : Origin} (hsub : f [] = .ok sub)
    (hnone : lookup? key es = none) (hes : KeysDistinct es) :
    KeysDistinct (es ++ [(key, .table origin sub)]) :=
  hes.concat (not_mem_of_lookup? hnone) (keysDistinct_table_iff.2 (hf hsub .nil))

/-- The change is made to a table that stands under a key. -/
theorem Keeps.table {old sub : Entries} {origin : Origin} (hsub : f old = .ok sub)
    (hold : lookup? key es = some (.table origin old)) (hes : KeysDistinct es) :
    KeysDistinct (replace key (.table origin sub) es) := by
  have hdistinct := hes.values _ (mem_of_lookup? hold)
  exact hes.replace (keysDistinct_table_iff.2 (hf hsub (keysDistinct_table_iff.1 hdistinct)))

/-- Only the last row of an array is changed. -/
theorem keysDistinct_of_changeLast {rows rows' : List Entries}
    (h : changeLast f rows = .ok rows') (hrows : ∀ row ∈ rows, KeysDistinct row) :
    ∀ row ∈ rows', KeysDistinct row := by
  induction rows generalizing rows' with
  | nil => exact nomatch h
  | cons row rows ih =>
    obtain ⟨hrow, hrows⟩ := List.forall_mem_cons.1 hrows
    -- the last row is the one with none after it
    cases rows with
    | nil =>
      obtain ⟨row', hchange, rfl⟩ := map_eq_ok_iff.1 h
      simpa using hf hchange hrow
    | cons next rows =>
      obtain ⟨more, hmore, rfl⟩ := map_eq_ok_iff.1 h
      exact List.forall_mem_cons.2 ⟨hrow, ih hmore hrows⟩

/-- The change is made to the last row of an array that stands under a key. -/
theorem Keeps.array {old rows : List Entries} (hrows : changeLast f old = .ok rows)
    (hold : lookup? key es = some (.array old)) (hes : KeysDistinct es) :
    KeysDistinct (replace key (.array rows) es) := by
  have hdistinct := hes.values _ (mem_of_lookup? hold)
  exact hes.replace (keysDistinct_array_iff.2
    (keysDistinct_of_changeLast hf hrows (keysDistinct_array_iff.1 hdistinct)))

end

/-- Putting a value under a dotted key. -/
theorem keeps_insert {value : Value} (hvalue : value.KeysDistinct) (key : String) (direct : Bool)
    (path : List String) : Keeps (insert value key direct path) := by
  -- along the dotted key, each part of which is a table that is found or made
  induction path generalizing direct with
  | nil =>
    intro es es' h hes
    rw [insert] at h
    split at h
    · -- the key is free, so the value goes to the end
      rename_i hfree
      obtain rfl := Except.ok.inj h
      have hnone : lookup? key es = none := by simpa using (Bool.and_eq_true_iff.1 hfree).2
      exact hes.concat (not_mem_of_lookup? hnone) hvalue
    · exact nomatch h
  | cons k path ih =>
    intro es es' h hes
    rw [insert] at h
    split at h
    · rename_i hnone
      obtain ⟨sub, hsub, rfl⟩ := map_eq_ok_iff.1 h
      -- a table is made for the part
      exact (ih true).new hsub hnone hes
    · rename_i origin old hold
      split at h
      · exact nomatch h
      · obtain ⟨sub, hsub, rfl⟩ := map_eq_ok_iff.1 h
        -- the part is a table that may still be changed
        exact (ih _).table hsub hold hes
    · rename_i old hold
      obtain ⟨rows, hrows, rfl⟩ := map_eq_ok_iff.1 h
      -- the part is an array of tables, of which the last is changed
      exact (ih false).array hrows hold hes
    · exact nomatch h

/-- The value of an assignment, if it has one, has no table with a key twice. -/
def Assignment.KeysDistinct (a : Assignment) : Prop := ∀ v, a.value = .ok v → v.KeysDistinct

/-- Assignments are made one after the other. -/
theorem keeps_assignAll {as : List Assignment} (has : ∀ a ∈ as, a.KeysDistinct) :
    Keeps (assignAll as) := by
  induction as with
  | nil =>
    intro es es' h hes
    obtain rfl := Except.ok.inj h
    exact hes
  | cons a as ih =>
    obtain ⟨ha, has⟩ := List.forall_mem_cons.1 has
    intro es es' h hes
    obtain ⟨⟨path, key⟩, -, h⟩ := bind_eq_ok_iff.1 h
    obtain ⟨value, hvalue, h⟩ := bind_eq_ok_iff.1 h
    obtain ⟨next, hnext, h⟩ := bind_eq_ok_iff.1 h
    exact ih has h (keeps_insert (ha value hvalue) key true path hnext hes)

/-- Following the path of a header. -/
theorem Keeps.changeAt {f : Entries → Except Fault Entries} (hf : Keeps f) (path : List String) :
    Keeps (changeAt f path) := by
  -- along the path, as for a dotted key
  induction path with
  | nil => exact hf
  | cons k path ih =>
    intro es es' h hes
    rw [Draft.changeAt] at h
    split at h
    · rename_i hnone
      obtain ⟨sub, hsub, rfl⟩ := map_eq_ok_iff.1 h
      exact ih.new hsub hnone hes
    · rename_i origin old hold
      obtain ⟨sub, hsub, rfl⟩ := map_eq_ok_iff.1 h
      exact ih.table hsub hold hes
    · rename_i old hold
      obtain ⟨rows, hrows, rfl⟩ := map_eq_ok_iff.1 h
      exact ih.array hrows hold hes
    · exact nomatch h

/-- A table with a header of its own takes its assignments, and stands at the end. -/
theorem keeps_defineTable (key : String) {as : List Assignment} (has : ∀ a ∈ as, a.KeysDistinct) :
    Keeps (defineTable key as) := by
  intro es es' h hes
  rw [defineTable] at h
  split at h
  · rename_i hnone
    obtain ⟨sub, hsub, rfl⟩ := map_eq_ok_iff.1 h
    exact (keeps_assignAll has).new hsub hnone hes
  · -- the table was implied by an earlier header, and moves to the end
    rename_i old hold
    obtain ⟨sub, hsub, rfl⟩ := map_eq_ok_iff.1 h
    have hold := keysDistinct_table_iff.1 (hes.values _ (mem_of_lookup? hold))
    exact hes.erase.concat not_mem_erase (keysDistinct_table_iff.2 (keeps_assignAll has hsub hold))
  · exact nomatch h

/-- A row goes to the end of an array of tables. -/
theorem keeps_addRow (key : String) {row : Entries} (hrow : KeysDistinct row) :
    Keeps (addRow key row) := by
  intro es es' h hes
  rw [addRow] at h
  split at h
  · -- it is the first row, and the array is made for it
    rename_i hnone
    obtain rfl := Except.ok.inj h
    exact hes.concat (not_mem_of_lookup? hnone) (keysDistinct_array_iff.2 (by simpa using hrow))
  · -- it comes after the rows that are there
    rename_i rows hold
    obtain rfl := Except.ok.inj h
    have hrows := keysDistinct_array_iff.1 (hes.values _ (mem_of_lookup? hold))
    refine hes.replace (keysDistinct_array_iff.2 ?_)
    intro r hr
    rcases List.mem_append.1 hr with hr | hr
    · exact hrows r hr
    · rw [List.mem_singleton.1 hr]
      exact hrow
  · exact nomatch h

end Draft

end BuildInjection.Toml
