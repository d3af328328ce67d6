import Mathlib.Data.List.Forall2
import Mathlib.Data.List.ReduceOption
import BuildInjection.Dependency
import BuildInjection.Proofs.EarModule
import BuildInjection.Proofs.Text

/-!
# Lists of dependencies as text

A property value lists dependencies: colons between the fields of one, and spaces between two of
them.  Reading undoes writing, however many colons and spaces are written, and every value reads as
one dependency for each run of characters other than a space (`value_format`).  A run of colons
alone is a dependency with no position set, and the only kind that is lost when what was read is
written again.
-/

namespace BuildInjection.Dependency

/-- The positions of a dependency, in order. -/
def positions (d : Dependency) : List (Option String) :=
  [d.groupId, d.artifactId, d.version, d.type, d.scope]

/-- The fields that are set, in order. -/
def setFields (d : Dependency) : List String :=
  d.positions.reduceOption

/-- The set positions come before the unset ones. -/
def FillsFront (d : Dependency) : Prop :=
  ∃ unset, d.positions = d.setFields.map some ++ List.replicate unset none

/-- A dependency that can be read back: its first positions are set, and to values that can be told
    apart in a text. -/
structure IsWritable (d : Dependency) : Prop where
  fillsFront : d.FillsFront
  isField : ∀ value ∈ d.setFields, EarModule.IsField value

/-- The spec that describes a dependency, with single colons. -/
def write (d : Dependency) : String :=
  (String.singleton ':').intercalate d.setFields

/-- The value that lists dependencies, with single spaces. -/
def writeAll (ds : List Dependency) : String :=
  (String.singleton ' ').intercalate (ds.map write)

/-- The dependencies that a value lists. -/
def readAll (value : String) : List Dependency :=
  (Text.specs value).map ofSpec

/-! ## Positions and fields -/

/-- Fields after the fifth are dropped. -/
theorem setFields_ofFields (fields : List String) : (ofFields fields).setFields = fields.take 5 :=
  match fields with
  | [] | [_] | [_, _] | [_, _, _] | [_, _, _, _] | _ :: _ :: _ :: _ :: _ :: _ => rfl

/-- Fields fill the positions from the first one on. -/
theorem fillsFront_ofFields (fields : List String) : (ofFields fields).FillsFront :=
  match fields with
  | [] => ⟨5, rfl⟩
  | [_] => ⟨4, rfl⟩
  | [_, _] => ⟨3, rfl⟩
  | [_, _, _] => ⟨2, rfl⟩
  | [_, _, _, _] => ⟨1, rfl⟩
  | _ :: _ :: _ :: _ :: _ :: _ => ⟨0, rfl⟩

/-- A position holds the field of the same number, or nothing after the last field. -/
theorem getElem?_positions {d : Dependency} (h : d.FillsFront) {i : Nat} (hi : i < 5) :
    d.positions[i]? = some d.setFields[i]? := by
  obtain ⟨unset, hpositions⟩ := h
  have hlength : d.setFields.length + unset = 5 := by
    simpa [positions] using (congrArg List.length hpositions).symm
  rw [hpositions, List.getElem?_append, List.length_map]
  split
  · rename_i hset
    simp [hset]
  · -- all positions after the fields are unset
    rename_i hset
    rw [List.getElem?_replicate, if_pos (by omega), List.getElem?_eq_none (by omega)]

/-- A dependency whose first positions are set is the one of its fields. -/
theorem ofFields_setFields {d : Dependency} (h : d.FillsFront) : ofFields d.setFields = d := by
  have hposition : ∀ i value, i < 5 → d.positions[i]? = some value → d.setFields[i]? = value := by
    intro i value hi hvalue
    exact Option.some.inj ((getElem?_positions h hi).symm.trans hvalue)
  obtain ⟨groupId, artifactId, version, type, scope⟩ := d
  -- position by position, because a record has no list of them
  simp only [ofFields, mk.injEq]
  exact ⟨hposition 0 _ (by decide) rfl, hposition 1 _ (by decide) rfl,
    hposition 2 _ (by decide) rfl, hposition 3 _ (by decide) rfl, hposition 4 _ (by decide) rfl⟩

/-! ## Reading what was written -/

section

variable {d : Dependency} {text : String}

/-- What separates the fields of a dependency does not matter. -/
theorem ofSpec_of_separated (hd : d.IsWritable)
    (htext : Text.Separated ':' d.setFields text.toList) : ofSpec text = d := by
  have hruns : Text.AreRuns ':' d.setFields text := {
    separated := htext
    ne_empty := fun value hvalue => (hd.isField value hvalue).ne_empty
    no_sep := fun value hvalue => (hd.isField value hvalue).no_colon }
  rw [ofSpec, Text.fields, Text.pieces_eq_iff.2 hruns, ofFields_setFields hd.fillsFront]

/-- No spec of a dependency has a space in it. -/
theorem no_space_of_separated (hd : d.IsWritable)
    (htext : Text.Separated ':' d.setFields text.toList) : ' ' ∉ text.toList := by
  intro hspace
  rcases Text.mem_of_separated htext hspace with hcolon | ⟨value, hvalue, hmem⟩
  · exact absurd hcolon (by decide)
  · exact (hd.isField value hvalue).no_space hmem

/-- A spec of a dependency with a position set is not empty. -/
theorem ne_empty_of_separated (hd : d.IsWritable) (hset : d.setFields ≠ [])
    (htext : Text.Separated ':' d.setFields text.toList) : text ≠ "" := by
  rintro rfl
  obtain ⟨value, hvalue⟩ := List.exists_mem_of_ne_nil _ hset
  -- every character of a field is in the text, which has none
  apply (hd.isField value hvalue).ne_empty
  rw [← String.toList_eq_nil_iff, List.eq_nil_iff_forall_not_mem]
  intro c hc
  exact absurd (Text.mem_of_mem_separated htext hvalue hc) (by simp)

end

/-- A written dependency has one colon between any two fields. -/
theorem separated_write (d : Dependency) : Text.Separated ':' d.setFields d.write.toList :=
  Text.separated_intercalate ':' d.setFields

/-- There is nothing to write if no position is set. -/
theorem write_eq_empty_iff {d : Dependency} (hd : d.IsWritable) :
    d.write = "" ↔ d.setFields = [] := by
  constructor
  · intro hempty
    by_contra hset
    exact ne_empty_of_separated hd hset (separated_write d) hempty
  · intro hset
    rw [write, hset]
    rfl

section

variable {ds : List Dependency} {texts : List String}
  (hds : ∀ d ∈ ds, d.IsWritable ∧ d.setFields ≠ [])
  (htexts : List.Forall₂ (fun d text => Text.Separated ':' d.setFields text.toList) ds texts)
include hds htexts

/-- Each spec of a list stands for one dependency, and no spec is lost among spaces. -/
theorem specs_of_separated :
    (∀ text ∈ texts, text ≠ "" ∧ ' ' ∉ text.toList) ∧ texts.map ofSpec = ds := by
  induction htexts with
  | nil => simp
  | @cons d text ds texts htext _ ih =>
    obtain ⟨⟨hd, hset⟩, hmore⟩ := List.forall_mem_cons.1 hds
    obtain ⟨hspecs, hread⟩ := ih hmore
    have hspec : text ≠ "" ∧ ' ' ∉ text.toList :=
      ⟨ne_empty_of_separated hd hset htext, no_space_of_separated hd htext⟩
    -- the spec of the first dependency joins what is known of the others
    refine ⟨List.forall_mem_cons.2 ⟨hspec, hspecs⟩, ?_⟩
    rw [List.map_cons, ofSpec_of_separated hd htext, hread]

/-- A list is read as its specs are, whatever number of spaces is between them. -/
theorem readAll_of_separated {value : String}
    (hvalue : Text.Separated ' ' texts value.toList) : readAll value = ds := by
  obtain ⟨htext, hread⟩ := specs_of_separated hds htexts
  have hspecs : Text.specs value = texts := Text.pieces_eq_iff.2 {
    separated := hvalue
    ne_empty := fun text hmem => (htext text hmem).1
    no_sep := fun text hmem => (htext text hmem).2 }
  rw [readAll, hspecs, hread]

end

/-- Writing leaves out the dependencies that have no position set. -/
theorem readAll_writeAll {ds : List Dependency} (hds : ∀ d ∈ ds, d.IsWritable) :
    readAll (writeAll ds) = ds.filter (·.setFields ≠ []) := by
  have hspaces : ∀ text ∈ ds.map write, ' ' ∉ text.toList :=
    List.forall_mem_map.2 fun d hd => no_space_of_separated (hds d hd) (separated_write d)
  -- a dependency with nothing to write leaves a piece that is dropped
  have hspecs : Text.specs (writeAll ds) = (ds.map write).filter (· ≠ "") := by
    have hpieces := Text.pieces_of_separated (Text.separated_intercalate ' ' _) hspaces
    rwa [String.ofList_toList] at hpieces
  rw [readAll, hspecs, List.filter_map, List.map_map]
  have hfilter : ds.filter ((fun text => decide (text ≠ "")) ∘ write) =
      ds.filter (·.setFields ≠ []) := by
    apply List.filter_congr
    intro d hd
    simp [write_eq_empty_iff (hds d hd)]
  -- each of the others is read from its own spec
  have hread : ∀ d ∈ ds.filter (·.setFields ≠ []), (ofSpec ∘ write) d = id d := by
    intro d hd
    exact ofSpec_of_separated (hds d (List.mem_of_mem_filter hd)) (separated_write d)
  rw [hfilter, List.map_congr_left hread, List.map_id]

/-! ## Reading any value -/

/-- A word without a space is read as a dependency that can be written. -/
theorem isWritable_ofSpec {spec : String} (hspace : ' ' ∉ spec.toList) :
    (ofSpec spec).IsWritable where
  fillsFront := fillsFront_ofFields _
  isField := by
    intro value hvalue
    rw [ofSpec, setFields_ofFields] at hvalue
    exact EarModule.isField_of_mem_fields hspace (List.mem_of_mem_take hvalue)

/-- No position is set exactly when there is nothing but colons. -/
theorem setFields_ofSpec_eq_nil_iff {spec : String} :
    (ofSpec spec).setFields = [] ↔ ∀ c ∈ spec.toList, c = ':' := by
  rw [ofSpec, setFields_ofFields, List.take_eq_nil_iff, Text.fields, Text.pieces_eq_nil_iff]
  simp

/-- Lists of dependencies as text.  A list of dependencies that each have their first positions set,
    at least one of them, is read from every text it can be written as.  Every value is read as one
    dependency for each run of characters other than a space, with the first five runs of the
    characters other than a colon in its first positions; written again, it is read as the same list
    if and only if none of its runs is of colons alone. -/
theorem value_format :
    (∀ ds texts value, (∀ d ∈ ds, d.IsWritable ∧ d.setFields ≠ []) →
      List.Forall₂ (fun d text => Text.Separated ':' d.setFields text.toList) ds texts →
      Text.Separated ' ' texts value.toList → readAll value = ds) ∧
    ∀ value, ∃ runs, Text.AreRuns ' ' runs value ∧
      List.Forall₂ (fun run d => d.IsWritable ∧
        ∃ fields, Text.AreRuns ':' fields run ∧ d.setFields = fields.take 5) runs (readAll value) ∧
      (readAll (writeAll (readAll value)) = readAll value ↔
        ∀ run ∈ runs, ∃ c ∈ run.toList, c ≠ ':') := by
  refine ⟨fun ds texts value hds htexts => readAll_of_separated hds htexts, ?_⟩
  intro value
  have hruns : Text.AreRuns ' ' (Text.specs value) value := Text.pieces_eq_iff.1 rfl
  -- whatever was read can be written, since no run has a space
  have hwritable : ∀ d ∈ readAll value, d.IsWritable :=
    List.forall_mem_map.2 fun run hrun => isWritable_ofSpec (hruns.no_sep run hrun)
  refine ⟨Text.specs value, hruns, ?_, ?_⟩
  · rw [readAll, List.forall₂_map_right_iff, List.forall₂_same]
    intro run hrun
    exact ⟨hwritable _ (List.mem_map_of_mem hrun), Text.fields run, Text.pieces_eq_iff.1 rfl,
      setFields_ofFields _⟩
  · -- what is lost are the dependencies with no position set, which are the runs of colons
    rw [readAll_writeAll hwritable, List.filter_eq_self, readAll, List.forall_mem_map]
    refine forall₂_congr fun run _ => ?_
    simp [setFields_ofSpec_eq_nil_iff]

/-- A run of colons is lost. -/
example : readAll "g:a :: h" = [{ groupId := "g", artifactId := "a" }, {}, { groupId := "h" }] ∧
    writeAll (readAll "g:a :: h") = "g:a  h" := by
  decide

end BuildInjection.Dependency
