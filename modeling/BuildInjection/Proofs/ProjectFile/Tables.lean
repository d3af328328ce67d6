import BuildInjection.ProjectFile.Basic
import BuildInjection.Proofs.Environment
import BuildInjection.Proofs.Toml.Document

/-!
# The tables of a project file

The properties of a profile are a table of the document, with its keys in their order.  Expanding
references and spelling dates change no key, so no property of a project file that is read comes
twice (`ProjectFile.keysDistinct_of_ofText`).
-/

namespace BuildInjection

namespace Toml.Value

/-- Values that are alike but for their texts have the same keys. -/
theorem KeysDistinct.of_differsInTexts {R : String → String → Prop} {v w : Value}
    (hv : v.KeysDistinct) (h : v.DiffersInTexts R w) : w.KeysDistinct := by
  induction h with
  | string _ => exact .string _
  | integer _ | float _ | boolean _ | datetime _ => exact hv
  | array hlength _ ih =>
    have hitems := keysDistinct_array.1 hv
    refine .array fun w hw => ?_
    -- each item belongs to the one in its place
    obtain ⟨i, hi, rfl⟩ := List.getElem_of_mem hw
    have hitem := List.getElem?_eq_getElem (hlength ▸ hi)
    exact ih i _ _ hitem (List.getElem?_eq_getElem hi) (hitems _ (List.mem_of_getElem? hitem))
  | table hkeys _ ih =>
    obtain ⟨hnodup, hvalues⟩ := keysDistinct_table.1 hv
    -- the keys are the same, and each value belongs to the one in its place
    refine .table (hkeys ▸ hnodup) fun e' he' => ?_
    obtain ⟨i, hi, rfl⟩ := List.getElem_of_mem he'
    have hlength := congrArg List.length hkeys
    rw [List.length_map, List.length_map] at hlength
    have hentry := List.getElem?_eq_getElem (hlength ▸ hi)
    exact ih i _ _ hentry (List.getElem?_eq_getElem hi) (hvalues _ (List.mem_of_getElem? hentry))

/-- Spelling the dates of a table leaves its keys alone. -/
theorem map_fst_spellEntryDates (es : Entries) :
    (spellEntryDates es).map Prod.fst = es.map Prod.fst := by
  induction es with
  | nil => rw [spellEntryDates]
  | cons e es ih =>
    obtain ⟨key, v⟩ := e
    rw [spellEntryDates, List.map_cons, List.map_cons, ih]

end Toml.Value

/-! ## Records -/

namespace Schema

variable {ρ : Type} {I : ρ → Prop} {fields : List (RecordField ρ)}

/-- A field that may be filled from values without repeated keys. -/
def Preserves (I : ρ → Prop) (f : RecordField ρ) : Prop :=
  ∀ ⦃r v r'⦄, f.fill r v = .ok r' → v.KeysDistinct → I r → I r'

/-- A field preserves what setting its value preserves. -/
theorem preserves_field {α : Type} (key : String) {decode : Decoder α} {set : ρ → α → ρ}
    (h : ∀ {r v a}, decode v = .ok a → v.KeysDistinct → I r → I (set r a)) :
    Preserves I (field key decode set) := by
  intro r v r' hfill hv hr
  obtain ⟨a, ha, rfl⟩ := map_eq_ok_iff.1 hfill
  exact h ha hv hr

section

variable (hfields : ∀ f ∈ fields, Preserves I f)
include hfields

/-- Filling a record from the entries of a table preserves what its fields preserve. -/
theorem preserved_of_fillFromEntries {es : Toml.Entries} {r r' : ρ}
    (h : fillFromEntries fields r es = .ok r') (hes : ∀ e ∈ es, e.2.KeysDistinct) (hr : I r) :
    I r' := by
  induction es generalizing r with
  | nil =>
    obtain rfl := Except.ok.inj h
    exact hr
  | cons e es ih =>
    obtain ⟨key, v⟩ := e
    obtain ⟨hv, hes⟩ := List.forall_mem_cons.1 hes
    rw [fillFromEntries] at h
    split at h
    · -- no field has this key, so the entry is passed over
      exact ih h hes hr
    · rename_i f hf
      obtain ⟨next, hnext, h⟩ := bind_eq_ok_iff.1 h
      have hmem : f ∈ fields := List.mem_of_find?_eq_some hf
      exact ih h hes (hfields f hmem (mapError_eq_ok_iff.1 hnext) hv hr)

/-- Filling a record from the items of an array preserves it as well. -/
theorem preserved_of_fillFromItems {tooShort tooLong : Problem} {vs : List Toml.Value} {r r' : ρ}
    (h : fillFromItems tooShort tooLong fields r vs = .ok r') (hvs : ∀ v ∈ vs, v.KeysDistinct)
    (hr : I r) : I r' := by
  -- along the fields, each of which takes the item in its place
  induction fields generalizing r vs with
  | nil =>
    cases vs with
    | nil =>
      obtain rfl := Except.ok.inj h
      exact hr
    | cons v vs => exact nomatch h
  | cons f fs ih =>
    obtain ⟨hf, hfs⟩ := List.forall_mem_cons.1 hfields
    cases vs with
    | nil => exact nomatch h
    | cons v vs =>
      obtain ⟨hv, hvs⟩ := List.forall_mem_cons.1 hvs
      obtain ⟨next, hnext, h⟩ := bind_eq_ok_iff.1 h
      exact ih hfs h hvs (hf hnext hv hr)

/-- A record that is read has what every field preserves. -/
theorem preserved_of_record {name : String} {start r : ρ} {v : Toml.Value}
    (h : record name fields start v = .ok r) (hv : v.KeysDistinct) (hstart : I start) : I r := by
  unfold record at h
  split at h
  · exact preserved_of_fillFromEntries hfields h (Toml.Value.keysDistinct_table.1 hv).2 hstart
  · exact preserved_of_fillFromItems hfields h (Toml.Value.keysDistinct_array.1 hv) hstart
  · exact nomatch h

end

end Schema

/-! ## Project files -/

namespace ProfileEntry

/-- No property of a profile comes twice. -/
def KeysDistinct (entry : ProfileEntry) : Prop :=
  ((entry.properties.getD []).map Prod.fst).Nodup

/-- A draft of a profile none of whose properties comes twice. -/
def Draft.KeysDistinct (d : Draft) : Prop := ((d.properties.getD []).map Prod.fst).Nodup

/-- No field of a profile makes a property come twice. -/
theorem preserves_fields : ∀ field ∈ fields, Schema.Preserves Draft.KeysDistinct field := by
  simp only [fields, List.forall_mem_cons]
  refine ⟨Schema.preserves_field _ fun _ _ hd => hd, Schema.preserves_field _ fun _ _ hd => hd,
    Schema.preserves_field _ ?_, by simp⟩
  intro d v es hes hv _
  -- only the third field sets the properties, and it takes them from a table
  cases v with
  | table entries =>
    obtain rfl := Except.ok.inj hes
    obtain ⟨hkeys, -⟩ := Toml.Value.keysDistinct_table.1 hv
    show ((Toml.Value.spellEntryDates entries).map Prod.fst).Nodup
    rwa [Toml.Value.map_fst_spellEntryDates]
  | _ => exact nomatch hes

/-- No property comes twice in a profile that is decoded. -/
theorem keysDistinct_of_decode {v : Toml.Value} {entry : ProfileEntry} (h : decode v = .ok entry)
    (hv : v.KeysDistinct) : entry.KeysDistinct := by
  obtain ⟨d, hd, h⟩ := bind_eq_ok_iff.1 h
  obtain ⟨id, -, h⟩ := bind_eq_ok_iff.1 h
  obtain rfl := Except.ok.inj h
  exact Schema.preserved_of_record preserves_fields hd hv List.nodup_nil

end ProfileEntry

namespace ProjectFile

/-- No property of any profile comes twice. -/
def KeysDistinct (f : ProjectFile) : Prop := ∀ entry ∈ f.profiles, entry.KeysDistinct

/-- A draft of a project file in which no property of any profile comes twice. -/
def Draft.KeysDistinct (d : Draft) : Prop := ∀ entry ∈ d.profiles, entry.KeysDistinct

/-- No field of a project file makes a property of a profile come twice. -/
theorem preserves_fields : ∀ field ∈ fields, Schema.Preserves Draft.KeysDistinct field := by
  simp only [fields, List.forall_mem_cons]
  refine ⟨Schema.preserves_field _ fun _ _ hd => hd, Schema.preserves_field _ fun _ _ hd => hd,
    Schema.preserves_field _ ?_, Schema.preserves_field _ fun _ _ hd => hd,
    Schema.preserves_field _ fun _ _ hd => hd, by simp⟩
  intro d v entries hentries hv _ entry hentry
  -- only the third field sets the profiles, and each comes from its own item
  cases v with
  | array items =>
    have hitems := Toml.Value.keysDistinct_array.1 hv
    obtain ⟨item, hmem, hitem⟩ := exists_of_forall₂ (mapM_eq_ok_iff.1 hentries) hentry
    exact ProfileEntry.keysDistinct_of_decode hitem (hitems item hmem)
  | _ => exact nomatch hentries

/-- No property of a profile comes twice in a project file that is decoded. -/
theorem keysDistinct_of_decode {entries : Toml.Entries} {f : ProjectFile}
    (h : decode entries = .ok f) (hentries : (Toml.Value.table entries).KeysDistinct) :
    f.KeysDistinct := by
  obtain ⟨d, hd, h⟩ := bind_eq_ok_iff.1 h
  obtain ⟨project, -, h⟩ := bind_eq_ok_iff.1 h
  obtain rfl := Except.ok.inj h
  exact Schema.preserved_of_record preserves_fields hd hentries (by simp [Draft.KeysDistinct])

/-- No property of a profile comes twice in a project file that is read. -/
theorem keysDistinct_of_ofText {env : Environment} {s : String} {f : ProjectFile}
    (h : ofText env s = .ok f) : f.KeysDistinct := by
  unfold ofText at h
  split at h
  · exact nomatch h
  · rename_i entries hread
    have hexpanded : (Toml.Value.table (env.expandEntries entries)).KeysDistinct :=
      (Toml.keysDistinct_of_read hread).of_differsInTexts (env.differsInTexts_expandValue _)
    exact keysDistinct_of_decode (mapError_eq_ok_iff.1 h) hexpanded

/-- A project file depends on no other variables than those to which the texts in it refer, so it is
    enough to look these up. -/
theorem ofText_congr {env env' : Environment} {s : String}
    (hagree : ∀ entries, Toml.read s = .ok entries →
      ∀ name ∈ Environment.namesOfEntries entries, env name = env' name) :
    ofText env s = ofText env' s := by
  unfold ofText
  split
  · rfl
  · rename_i entries hread
    rw [Environment.expandEntries_congr (hagree entries hread)]

end ProjectFile

end BuildInjection
