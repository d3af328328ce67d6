import BuildInjection.ProjectFile.Model
import BuildInjection.Proofs.Fallible

/-!
# When a project file describes a project

The properties of all its profiles have to be texts, and nothing else is needed
(`exists_toProject_iff`).  Otherwise the error names the first property that is none, in the order
of the profiles and of their tables (`toProject_eq_error_iff`).
-/

namespace BuildInjection

namespace ProfileEntry

/-- Every property of a profile is a text. -/
def HasTexts (p : ProfileEntry) : Prop := ∀ e ∈ p.properties.getD [], ∃ s, e.2 = .string s

/-- The entry of a table that gives a property. -/
def ofProperty (pair : String × String) : String × Toml.Value := (pair.1, .string pair.2)

/-- The first of some entries that is no text. -/
def FirstOther (es : Toml.Entries) (key : String) (v : Toml.Value) : Prop :=
  ∃ before after, es = before ++ (key, v) :: after ∧ (∀ e ∈ before, ∃ s, e.2 = .string s) ∧
    ∀ s, v ≠ .string s

/-- Entries are properties, or one of them is the first that is no text. -/
theorem texts_or_firstOther (es : Toml.Entries) :
    (∃ pairs : List (String × String), es = pairs.map ofProperty) ∨
      ∃ (key : String) (v : Toml.Value), FirstOther es key v := by
  induction es with
  | nil => exact .inl ⟨[], rfl⟩
  | cons e es ih =>
    obtain ⟨key, v⟩ := e
    by_cases hv : ∃ s, v = .string s
    · -- after a text it is the other entries that decide
      obtain ⟨s, rfl⟩ := hv
      rcases ih with ⟨pairs, rfl⟩ | ⟨key', v', before, after, rfl, hbefore, hv'⟩
      · exact .inl ⟨(key, s) :: pairs, rfl⟩
      · refine .inr ⟨key', v', (key, .string s) :: before, after, rfl, ?_, hv'⟩
        exact List.forall_mem_cons.2 ⟨⟨s, rfl⟩, hbefore⟩
    · exact .inr ⟨key, v, [], es, rfl, by simp, not_exists.1 hv⟩

/-- Properties are inserted one after the other. -/
theorem addProperties_map (profile : String) (m : Properties) (pairs : List (String × String)) :
    addProperties profile m (pairs.map ofProperty) =
      .ok (pairs.foldl (fun m pair => m.insert pair.1 pair.2) m) := by
  induction pairs generalizing m with
  | nil => rfl
  | cons pair pairs ih => exact ih (m.insert pair.1 pair.2)

/-- The first entry that is no text ends the insertions. -/
theorem addProperties_of_firstOther (profile : String) (m : Properties) {es : Toml.Entries}
    {key : String} {v : Toml.Value} (h : FirstOther es key v) :
    addProperties profile m es =
      .error (.invalid (propertyName profile key) v.text .notAString) := by
  obtain ⟨before, after, rfl, hbefore, hv⟩ := h
  induction before generalizing m with
  | nil =>
    cases v with
    | string s => exact absurd rfl (hv s)
    | _ => rfl
  | cons e before ih =>
    obtain ⟨key', v'⟩ := e
    obtain ⟨⟨s, rfl⟩, hrest⟩ := List.forall_mem_cons.1 hbefore
    exact ih (m.insert key' s) hrest

section

variable {p : ProfileEntry} {key : String} {v : Toml.Value}

/-- A table of texts gives a profile. -/
theorem toProfile_of_eq_map {pairs : List (String × String)}
    (h : p.properties.getD [] = pairs.map ofProperty) :
    p.toProfile = .ok ⟨p.id, p.active.getD true, .ofList pairs⟩ := by
  rw [toProfile, h, addProperties_map]
  rfl

/-- The first property that is no text is the error on a profile. -/
theorem toProfile_of_firstOther (h : FirstOther (p.properties.getD []) key v) :
    p.toProfile = .error (.invalid (propertyName p.id key) v.text .notAString) := by
  rw [toProfile, addProperties_of_firstOther p.id .empty h]
  rfl

/-- A table that was made from properties has only texts. -/
theorem hasTexts_of_eq_map {pairs : List (String × String)}
    (h : p.properties.getD [] = pairs.map ofProperty) : p.HasTexts := by
  intro e he
  rw [h] at he
  obtain ⟨pair, -, rfl⟩ := List.mem_map.1 he
  exact ⟨pair.2, rfl⟩

/-- A table with a first other value has not only texts. -/
theorem not_hasTexts_of_firstOther (h : FirstOther (p.properties.getD []) key v) :
    ¬ p.HasTexts := by
  obtain ⟨before, after, hes, -, hv⟩ := h
  intro htexts
  obtain ⟨s, hs⟩ := htexts (key, v) (by simp [hes])
  exact hv s hs

end

/-- An entry describes a profile exactly when its properties are texts. -/
theorem exists_toProfile_iff {p : ProfileEntry} :
    (∃ profile, p.toProfile = .ok profile) ↔ p.HasTexts := by
  rcases texts_or_firstOther (p.properties.getD []) with ⟨pairs, hpairs⟩ | ⟨key, v, hfirst⟩
  · exact iff_of_true ⟨_, toProfile_of_eq_map hpairs⟩ (hasTexts_of_eq_map hpairs)
  · refine iff_of_false ?_ (not_hasTexts_of_firstOther hfirst)
    rintro ⟨profile, hprofile⟩
    rw [toProfile_of_firstOther hfirst] at hprofile
    exact nomatch hprofile

/-- The error on an entry names its first property that is no text. -/
theorem toProfile_eq_error_iff {p : ProfileEntry} {e : Error} :
    p.toProfile = .error e ↔ ∃ (key : String) (v : Toml.Value),
      FirstOther (p.properties.getD []) key v ∧
        e = .invalid (propertyName p.id key) v.text .notAString := by
  constructor
  · intro herror
    rcases texts_or_firstOther (p.properties.getD []) with ⟨pairs, hpairs⟩ | ⟨key, v, hfirst⟩
    · rw [toProfile_of_eq_map hpairs] at herror
      exact nomatch herror
    · rw [toProfile_of_firstOther hfirst] at herror
      exact ⟨key, v, hfirst, (Except.error.inj herror).symm⟩
  · rintro ⟨key, v, hfirst, rfl⟩
    exact toProfile_of_firstOther hfirst

end ProfileEntry

namespace ProjectFile

variable {f : ProjectFile}

/-- Only the profiles can keep a project from being described. -/
theorem value_toProject (f : ProjectFile) :
    f.toProject.value = (f.profiles.mapM ProfileEntry.toProfile).map fun profiles =>
      { groupId := f.project.groupId
        artifactId := f.project.artifactId
        version := f.project.version
        profiles
        dependencies := f.dependencies
        plugins := f.plugins.map (·.toPlugin) } := by
  rw [toProject]
  cases f.profiles.mapM ProfileEntry.toProfile <;> rfl

/-- A project file describes a project exactly when all properties of its profiles are texts. -/
theorem exists_toProject_iff :
    (∃ p, f.toProject.value = .ok p) ↔ ∀ p ∈ f.profiles, p.HasTexts := by
  have hprofiles : (∃ profiles, f.profiles.mapM (·.toProfile) = .ok profiles) ↔
      ∀ p ∈ f.profiles, p.HasTexts := by
    simp only [exists_mapM_eq_ok_iff, ProfileEntry.exists_toProfile_iff]
  rw [← hprofiles, value_toProject]
  constructor
  · rintro ⟨p, hp⟩
    obtain ⟨profiles, hprofiles, -⟩ := map_eq_ok_iff.1 hp
    exact ⟨profiles, hprofiles⟩
  · rintro ⟨profiles, hprofiles⟩
    rw [hprofiles]
    exact ⟨_, rfl⟩

/-- The error on a project file is that on its first profile with a property that is no text. -/
theorem toProject_eq_error_iff {e : Error} :
    f.toProject.value = .error e ↔ ∃ before entry after,
      f.profiles = before ++ entry :: after ∧ (∀ p ∈ before, p.HasTexts) ∧
        ∃ (key : String) (v : Toml.Value),
          ProfileEntry.FirstOther (entry.properties.getD []) key v ∧
            e = .invalid (ProfileEntry.propertyName entry.id key) v.text .notAString := by
  rw [value_toProject, map_eq_error_iff, mapM_eq_error_iff]
  simp only [ProfileEntry.exists_toProfile_iff, ProfileEntry.toProfile_eq_error_iff]

/-- A project file describes a project if all its properties are texts. -/
theorem exists_toProject (htexts : ∀ p ∈ f.profiles, p.HasTexts) :
    ∃ p, f.toProject.value = .ok p :=
  exists_toProject_iff.2 htexts

/-- A property that is no text is the only thing that can be wrong. -/
theorem exists_error_of_not_hasTexts (hnot : ∃ p ∈ f.profiles, ¬ p.HasTexts) :
    ∃ profile key v, f.toProject.value =
      .error (.invalid (ProfileEntry.propertyName profile key) (Toml.Value.text v) .notAString) := by
  cases hvalue : f.toProject.value with
  | ok p =>
    obtain ⟨p', hp', hnot⟩ := hnot
    exact absurd (exists_toProject_iff.1 ⟨p, hvalue⟩ p' hp') hnot
  | error e =>
    obtain ⟨_, entry, _, -, -, key, v, -, rfl⟩ := toProject_eq_error_iff.1 hvalue
    exact ⟨entry.id, key, v, rfl⟩

end ProjectFile

end BuildInjection
