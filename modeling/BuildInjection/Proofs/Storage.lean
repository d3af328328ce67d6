import BuildInjection.Output

/-!
# What a storage makes of some files

Files are written in order up to the first write that fails.  Either all of them are taken, or one
fails after those before it were taken (`takes_or_fails`), and there is no third way.  Nothing is
assumed of a storage: any write may fail, and a write that fails may leave any state.
-/

namespace BuildInjection

namespace Storage

variable {σ : Type} (storage : Storage σ)

/-- Files are written one after the other, and every write succeeds. -/
inductive Takes : List (String × String) → σ → σ → Prop
  | nil (s : σ) : Takes [] s s
  | cons {name text : String} {files : List (String × String)} {s s₁ s₂ : σ}
      (hwrite : storage.write name text s = (.ok (), s₁)) (hfiles : Takes files s₁ s₂) :
      Takes ((name, text) :: files) s s₂

/-- Of some files, those up to one are written, and the write of that one fails. -/
def FailsAfter (before files : List (String × String)) (fault : IoFault) (s s' : σ) : Prop :=
  ∃ name text after s₁, files = before ++ (name, text) :: after ∧ storage.Takes before s s₁ ∧
    storage.write name text s₁ = (.error fault, s')

/-- A storage with a record of what has been written to it. -/
def recording : Storage (σ × List (String × String)) where
  write name text s :=
    match storage.write name text s.1 with
    | (.error fault, s') => (.error fault, s', s.2)
    | (.ok (), s') => (.ok (), s', s.2 ++ [(name, text)])

variable {storage} {files before : List (String × String)} {s s' : σ} {fault : IoFault}

/-- A storage takes all files, or one fails after those before it were taken. -/
theorem takes_or_fails (storage : Storage σ) (files : List (String × String)) (s : σ) :
    (∃ s', storage.Takes files s s') ∨
      ∃ before fault s', storage.FailsAfter before files fault s s' := by
  induction files generalizing s with
  | nil => exact .inl ⟨s, .nil s⟩
  | cons file files ih =>
    obtain ⟨name, text⟩ := file
    cases hwrite : storage.write name text s with
    | mk result s₁ =>
      cases result with
      | error fault => exact .inr ⟨[], fault, s₁, name, text, files, s, rfl, .nil s, hwrite⟩
      | ok =>
        -- the first file is taken, so the others decide
        rcases ih s₁ with ⟨s₂, htakes⟩ | ⟨before, fault, s₂, hfails⟩
        · exact .inl ⟨s₂, .cons hwrite htakes⟩
        · obtain ⟨name', text', after, s₃, rfl, htakes, hfault⟩ := hfails
          exact .inr ⟨(name, text) :: before, fault, s₂, name', text', after, s₃, rfl,
            .cons hwrite htakes, hfault⟩

/-! ## The record -/

/-- What has been taken is on record, in order. -/
theorem Takes.recording (htakes : storage.Takes files s s') (record : List (String × String)) :
    storage.recording.Takes files (s, record) (s', record ++ files) := by
  induction htakes generalizing record with
  | nil s =>
    rw [List.append_nil]
    exact .nil _
  | @cons name text files s s₁ s₂ hwrite _ ih =>
    have hrecording : storage.recording.write name text (s, record) =
        (.ok (), s₁, record ++ [(name, text)]) := by
      simp only [Storage.recording, hwrite]
    have hfiles := ih (record ++ [(name, text)])
    rw [List.append_assoc] at hfiles
    exact .cons hrecording hfiles

/-- What fails is not on record, and neither is anything after it. -/
theorem FailsAfter.recording (hfails : storage.FailsAfter before files fault s s')
    (record : List (String × String)) :
    storage.recording.FailsAfter before files fault (s, record) (s', record ++ before) := by
  obtain ⟨name, text, after, s₁, hfiles, htakes, hwrite⟩ := hfails
  -- a write that fails leaves the record as it is
  refine ⟨name, text, after, _, hfiles, htakes.recording record, ?_⟩
  simp only [Storage.recording, hwrite]

end Storage

/-! ## Writing -/

namespace Output

variable {σ : Type} {storage : Storage σ} {files before : List (String × String)} {s s' : σ}
  {fault : IoFault}

/-- Files that are taken are out of the way of those after them. -/
theorem value_writeAll_append (htakes : storage.Takes before s s')
    (files : List (String × String)) :
    (writeAll storage (before ++ files) s).value =
      ((writeAll storage files s').value.1.map (before.map Prod.fst ++ ·),
        (writeAll storage files s').value.2) := by
  induction htakes with
  | nil s =>
    rw [List.nil_append]
    rcases (writeAll storage files s).value with ⟨error | names, s'⟩ <;> rfl
  | @cons name text before s s₁ s₂ hwrite _ ih =>
    rw [List.cons_append, writeAll, hwrite]
    simp only [Logged.value_bind, ih]
    -- the name of the first file goes before the others, if there are names
    cases (writeAll storage files s₂).value.1 <;> rfl

/-- Files that are taken are reported by their names. -/
theorem value_writeAll_of_takes (htakes : storage.Takes files s s') :
    (writeAll storage files s).value = (.ok (files.map Prod.fst), s') := by
  have happend := value_writeAll_append htakes []
  simp only [List.append_nil] at happend
  rw [happend]
  show (Except.ok (files.map Prod.fst ++ []), s') = _
  rw [List.append_nil]

/-- A file that fails gives the error, whatever comes after it. -/
theorem value_writeAll_of_failsAfter (hfails : storage.FailsAfter before files fault s s') :
    (writeAll storage files s).value = (.error (.io fault), s') := by
  obtain ⟨name, text, after, s₁, rfl, htakes, hwrite⟩ := hfails
  have hfirst : (writeAll storage ((name, text) :: after) s₁).value = (.error (.io fault), s') := by
    rw [writeAll, hwrite]
    rfl
  rw [value_writeAll_append htakes, hfirst]
  rfl

end Output

end BuildInjection
