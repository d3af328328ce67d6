import BuildInjection.Injection.Run
import BuildInjection.Proofs.Injection.Growth
import BuildInjection.Proofs.Injection.Selection

/-!
# What a run comes to

A run is refused before it looks at any property (`Goal.refusal?`), or it fails with the first
active profile that does not give out its properties (`Host.fault?`), or it adds one batch
(`value_run`).  Whatever comes of it but a batch leaves the host as it was (`snd_value_run`), and on
a host that gives out all properties its outcome and its batch can be read off the host before
(`exists_value_run`).
-/

namespace BuildInjection

/-- The specs under a key prefix in the active profiles, in order. -/
def Host.specs (h : Host) (keyPrefix : Option String) : List String :=
  Selection.specsOf
    (h.activeProfiles.flatMap fun p => Selection.selectEntries (keyPrefix.getD "") p.given)

namespace Goal

variable (g : Goal) (keyPrefix : Option String) (h : Host)

/-- Why a run does nothing before it looks at any property, if it does. -/
def refusal? : Option NoOp :=
  if keyPrefix.all Text.isBlankText then some .missingPrefix
  else if h.activeProfiles.isEmpty then some .noActiveProfiles
  else match (g.check h).value with
    | .error reason => some reason
    | .ok () => none

/-- Why a run does nothing on a host that gives out all properties, if it does. -/
def idle? : Option NoOp :=
  (g.refusal? keyPrefix h).or (if g.isWithheld h then some Target.notFound else none)

/-- What a run comes to on a host that gives out all properties. -/
def outcome : Outcome :=
  match g.idle? keyPrefix h with
  | some reason => .noOp reason
  | none =>
    .injected (g.readAll (h.specs keyPrefix)).1.length (g.readAll (h.specs keyPrefix)).2.length

/-- What a run adds to a host that gives out all properties. -/
def batch : List g.Item :=
  match g.idle? keyPrefix h with
  | some _ => []
  | none => (g.readAll (h.specs keyPrefix)).1.map Prod.snd

/-! ## One run, case by case -/

/-- What comes of the items of some specs. -/
theorem value_inject (specs : List String) :
    (g.inject specs h).value =
      match g.add ((g.readAll specs).1.map Prod.snd) h with
      | (.error reason, h') => (.ok (.noOp reason), h')
      | (.ok count, h') => (.ok (.injected count (g.readAll specs).2.length), h') := by
  simp only [inject, load, Logged.value_bind]
  rcases g.add ((g.readAll specs).1.map Prod.snd) h with ⟨reason | count, h'⟩ <;> rfl

/-- A run is refused, or fails with the host's profiles, or adds the items of its specs. -/
theorem value_run :
    (g.run keyPrefix h).value =
      match g.refusal? keyPrefix h with
      | some reason => (.ok (.noOp reason), h)
      | none =>
        match h.fault? with
        | some e => (.error e, h)
        | none => (g.inject (h.specs keyPrefix) h).value := by
  by_cases hblank : keyPrefix.all Text.isBlankText = true
  · -- the key prefix is refused, and nothing else is looked at
    have herror : ∃ e, Selection.checkPrefix keyPrefix = .error e := by
      cases hgiven : Selection.checkPrefix keyPrefix with
      | error e => exact ⟨e, rfl⟩
      | ok k =>
        obtain ⟨rfl, hk⟩ := Selection.checkPrefix_eq_ok_iff.1 hgiven
        rw [Option.all_some, hk] at hblank
        simp at hblank
    obtain ⟨e, herror⟩ := herror
    simp only [run, refusal?, if_pos hblank, herror]
    rfl
  · -- the profiles are counted, the place is looked for, and then the properties are asked for
    obtain ⟨k, rfl, hk⟩ : ∃ k, keyPrefix = some k ∧ Text.isBlankText k = false := by
      cases keyPrefix with
      | none => exact absurd rfl hblank
      | some k => exact ⟨k, rfl, Bool.eq_false_iff.2 hblank⟩
    have hok : Selection.checkPrefix (some k) = .ok k :=
      Selection.checkPrefix_eq_ok_iff.2 ⟨rfl, hk⟩
    simp only [run, refusal?, if_neg hblank, hok, runWithPrefix, Logged.value_bind]
    by_cases hactive : h.activeProfiles.isEmpty = true
    · simp only [if_pos hactive]
      rfl
    · simp only [if_neg hactive, Logged.value_bind]
      cases (g.check h).value with
      | error reason => rfl
      | ok =>
        simp only [Logged.value_bind, Selection.value_select]
        show _ = match h.fault? with
          | some e => _
          | none => _
        rw [Host.fault?]
        cases h.activeProfiles.findSome? (·.fault?) <;> rfl

variable {g keyPrefix h}

/-- A run is not refused exactly when its key prefix is not blank, a profile is active, and there is
    a place for the items. -/
theorem refusal?_eq_none_iff :
    g.refusal? keyPrefix h = none ↔
      (∃ k, keyPrefix = some k ∧ Text.isBlankText k = false) ∧ h.activeProfiles ≠ [] ∧
        (g.check h).value = .ok () := by
  have hgiven : ¬ keyPrefix.all Text.isBlankText = true ↔
      ∃ k, keyPrefix = some k ∧ Text.isBlankText k = false := by
    cases keyPrefix <;> simp
  rw [← hgiven, refusal?]
  -- the three cases of the definition, one after the other
  by_cases hblank : keyPrefix.all Text.isBlankText = true
  · simp [hblank]
  · rw [if_neg hblank]
    by_cases hactive : h.activeProfiles.isEmpty = true
    · rw [if_pos hactive]
      simp [List.isEmpty_iff.1 hactive]
    · rw [if_neg hactive]
      have hne : h.activeProfiles ≠ [] := fun hnil => hactive (List.isEmpty_iff.2 hnil)
      cases (g.check h).value <;> simp [hne, hblank]

/-- On a host that refuses properties a run that is not refused itself fails. -/
theorem value_run_of_fault {e : Error} (hfault : h.fault? = some e) :
    (g.run keyPrefix h).value =
      match g.refusal? keyPrefix h with
      | some reason => (.ok (.noOp reason), h)
      | none => (.error e, h) := by
  rw [value_run]
  simp only [hfault]

/-- Only a batch that was added changes a host. -/
theorem snd_value_run {result : Except Error Outcome} {h' : Host}
    (hrun : (g.run keyPrefix h).value = (result, h'))
    (hresult : ∀ count leftOut, result ≠ .ok (.injected count leftOut)) : h' = h := by
  rw [value_run] at hrun
  split at hrun
  · exact (congrArg Prod.snd hrun).symm
  · split at hrun
    · exact (congrArg Prod.snd hrun).symm
    · rw [value_inject] at hrun
      split at hrun
      · -- the batch was not taken
        rename_i reason h'' hadd
        obtain rfl : h'' = h' := congrArg Prod.snd hrun
        exact add_of_error hadd
      · -- the batch was taken, which `hresult` excludes
        exact absurd (congrArg Prod.fst hrun).symm (hresult _ _)

/-- On a host that gives out all properties a run comes to its outcome and adds its batch. -/
theorem exists_value_run (g : Goal) (keyPrefix : Option String) (hfault : h.fault? = none) :
    ∃ h', (g.run keyPrefix h).value = (.ok (g.outcome keyPrefix h), h') ∧
      h.Extends (g.dependenciesOf (g.batch keyPrefix h)) (g.modulesOf (g.batch keyPrefix h)) h' := by
  have hnothing : h.Extends (g.dependenciesOf []) (g.modulesOf []) h := by
    cases g <;> exact .refl h
  rw [value_run, outcome, batch, idle?]
  cases hrefusal : g.refusal? keyPrefix h with
  | some reason => exact ⟨h, rfl, hnothing⟩
  | none =>
    -- the place was found by the check, but it may not be open for writing
    obtain ⟨-, -, hcheck⟩ := refusal?_eq_none_iff.1 hrefusal
    simp only [hfault, value_inject, Option.none_or]
    cases hwithheld : g.isWithheld h with
    | true =>
      rw [add_of_isWithheld hwithheld]
      exact ⟨h, rfl, hnothing⟩
    | false =>
      obtain ⟨h', hadd, hextends⟩ := add_of_check hcheck hwithheld
        ((g.readAll (h.specs keyPrefix)).1.map Prod.snd)
      rw [hadd, List.length_map]
      exact ⟨h', rfl, hextends⟩

/-- As many items are injected as there are in the batch. -/
theorem length_batch : (g.batch keyPrefix h).length = (g.outcome keyPrefix h).count := by
  unfold batch outcome
  cases g.idle? keyPrefix h with
  | some reason => rfl
  | none => exact List.length_map _

end Goal

/-! ## What later runs find -/

namespace Host.Extends

variable {ds : List Dependency} {ts : List ConfigTree} {a b : Host} (h : a.Extends ds ts b)
include h

/-- The same profile refuses its properties as before. -/
theorem fault?_eq : b.fault? = a.fault? := by
  rw [fault?, fault?, h.activeProfiles_eq]

/-- The same specs are selected as before. -/
theorem specs_eq : b.specs = a.specs := by
  funext keyPrefix
  rw [specs, specs, h.activeProfiles_eq]

/-- A goal does nothing for the same reason as before, or for none. -/
theorem idle?_eq (g : Goal) (keyPrefix : Option String) :
    g.idle? keyPrefix b = g.idle? keyPrefix a := by
  have hwithheld : g.isWithheld b = g.isWithheld a := by
    cases g with
    | dependencies => rfl
    | earModules => exact h.pluginsWithheld
  simp only [Goal.idle?, Goal.refusal?, h.activeProfiles_eq, h.value_check, hwithheld]

/-- What was added before makes no difference to the outcome of a run. -/
theorem outcome_eq (g : Goal) (keyPrefix : Option String) :
    g.outcome keyPrefix b = g.outcome keyPrefix a := by
  rw [Goal.outcome, Goal.outcome, h.idle?_eq, h.specs_eq]

/-- What was added before makes no difference to the batch of a run. -/
theorem batch_eq (g : Goal) (keyPrefix : Option String) :
    g.batch keyPrefix b = g.batch keyPrefix a := by
  rw [Goal.batch, Goal.batch, h.idle?_eq, h.specs_eq]

end Host.Extends

end BuildInjection
