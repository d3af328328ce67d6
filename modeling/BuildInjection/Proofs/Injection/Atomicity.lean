import BuildInjection.Proofs.Injection.Sequence

/-!
# Failures change nothing

A run that fails or does nothing leaves the host as it was.  So does a sequence that fails: whether
a profile gives out its properties depends on no goal and no key prefix, so the first step that asks
for them fails, and no step before it can have added anything (`run_leaves_host`).
-/

namespace BuildInjection

/-- Whether a step asks for the properties of the active profiles: its key prefix is not blank, and
    there is a place for what it injects. -/
def Step.Reads (step : Step) (h : Host) : Prop :=
  (∃ k, step.keyPrefix = some k ∧ Text.isBlankText k = false) ∧ (step.goal.check h).value = .ok ()

variable {h : Host} {e : Error}

/-- Only an active profile can refuse anything. -/
theorem Host.activeProfiles_ne_nil (hfault : h.fault? = some e) : h.activeProfiles ≠ [] := by
  intro hnil
  rw [fault?, hnil] at hfault
  simp at hfault

namespace Step

variable {step : Step}

/-- Where an active profile refuses its properties, asking for them is all that is left to do. -/
theorem reads_iff (hfault : h.fault? = some e) :
    step.Reads h ↔ step.goal.refusal? step.keyPrefix h = none := by
  rw [Goal.refusal?_eq_none_iff, Reads]
  have hactive := Host.activeProfiles_ne_nil hfault
  constructor
  · rintro ⟨hgiven, hcheck⟩
    exact ⟨hgiven, hactive, hcheck⟩
  · rintro ⟨hgiven, -, hcheck⟩
    exact ⟨hgiven, hcheck⟩

/-- A step that asks for properties fails on a host that refuses them. -/
theorem value_run_of_reads (hfault : h.fault? = some e) (hreads : step.Reads h) :
    (step.goal.run step.keyPrefix h).value = (.error e, h) := by
  rw [Goal.value_run_of_fault hfault, (reads_iff hfault).1 hreads]

/-- A step that asks for none does nothing there. -/
theorem value_run_of_not_reads (hfault : h.fault? = some e) (hreads : ¬ step.Reads h) :
    ∃ reason, (step.goal.run step.keyPrefix h).value = (.ok (.noOp reason), h) := by
  rw [reads_iff hfault] at hreads
  obtain ⟨reason, hrefusal⟩ := Option.ne_none_iff_exists'.1 hreads
  refine ⟨reason, ?_⟩
  rw [Goal.value_run_of_fault hfault, hrefusal]

end Step

namespace Sequence

/-- Steps that ask for no properties do nothing on a host that refuses them. -/
theorem value_run_of_not_reads (hfault : h.fault? = some e) {steps : List Step}
    (hreads : ∀ s ∈ steps, ¬ s.Reads h) :
    ∃ results, (run steps h).value = (.ok results, h) ∧
      ∀ r ∈ results, ∃ reason, r.outcome = .noOp reason := by
  induction steps with
  | nil => exact ⟨[], rfl, by simp⟩
  | cons step steps ih =>
    -- the host is the same after the step, so the others meet the same refusal
    obtain ⟨reason, hstep⟩ :=
      Step.value_run_of_not_reads hfault (hreads step List.mem_cons_self)
    obtain ⟨results, hsteps, hall⟩ := ih fun s hs => hreads s (List.mem_cons_of_mem step hs)
    refine ⟨⟨step.goal, .noOp reason, 0⟩ :: results, ?_, ?_⟩
    · rw [value_run_cons, hstep]
      simp only [hsteps]
      rfl
    · intro r hr
      rcases List.mem_cons.1 hr with rfl | hr
      · exact ⟨reason, rfl⟩
      · exact hall r hr

/-- The first step that asks for properties ends a sequence on a host that refuses them. -/
theorem value_run_of_reads (hfault : h.fault? = some e) {before : List Step} {step : Step}
    (hbefore : ∀ s ∈ before, ¬ s.Reads h) (hreads : step.Reads h) (after : List Step) :
    (run (before ++ step :: after) h).value = (.error e, h) := by
  induction before with
  | nil => rw [List.nil_append, value_run_cons, Step.value_run_of_reads hfault hreads]
  | cons s before ih =>
    obtain ⟨reason, hs⟩ := Step.value_run_of_not_reads hfault (hbefore s List.mem_cons_self)
    have hrest := ih fun s' hs' => hbefore s' (List.mem_cons_of_mem s hs')
    rw [List.cons_append, value_run_cons, hs]
    simp only [hrest]
    rfl

/-- Where a step asks for properties, one does so first. -/
theorem exists_first_reads {steps : List Step} (hreads : ∃ s ∈ steps, s.Reads h) :
    ∃ before step after, steps = before ++ step :: after ∧
      (∀ s ∈ before, ¬ s.Reads h) ∧ step.Reads h := by
  induction steps with
  | nil => simp at hreads
  | cons s steps ih =>
    -- either the first step is the one, or it is one of those before it
    by_cases hs : s.Reads h
    · exact ⟨[], s, steps, rfl, by simp, hs⟩
    · obtain ⟨s', hs', hreads'⟩ := hreads
      have hmem : s' ∈ steps := by
        rcases List.mem_cons.1 hs' with rfl | hmem
        · exact absurd hreads' hs
        · exact hmem
      obtain ⟨before, step, after, rfl, hbefore, hstep⟩ := ih ⟨s', hmem, hreads'⟩
      refine ⟨s :: before, step, after, rfl, ?_, hstep⟩
      intro t ht
      rcases List.mem_cons.1 ht with rfl | ht
      · exact hs
      · exact hbefore t ht

/-- A sequence fails exactly where the host refuses properties and a step asks for them. -/
theorem exists_value_run_eq_error_iff {steps : List Step} :
    (∃ h', (run steps h).value = (.error e, h')) ↔
      h.fault? = some e ∧ ∃ s ∈ steps, s.Reads h := by
  constructor
  · rintro ⟨h', hrun⟩
    cases hfault : h.fault? with
    | none =>
      -- every step comes to an outcome
      obtain ⟨h'', hok, -⟩ := exists_value_run hfault steps
      rw [hrun] at hok
      exact nomatch congrArg Prod.fst hok
    | some e' =>
      by_cases hreads : ∃ s ∈ steps, s.Reads h
      · -- the first step that asks has raised the error of the host
        obtain ⟨before, step, after, rfl, hbefore, hstep⟩ := exists_first_reads hreads
        rw [value_run_of_reads hfault hbefore hstep] at hrun
        have he : e' = e := Except.error.inj (congrArg Prod.fst hrun)
        exact ⟨congrArg some he, hreads⟩
      · -- nothing was asked for, so nothing was refused
        have hnone : ∀ s ∈ steps, ¬ s.Reads h := fun s hs hs' => hreads ⟨s, hs, hs'⟩
        obtain ⟨results, hok, -⟩ := value_run_of_not_reads hfault hnone
        rw [hrun] at hok
        exact nomatch congrArg Prod.fst hok
  · rintro ⟨hfault, hreads⟩
    obtain ⟨before, step, after, rfl, hbefore, hstep⟩ := exists_first_reads hreads
    exact ⟨h, value_run_of_reads hfault hbefore hstep after⟩

/-- A run that fails or does nothing leaves the host as it was.  A sequence that fails leaves it as
    it was before its first step; its error is that of the first active profile that refuses its
    properties, and it comes from the first step that asks for them, all before having done
    nothing. -/
theorem run_leaves_host (h : Host) :
    (∀ (g : Goal) (keyPrefix : Option String) (result : Except Error Outcome) (h' : Host),
      (g.run keyPrefix h).value = (result, h') →
      ((∃ e, result = .error e) ∨ ∃ reason, result = .ok (.noOp reason)) → h' = h) ∧
    ∀ (steps : List Step) (e : Error) (h' : Host), (run steps h).value = (.error e, h') →
      h' = h ∧
      (∃ before p after, h.activeProfiles = before ++ p :: after ∧
        (∀ q ∈ before, ∃ m, q.properties = .ok m) ∧ p.properties = .error e) ∧
      ∃ before step after, steps = before ++ step :: after ∧
        (∀ s ∈ before, ¬ s.Reads h) ∧ step.Reads h ∧
        (step.goal.run step.keyPrefix h).value = (.error e, h) ∧
        ∃ results, (run before h).value = (.ok results, h) ∧
          ∀ r ∈ results, ∃ reason, r.outcome = .noOp reason := by
  constructor
  · intro g keyPrefix result h' hrun hresult
    -- only an outcome of `injected` could have changed the host
    refine Goal.snd_value_run hrun ?_
    rintro count leftOut rfl
    rcases hresult with ⟨e, he⟩ | ⟨reason, hreason⟩
    · simp at he
    · simp at hreason
  · intro steps e h' hrun
    obtain ⟨hfault, hreads⟩ := exists_value_run_eq_error_iff.1 ⟨h', hrun⟩
    obtain ⟨before, step, after, rfl, hbefore, hstep⟩ := exists_first_reads hreads
    rw [value_run_of_reads hfault hbefore hstep] at hrun
    have hleft : h' = h := (congrArg Prod.snd hrun).symm
    exact ⟨hleft, Host.fault?_eq_some_iff.1 hfault, before, step, after, rfl, hbefore, hstep,
      Step.value_run_of_reads hfault hstep, value_run_of_not_reads hfault hbefore⟩

/-- A host without plugins whose second active profile refuses its properties. -/
def locked : Host where
  profiles := [
    { id := "open", properties := .ok .empty },
    { id := "off", active := false, properties := .error (.profileProperties "off" "sealed") },
    { id := "shut", properties := .error (.profileProperties "shut" "sealed") }]
  dependencies := [{}]
  plugins := []

/-- A sequence that fails at its third step, and its first step alone. -/
theorem run_locked_leaves_host :
    (∃ h', (Goal.run .earModules (some "war.") locked).value =
        (.ok (.noOp Target.notFound), h') ∧ h' = locked) ∧
    ∃ h', (run [⟨.earModules, some "war."⟩, ⟨.dependencies, some " "⟩,
          ⟨.dependencies, some "lib."⟩] locked).value =
        (.error (.profileProperties "shut" "sealed"), h') ∧ h' = locked := by
  obtain ⟨hruns, hsequences⟩ := run_leaves_host locked
  have hrun : (Goal.run .earModules (some "war.") locked).value =
      (.ok (.noOp Target.notFound), locked) := by rfl
  have hsequence : (run [⟨.earModules, some "war."⟩, ⟨.dependencies, some " "⟩,
      ⟨.dependencies, some "lib."⟩] locked).value =
        (.error (.profileProperties "shut" "sealed"), locked) := by rfl
  obtain ⟨hleft, -, -⟩ := hsequences _ _ _ hsequence
  exact ⟨⟨locked, hrun, hruns _ _ _ _ hrun (.inr ⟨_, rfl⟩)⟩, locked, hsequence, hleft⟩

end Sequence

end BuildInjection
