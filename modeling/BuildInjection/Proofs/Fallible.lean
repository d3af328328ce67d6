import Mathlib.Data.List.Forall2

/-!
# Work that may fail

Work in steps succeeds if every step does.  Work on each element of a list succeeds with one result
for each element (`mapM_eq_ok_iff`), or fails with the first element on which it fails
(`mapM_eq_error_iff`).
-/

namespace BuildInjection

variable {ε α β : Type}

/-- Two steps succeed if the first does, and then the second with its result. -/
theorem bind_eq_ok_iff {x : Except ε α} {f : α → Except ε β} {b : β} :
    x >>= f = .ok b ↔ ∃ a, x = .ok a ∧ f a = .ok b := by
  cases x with
  | error e =>
    show Except.error e = .ok b ↔ _
    simp
  | ok a =>
    show f a = .ok b ↔ _
    simp

/-- A result is changed only where there is one. -/
theorem map_eq_ok_iff {x : Except ε α} {f : α → β} {b : β} :
    x.map f = .ok b ↔ ∃ a, x = .ok a ∧ f a = b := by
  cases x with
  | error e => simp [Except.map]
  | ok a => simp [Except.map]

/-- Changing the result leaves an error alone. -/
theorem map_eq_error_iff {x : Except ε α} {f : α → β} {e : ε} :
    x.map f = .error e ↔ x = .error e := by
  cases x <;> simp [Except.map]

/-- Changing the error leaves a result alone. -/
theorem mapError_eq_ok_iff {ε' : Type} {x : Except ε α} {f : ε → ε'} {a : α} :
    x.mapError f = .ok a ↔ x = .ok a := by
  cases x <;> simp [Except.mapError]

section

variable {f : α → Except ε β} {a : α} {as : List α}

/-- An error on the first element is that of the list. -/
theorem mapM_cons_of_error {e : ε} (ha : f a = .error e) : (a :: as).mapM f = .error e := by
  rw [List.mapM_cons, ha]
  rfl

/-- A result on the first element goes before those on the rest. -/
theorem mapM_cons_of_ok {b : β} (ha : f a = .ok b) :
    (a :: as).mapM f = (as.mapM f).map (b :: ·) := by
  rw [List.mapM_cons, ha]
  cases as.mapM f <;> rfl

/-- The first element on which the work fails gives the error. -/
theorem mapM_eq_error_iff {e : ε} :
    as.mapM f = .error e ↔
      ∃ before a after, as = before ++ a :: after ∧ (∀ a ∈ before, ∃ b, f a = .ok b) ∧
        f a = .error e := by
  constructor
  · intro h
    induction as with
    | nil => exact nomatch h
    | cons a as ih =>
      cases ha : f a with
      | error e' =>
        rw [mapM_cons_of_error ha] at h
        obtain rfl := Except.error.inj h
        exact ⟨[], a, as, rfl, by simp, ha⟩
      | ok b =>
        rw [mapM_cons_of_ok ha] at h
        -- the rest has failed, and the first element goes before its failure
        cases has : as.mapM f with
        | ok bs =>
          rw [has] at h
          exact nomatch h
        | error e' =>
          rw [has] at h
          obtain ⟨before, a', after, rfl, hbefore, ha'⟩ := ih (has.trans h)
          exact ⟨a :: before, a', after, rfl, List.forall_mem_cons.2 ⟨⟨b, ha⟩, hbefore⟩, ha'⟩
  · rintro ⟨before, a, after, rfl, hbefore, ha⟩
    -- each of those before succeeds, so the error is still to come
    induction before with
    | nil => exact mapM_cons_of_error ha
    | cons a' before ih =>
      obtain ⟨⟨b, ha'⟩, hbefore⟩ := List.forall_mem_cons.1 hbefore
      rw [List.cons_append, mapM_cons_of_ok ha', ih hbefore]
      rfl

/-- If the work succeeds, each element has its result in its place. -/
theorem mapM_eq_ok_iff {bs : List β} :
    as.mapM f = .ok bs ↔ List.Forall₂ (fun a b => f a = .ok b) as bs := by
  -- the results are one fewer for the rest
  induction as generalizing bs with
  | nil =>
    rw [List.forall₂_nil_left_iff, List.mapM_nil]
    exact ⟨fun h => (Except.ok.inj h).symm, fun h => congrArg Except.ok h.symm⟩
  | cons a as ih =>
    rw [List.forall₂_cons_left_iff]
    cases ha : f a with
    | error e =>
      rw [mapM_cons_of_error ha]
      simp
    | ok b =>
      rw [mapM_cons_of_ok ha, map_eq_ok_iff]
      simp [ih, eq_comm]

/-- The work succeeds if it does on every element, and only then. -/
theorem exists_mapM_eq_ok_iff :
    (∃ bs, as.mapM f = .ok bs) ↔ ∀ a ∈ as, ∃ b, f a = .ok b := by
  induction as with
  | nil => exact ⟨fun _ => by simp, fun _ => ⟨[], rfl⟩⟩
  | cons a as ih =>
    rw [List.forall_mem_cons, ← ih]
    cases ha : f a with
    | error e =>
      rw [mapM_cons_of_error ha]
      simp
    | ok b =>
      rw [mapM_cons_of_ok ha]
      cases as.mapM f <;> simp [Except.map]

end

/-- If there is an outcome, each element has its own in its place. -/
theorem forall₂_of_mapM {f : α → Option β} {as : List α} {bs : List β} (h : as.mapM f = some bs) :
    List.Forall₂ (fun a b => f a = some b) as bs := by
  induction as generalizing bs with
  | nil =>
    obtain rfl := Option.some.inj h
    exact .nil
  | cons a as ih =>
    rw [List.mapM_cons] at h
    obtain ⟨b, hb, h⟩ := Option.bind_eq_some_iff.1 h
    obtain ⟨bs', hbs', h⟩ := Option.bind_eq_some_iff.1 h
    obtain rfl := Option.some.inj h
    exact .cons hb (ih hbs')

/-- Each result on the elements of a list comes from one of them. -/
theorem exists_of_forall₂ {R : α → β → Prop} {as : List α} {bs : List β}
    (h : List.Forall₂ R as bs) {b : β} (hb : b ∈ bs) : ∃ a ∈ as, R a b := by
  induction h with
  | nil => exact absurd hb List.not_mem_nil
  | cons hab _ ih =>
    rcases List.mem_cons.1 hb with rfl | hb
    · exact ⟨_, List.mem_cons_self, hab⟩
    · obtain ⟨a, ha, hfound⟩ := ih hb
      exact ⟨a, List.mem_cons_of_mem _ ha, hfound⟩

end BuildInjection
