import BuildInjection.Injection.Selection

/-!
# What a selection comes to

A key prefix can be used if it is given and not blank.  A selection fails with the error of the
first profile that does not give out its properties, whatever the key prefix is, and otherwise takes
the entries of every profile in turn (`value_select`).
-/

namespace BuildInjection

namespace HostProfile

/-- The error with which a profile refuses to give out its properties, if it does. -/
def fault? (p : HostProfile) : Option Error :=
  match p.properties with
  | .error e => some e
  | .ok _ => none

/-- The properties of a profile; none if they are not given out. -/
def given (p : HostProfile) : Properties :=
  match p.properties with
  | .error _ => .empty
  | .ok m => m

theorem fault?_eq_some_iff {p : HostProfile} {e : Error} :
    p.fault? = some e ↔ p.properties = .error e := by
  unfold fault?
  cases p.properties <;> simp

/-- A profile without an error has properties. -/
theorem fault?_eq_none_iff {p : HostProfile} : p.fault? = none ↔ ∃ m, p.properties = .ok m := by
  unfold fault?
  cases p.properties <;> simp

end HostProfile

namespace Host

/-- The error of the first active profile that refuses to give out its properties. -/
def fault? (h : Host) : Option Error := h.activeProfiles.findSome? (·.fault?)

/-- The first refusal, with the active profiles before it, which all give out their properties. -/
theorem fault?_eq_some_iff {h : Host} {e : Error} :
    h.fault? = some e ↔
      ∃ before p after, h.activeProfiles = before ++ p :: after ∧
        (∀ q ∈ before, ∃ m, q.properties = .ok m) ∧ p.properties = .error e := by
  rw [fault?, List.findSome?_eq_some_iff]
  simp only [HostProfile.fault?_eq_some_iff, HostProfile.fault?_eq_none_iff]
  constructor
  · rintro ⟨before, p, after, hsplit, hp, hbefore⟩
    exact ⟨before, p, after, hsplit, hbefore, hp⟩
  · rintro ⟨before, p, after, hsplit, hbefore, hp⟩
    exact ⟨before, p, after, hsplit, hp, hbefore⟩

/-- A host that shows a project refuses nothing. -/
theorem fault?_ofProject (p : Project) : (ofProject p).fault? = none := by
  rw [fault?, List.findSome?_eq_none_iff]
  intro q hq
  obtain ⟨hmem, _⟩ := List.mem_filter.1 hq
  obtain ⟨profile, _, rfl⟩ := List.mem_map.1 hmem
  rfl

end Host

namespace Selection

/-- A key prefix can be used if it is given and holds a character that is not blank. -/
theorem checkPrefix_eq_ok_iff {keyPrefix : Option String} {k : String} :
    checkPrefix keyPrefix = .ok k ↔ keyPrefix = some k ∧ Text.isBlankText k = false := by
  cases keyPrefix with
  | none => simp [checkPrefix, Check.required, Except.bind]
  | some value =>
    show ((Check.nonBlank "prefix" value).map fun _ => value) = .ok k ↔ _
    -- the text of the key prefix is the only thing that is looked at
    by_cases hblank : Text.isBlankText value = true
    · simp only [Check.nonBlank, if_pos hblank, Except.map, reduceCtorEq, false_iff]
      rintro ⟨hvalue, hk⟩
      obtain rfl := Option.some.inj hvalue
      rw [hblank] at hk
      simp at hk
    · simp only [Check.nonBlank, if_neg hblank, Except.map, Except.ok.injEq, Option.some.injEq]
      constructor
      · rintro rfl
        exact ⟨rfl, Bool.eq_false_iff.2 hblank⟩
      · exact fun h => h.1

/-- The first refusal ends a selection; if there is none, every profile has its entries selected. -/
theorem value_select (keyPrefix : String) (ps : List HostProfile) :
    (select keyPrefix ps).value =
      match ps.findSome? (·.fault?) with
      | some e => .error e
      | none => .ok (ps.flatMap fun p => selectEntries keyPrefix p.given) := by
  induction ps with
  | nil => rfl
  | cons p ps ih =>
    rw [List.findSome?_cons, select]
    -- the first profile either ends the selection or gives its entries
    cases hp : p.properties with
    | error e => simp [HostProfile.fault?, hp]
    | ok m =>
      have hfault : p.fault? = none := HostProfile.fault?_eq_none_iff.2 ⟨m, hp⟩
      have hgiven : p.given = m := by rw [HostProfile.given, hp]
      simp only [Logged.value_bind, Logged.value_pure, ih, hfault, List.flatMap_cons, hgiven]
      cases ps.findSome? (·.fault?) <;> rfl

end Selection

end BuildInjection
