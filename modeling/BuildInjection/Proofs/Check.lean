import BuildInjection.Check
import BuildInjection.Proofs.Fallible
import BuildInjection.Proofs.Text

/-!
# What checks demand

A check that consists of several others is passed if all demands of these are met, and its error is
that of the first one that is not (`verdict_eq_ok_iff`, `verdict_eq_error_iff`).  So it is enough to
know the demands of a check, in their order.
-/

namespace BuildInjection

/-- Something that has to hold, and the error if it does not. -/
structure Demand where
  holds : Bool
  error : Error

namespace Demand

/-- The error of the first demand that is not met, if there is one. -/
def verdict (ds : List Demand) : Except Error Unit :=
  match ds.find? (!·.holds) with
  | none => .ok ()
  | some d => .error d.error

section

variable {ds : List Demand}

/-- Demands that are all met pass. -/
theorem verdict_eq_ok_iff : verdict ds = .ok () ↔ ∀ d ∈ ds, d.holds = true := by
  unfold verdict
  split
  · rename_i hnone
    simpa using hnone
  · rename_i d hfound
    refine iff_of_false nofun fun hall => ?_
    -- the demand that was found is not met, against `hall`
    have hunmet := List.find?_some hfound
    simp [hall d (List.mem_of_find?_eq_some hfound)] at hunmet

/-- It is the first demand that is not met whose error is given. -/
theorem verdict_eq_error_iff {e : Error} :
    verdict ds = .error e ↔ ∃ before d after, ds = before ++ d :: after ∧
      (∀ met ∈ before, met.holds = true) ∧ d.holds = false ∧ e = d.error := by
  have hfirst : verdict ds = .error e ↔
      ∃ d, ds.find? (!·.holds) = some d ∧ d.error = e := by
    unfold verdict
    split <;> simp [*]
  rw [hfirst]
  -- the library says where `find?` finds its element, with all before it refused
  simp only [List.find?_eq_some_iff_append, Bool.not_eq_true', Bool.not_not]
  constructor
  · rintro ⟨d, ⟨hunmet, before, after, rfl, hmet⟩, rfl⟩
    exact ⟨before, d, after, rfl, hmet, hunmet, rfl⟩
  · rintro ⟨before, d, after, rfl, hmet, hunmet, rfl⟩
    exact ⟨d, ⟨hunmet, before, after, rfl, hmet⟩, rfl⟩

end

/-- The first demand decides unless it is met. -/
theorem verdict_cons (d : Demand) (ds : List Demand) :
    verdict (d :: ds) = if d.holds then verdict ds else .error d.error := by
  unfold verdict
  rw [List.find?_cons]
  cases d.holds <;> rfl

/-- Demands are gone through one after the other. -/
theorem verdict_append (ds es : List Demand) :
    verdict (ds ++ es) = verdict ds >>= fun _ => verdict es := by
  induction ds with
  | nil => rfl
  | cons d ds ih =>
    rw [List.cons_append, verdict_cons, verdict_cons, ih]
    cases d.holds <;> rfl

/-! ## The demands of single checks -/

/-- Something is left of a text when it is trimmed. -/
def nonBlank (field value : String) : Demand where
  holds := Text.trim value ≠ ""
  error := .invalid field value .blank

/-- A text differs from some that came before it. -/
def differs (field : String) (earlier : List String) (value : String) : Demand where
  holds := value ∉ earlier
  error := .invalid field value .duplicate

/-- Each text differs from those before it. -/
def distinct (field : String) (values : List String) : List Demand :=
  values.mapIdx fun i value => differs field (values.take i) value

/-- Texts differ each from those before it exactly when no two of them are the same. -/
theorem forall_holds_distinct_iff {field : String} {values : List String} :
    (∀ d ∈ distinct field values, d.holds = true) ↔ values.Nodup := by
  have hplace : (∀ d ∈ distinct field values, d.holds = true) ↔
      ∀ (j : Nat) (hj : j < values.length), values[j] ∉ values.take j := by
    simp only [distinct, List.mem_mapIdx]
    constructor
    · intro h j hj
      simpa [differs] using h _ ⟨j, hj, rfl⟩
    · rintro h d ⟨j, hj, rfl⟩
      simpa [differs] using h j hj
  -- `Nodup` is about all pairs of places, of which the first is the smaller one
  rw [hplace, List.Nodup, List.pairwise_iff_getElem]
  simp only [List.mem_take_iff_getElem]
  constructor
  · intro h i j hi hj hij heq
    exact h j hj ⟨i, by omega, heq⟩
  · rintro h j hj ⟨i, hi, heq⟩
    exact h i j (by omega) hj (by omega) heq

/-- A text is one of a fixed list. -/
def oneOf (allowed : List String) (field value : String) : Demand where
  holds := value ∈ allowed
  error := .invalid field value (.notOneOf allowed)

end Demand

namespace Check

open Demand

/-- To be no blank text is a single demand. -/
theorem nonBlank_eq_verdict (field value : String) :
    nonBlank field value = verdict [.nonBlank field value] := by
  rw [nonBlank, verdict_cons]
  simp only [Text.isBlankText_eq_true_iff, Demand.nonBlank, decide_eq_true_eq]
  split <;> simp_all [verdict]

/-- To stand in a fixed list is a single demand. -/
theorem oneOf_eq_verdict (field value : String) (allowed : List String) :
    oneOf field value allowed = verdict [.oneOf allowed field value] := by
  rw [oneOf, verdict_cons]
  simp only [Demand.oneOf, decide_eq_true_eq]
  rfl

/-- The texts that came before count like those that are gone through. -/
theorem uniqueFrom_eq_verdict (field : String) (seen values : List String) :
    uniqueFrom field seen values =
      verdict (values.mapIdx fun i value => .differs field (seen ++ values.take i) value) := by
  -- `seen` grows along the texts, so it has to be general
  induction values generalizing seen with
  | nil => rfl
  | cons value values ih =>
    rw [uniqueFrom, List.mapIdx_cons, verdict_cons, ih]
    have hrest : (fun i v => Demand.differs field (value :: seen ++ values.take i) v) =
        fun i v => Demand.differs field (seen ++ (value :: values).take (i + 1)) v := by
      funext i v
      -- the order of the texts before `v` is of no account
      have hmem : v ∉ value :: seen ++ values.take i ↔
          v ∉ seen ++ (value :: values).take (i + 1) := by
        simp only [List.take_succ_cons, List.mem_append, List.mem_cons]
        tauto
      simp only [Demand.differs, hmem]
    rw [hrest]
    by_cases hseen : value ∈ seen
    · simp [hseen, Demand.differs]
    · simp [hseen, Demand.differs]

/-- To be pairwise distinct is one demand for each text. -/
theorem unique_eq_verdict (field : String) (values : List String) :
    unique field values = verdict (distinct field values) :=
  uniqueFrom_eq_verdict field [] values

end Check

end BuildInjection
