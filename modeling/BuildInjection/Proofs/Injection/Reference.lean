import BuildInjection.Proofs.Injection.Item
import BuildInjection.Proofs.Injection.Run
import BuildInjection.Proofs.Text

/-!
# The reference for a run

What a run is to come to, said in one place and without its loops: the first case that applies
decides, the specs are one flat list, and the batch is what reading makes of it.  A run comes to
exactly that on every host (`run_eq_reference`).
-/

namespace BuildInjection

/-- The specs that a key prefix selects: from the active profiles in order, from their properties in
    order whose key begins with the key prefix, the parts of the value between spaces that are not
    empty. -/
def Host.selectedSpecs (h : Host) (keyPrefix : String) : List String :=
  h.activeProfiles.flatMap fun p =>
    (p.given.entries.filter fun e => keyPrefix.toList <+: e.1.toList).flatMap fun e =>
      ((e.2.toList.splitOn ' ').filter (· ≠ [])).map String.ofList

/-- The specs that a run reads are those that its key prefix selects. -/
theorem Host.specs_some (h : Host) (keyPrefix : String) :
    h.specs (some keyPrefix) = h.selectedSpecs keyPrefix := by
  have hentries : ∀ m : Properties, Selection.selectEntries keyPrefix m =
      m.entries.filter fun e => keyPrefix.toList <+: e.1.toList := by
    intro m
    apply List.filter_congr
    rintro ⟨key, value⟩ -
    simp [Selection.isSelected, ← List.isPrefixOf_iff_prefix]
  rw [specs, Selection.specsOf, List.flatMap_assoc]
  simp only [Option.getD_some, hentries, Text.specs, Text.pieces_eq]
  rfl

namespace Goal

variable (g : Goal)

/-- What a run is to come to.  The first case that applies decides. -/
def reference (keyPrefix : Option String) (h : Host) : Except Error Outcome × Host :=
  match keyPrefix.filter (Text.trim · ≠ "") with
  | none => (.ok (.noOp .missingPrefix), h)
  | some k =>
    if h.activeProfiles = [] then (.ok (.noOp .noActiveProfiles), h)
    else match (g.check h).value, h.activeProfiles.findSome? (·.fault?) with
      | .error reason, _ => (.ok (.noOp reason), h)
      | .ok (), some e => (.error e, h)
      | .ok (), none =>
        let batch := (h.selectedSpecs k).filterMap g.item?
        let leftOut := (h.selectedSpecs k).countP fun spec => (g.item? spec).isNone
        match (g.load batch h).value with
        | (.error reason, h') => (.ok (.noOp reason), h')
        | (.ok _, h') => (.ok (.injected batch.length leftOut), h')

variable {g : Goal} {keyPrefix : Option String} {h : Host}

/-- Without a key prefix that can be used, nothing is injected. -/
theorem reference_of_blank (hblank : keyPrefix.all Text.isBlankText = true) :
    g.reference keyPrefix h = (.ok (.noOp .missingPrefix), h) := by
  have hnone : keyPrefix.filter (Text.trim · ≠ "") = none := by
    cases keyPrefix with
    | none => rfl
    | some k =>
      have htrim : Text.trim k = "" := Text.isBlankText_eq_true_iff.1 hblank
      simp [htrim]
  rw [reference, hnone]

/-- With such a key prefix, the reference has the cases of a run. -/
theorem reference_of_not_blank {k : String} (hk : Text.isBlankText k = false) :
    g.reference (some k) h =
      match g.refusal? (some k) h with
      | some reason => (.ok (.noOp reason), h)
      | none =>
        match h.fault? with
        | some e => (.error e, h)
        | none => (g.inject (h.specs (some k)) h).value := by
  have htrim : Text.trim k ≠ "" := by
    intro htrim
    rw [Text.isBlankText_eq_true_iff.2 htrim] at hk
    exact absurd hk (by decide)
  have hsome : (some k).filter (Text.trim · ≠ "") = some k := by simp [htrim]
  rw [reference, hsome, refusal?, Option.all_some, hk]
  simp only [Bool.false_eq_true, if_false, List.isEmpty_iff]
  by_cases hactive : h.activeProfiles = []
  · simp only [if_pos hactive]
  · simp only [if_neg hactive]
    cases (g.check h).value with
    | error reason => rfl
    | ok =>
      rw [Host.fault?]
      cases h.activeProfiles.findSome? (·.fault?) with
      | some e => rfl
      | none =>
        -- the items of the flat list are those that the specs were read to
        simp only [value_inject, value_load, h.specs_some, g.fst_readAll, g.length_snd_readAll]
        rcases hadd : g.add (((h.selectedSpecs k).filterMap g.item?).map Prod.snd) h with
          ⟨reason | count, h'⟩
        · rfl
        · rw [eq_length_of_add hadd, List.length_map]

/-- A run comes to what its reference says, whatever becomes of its key prefix. -/
theorem value_run_eq_reference (g : Goal) (keyPrefix : Option String) (h : Host) :
    (g.run keyPrefix h).value = g.reference keyPrefix h := by
  rw [value_run]
  -- without a key prefix that can be used, the reference is decided at once
  by_cases hblank : keyPrefix.all Text.isBlankText = true
  · rw [reference_of_blank hblank, refusal?, if_pos hblank]
  · cases keyPrefix with
    | none => exact absurd rfl hblank
    | some k => exact (reference_of_not_blank (Bool.eq_false_iff.2 hblank)).symm

/-- Where the reference injects, it has loaded one batch, and every spec is in it or is left out. -/
theorem exists_load_of_reference {injected leftOut : Nat} {h' : Host}
    (href : g.reference keyPrefix h = (.ok (.injected injected leftOut), h')) :
    ∃ k, keyPrefix = some k ∧
      (g.load ((h.selectedSpecs k).filterMap g.item?) h).value = (.ok injected, h') ∧
      injected = ((h.selectedSpecs k).countP fun spec => (g.item? spec).isSome) ∧
      leftOut = ((h.selectedSpecs k).countP fun spec => (g.item? spec).isNone) := by
  unfold reference at href
  split at href
  · exact nomatch congrArg Prod.fst href
  · rename_i k hk
    split at href
    · exact nomatch congrArg Prod.fst href
    · split at href
      · exact nomatch congrArg Prod.fst href
      · exact nomatch congrArg Prod.fst href
      · -- nothing is in the way of the batch but the host's answer to it
        cases hload : (g.load ((h.selectedSpecs k).filterMap g.item?) h).value with
        | mk loaded h'' =>
          simp only [hload] at href
          cases loaded with
          | error reason => exact nomatch congrArg Prod.fst href
          | ok count =>
            obtain rfl : h'' = h' := congrArg Prod.snd href
            obtain ⟨rfl, rfl⟩ := Outcome.injected.inj (Except.ok.inj (congrArg Prod.fst href))
            have hcount : count = ((h.selectedSpecs k).filterMap g.item?).length := by
              rw [value_load] at hload
              rw [eq_length_of_add hload, List.length_map]
            refine ⟨k, (Option.filter_eq_some_iff.1 hk).1, ?_, List.length_filterMap_eq_countP, rfl⟩
            rw [hload, hcount]

variable (g keyPrefix h)

/-- A run comes to what its reference says.  What it injects and what it leaves out are together the
    specs that its key prefix selects, and dependencies are never left out. -/
theorem run_eq_reference :
    (g.run keyPrefix h).value = g.reference keyPrefix h ∧
    ∀ injected leftOut h', (g.run keyPrefix h).value = (.ok (.injected injected leftOut), h') →
      ∃ k, keyPrefix = some k ∧
        (g.load ((h.selectedSpecs k).filterMap g.item?) h).value = (.ok injected, h') ∧
        injected = ((h.selectedSpecs k).countP fun spec => (g.item? spec).isSome) ∧
        leftOut = ((h.selectedSpecs k).countP fun spec => (g.item? spec).isNone) ∧
        injected + leftOut = (h.selectedSpecs k).length ∧
        (g = .dependencies → leftOut = 0) := by
  have heq := value_run_eq_reference g keyPrefix h
  refine ⟨heq, ?_⟩
  intro injected leftOut h' hrun
  obtain ⟨k, hk, hload, hinjected, hleftOut⟩ := exists_load_of_reference (heq.symm.trans hrun)
  refine ⟨k, hk, hload, hinjected, hleftOut, ?_, ?_⟩
  · -- each spec gives an item or a fault, and is counted once
    rw [hinjected, hleftOut, ← g.length_snd_readAll, ← List.length_filterMap_eq_countP,
      ← g.fst_readAll]
    exact g.length_readAll _
  · rintro rfl
    rw [hleftOut, ← length_snd_readAll, snd_readAll_dependencies]
    rfl

end Goal

end BuildInjection
