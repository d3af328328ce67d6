import BuildInjection.Proofs.Injection.Lookup
import BuildInjection.Proofs.Injection.Reference

/-!
# What a run shows in the log

Without its details the log of a run is a short account of what happened: the goal, then either why
nothing was done or one line for each spec that was left out and one for each item that was
injected.  `Goal.trace` says which lines these are without a run, and every run shows exactly them
(`Goal.visible_run`).  All other reports are details.
-/

namespace BuildInjection

/-- What the log shows of some reports when details are left out: level and wording of each. -/
def visible (events : List Event) : List (Level × String) :=
  (events.filter (·.level ≠ .debug)).map fun e => (e.level, e.message)

@[simp] theorem visible_nil : visible [] = [] := rfl

@[simp] theorem visible_append (es es' : List Event) :
    visible (es ++ es') = visible es ++ visible es' := by
  simp [visible]

/-- Details are not shown. -/
theorem visible_of_debug {es : List Event} (h : ∀ e ∈ es, e.level = .debug) : visible es = [] := by
  rw [visible, List.map_eq_nil_iff, List.filter_eq_nil_iff]
  intro e he
  simp [h e he]

/-- A reason that is an error is shown by its text. -/
theorem visible_noOp {reason : NoOp} (h : Event.level (.noOp reason) = .error) :
    visible [.noOp reason] = [(.error, reason.message)] := by
  have hshown : [Event.noOp reason].filter (·.level ≠ .debug) = [.noOp reason] := by simp [h]
  rw [visible, hshown, List.map_singleton, h]
  rfl

/-! ## How lines begin -/

/-- A text begins as its first part does. -/
theorem head?_append {s : String} {c : Char} (t : String) (hs : s.toList.head? = some c) :
    (s ++ t).toList.head? = some c := by
  rw [String.toList_append, List.head?_append, hs, Option.some_or]

/-- The text of a fault begins with a capital letter. -/
theorem SpecFault.head?_message (fault : SpecFault) :
    fault.message.toList.head? = some 'M' ∨ fault.message.toList.head? = some 'F' := by
  -- the front of each message is a fixed text, with the spec after it
  cases fault with
  | noModuleType spec => exact .inl (head?_append _ (head?_append spec (by decide)))
  | bareSuffix spec =>
    exact .inr (head?_append _ (head?_append _ (head?_append spec (by decide))))
  | badElementName spec name =>
    exact .inr (head?_append _ (head?_append name (head?_append _ (head?_append spec (by decide)))))

/-! ## Where only details are reported -/

/-- Looking for the EAR plugin is a detail. -/
theorem Target.level_of_mem_searchEvents {ps : List Plugin} {e : Event}
    (h : e ∈ searchEvents ps) : e.level = .debug := by
  obtain ⟨p, -, rfl⟩ := List.mem_map.1 h
  rfl

/-- The check reports details only. -/
theorem Target.visible_check (ps : List Plugin) : visible (check ps).events = [] := by
  apply visible_of_debug
  intro e he
  rw [check, Logged.events_bind, Logged.events_logAll, List.mem_append] at he
  rcases he with he | he
  · exact level_of_mem_searchEvents he
  · -- one more report says what was found
    split at he
    · exact absurd he List.not_mem_nil
    · split at he <;> obtain rfl := List.mem_singleton.1 he <;> rfl

/-- Looking at properties is a detail. -/
theorem Selection.visible_select (keyPrefix : String) (ps : List HostProfile) :
    visible (select keyPrefix ps).events = [] := by
  apply visible_of_debug
  induction ps with
  | nil => exact fun e he => absurd he List.not_mem_nil
  | cons p ps ih =>
    intro e he
    rw [select] at he
    split at he
    · exact absurd he List.not_mem_nil
    · simp only [Logged.events_bind, Logged.events_log, Logged.events_logAll, Logged.events_pure,
        List.append_nil, List.mem_append, List.mem_singleton, List.mem_flatMap] at he
      -- a profile is reported, then its properties, then those of the other profiles
      rcases he with rfl | ⟨⟨key, value⟩, -, he⟩ | he
      · rfl
      · rw [propertyEvents] at he
        rcases List.mem_cons.1 he with rfl | he
        · rfl
        · -- a profile without properties ends the search without a report
          split at he
          · obtain rfl := List.mem_singleton.1 he
            rfl
          · exact absurd he List.not_mem_nil
      · exact ih e he

/-! ## Reasons -/

namespace Target

/-- A missing place is an error, unlike missing profiles. -/
theorem Refuses.level_noOp {ps : List Plugin} {reason : NoOp} (h : Refuses ps reason) :
    Event.level (.noOp reason) = .error := by
  cases h <;> rfl

/-- Modules are refused for the reasons for which plugins take none. -/
theorem refuses_of_add {ps : List Plugin} {modules : List ConfigTree} {reason : NoOp}
    (h : add modules ps = .error reason) : Refuses ps reason := by
  cases hcheck : (check ps).value with
  | error reason' =>
    rw [add_of_check_error hcheck] at h
    obtain rfl := Except.error.inj h
    exact value_check_eq_error_iff.1 hcheck
  -- where the check succeeds, the modules have a place
  | ok =>
    obtain ⟨place, children, rfl⟩ := exists_place_of_check hcheck
    rw [place.add_plugins] at h
    cases h

end Target

namespace Goal

section

variable {g : Goal} {h h' : Host} {reason : NoOp}

/-- A place that is missing before a run is an error. -/
theorem level_noOp_of_check (hcheck : (g.check h).value = .error reason) :
    Event.level (.noOp reason) = .error := by
  cases g with
  | dependencies => cases hcheck
  | earModules => exact (Target.value_check_eq_error_iff.1 hcheck).level_noOp

/-- A place that is missing when the batch is added is an error too. -/
theorem level_noOp_of_add {items : List g.Item} (hadd : g.add items h = (.error reason, h')) :
    Event.level (.noOp reason) = .error := by
  cases g with
  | dependencies => cases hadd
  | earModules =>
    cases hplugins : Target.add items h.writablePlugins with
    | error reason' =>
      simp only [add, hplugins] at hadd
      obtain rfl := Except.error.inj (congrArg Prod.fst hadd)
      exact (Target.refuses_of_add hplugins).level_noOp
    | ok plugins =>
      simp only [add, hplugins] at hadd
      cases hadd

end

variable (g : Goal) (keyPrefix : Option String) (h : Host)

/-! ## The lines of a run -/

/-- The line for an item that was injected: a dependency is shown itself, and a module by the spec
    it was read from. -/
def itemLine : (g : Goal) → String × g.Item → Level × String
  | .dependencies, (_, (d : Dependency)) => (.info, "* " ++ d.display)
  | .earModules, (spec, _) => (.info, "* " ++ spec)

/-- The line for a spec, if it is left out. -/
def faultLine? (spec : String) : Option (Level × String) :=
  match g.read spec with
  | .ok _ => none
  | .error fault => some (.error, fault.message)

/-- What a run is to show in the log.  The first case that applies decides, as in `reference`. -/
def trace : List (Level × String) :=
  (.info, "Injecting profile " ++ g.subject) ::
  match keyPrefix.filter (Text.trim · ≠ "") with
  | none => [(.error, NoOp.missingPrefix.message)]
  | some k =>
    if h.activeProfiles = [] then [(.warn, NoOp.noActiveProfiles.message)]
    else match (g.check h).value, h.activeProfiles.findSome? (·.fault?) with
      | .error reason, _ => [(.error, reason.message)]
      | .ok (), some _ => []
      | .ok (), none =>
        let batch := (h.selectedSpecs k).filterMap g.item?
        (h.selectedSpecs k).filterMap g.faultLine? ++
          match (g.load batch h).value.1 with
          | .error reason => [(.error, reason.message)]
          | .ok _ => batch.map g.itemLine

/-- Looking for the place is a detail. -/
theorem visible_check : visible (g.check h).events = [] := by
  cases g with
  | dependencies => rfl
  | earModules => exact Target.visible_check h.plugins

/-- A spec is shown if it is left out. -/
theorem visible_specEvents (specs : List String) :
    visible (specs.flatMap g.specEvents) = specs.filterMap g.faultLine? := by
  induction specs with
  | nil => rfl
  | cons spec specs ih =>
    -- a spec that is read makes a detail, and one that is not makes an error
    have hfirst : visible (g.specEvents spec) = (g.faultLine? spec).toList := by
      rw [specEvents, faultLine?]
      cases hread : g.read spec with
      | error fault => rfl
      | ok item => cases g <;> rfl
    rw [List.flatMap_cons, visible_append, ih, hfirst]
    cases hline : g.faultLine? spec <;> simp [hline]

/-- The line of an item is shown when it was injected. -/
theorem visible_injectedEvents (batch : List (String × g.Item)) :
    visible (batch.map fun (spec, item) => g.injectedEvent spec item) = batch.map g.itemLine := by
  induction batch with
  | nil => rfl
  | cons entry batch ih =>
    obtain ⟨spec, item⟩ := entry
    have hfirst : visible [g.injectedEvent spec item] = [g.itemLine (spec, item)] := by
      cases g <;> rfl
    rw [List.map_cons, List.map_cons, ← List.singleton_append, visible_append, ih, hfirst]
    rfl

/-- A batch shows its items, unless it is refused. -/
theorem visible_load (batch : List (String × g.Item)) :
    visible (g.load batch h).events =
      match (g.load batch h).value.1 with
      | .error _ => []
      | .ok _ => batch.map g.itemLine := by
  have hplace : visible (g.placeEvents h) = [] := by
    cases g with
    | dependencies => rfl
    | earModules => exact visible_of_debug fun e he => Target.level_of_mem_searchEvents he
  have hbatch : ∀ items : List g.Item, visible [g.batchEvent items] = [] := by
    intro items
    cases g <;> rfl
  rw [value_load, load]
  simp only [Logged.events_bind, Logged.events_logAll, visible_append, hplace, List.nil_append]
  rcases g.add (batch.map Prod.snd) h with ⟨reason | count, h'⟩
  · rfl
  · simp only [Logged.events_bind, Logged.events_log, Logged.events_logAll, Logged.events_pure,
      visible_append, hbatch, visible_injectedEvents, List.nil_append, List.append_nil]

/-- What comes of specs is shown: the ones left out, and then the items or why there is no place for
    them. -/
theorem visible_inject (specs : List String) :
    visible (g.inject specs h).events =
      specs.filterMap g.faultLine? ++
        match (g.load (specs.filterMap g.item?) h).value.1 with
        | .error reason => [(.error, reason.message)]
        | .ok _ => (specs.filterMap g.item?).map g.itemLine := by
  -- the sizes of the batch and of the rest are a detail
  have hcount : ∀ count leftOut, visible [.batch count leftOut] = [] := fun _ _ => rfl
  simp only [inject, Logged.events_bind, Logged.events_log, Logged.events_logAll, visible_append,
    visible_specEvents, hcount, visible_load, List.nil_append, g.fst_readAll, value_load]
  cases hadd : g.add ((specs.filterMap g.item?).map Prod.snd) h with
  | mk loaded h' =>
    cases loaded with
    | error reason =>
      have hreason := visible_noOp (level_noOp_of_add hadd)
      simp only [doNothing, Logged.events_bind, Logged.events_log, Logged.events_pure,
        List.append_nil, List.nil_append, hreason]
    | ok count => simp only [Logged.events_pure, visible_nil, List.append_nil]

/-- A key prefix that can be used is one that trimming leaves something of. -/
theorem checkPrefix_eq_ok_iff_filter {keyPrefix : Option String} {k : String} :
    Selection.checkPrefix keyPrefix = .ok k ↔ keyPrefix.filter (Text.trim · ≠ "") = some k := by
  rw [Selection.checkPrefix_eq_ok_iff, Option.filter_eq_some_iff, ← Bool.not_eq_true,
    Text.isBlankText_eq_true_iff, decide_eq_true_eq]

/-- What is shown of a run once its key prefix can be used. -/
theorem visible_runWithPrefix (k : String) :
    visible (g.runWithPrefix k h).events =
      if h.activeProfiles = [] then [(.warn, NoOp.noActiveProfiles.message)]
      else match (g.check h).value, h.activeProfiles.findSome? (·.fault?) with
        | .error reason, _ => [(.error, reason.message)]
        | .ok (), some _ => []
        | .ok (), none => visible (g.inject (h.selectedSpecs k) h).events := by
  have hcount : ∀ count, visible [.activeProfiles count] = [] := fun _ => rfl
  rw [runWithPrefix]
  by_cases hactive : h.activeProfiles = []
  · simp only [hactive, List.isEmpty_nil, if_true]
    rfl
  · have hsome : ¬ h.activeProfiles.isEmpty = true := fun hnil => hactive (List.isEmpty_iff.1 hnil)
    rw [if_neg hactive, if_neg hsome]
    simp only [Logged.events_bind, Logged.events_log, visible_append, hcount, visible_check,
      List.nil_append]
    cases hcheck : (g.check h).value with
    | error reason => exact visible_noOp (level_noOp_of_check hcheck)
    | ok =>
      -- the profiles are asked for their properties, and either one refuses or the specs are known
      simp only [Logged.events_bind, visible_append, Selection.visible_select, List.nil_append,
        Selection.value_select]
      cases h.activeProfiles.findSome? (·.fault?) with
      | some e => rfl
      | none =>
        rw [← h.specs_some]
        rfl

/-- Every run shows its trace. -/
theorem visible_run : visible (g.run keyPrefix h).events = g.trace keyPrefix h := by
  have hstart : visible [.started g] = [(.info, "Injecting profile " ++ g.subject)] := rfl
  have hprefix : visible [.keyPrefix keyPrefix] = [] := rfl
  rw [run, Logged.events_bind, Logged.events_log, visible_append, hstart, Logged.events_bind,
    Logged.events_log, visible_append, hprefix, List.nil_append, List.singleton_append, trace]
  congr 1
  cases hgiven : Selection.checkPrefix keyPrefix with
  -- a key prefix that is refused leaves nothing to trim
  | error e =>
    have hnone : keyPrefix.filter (Text.trim · ≠ "") = none := by
      rw [Option.eq_none_iff_forall_ne_some]
      intro k hk
      rw [checkPrefix_eq_ok_iff_filter.2 hk] at hgiven
      cases hgiven
    rw [hnone]
    rfl
  | ok k =>
    rw [checkPrefix_eq_ok_iff_filter.1 hgiven]
    simp only [visible_runWithPrefix, visible_inject]

/-! ## Counting lines -/

/-- A line that begins as those for items do. -/
def isItemLine (line : Level × String) : Bool := "* ".toList.isPrefixOf line.2.toList

/-- A line that says that something is wrong. -/
def isErrorLine (line : Level × String) : Bool := line.1 = .error

/-- The line of an item begins with a star. -/
theorem isItemLine_itemLine (entry : String × g.Item) : isItemLine (g.itemLine entry) = true := by
  obtain ⟨spec, item⟩ := entry
  have hstar : ∀ s : String, isItemLine (.info, "* " ++ s) = true := by
    intro s
    rw [isItemLine, List.isPrefixOf_iff_prefix, String.toList_append]
    exact List.prefix_append _ _
  cases g with
  | dependencies => exact hstar _
  | earModules => exact hstar _

/-- The text of a fault does not begin as the line of an item does. -/
theorem isItemLine_fault (level : Level) (fault : SpecFault) :
    isItemLine (level, fault.message) = false := by
  rw [← Bool.not_eq_true, isItemLine, List.isPrefixOf_iff_prefix]
  rintro ⟨rest, hrest⟩
  have hstar : fault.message.toList.head? = some '*' := by
    rw [← hrest]
    rfl
  -- it begins with a letter
  rcases fault.head?_message with h | h <;> rw [hstar] at h <;> cases h

/-- As many specs are shown as are left out. -/
theorem length_filterMap_faultLine? (specs : List String) :
    (specs.filterMap g.faultLine?).length = specs.countP fun spec => (g.item? spec).isNone := by
  rw [List.length_filterMap_eq_countP]
  congr 1
  funext spec
  rw [faultLine?]
  cases hread : g.read spec with
  | ok item => rw [g.item?_of_ok hread]; rfl
  | error fault => rw [g.item?_of_error hread]; rfl

variable {g keyPrefix h}

/-- The line of a spec that is left out is an error with the text of its fault. -/
theorem exists_fault_of_mem_filterMap {specs : List String} {line : Level × String}
    (hline : line ∈ specs.filterMap g.faultLine?) :
    ∃ fault : SpecFault, line = (.error, fault.message) := by
  obtain ⟨spec, -, hspec⟩ := List.mem_filterMap.1 hline
  rw [faultLine?] at hspec
  split at hspec
  · cases hspec
  · rename_i fault _
    exact ⟨fault, (Option.some.inj hspec).symm⟩

/-- Each line of a fault is an error, and none of them is the line of an item. -/
theorem countP_isItemLine_faults (specs : List String) :
    (specs.filterMap g.faultLine?).countP isItemLine = 0 := by
  rw [List.countP_eq_zero]
  intro line hline
  obtain ⟨fault, rfl⟩ := exists_fault_of_mem_filterMap hline
  rw [isItemLine_fault]
  exact Bool.false_ne_true

/-- There are as many errors as there are specs that are left out. -/
theorem countP_isErrorLine_faults (specs : List String) :
    (specs.filterMap g.faultLine?).countP isErrorLine =
      specs.countP fun spec => (g.item? spec).isNone := by
  rw [← g.length_filterMap_faultLine?, List.countP_eq_length]
  intro line hline
  obtain ⟨fault, rfl⟩ := exists_fault_of_mem_filterMap hline
  rfl

/-- Each line of an item begins as such a line does, and none of them is an error. -/
theorem countP_isItemLine_items (batch : List (String × g.Item)) :
    (batch.map g.itemLine).countP isItemLine = batch.length := by
  rw [List.countP_map, List.countP_eq_length]
  exact fun entry _ => g.isItemLine_itemLine entry

/-- No item is reported as an error. -/
theorem countP_isErrorLine_items (batch : List (String × g.Item)) :
    (batch.map g.itemLine).countP isErrorLine = 0 := by
  rw [List.countP_map, List.countP_eq_zero]
  intro entry _
  cases g <;> exact Bool.false_ne_true

/-- Where the reference injects, the trace has the lines of the specs that were left out and of the
    items, and no others after the first. -/
theorem exists_trace_of_reference {injected leftOut : Nat} {h' : Host}
    (href : g.reference keyPrefix h = (.ok (.injected injected leftOut), h')) :
    ∃ specs : List String,
      g.trace keyPrefix h = (.info, "Injecting profile " ++ g.subject) ::
        (specs.filterMap g.faultLine? ++ (specs.filterMap g.item?).map g.itemLine) ∧
      injected = (specs.filterMap g.item?).length ∧
      leftOut = specs.countP fun spec => (g.item? spec).isNone := by
  rw [reference] at href
  rw [trace]
  -- both go through the same cases, and only the last of them injects
  cases hk : keyPrefix.filter (Text.trim · ≠ "") with
  | none =>
    rw [hk] at href
    cases href
  | some k =>
    simp only [hk] at href
    by_cases hactive : h.activeProfiles = []
    · rw [if_pos hactive] at href
      cases href
    · simp only [if_neg hactive] at href ⊢
      cases hcheck : (g.check h).value with
      | error reason =>
        simp only [hcheck] at href
        cases href
      | ok =>
        cases hfault : h.activeProfiles.findSome? (·.fault?) with
        | some e =>
          simp only [hcheck, hfault] at href
          cases href
        | none =>
          simp only [hcheck, hfault] at href
          -- the batch was taken, so its lines are shown
          cases hload : (g.load ((h.selectedSpecs k).filterMap g.item?) h).value with
          | mk loaded h'' =>
            simp only [hload] at href
            cases loaded with
            | error reason => cases href
            | ok count =>
              obtain ⟨rfl, rfl⟩ := Outcome.injected.inj (Except.ok.inj (congrArg Prod.fst href))
              exact ⟨h.selectedSpecs k, rfl, rfl, rfl⟩

variable (g keyPrefix h)

/-- **What a run shows in the log.**  Without its details the log of a run is exactly its trace.  So
    where items were injected, there is a line for each of them and an error for each spec that was
    left out. -/
theorem log_of_run :
    visible (g.run keyPrefix h).events = g.trace keyPrefix h ∧
    ∀ injected leftOut h', (g.run keyPrefix h).value = (.ok (.injected injected leftOut), h') →
      (visible (g.run keyPrefix h).events).countP isItemLine = injected ∧
      (visible (g.run keyPrefix h).events).countP isErrorLine = leftOut := by
  refine ⟨visible_run g keyPrefix h, ?_⟩
  intro injected leftOut h' hrun
  obtain ⟨specs, htrace, rfl, rfl⟩ :=
    exists_trace_of_reference ((g.value_run_eq_reference keyPrefix h).symm.trans hrun)
  -- the first line, of the goal, counts as neither
  have hfirst : isItemLine (.info, "Injecting profile " ++ g.subject) = false := by
    cases g <;> decide
  rw [visible_run, htrace]
  constructor
  · rw [List.countP_cons_of_neg (by simp [hfirst]), List.countP_append, countP_isItemLine_faults,
      countP_isItemLine_items, Nat.zero_add]
  · rw [List.countP_cons_of_neg Bool.false_ne_true, List.countP_append, countP_isErrorLine_faults,
      countP_isErrorLine_items, Nat.add_zero]

end Goal

end BuildInjection
