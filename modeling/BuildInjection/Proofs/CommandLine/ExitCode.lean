import BuildInjection.CommandLine.Program
import BuildInjection.Proofs.ProjectFile.Model
import BuildInjection.Proofs.ProjectFile.Validation
import BuildInjection.Proofs.Report

/-!
# Exit codes

A run from the command line starts with options and a project file that are in order, or it ends
with exit code 1.  Once it has started, only three things can go wrong: no goal is named, a property
is no text, or a file cannot be written.  The exit code tells these apart (`exitCode_runOptions`).
-/

namespace BuildInjection.CommandLine

variable {σ : Type} {world : World σ} {o : Options} {file : ProjectFile} {s : σ}

/-! ## Starting -/

/-- The project file under a path: it can be read, it is text, the text describes a project file,
    and that passes all checks. -/
def World.Loads (world : World σ) (path : String) (file : ProjectFile) : Prop :=
  ∃ bytes text, world.read path = .ok bytes ∧ Text.decodeUtf8 bytes = .ok text ∧
    ProjectFile.ofText world.environment text = .ok file ∧ file.validate = .ok ()

/-- What a run starts with. -/
structure Starts (world : World σ) (o : Options) (file : ProjectFile) : Prop where
  options : o.validate = .ok ()
  file : world.Loads o.project file

/-- What is loaded has passed the checks. -/
theorem World.Loads.validate {path : String} (hloads : world.Loads path file) :
    file.validate = .ok () := by
  obtain ⟨-, -, -, -, -, hvalid⟩ := hloads
  exact hvalid

/-- Loading gives a project file exactly when each of its stages does. -/
theorem load_eq_ok_iff {path : String} : load world path = .ok file ↔ world.Loads path file := by
  unfold load World.Loads
  -- the three stages one after the other: bytes, text, project file with its checks
  cases world.read path with
  | error fault => simp
  | ok bytes =>
    simp only [projectFileOfBytes, Except.ok.injEq, exists_and_left, exists_eq_left']
    cases Text.decodeUtf8 bytes with
    | error fault => simp
    | ok text =>
      simp only [Except.ok.injEq, exists_eq_left']
      rw [bind_eq_ok_iff]
      constructor
      · rintro ⟨file', hfile, hchecked⟩
        obtain ⟨⟨⟩, hvalid, hsame⟩ := bind_eq_ok_iff.1 hchecked
        obtain rfl := Except.ok.inj hsame
        exact ⟨hfile, hvalid⟩
      · rintro ⟨hfile, hvalid⟩
        exact ⟨file, hfile, bind_eq_ok_iff.2 ⟨(), hvalid, rfl⟩⟩

/-- A run that does not start ends with exit code 1, and nothing has happened. -/
theorem runOptions_of_not_starts (hstart : ¬ ∃ file, Starts world o file) :
    (runOptions world o s).1.exitCode = 1 ∧ (runOptions world o s).2 = s := by
  unfold runOptions
  cases hvalid : o.validate with
  | error e => exact ⟨rfl, rfl⟩
  | ok =>
    cases hload : load world o.project with
    | error e => exact ⟨rfl, rfl⟩
    | ok file => exact absurd ⟨file, hvalid, load_eq_ok_iff.1 hload⟩ hstart

/-- A run that starts ends as its goals do. -/
theorem runOptions_of_starts (hstart : Starts world o file) :
    (runOptions world o s).1.exitCode =
        (match (inject world o file s).value.1 with
          | .ok _ => 0
          | .error e => exitCodeOf e) ∧
      (runOptions world o s).2 = (inject world o file s).value.2 := by
  simp only [runOptions, hstart.options, load_eq_ok_iff.2 hstart.file]
  refine ⟨?_, trivial⟩
  cases (inject world o file s).value.1 <;> rfl

/-! ## Goals -/

namespace Options

/-- The names of the goals to run. -/
def chosenNames (o : Options) (file : ProjectFile) : List String :=
  if o.goals = [] then file.goalNames else o.goals

/-- The checks let only known goals through, here for the names of the command line. -/
theorem mem_names_of_checkGoals {names : List String} (hvalid : checkGoals names = .ok ()) :
    ∀ name ∈ names, name ∈ Goal.names := by
  induction names with
  | nil => simp
  | cons name names ih =>
    obtain ⟨⟨⟩, hname, hnames⟩ := bind_eq_ok_iff.1 hvalid
    exact List.forall_mem_cons.2 ⟨Check.oneOf_eq_ok_iff.1 hname, ih hnames⟩

/-- Options that pass their checks name only goals that there are. -/
theorem mem_names_of_validate (hvalid : o.validate = .ok ()) :
    ∀ name ∈ o.goals, name ∈ Goal.names := by
  -- the two paths are looked at before the goals
  obtain ⟨⟨⟩, -, hpaths⟩ := bind_eq_ok_iff.1 hvalid
  obtain ⟨⟨⟩, -, hgoals⟩ := bind_eq_ok_iff.1 hpaths
  exact mem_names_of_checkGoals hgoals

/-- After the checks every chosen name is that of a goal, wherever the names come from. -/
theorem exists_chosenGoals (hoptions : o.validate = .ok ()) (hfile : file.validate = .ok ()) :
    ∃ goals, o.chosenGoals file = .ok goals ∧ goals.map Goal.name = o.chosenNames file := by
  unfold chosenGoals chosenNames
  -- the names of the project file count only where the command line has none
  by_cases hnone : o.goals = []
  · rw [hnone]
    exact ProjectFile.exists_goals (ProjectFile.mem_names_of_validate hfile) _
  · rw [if_neg (by simpa using hnone), if_neg hnone]
    exact ProjectFile.exists_goals (mem_names_of_validate hoptions) _

/-- Goals are found unless none is named. -/
theorem resolveGoals_cases (hoptions : o.validate = .ok ()) (hfile : file.validate = .ok ()) :
    (o.chosenNames file = [] ∧ o.resolveGoals file = .error (.missing "inject.goals")) ∨
      (o.chosenNames file ≠ [] ∧
        ∃ goals, o.resolveGoals file = .ok goals ∧ goals.map Goal.name = o.chosenNames file) := by
  obtain ⟨goals, hgoals, hnames⟩ := exists_chosenGoals hoptions hfile
  rw [resolveGoals, hgoals, ← hnames]
  -- the goals have been found, so the only thing missing can be the goals themselves
  cases goals with
  | nil => exact .inl ⟨rfl, rfl⟩
  | cons g goals => exact .inr ⟨List.cons_ne_nil _ _, g :: goals, rfl, rfl⟩

end Options

/-! ## Running -/

/-- What keeps a run from getting to its goals: none is named, on the command line or in the project
    file, or some profile, active or not, has a property that is no text. -/
def IsUnusable (o : Options) (file : ProjectFile) : Prop :=
  (o.goals = [] ∧ file.goalNames = []) ∨
    ∃ p ∈ file.profiles, ∃ e ∈ p.properties.getD [], ∀ text, e.2 ≠ .string text

/-- The goals of a run have these results and leave this project. -/
def Leaves (o : Options) (file : ProjectFile) (results : List GoalResult) (q : Project) : Prop :=
  ∃ goals p h, goals.map Goal.name = o.chosenNames file ∧ file.toProject.value = .ok p ∧
    (Sequence.run (o.steps file goals) (.ofProject p)).value = (.ok results, h) ∧
    q = h.updateProject p

/-- One of the files of the project that a run leaves cannot be written. -/
def WriteFails (world : World σ) (o : Options) (file : ProjectFile) (s : σ) : Prop :=
  ∃ results q before fault s', Leaves o file results q ∧
    (world.storage o.outputPath).FailsAfter before (Output.files q) fault s s'

/-- How a run that has started goes on, and what it comes to. -/
inductive Course (world : World σ) (o : Options) (file : ProjectFile) (s : σ) :
    Except Error Report × σ → Prop
  | refused {e : Error} (hunusable : IsUnusable o file)
      (hsetting : e = .missing "inject.goals" ∨ ∃ field v, e = .invalid field v .notAString) :
      Course world o file s (.error e, s)
  | dry {results : List GoalResult} {q : Project} (husable : ¬ IsUnusable o file)
      (hleaves : Leaves o file results q) (hdry : o.dryRun = true) :
      Course world o file s (.ok ⟨q, results, []⟩, s)
  | written {results : List GoalResult} {q : Project} {s' : σ} (husable : ¬ IsUnusable o file)
      (hleaves : Leaves o file results q) (hdry : o.dryRun = false)
      (htakes : (world.storage o.outputPath).Takes (Output.files q) s s') :
      Course world o file s (.ok ⟨q, results, (Output.files q).map Prod.fst⟩, s')
  | failed {results : List GoalResult} {q : Project} {before : List (String × String)}
      {fault : IoFault} {s' : σ} (husable : ¬ IsUnusable o file)
      (hleaves : Leaves o file results q) (hdry : o.dryRun = false)
      (hfails : (world.storage o.outputPath).FailsAfter before (Output.files q) fault s s') :
      Course world o file s (.error (.io fault), s')

/-- Whether a run gets to its goals can be seen from the names that count and from the texts. -/
theorem isUnusable_iff :
    IsUnusable o file ↔ o.chosenNames file = [] ∨ ∃ p ∈ file.profiles, ¬ p.HasTexts := by
  have hnames : o.chosenNames file = [] ↔ o.goals = [] ∧ file.goalNames = [] := by
    unfold Options.chosenNames
    by_cases hnone : o.goals = []
    · simp [hnone]
    · simp [hnone]
  rw [hnames]
  simp [IsUnusable, ProfileEntry.HasTexts]

/-- A run leaves one project, with one list of results. -/
theorem Leaves.unique {results results' : List GoalResult} {q q' : Project}
    (h : Leaves o file results q) (h' : Leaves o file results' q') :
    results = results' ∧ q = q' := by
  obtain ⟨goals, p, host, hgoals, hproject, hrun, rfl⟩ := h
  obtain ⟨goals', p', host', hgoals', hproject', hrun', rfl⟩ := h'
  -- goals are known by their names, and everything else follows from the goals
  have hinjective : Function.Injective Goal.name := fun _ _ => Goal.name_injective
  obtain rfl : goals = goals' :=
    List.map_injective_iff.2 hinjective (hgoals.trans hgoals'.symm)
  obtain rfl : p = p' := Except.ok.inj (hproject.symm.trans hproject')
  obtain ⟨hresults, rfl⟩ := Prod.mk.inj (hrun.symm.trans hrun')
  exact ⟨Except.ok.inj hresults, rfl⟩

/-- Without goals, or with a property that is no text, a run is refused. -/
theorem inject_of_isUnusable (hstart : Starts world o file) (hunusable : IsUnusable o file) (s : σ) :
    Course world o file s (inject world o file s).value := by
  rcases Options.resolveGoals_cases hstart.options hstart.file.validate with
    ⟨-, hnone⟩ | ⟨hnames, goals, hgoals, -⟩
  · simp only [inject, hnone, Logged.value_pure]
    exact .refused hunusable (.inl rfl)
  · -- there are goals, so it is a property that is no text
    have htexts := (isUnusable_iff.1 hunusable).resolve_left hnames
    obtain ⟨profile, key, v, hproject⟩ := ProjectFile.exists_error_of_not_hasTexts htexts
    simp only [inject, hgoals, Logged.value_bind, hproject, Logged.value_pure]
    exact .refused hunusable (.inr ⟨_, _, rfl⟩)

/-- With goals and texts the goals run, and then it is up to the storage. -/
theorem inject_of_not_isUnusable (hstart : Starts world o file) (husable : ¬ IsUnusable o file)
    (s : σ) : Course world o file s (inject world o file s).value := by
  have hneither := husable
  rw [isUnusable_iff] at hneither
  push Not at hneither
  obtain ⟨hnames, htexts⟩ := hneither
  rcases Options.resolveGoals_cases hstart.options hstart.file.validate with
    ⟨hnone, -⟩ | ⟨-, goals, hgoals, hchosen⟩
  · exact absurd hnone hnames
  · obtain ⟨p, hproject⟩ := ProjectFile.exists_toProject htexts
    obtain ⟨q, hrun, hleft, -⟩ := Sequence.exists_project_of_run p (o.steps file goals)
    obtain ⟨hdry, hwrite⟩ := Sequence.value_runAndWrite hrun hleft s
    have hleaves : Leaves o file _ q := ⟨goals, p, _, hchosen, hproject, hrun, hleft.symm⟩
    simp only [inject, hgoals, Logged.value_bind, hproject]
    -- the goals have run; a dry run ends here
    cases hdryRun : o.dryRun with
    | true =>
      rw [if_pos rfl, hdry]
      exact .dry husable hleaves hdryRun
    | false =>
      rw [if_neg Bool.false_ne_true, hwrite]
      -- all that is left is the writing of the files
      rcases (world.storage o.outputPath).takes_or_fails (Output.files q) s with
        ⟨s', htakes⟩ | ⟨before, fault, s', hfails⟩
      · rw [Output.value_writeAll_of_takes htakes]
        exact .written husable hleaves hdryRun htakes
      · rw [Output.value_writeAll_of_failsAfter hfails]
        exact .failed husable hleaves hdryRun hfails

/-- Every run that starts takes one of the courses. -/
theorem course (hstart : Starts world o file) (s : σ) :
    Course world o file s (inject world o file s).value := by
  by_cases hunusable : IsUnusable o file
  · exact inject_of_isUnusable hstart hunusable s
  · exact inject_of_not_isUnusable hstart hunusable s

/-- Where the storage takes all files, none of them cannot be written. -/
theorem not_writeFails {results : List GoalResult} {q : Project} {s' : σ}
    (hleaves : Leaves o file results q)
    (htakes : (world.storage o.outputPath).Takes (Output.files q) s s') :
    ¬ WriteFails world o file s := by
  rintro ⟨results', q', before, fault, s'', hleaves', hfails⟩
  -- both speak of the files of the one project that the run leaves
  obtain ⟨-, rfl⟩ := hleaves.unique hleaves'
  have hfailed := Output.value_writeAll_of_failsAfter hfails
  rw [Output.value_writeAll_of_takes htakes] at hfailed
  exact nomatch congrArg Prod.fst hfailed

/-- The exit code of a run that starts says which course it took. -/
theorem exitCode_of_starts (hstart : Starts world o file) (s : σ) :
    ((runOptions world o s).1.exitCode = 2 ↔ IsUnusable o file) ∧
    ((runOptions world o s).1.exitCode = 3 ↔
      ¬ IsUnusable o file ∧ o.dryRun = false ∧ WriteFails world o file s) ∧
    ((runOptions world o s).1.exitCode = 0 ↔
      ¬ IsUnusable o file ∧ ¬ (o.dryRun = false ∧ WriteFails world o file s)) := by
  have hcourse := course hstart s
  -- the code is read off the course that the run takes
  rw [(runOptions_of_starts hstart).1]
  generalize (inject world o file s).value = ending at hcourse ⊢
  cases hcourse with
  | @refused e hunusable hsetting =>
    -- either of the two errors is about a setting
    have hcode : exitCodeOf e = 2 := by
      rcases hsetting with rfl | ⟨field, v, rfl⟩
      · rfl
      · rfl
    simp [hcode, hunusable]
  | dry husable hleaves hdry => simp [husable, hdry]
  | written husable hleaves hdry htakes => simp [husable, not_writeFails hleaves htakes]
  | failed husable hleaves hdry hfails =>
    -- the fault is that of a file of the project that is left
    have hcannot : WriteFails world o file s := ⟨_, _, _, _, _, hleaves, hfails⟩
    simp [exitCodeOf, Error.severity, husable, hdry, hcannot]

/-- A run that starts does not end with the code of one that does not. -/
theorem exitCode_ne_one (hstart : Starts world o file) (s : σ) :
    (runOptions world o s).1.exitCode ≠ 1 := by
  obtain ⟨htwo, hthree, hzero⟩ := exitCode_of_starts hstart s
  intro hone
  -- a code of 1 would rule out all three, but one of them holds
  rw [hone] at htwo hthree hzero
  have husable : ¬ IsUnusable o file := fun h => absurd (htwo.2 h) (by decide)
  have hwritten : ¬ (o.dryRun = false ∧ WriteFails world o file s) :=
    fun h => absurd (hthree.2 ⟨husable, h⟩) (by decide)
  exact absurd (hzero.2 ⟨husable, hwritten⟩) (by decide)

/-- The goals of a run that gets to them leave a project. -/
theorem Course.exists_leaves {ending : Except Error Report × σ}
    (hcourse : Course world o file s ending) (husable : ¬ IsUnusable o file) :
    ∃ results q, Leaves o file results q := by
  cases hcourse with
  | refused hunusable => exact absurd hunusable husable
  | dry _ hleaves | written _ hleaves | failed _ hleaves => exact ⟨_, _, hleaves⟩

/-- Only three things go wrong in a run that has started. -/
theorem Course.error {ending : Except Error Report × σ} (hcourse : Course world o file s ending)
    {e : Error} (he : ending.1 = .error e) :
    e = .missing "inject.goals" ∨ (∃ field v, e = .invalid field v .notAString) ∨
      ∃ fault, e = .io fault := by
  cases hcourse with
  | refused hunusable hsetting =>
    obtain rfl := Except.error.inj he
    rcases hsetting with hmissing | hinvalid
    · exact .inl hmissing
    · exact .inr (.inl hinvalid)
  | dry | written => exact nomatch he
  | failed =>
    obtain rfl := Except.error.inj he
    exact .inr (.inr ⟨_, rfl⟩)

/-- Only a run that gets to its goals and is no dry run changes anything. -/
theorem Course.state_eq {ending : Except Error Report × σ}
    (hcourse : Course world o file s ending) (hnothing : IsUnusable o file ∨ o.dryRun = true) :
    ending.2 = s := by
  cases hcourse with
  | refused | dry => rfl
  | written husable _ hdry | failed husable _ hdry => simp [husable, hdry] at hnothing

/-- The exit code of a run.  It is 1 exactly if the run does not start.  If it starts, the code is 2
    exactly if it does not get to its goals, 3 exactly if something was to be written and a file of
    the project that is left cannot be, and 0 otherwise, whether or not the goals found anything to
    do.  A goal itself does not fail, and no unknown goal comes up.  Nothing is written with a code
    of 1 or 2, or if nothing was to be written. -/
theorem exitCode_runOptions (world : World σ) (o : Options) (s : σ) :
    ((runOptions world o s).1.exitCode = 1 ↔ ¬ ∃ file, Starts world o file) ∧
    (∀ file, Starts world o file →
      ((runOptions world o s).1.exitCode = 2 ↔ IsUnusable o file) ∧
      ((runOptions world o s).1.exitCode = 3 ↔
        ¬ IsUnusable o file ∧ o.dryRun = false ∧ WriteFails world o file s) ∧
      ((runOptions world o s).1.exitCode = 0 ↔
        ¬ IsUnusable o file ∧ ¬ (o.dryRun = false ∧ WriteFails world o file s)) ∧
      (¬ IsUnusable o file → ∃ results q, Leaves o file results q) ∧
      (∀ e, (inject world o file s).value.1 = .error e →
        e = .missing "inject.goals" ∨ (∃ field v, e = .invalid field v .notAString) ∨
          ∃ fault, e = .io fault) ∧
      ∀ report, (inject world o file s).value.1 = .ok report →
        (runOptions world o s).1.exitCode = 0) ∧
    ((runOptions world o s).1.exitCode = 1 ∨ (runOptions world o s).1.exitCode = 2 ∨
        o.dryRun = true →
      (runOptions world o s).2 = s) := by
  -- the first code is about starting, and all others about the course after it
  by_cases hstarts : ∃ file, Starts world o file
  · refine ⟨iff_of_false ?_ (not_not_intro hstarts), ?_, ?_⟩
    · obtain ⟨file, hstart⟩ := hstarts
      exact exitCode_ne_one hstart s
    · intro file hstart
      obtain ⟨htwo, hthree, hzero⟩ := exitCode_of_starts hstart s
      have hcourse := course hstart s
      refine ⟨htwo, hthree, hzero, hcourse.exists_leaves, fun e he => hcourse.error he, ?_⟩
      intro report hreport
      rw [(runOptions_of_starts hstart).1, hreport]
    · obtain ⟨file, hstart⟩ := hstarts
      obtain ⟨htwo, -, -⟩ := exitCode_of_starts hstart s
      intro hnothing
      rw [(runOptions_of_starts hstart).2]
      apply (course hstart s).state_eq
      -- each of the three excuses keeps the course from writing
      rcases hnothing with hone | hcode | hdry
      · exact absurd hone (exitCode_ne_one hstart s)
      · exact .inl (htwo.1 hcode)
      · exact .inr hdry
  · obtain ⟨hcode, hstate⟩ := runOptions_of_not_starts hstarts (s := s)
    exact ⟨iff_of_true hcode hstarts, fun file hstart => absurd ⟨file, hstart⟩ hstarts,
      fun _ => hstate⟩

/-! ## Every exit code comes up -/

/-- A world in which every file holds one text, and whose storage fails at one write. -/
def World.ofText (text : String) (failAt : Nat) : World MemoryFiles where
  environment _ := none
  logFilter := none
  read _ := .ok text.toUTF8.toList
  storage _ := .memory failAt

/-- A project file with nothing in it but the coordinates. -/
def coordinatesOnly : String :=
  "[project]\ngroup_id = \"org\"\nartifact_id = \"shop\"\nversion = \"1\"\n"

example :
    (runOptions (.ofText coordinatesOnly 0) { goals := ["inject"] } {}).1.exitCode = 0 ∧
    (runOptions (.ofText coordinatesOnly 0) { goals := ["install"] } {}).1.exitCode = 1 ∧
    (runOptions (.ofText coordinatesOnly 0) {} {}).1.exitCode = 2 ∧
    (runOptions (.ofText coordinatesOnly 1) { goals := ["inject"] } {}).1.exitCode = 3 := by
  decide +kernel

end BuildInjection.CommandLine
