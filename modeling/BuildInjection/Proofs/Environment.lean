import BuildInjection.Environment
import BuildInjection.Proofs.Cut
import BuildInjection.Proofs.Toml.Value

/-!
# What becomes of references

A text consists of references and of single characters, and which these are does not depend on any
environment (`Scans`).  Expanding it puts something in the place of each part, so that what was put
in is never looked at again (`expands_iff`).  In a value this happens to the texts, and nothing else
about the value changes (`expandValue_confined_to_texts`).  The variables that matter are those to
which its texts refer, and they are the names that can be listed beforehand
(`refers_iff_mem_namesOf`).
-/

namespace BuildInjection

namespace Environment

/-! ## The parts of a text -/

/-- What can stand between the braces of a reference. -/
structure IsName (name : List Char) : Prop where
  ne_nil : name ≠ []
  no_brace : '\x7d' ∉ name

/-- A text begins with a reference. -/
def BeginsReference (cs : List Char) : Prop :=
  ∃ name rest, IsName name ∧ cs = written name ++ rest

/-- A part of a text. -/
inductive Part where
  | plain (c : Char)
  | reference (name : List Char)

/-- A text is these parts, from the left: a reference where one begins, and otherwise a single
    character. -/
inductive Scans : List Char → List Part → Prop
  | nil : Scans [] []
  | reference {name rest : List Char} {parts : List Part} (hname : IsName name)
      (h : Scans rest parts) : Scans (written name ++ rest) (.reference name :: parts)
  | plain {c : Char} {cs : List Char} {parts : List Part} (hnone : ¬ BeginsReference (c :: cs))
      (h : Scans cs parts) : Scans (c :: cs) (.plain c :: parts)

/-- What stands in an expanded text for a part: a character for itself, and for a reference the
    value of the variable if it is set and the reference if it is not. -/
def put (env : Environment) : Part → List Char
  | .plain c => [c]
  | .reference name => ((env (String.ofList name)).map String.toList).getD (written name)

section

variable {c : Char} {cs : List Char}

/-- A reference begins with a dollar sign and a brace, and ends with the first closing brace. -/
theorem written_append (name rest : List Char) :
    written name ++ rest = '$' :: '\x7b' :: (name ++ '\x7d' :: rest) := by
  simp [written]

/-- A text that begins with other characters begins with no reference. -/
theorem not_beginsReference_of_ne (h : ∀ rest, c :: cs ≠ '$' :: '\x7b' :: rest) :
    ¬ BeginsReference (c :: cs) := by
  rintro ⟨name, rest, -, hcs⟩
  rw [written_append] at hcs
  exact h _ hcs

/-- A reference needs a closing brace. -/
theorem not_beginsReference_of_not_mem (h : '\x7d' ∉ cs) : ¬ BeginsReference cs := by
  rintro ⟨name, rest, -, rfl⟩
  exact h (by simp [written])

/-- Empty braces are no reference. -/
theorem not_beginsReference_empty : ¬ BeginsReference (written [] ++ cs) := by
  rintro ⟨name, rest, hname, hcs⟩
  rw [written_append, written_append] at hcs
  obtain ⟨d, name', rfl⟩ := List.exists_cons_of_ne_nil hname.ne_nil
  -- the first character of the name would be the closing brace
  obtain ⟨rfl, -⟩ := List.cons.inj (List.cons.inj (List.cons.inj hcs).2).2
  exact hname.no_brace List.mem_cons_self

/-- Where a reference ends, and so what its name is, is known from the text. -/
theorem written_append_inj {name name' rest rest' : List Char} (hname : IsName name)
    (hname' : IsName name') (h : written name ++ rest = written name' ++ rest') :
    name = name' ∧ rest = rest' := by
  have hsep : ∀ {n : List Char}, '\x7d' ∉ n → ∀ d ∈ n, decide (d = '\x7d') = false := by
    intro n hn d hd
    exact decide_eq_false fun e => hn (e ▸ hd)
  rw [written_append, written_append] at h
  obtain ⟨rfl, -, rfl⟩ := append_cons_inj (hsep hname.no_brace) (hsep hname'.no_brace)
    (decide_eq_true rfl) (decide_eq_true rfl) (List.cons.inj (List.cons.inj h).2).2
  exact ⟨rfl, rfl⟩

/-- A text has its parts in one way only. -/
theorem Scans.unique {parts parts' : List Part} (h : Scans cs parts) (h' : Scans cs parts') :
    parts = parts' := by
  -- on one of the two scans; the other must take the same step, as the text begins the same way
  induction h generalizing parts' with
  | nil =>
    generalize hnil : ([] : List Char) = s at h'
    cases h' with
    | nil => rfl
    | reference _ _ => simp [written] at hnil
    | plain _ _ => exact nomatch hnil
  | @reference name rest parts hname hrest ih =>
    generalize hs : written name ++ rest = s at h'
    cases h' with
    | nil => simp [written] at hs
    | reference hname' hrest' =>
      obtain ⟨rfl, rfl⟩ := written_append_inj hname hname' hs
      rw [ih hrest']
    | plain hnone _ => exact absurd ⟨name, rest, hname, hs.symm⟩ hnone
  | @plain c cs parts hnone hcs ih =>
    generalize hs : c :: cs = s at h'
    cases h' with
    | nil => exact nomatch hs
    | reference hname _ => exact absurd ⟨_, _, hname, hs⟩ hnone
    | plain _ hcs' =>
      obtain ⟨rfl, rfl⟩ := List.cons.inj hs
      rw [ih hcs']

/-- Without a closing brace a text is characters only. -/
theorem scans_of_not_mem (h : '\x7d' ∉ cs) : Scans cs (cs.map .plain) := by
  induction cs with
  | nil => exact .nil
  | cons c cs ih => exact .plain (not_beginsReference_of_not_mem h) (ih fun hmem => h (.tail c hmem))

end

/-! ## Expanded texts -/

/-- What stands for characters are the characters. -/
theorem flatMap_put_plain (env : Environment) (cs : List Char) :
    (cs.map .plain).flatMap env.put = cs := by
  rw [List.flatMap_map]
  exact List.flatMap_singleton' cs

/-- What has been read of a reference and waits for its end. -/
def unread : Option (List Char) → List Char
  | none => []
  | some name => '$' :: '\x7b' :: name.reverse

/-- The parts that end with a closing brace: a reference, unless nothing stands in the braces. -/
def closed (name : List Char) : List Part :=
  if name = [] then (written []).map .plain else [.reference name]

/-- The parts of a text, as a reader finds them that may have begun a reference.  The first argument
    is the second one of `expandFrom`. -/
def scan : Option (List Char) → List Char → List Part
  | none, [] => []
  | none, '$' :: '\x7b' :: cs => scan (some []) cs
  | none, c :: cs => .plain c :: scan none cs
  | some name, [] => (unread (some name)).map .plain
  | some name, c :: cs =>
    if c = '\x7d' then closed name.reverse ++ scan none cs else scan (some (c :: name)) cs

/-- Braces are closed by a reference, or by three characters if nothing stands in them. -/
theorem scans_closed {name rest : List Char} {parts : List Part} (hname : '\x7d' ∉ name)
    (h : Scans rest parts) : Scans (written name ++ rest) (closed name ++ parts) := by
  rw [closed]
  split
  · rename_i hempty
    subst hempty
    -- a dollar sign and two braces, none of which begins a reference
    refine .plain not_beginsReference_empty (.plain ?_ (.plain ?_ h))
    · exact not_beginsReference_of_ne (by simp)
    · exact not_beginsReference_of_ne (by simp)
  · rename_i hne
    exact .reference ⟨hne, hname⟩ h

/-- The reader finds the parts of the text, of which some may be read already. -/
theorem scans_scan (pending : Option (List Char)) (cs : List Char)
    (hpending : ∀ name ∈ pending, '\x7d' ∉ name) :
    Scans (unread pending ++ cs) (scan pending cs) := by
  -- the name that is waiting has no brace yet, which every step keeps
  fun_induction scan pending cs with
  | case1 => exact .nil
  | case2 cs ih => exact ih (by simp)
  | case3 c cs hne ih =>
    refine .plain (not_beginsReference_of_ne ?_) (ih (by simp))
    rintro rest hopen
    obtain ⟨rfl, rfl⟩ := List.cons.inj hopen
    exact hne rest rfl rfl
  | case4 name =>
    -- the reference that was begun has no end, so all of it is characters
    have hname : '\x7d' ∉ name := hpending name rfl
    rw [List.append_nil]
    exact scans_of_not_mem (by simpa [unread] using hname)
  | case5 name cs ih =>
    have htext : unread (some name) ++ '\x7d' :: cs = written name.reverse ++ cs := by
      simp [unread, written]
    rw [htext]
    exact scans_closed (by simpa using hpending name rfl) (ih (by simp))
  | case6 name c cs hc ih =>
    -- one more character of the name has been read
    have hname : '\x7d' ∉ name := hpending name rfl
    simpa [unread] using ih (by simpa [hname] using Ne.symm hc)

/-- What stands for closed braces is what stands for their parts. -/
theorem resolve_eq_flatMap (env : Environment) (name : List Char) :
    env.resolve name = (closed name).flatMap env.put := by
  rw [resolve, closed]
  by_cases hempty : name = []
  · subst hempty
    rfl
  · simp only [hempty, List.isEmpty_iff, if_false, List.flatMap_singleton, put]
    cases env (String.ofList name) <;> rfl

/-- Expanding a text puts something in the place of each part that the reader finds. -/
theorem expandFrom_eq_flatMap (env : Environment) (pending : Option (List Char)) (cs : List Char) :
    expandFrom env pending cs = (scan pending cs).flatMap env.put := by
  -- the reader of parts and the function go through the text in step
  fun_induction scan pending cs with
  | case1 => rfl
  | case2 cs ih => rw [expandFrom, ih]
  | case3 c cs hne ih =>
    rw [expandFrom.eq_3 _ _ _ hne, ih]
    rfl
  | case4 name =>
    rw [flatMap_put_plain]
    rfl
  | case5 name cs ih => rw [expandFrom, if_pos rfl, ih, List.flatMap_append, resolve_eq_flatMap]
  | case6 name c cs hc ih => rw [expandFrom, if_neg hc, ih]

/-- The names of a text are those of the references that the reader finds, and empty ones. -/
theorem reference_mem_scan_iff {name : List Char} (pending : Option (List Char)) (cs : List Char) :
    .reference name ∈ scan pending cs ↔ String.ofList name ∈ namesFrom pending cs ∧ name ≠ [] := by
  fun_induction scan pending cs with
  | case1 => simp [namesFrom]
  | case2 cs ih => rw [namesFrom, ih]
  | case3 c cs hne ih => rw [namesFrom.eq_3 _ _ hne, List.mem_cons, ih]; simp
  | case4 pending => simp [namesFrom]
  | case5 pending cs ih =>
    rw [namesFrom, if_pos rfl, List.mem_append, List.mem_cons, ih]
    -- braces that close give the one name, if there is something in them
    have hclosed : .reference name ∈ closed pending.reverse ↔
        String.ofList name = String.ofList pending.reverse ∧ name ≠ [] := by
      rw [closed, String.ofList_inj]
      split
      · rename_i hempty
        simp [hempty]
      · rename_i hne
        rw [List.mem_singleton, Part.reference.injEq]
        exact ⟨fun h => ⟨h, h ▸ hne⟩, And.left⟩
    rw [hclosed, or_and_right]
  | case6 pending c cs hc ih => rw [namesFrom, if_neg hc, ih]

/-- A text becomes another by putting something in the place of each of its parts. -/
def Expands (env : Environment) (s t : String) : Prop :=
  ∃ parts, Scans s.toList parts ∧ t.toList = parts.flatMap env.put

/-- Expanding a text puts something in the place of each of its parts. -/
theorem expands_expand (env : Environment) (s : String) : Expands env s (env.expand s) := by
  refine ⟨_, scans_scan none s.toList (by simp), ?_⟩
  rw [expand, String.toList_ofList, expandFrom_eq_flatMap]

/-- It is the only text that comes of doing so. -/
theorem expands_iff {env : Environment} {s t : String} : Expands env s t ↔ t = env.expand s := by
  constructor
  · rintro ⟨parts, hscans, ht⟩
    obtain ⟨parts', hscans', hexpand⟩ := expands_expand env s
    -- the parts are the same, and so is what is put in their places
    obtain rfl := hscans.unique hscans'
    rw [← String.toList_inj, ht, hexpand]
  · rintro rfl
    exact expands_expand env s

/-- What is put in the place of a part depends on the variable of that name only. -/
theorem flatMap_put_congr {env env' : Environment} {parts : List Part}
    (h : ∀ name, .reference name ∈ parts → env (String.ofList name) = env' (String.ofList name)) :
    parts.flatMap env.put = parts.flatMap env'.put := by
  apply List.flatMap_congr
  intro part hpart
  cases part with
  | plain c => rfl
  | reference name => rw [put, put, h name hpart]

/-- Where no variable is set, each part stands for itself. -/
theorem flatMap_put_unset {cs : List Char} {parts : List Part} (h : Scans cs parts) :
    parts.flatMap (put fun _ => none) = cs := by
  induction h with
  | nil => rfl
  | reference _ _ ih =>
    rw [List.flatMap_cons, ih]
    rfl
  | plain _ _ ih =>
    rw [List.flatMap_cons, ih]
    rfl

/-! ## Values -/

/-- Items are expanded one by one. -/
theorem expandValues_eq_map (env : Environment) (vs : List Toml.Value) :
    env.expandValues vs = vs.map env.expandValue := by
  induction vs with
  | nil => rw [expandValues]; rfl
  | cons v vs ih => rw [expandValues, ih]; rfl

/-- Entries are expanded one by one, and keep their keys. -/
theorem expandEntries_eq_map (env : Environment) (es : Toml.Entries) :
    env.expandEntries es = es.map fun e => (e.1, env.expandValue e.2) := by
  induction es with
  | nil => rw [expandEntries]; rfl
  | cons e es ih =>
    obtain ⟨key, v⟩ := e
    rw [expandEntries, ih]
    rfl

/-- A value refers to a variable if a text in it does. -/
def Refers (v : Toml.Value) (name : String) : Prop :=
  ∃ s parts, v.HasText s ∧ Scans s.toList parts ∧ .reference name.toList ∈ parts

/-- The names of several values are listed one value after the other. -/
theorem namesOfAll_eq_flatMap (vs : List Toml.Value) : namesOfAll vs = vs.flatMap namesOf := by
  induction vs with
  | nil => rw [namesOfAll]; rfl
  | cons v vs ih => rw [namesOfAll, ih]; rfl

/-- Keys hold no names. -/
theorem namesOfEntries_eq_flatMap (es : Toml.Entries) :
    namesOfEntries es = es.flatMap fun e => namesOf e.2 := by
  induction es with
  | nil => rw [namesOfEntries]; rfl
  | cons e es ih =>
    obtain ⟨key, v⟩ := e
    rw [namesOfEntries, ih]
    rfl

/-- The names in a value are those in its texts. -/
theorem mem_namesOf_iff {v : Toml.Value} {name : String} :
    name ∈ namesOf v ↔ ∃ s, v.HasText s ∧ name ∈ namesFrom none s.toList := by
  induction v with
  | string s =>
    rw [namesOf]
    constructor
    · exact fun h => ⟨s, .string s, h⟩
    · rintro ⟨_, ⟨⟩, h⟩
      exact h
  | integer _ | float _ | boolean _ | datetime _ =>
    rw [namesOf]
    refine iff_of_false List.not_mem_nil ?_
    rintro ⟨_, ⟨⟩, -⟩
  | array items ih =>
    rw [namesOf, namesOfAll_eq_flatMap, List.mem_flatMap]
    constructor
    · rintro ⟨v, hv, hname⟩
      obtain ⟨s, hs, h⟩ := (ih v hv).1 hname
      exact ⟨s, .item hv hs, h⟩
    · rintro ⟨s, hs, h⟩
      obtain _ | ⟨hv, hs⟩ := hs
      exact ⟨_, hv, (ih _ hv).2 ⟨s, hs, h⟩⟩
  | table entries ih =>
    rw [namesOf, namesOfEntries_eq_flatMap, List.mem_flatMap]
    constructor
    · rintro ⟨e, he, hname⟩
      obtain ⟨s, hs, h⟩ := (ih e he).1 hname
      exact ⟨s, .entry he hs, h⟩
    · rintro ⟨s, hs, h⟩
      obtain _ | _ | ⟨he, hs⟩ := hs
      exact ⟨_, he, (ih _ he).2 ⟨s, hs, h⟩⟩

/-- The variables to which a value refers are those of its names that are not empty.  Between empty
    braces nothing is looked up. -/
theorem refers_iff_mem_namesOf {v : Toml.Value} {name : String} :
    Refers v name ↔ name ∈ namesOf v ∧ name ≠ "" := by
  have hscan : ∀ s : String, (∃ parts, Scans s.toList parts ∧ .reference name.toList ∈ parts) ↔
      name ∈ namesFrom none s.toList ∧ name ≠ "" := by
    intro s
    have hscans : Scans s.toList (scan none s.toList) := scans_scan none s.toList (by simp)
    have hne : name.toList ≠ [] ↔ name ≠ "" := by simp
    rw [← hne]
    -- a text has its parts in one way only, so the reader has found them
    constructor
    · rintro ⟨parts, hparts, hmem⟩
      obtain rfl := hparts.unique hscans
      simpa using (reference_mem_scan_iff none s.toList).1 hmem
    · intro h
      exact ⟨_, hscans, (reference_mem_scan_iff none s.toList).2 (by simpa using h)⟩
  rw [mem_namesOf_iff]
  constructor
  · rintro ⟨s, parts, hs, hparts, hmem⟩
    obtain ⟨hname, hne⟩ := (hscan s).1 ⟨parts, hparts, hmem⟩
    exact ⟨⟨s, hs, hname⟩, hne⟩
  · rintro ⟨⟨s, hs, hname⟩, hne⟩
    obtain ⟨parts, hparts, hmem⟩ := (hscan s).2 ⟨hname, hne⟩
    exact ⟨s, parts, hs, hparts, hmem⟩

/-- Only the texts of a value are expanded. -/
theorem differsInTexts_expandValue (env : Environment) (v : Toml.Value) :
    v.DiffersInTexts env.Expands (env.expandValue v) := by
  induction v with
  | string s => exact .string (env.expands_expand s)
  | integer i => exact .integer i
  | float x => exact .float x
  | boolean b => exact .boolean b
  | datetime d => exact .datetime d
  | array items ih =>
    rw [expandValue, expandValues_eq_map]
    -- each item is the expanded one in the same place
    refine .array (List.length_map _) ?_
    intro i v v' hv hv'
    rw [List.getElem?_map, hv] at hv'
    obtain rfl := Option.some.inj hv'
    exact ih v (List.mem_of_getElem? hv)
  | table entries ih =>
    rw [expandValue, expandEntries_eq_map]
    refine .table (by simp) ?_
    intro i e e' he he'
    rw [List.getElem?_map, he] at he'
    obtain rfl := Option.some.inj he'
    exact ih e (List.mem_of_getElem? he)

/-- A list is the image of another of its length if each element is that of the one in its place. -/
theorem eq_map_of_getElem? {α β : Type} {f : α → β} {as : List α} {bs : List β}
    (hlength : bs.length = as.length)
    (h : ∀ (i : Nat) a b, as[i]? = some a → bs[i]? = some b → b = f a) : bs = as.map f := by
  apply List.ext_getElem
  · rw [hlength, List.length_map]
  · intro i hi hi'
    rw [List.length_map] at hi'
    rw [List.getElem_map]
    exact h i _ _ (List.getElem?_eq_getElem hi') (List.getElem?_eq_getElem hi)

/-- Expanding a value is expanding the texts in it, and changes nothing else. -/
theorem differsInTexts_expands_iff {env : Environment} {v w : Toml.Value} :
    v.DiffersInTexts env.Expands w ↔ w = env.expandValue v := by
  constructor
  · intro h
    induction h with
    | string h => rw [expandValue, expands_iff.1 h]
    | integer _ | float _ | boolean _ | datetime _ => rw [expandValue]
    | array hlength _ ih =>
      rw [expandValue, expandValues_eq_map, ← eq_map_of_getElem? hlength ih]
    | table hkeys _ ih =>
      rw [expandValue, expandEntries_eq_map]
      congr 1
      refine eq_map_of_getElem? (by simpa using congrArg List.length hkeys) ?_
      intro i e e' he he'
      -- the key is the one in the same place
      have hkey := congrArg (·[i]?) hkeys
      simp only [List.getElem?_map, he, he', Option.map_some, Option.some.injEq] at hkey
      exact Prod.ext hkey (ih i e e' he he')
  · rintro rfl
    exact differsInTexts_expandValue env v

/-- A text in a value becomes the same in environments that agree on what the value refers to. -/
theorem Expands.of_agree {env env' : Environment} {v : Toml.Value} {s t : String}
    (h : env.Expands s t) (hs : v.HasText s)
    (hagree : ∀ name, Refers v name → env name = env' name) : env'.Expands s t := by
  obtain ⟨parts, hscans, ht⟩ := h
  refine ⟨parts, hscans, ht.trans (flatMap_put_congr fun name hname => ?_)⟩
  exact hagree _ ⟨s, parts, hs, hscans, by rwa [String.toList_ofList]⟩

/-- Environments that agree on what a value refers to expand it alike. -/
theorem expandValue_congr {env env' : Environment} {v : Toml.Value}
    (hagree : ∀ name, Refers v name → env name = env' name) :
    env.expandValue v = env'.expandValue v := by
  have hshape := differsInTexts_expandValue env v
  exact differsInTexts_expands_iff.1 (hshape.imp fun _ _ hs h => h.of_agree hs hagree)

/-- Only the variables that are among the names of a document matter to its entries. -/
theorem expandEntries_congr {env env' : Environment} {es : Toml.Entries}
    (hagree : ∀ name ∈ namesOfEntries es, env name = env' name) :
    env.expandEntries es = env'.expandEntries es := by
  -- a document is a table like any other
  have htable : env.expandValue (.table es) = env'.expandValue (.table es) := by
    refine expandValue_congr fun name hname => hagree name ?_
    have hmem := (refers_iff_mem_namesOf.1 hname).1
    rwa [namesOf] at hmem
  rw [expandValue, expandValue] at htable
  exact Toml.Value.table.inj htable

/-- **Expanding a value.**  What comes of a value has its keys in their order, as many items and
    entries at every depth, and everything that is no text; of a text comes the text in which
    something is put in the place of each of its references.  So a value is left alone where no
    variable is set to which it refers, and variables to which it does not refer make no
    difference. -/
theorem expandValue_confined_to_texts (env : Environment) (v : Toml.Value) :
    (∀ w, v.DiffersInTexts env.Expands w ↔ w = env.expandValue v) ∧
    ((∀ name, Refers v name → env name = none) → env.expandValue v = v) ∧
    ∀ env' : Environment, (∀ name, Refers v name → env' name = env name) →
      env'.expandValue v = env.expandValue v := by
  refine ⟨fun w => differsInTexts_expands_iff, ?_, fun env' => expandValue_congr⟩
  intro hunset
  refine (differsInTexts_expands_iff.1 (Toml.Value.differsInTexts_self fun s hs => ?_)).symm
  -- without any variables a text expands to itself
  obtain ⟨parts, hscans, -⟩ := expands_expand env s
  have hself : Expands (fun _ => none) s s := ⟨parts, hscans, (flatMap_put_unset hscans).symm⟩
  exact hself.of_agree hs fun name hname => (hunset name hname).symm

/-- What was put in is not looked at again, also where it makes up a reference with what stands
    beside it. -/
example :
    expand (fun name => if name = "A" then some "\x7bB\x7d" else some "b") "$$\x7bA\x7d $\x7bB\x7d" =
      "$\x7bB\x7d b" := by
  decide

end Environment

end BuildInjection
