import BuildInjection.Proofs.Cut
import BuildInjection.Proofs.Toml.DistinctKeys
import BuildInjection.Toml.DateTable

/-!
# Documents without repeated keys

No table that is read from a text has a key twice, at whatever depth it stands
(`keysDistinct_of_read`).  Values between brackets and braces are put together from the inside out,
and the lines of a document one after the other.
-/

namespace BuildInjection.Toml

/-- What may be missing is there if there is no fault. -/
theorem orMalformed_eq_ok_iff {α : Type} {a : Option α} {b : α} :
    orMalformed a = .ok b ↔ a = some b := by
  cases a <;> simp [orMalformed]

/-- Something that may have a fault is a value without repeated keys if it has none. -/
def Yields (r : Except Fault Value) : Prop := ∀ v, r = .ok v → v.KeysDistinct

/-! ## Scalars -/

/-- An integer holds no table. -/
theorem keysDistinct_of_integer? {negative : Bool} {n : Nat} {v : Value}
    (h : integer? negative n = some v) : v.KeysDistinct := by
  unfold integer? at h
  split at h
  all_goals
    split at h
    · obtain rfl := Option.some.inj h
      exact .integer _
    · exact nomatch h

/-- A decimal number is an integer or a float. -/
theorem keysDistinct_of_decimal? {negative : Bool} {s : List Char} {v : Value}
    (h : decimal? negative s = some v) : v.KeysDistinct := by
  obtain ⟨whole, -, h⟩ := Option.bind_eq_some_iff.1 h
  split at h
  · exact keysDistinct_of_integer? h
  · obtain ⟨places, -, h⟩ := Option.bind_eq_some_iff.1 h
    obtain ⟨exponent, -, h⟩ := Option.bind_eq_some_iff.1 h
    dsimp only at h
    split at h
    · exact nomatch h
    · obtain rfl := Option.some.inj h
      exact .float _

/-- A number of any base and sign holds no table. -/
theorem keysDistinct_of_number? {s : List Char} {v : Value} (h : number? s = some v) :
    v.KeysDistinct := by
  -- hexadecimal, octal and binary integers are read alike
  have hbased : ∀ {base isDigit s}, basedInteger? base isDigit s = some v → v.KeysDistinct := by
    intro base isDigit s h
    obtain ⟨ds, -, h⟩ := Option.bind_eq_some_iff.1 h
    exact keysDistinct_of_integer? h
  unfold number? at h
  split at h
  · exact hbased h
  · exact hbased h
  · exact hbased h
  · unfold signed? at h
    split at h
    · obtain rfl := Option.some.inj h
      exact .float _
    · obtain rfl := Option.some.inj h
      exact .float _
    · exact keysDistinct_of_decimal? h

/-- What is written without quotes or brackets holds no table. -/
theorem keysDistinct_of_scalar? {s : List Char} {v : Value} (h : scalar? s = some v) :
    v.KeysDistinct := by
  unfold scalar? at h
  split at h
  · obtain rfl := Option.some.inj h
    exact .boolean true
  · obtain rfl := Option.some.inj h
    exact .boolean false
  · rcases Option.or_eq_some_iff.1 h with h | ⟨-, h⟩
    · obtain ⟨d, -, rfl⟩ := Option.map_eq_some_iff.1 h
      exact .datetime d
    · exact keysDistinct_of_number? h

/-! ## Between brackets and braces -/

namespace Part

/-- A part that is a value, if it has no fault, has no repeated keys. -/
def KeysDistinct (p : Part) : Prop := ∀ r, p = .value r → Yields r

variable {ps : List Part}

/-- A piece that stands for a value has none with a key twice. -/
theorem yields_of_toValue? (hps : ∀ p ∈ ps, p.KeysDistinct) {r : Except Fault Value}
    (h : toValue? ps = some r) : Yields r := by
  unfold toValue? at h
  split at h
  · exact nomatch h
  · -- an array or a table, which has been put together before
    rename_i r'
    obtain rfl := Option.some.inj h
    exact hps (.value r') (List.mem_singleton_self _) r' rfl
  · -- a quoted text
    obtain rfl := Option.some.inj h
    intro v hv
    obtain ⟨chars, -, rfl⟩ := Option.map_eq_some_iff.1 (orMalformed_eq_ok_iff.1 hv)
    exact .string _
  · -- anything else is a scalar
    obtain ⟨chars, -, rfl⟩ := Option.map_eq_some_iff.1 h
    intro v hv
    exact keysDistinct_of_scalar? (orMalformed_eq_ok_iff.1 hv)

/-- The pieces between commas hold nothing that is not there. -/
theorem mem_of_mem_items {piece : List Part} (h : piece ∈ items ps) {p : Part} (hp : p ∈ piece) :
    p ∈ ps := by
  -- an empty piece after the last comma is no item
  have hpieces : piece ∈ (cut isComma ps).map (trimEnds isSpace) := by
    unfold items at h
    dsimp only at h
    split at h
    · exact (List.dropLast_sublist _).subset h
    · exact h
  obtain ⟨whole, hwhole, rfl⟩ := List.mem_map.1 hpieces
  exact mem_of_mem_cut hwhole ((trimEnds_sublist _ _).subset hp)

/-- An array has its items from the pieces between its commas. -/
theorem yields_of_toArray? (hps : ∀ p ∈ ps, p.KeysDistinct) {r : Except Fault Value}
    (h : toArray? ps = some r) : Yields r := by
  obtain ⟨rs, hrs, rfl⟩ := Option.map_eq_some_iff.1 h
  intro v hv
  obtain ⟨vs, hvs, rfl⟩ := map_eq_ok_iff.1 hv
  refine .array fun w hw => ?_
  -- the item goes back to its outcome, and the outcome to its piece
  obtain ⟨r, hr, hrw⟩ := exists_of_forall₂ (mapM_eq_ok_iff.1 hvs) hw
  obtain ⟨piece, hpiece, hvalue⟩ := exists_of_forall₂ (forall₂_of_mapM hrs) hr
  exact yields_of_toValue? (fun p hp => hps p (mem_of_mem_items hpiece hp)) hvalue w hrw

/-- The value of an assignment is what stands to the right of its sign. -/
theorem keysDistinct_of_toAssignment? (hps : ∀ p ∈ ps, p.KeysDistinct) {a : Draft.Assignment}
    (h : toAssignment? ps = some a) : a.KeysDistinct := by
  unfold toAssignment? at h
  split at h
  · exact nomatch h
  · rename_i sign right hright
    obtain ⟨key, -, h⟩ := Option.bind_eq_some_iff.1 h
    obtain ⟨value, hvalue, h⟩ := Option.bind_eq_some_iff.1 h
    obtain rfl := Option.some.inj h
    refine yields_of_toValue? (fun p hp => hps p ?_) hvalue
    -- what stands on the right comes from the end of the assignment
    have hmem : p ∈ right := (trimEnds_sublist _ _).subset hp
    have hdrop : p ∈ ps.dropWhile (!·.isEquals) := hright ▸ List.mem_cons_of_mem _ hmem
    exact (List.dropWhile_sublist _).subset hdrop

/-- A table between braces has its entries from the assignments between its commas. -/
theorem yields_of_toTable? (hps : ∀ p ∈ ps, p.KeysDistinct) {r : Except Fault Value}
    (h : toTable? ps = some r) : Yields r := by
  obtain ⟨as, has, rfl⟩ := Option.map_eq_some_iff.1 h
  intro v hv
  obtain ⟨es, hes, rfl⟩ := map_eq_ok_iff.1 hv
  have hassignments : ∀ a ∈ as, a.KeysDistinct := by
    intro a ha
    obtain ⟨piece, hpiece, hvalue⟩ := exists_of_forall₂ (forall₂_of_mapM has) ha
    exact keysDistinct_of_toAssignment? (fun p hp => hps p (mem_of_mem_items hpiece hp)) hvalue
  exact Draft.keysDistinct_entriesToValue_iff.2 (Draft.keeps_assignAll hassignments hes .nil)

end Part

mutual

/-- A group is a part whose value, if it is one, was put together from those inside it. -/
theorem keysDistinct_of_toPart? : ∀ {g : Group} {p : Part}, g.toPart? = some p → p.KeysDistinct
  | .token t, p, h => by
    rw [Group.toPart?] at h
    obtain rfl := Option.some.inj h
    exact fun r hr => nomatch hr
  | .bracket gs, p, h => by
    rw [Group.toPart?] at h
    obtain ⟨ps, hps, h⟩ := Option.bind_eq_some_iff.1 h
    obtain ⟨r, hr, rfl⟩ := Option.map_eq_some_iff.1 h
    rintro _ ⟨⟩
    exact Part.yields_of_toArray? (keysDistinct_of_partsOf? hps) hr
  | .brace gs, p, h => by
    rw [Group.toPart?] at h
    obtain ⟨ps, hps, h⟩ := Option.bind_eq_some_iff.1 h
    obtain ⟨r, hr, rfl⟩ := Option.map_eq_some_iff.1 h
    rintro _ ⟨⟩
    exact Part.yields_of_toTable? (keysDistinct_of_partsOf? hps) hr

/-- Whatever stands between brackets or braces has been put together without repeated keys. -/
theorem keysDistinct_of_partsOf? : ∀ {gs : List Group} {ps : List Part}, partsOf? gs = some ps →
    ∀ p ∈ ps, p.KeysDistinct
  | [], ps, h => by
    rw [partsOf?] at h
    obtain rfl := Option.some.inj h
    simp
  | g :: gs, ps, h => by
    rw [partsOf?] at h
    obtain ⟨p, hp, h⟩ := Option.bind_eq_some_iff.1 h
    obtain ⟨ps', hps', rfl⟩ := Option.map_eq_some_iff.1 h
    exact List.forall_mem_cons.2 ⟨keysDistinct_of_toPart? hp, keysDistinct_of_partsOf? hps'⟩

end

/-! ## Lines -/

/-- A line whose value, if it is an assignment, has no repeated keys. -/
def Line.KeysDistinct (line : Line) : Prop := ∀ a, line = .assignment a → a.KeysDistinct

/-- A header is no assignment. -/
theorem keysDistinct_of_headerOf? {isRow : Bool} {gs : List Group} {line : Line}
    (h : headerOf? isRow gs = some line) : line.KeysDistinct := by
  obtain ⟨ps, -, h⟩ := Option.bind_eq_some_iff.1 h
  obtain ⟨key, -, rfl⟩ := Option.map_eq_some_iff.1 h
  exact fun a ha => nomatch ha

/-- A line is a header or an assignment. -/
theorem keysDistinct_of_lineOf? {gs : List Group} {line : Line} (h : lineOf? gs = some line) :
    line.KeysDistinct := by
  unfold lineOf? at h
  split at h
  · exact keysDistinct_of_headerOf? h
  · exact keysDistinct_of_headerOf? h
  · obtain ⟨ps, hps, h⟩ := Option.bind_eq_some_iff.1 h
    obtain ⟨a, ha, rfl⟩ := Option.map_eq_some_iff.1 h
    rintro _ ⟨⟩
    exact Part.keysDistinct_of_toAssignment? (keysDistinct_of_partsOf? hps) ha

/-- Every line of a text comes from groups of its own. -/
theorem keysDistinct_of_readLines? {s : String} {lines : List Line}
    (h : readLines? s = some lines) : ∀ line ∈ lines, line.KeysDistinct := by
  obtain ⟨tokens, -, h⟩ := Option.bind_eq_some_iff.1 h
  obtain ⟨groups, -, h⟩ := Option.bind_eq_some_iff.1 h
  intro line hline
  obtain ⟨gs, -, hgs⟩ := exists_of_forall₂ (forall₂_of_mapM h) hline
  exact keysDistinct_of_lineOf? hgs

/-- The assignments before the next header are lines of the document. -/
theorem mem_of_mem_leadingAssignments {lines : List Line} {a : Draft.Assignment}
    (h : a ∈ leadingAssignments lines) : .assignment a ∈ lines := by
  induction lines with
  | nil => simp [leadingAssignments] at h
  | cons line lines ih =>
    cases line with
    | header key isRow => simp [leadingAssignments] at h
    | assignment b =>
      rw [leadingAssignments] at h
      rcases List.mem_cons.1 h with rfl | h
      · exact List.mem_cons_self
      · exact List.mem_cons_of_mem _ (ih h)

/-! ## Tables -/

/-- The table of a header goes to where the header says, as a row or on its own. -/
theorem keeps_openTable (key : Except Fault Draft.DottedKey) (isRow : Bool)
    {as : List Draft.Assignment} (has : ∀ a ∈ as, a.KeysDistinct) :
    Draft.Keeps (openTable key isRow as) := by
  intro es es' h hes
  obtain ⟨⟨path, key⟩, -, h⟩ := bind_eq_ok_iff.1 h
  dsimp only at h
  split at h
  · obtain ⟨row, hrow, h⟩ := bind_eq_ok_iff.1 h
    have hdistinct := Draft.keeps_assignAll has hrow .nil
    exact (Draft.keeps_addRow key hdistinct).changeAt path h hes
  · exact (Draft.keeps_defineTable key has).changeAt path h hes

/-- Each header makes one change to the document. -/
theorem keeps_buildTables {lines : List Line} (hlines : ∀ line ∈ lines, line.KeysDistinct) :
    Draft.Keeps (buildTables lines) := by
  induction lines with
  | nil =>
    intro es es' h hes
    obtain rfl := Except.ok.inj h
    exact hes
  | cons line lines ih =>
    obtain ⟨-, hrest⟩ := List.forall_mem_cons.1 hlines
    intro es es' h hes
    cases line with
    -- its header has taken it already
    | assignment a => exact ih hrest h hes
    | header key isRow =>
      obtain ⟨next, hnext, h⟩ := bind_eq_ok_iff.1 h
      have has : ∀ a ∈ leadingAssignments lines, a.KeysDistinct :=
        fun a ha => hrest _ (mem_of_mem_leadingAssignments ha) a rfl
      exact ih hrest h (keeps_openTable key isRow has hnext hes)

/-- A document is its first assignments, and then one table for each header. -/
theorem keysDistinct_of_parse {s : String} {es : Entries} (h : parse s = .ok es) :
    (Value.table es).KeysDistinct := by
  obtain ⟨lines, hlines, h⟩ := bind_eq_ok_iff.1 h
  obtain ⟨root, hroot, h⟩ := bind_eq_ok_iff.1 h
  obtain ⟨entries, hentries, h⟩ := bind_eq_ok_iff.1 h
  obtain rfl := Except.ok.inj h
  have hall := keysDistinct_of_readLines? (orMalformed_eq_ok_iff.1 hlines)
  have has : ∀ a ∈ leadingAssignments lines, a.KeysDistinct :=
    fun a ha => hall _ (mem_of_mem_leadingAssignments ha) a rfl
  exact Draft.keysDistinct_entriesToValue_iff.2
    (keeps_buildTables hall hentries (Draft.keeps_assignAll has hroot .nil))

/-! ## Dates -/

/-- Items have their dates read one by one. -/
theorem itemsWithDates?_eq_mapM (items : List Value) :
    itemsWithDates? items = items.mapM Value.withDates? := by
  induction items with
  | nil => rw [itemsWithDates?]; rfl
  | cons v vs ih =>
    rw [itemsWithDates?, List.mapM_cons, ih]
    cases v.withDates? with
    | none => rfl
    | some w => cases vs.mapM Value.withDates? <;> rfl

/-- Entries have the dates in their values read one by one. -/
theorem entriesWithDates?_eq_mapM (es : Entries) :
    entriesWithDates? es = es.mapM fun e => e.2.withDates?.map (e.1, ·) := by
  induction es with
  | nil => rw [entriesWithDates?]; rfl
  | cons e es ih =>
    obtain ⟨key, v⟩ := e
    rw [entriesWithDates?, List.mapM_cons, ih]
    cases v.withDates? with
    | none => rfl
    | some w => cases es.mapM (fun e => e.2.withDates?.map (e.1, ·)) <;> rfl

/-- Entries keep their keys. -/
theorem map_fst_of_entriesWithDates? {es es' : Entries} (h : entriesWithDates? es = some es') :
    es'.map Prod.fst = es.map Prod.fst := by
  rw [entriesWithDates?_eq_mapM] at h
  have hall := forall₂_of_mapM h
  -- the induction is on the pairs of entries, and `h` is about the whole lists
  clear h
  induction hall with
  | nil => rfl
  | cons he _ ih =>
    obtain ⟨w, -, rfl⟩ := Option.map_eq_some_iff.1 he
    rw [List.map_cons, List.map_cons, ih]

/-- A table stands for a date, or its entries are looked at. -/
theorem withDates?_table {es : Entries} {w : Value} (h : (Value.table es).withDates? = some w) :
    (∃ d, w = .datetime d) ∨ ∃ es', entriesWithDates? es = some es' ∧ w = .table es' := by
  cases es with
  | nil =>
    obtain rfl := Option.some.inj h
    exact .inr ⟨[], rfl, rfl⟩
  | cons e es =>
    obtain ⟨key, v⟩ := e
    rw [Value.withDates?] at h
    split at h
    · -- the one key that stands for a date has the text of one
      cases v with
      | string s =>
        obtain ⟨d, -, rfl⟩ := Option.map_eq_some_iff.1 h
        exact .inl ⟨d, rfl⟩
      | _ => exact nomatch h
    · obtain ⟨v', hv', h⟩ := Option.bind_eq_some_iff.1 h
      obtain ⟨es', hes', rfl⟩ := Option.map_eq_some_iff.1 h
      refine .inr ⟨(key, v') :: es', ?_, rfl⟩
      rw [entriesWithDates?, hv', Option.bind_some, hes', Option.map_some]

/-- A table keeps its keys, and its values stay without repeated ones. -/
theorem keysDistinct_of_entriesWithDates? {es es' : Entries} (h : entriesWithDates? es = some es')
    (hes : (Value.table es).KeysDistinct)
    (hwithDates : ∀ e ∈ es, ∀ {w}, e.2.withDates? = some w → e.2.KeysDistinct → w.KeysDistinct) :
    (Value.table es').KeysDistinct := by
  obtain ⟨hkeys, hvalues⟩ := Value.keysDistinct_table.1 hes
  refine .table (by rwa [map_fst_of_entriesWithDates? h]) fun e' he' => ?_
  rw [entriesWithDates?_eq_mapM] at h
  obtain ⟨e, hmem, he⟩ := exists_of_forall₂ (forall₂_of_mapM h) he'
  obtain ⟨w, hw, rfl⟩ := Option.map_eq_some_iff.1 he
  exact hwithDates e hmem hw (hvalues e hmem)

/-- Reading the dates of a value repeats no key. -/
theorem keysDistinct_of_withDates? {v w : Value} (h : v.withDates? = some w)
    (hv : v.KeysDistinct) : w.KeysDistinct := by
  induction v generalizing w with
  | string _ | integer _ | float _ | boolean _ | datetime _ =>
    obtain rfl := Option.some.inj h
    exact hv
  | array items ih =>
    rw [Value.withDates?] at h
    obtain ⟨items', hitems, rfl⟩ := Option.map_eq_some_iff.1 h
    rw [itemsWithDates?_eq_mapM] at hitems
    have hdistinct := Value.keysDistinct_array.1 hv
    refine .array fun w hw => ?_
    obtain ⟨v, hmem, hvw⟩ := exists_of_forall₂ (forall₂_of_mapM hitems) hw
    exact ih v hmem hvw (hdistinct v hmem)
  -- a table that stands for a date is no table any more
  | table entries ih =>
    rcases withDates?_table h with ⟨d, rfl⟩ | ⟨entries', hentries, rfl⟩
    · exact .datetime d
    · exact keysDistinct_of_entriesWithDates? hentries hv ih

/-- No table of a document has a key twice, nor has any table below it. -/
theorem keysDistinct_of_read {s : String} {es : Entries} (h : read s = .ok es) :
    (Value.table es).KeysDistinct := by
  obtain ⟨entries, hparse, h⟩ := bind_eq_ok_iff.1 h
  -- the entries have no key twice before their dates are read
  exact keysDistinct_of_entriesWithDates? (orMalformed_eq_ok_iff.1 h) (keysDistinct_of_parse hparse)
    fun _ _ => keysDistinct_of_withDates?

end BuildInjection.Toml
