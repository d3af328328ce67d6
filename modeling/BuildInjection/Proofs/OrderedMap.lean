import Mathlib.Data.Finset.Card
import BuildInjection.Project
import BuildInjection.Proofs.Json

/-!
# Maps after insertions

An insertion changes the value at its key where it stands, or adds an entry at the end.  So the keys
of a history of insertions stand in the order in which they came first, each of them once, and a key
has the value that came last (`ofList_first_place_last_value`).
-/

namespace BuildInjection.OrderedMap

variable {α : Type}

/-! ## One insertion -/

section

variable {key : String} {value : α} {es : List (String × α)}

/-- A new key goes to the end. -/
theorem upsert_of_not_mem (h : key ∉ es.map Prod.fst) :
    upsert key value es = es ++ [(key, value)] := by
  induction es with
  | nil => rfl
  | cons e es ih =>
    rw [List.map_cons, List.mem_cons, not_or] at h
    rw [upsert, if_neg (Ne.symm h.1), ih h.2, List.cons_append]

/-- At a key that is present only the value changes. -/
theorem upsert_of_mem (hnodup : (es.map Prod.fst).Nodup) (h : key ∈ es.map Prod.fst) :
    upsert key value es = es.map fun e => (e.1, if e.1 = key then value else e.2) := by
  induction es with
  | nil => simp at h
  | cons e es ih =>
    obtain ⟨k, v⟩ := e
    rw [List.map_cons, List.nodup_cons] at hnodup
    by_cases hk : k = key
    · subst hk
      -- the key stands nowhere else, so the entries after it stay as they are
      have hrest : ∀ e ∈ es, (e.1, if e.1 = k then value else e.2) = e := by
        intro e he
        have hne : e.1 ≠ k := by
          rintro rfl
          have hmem : e.1 ∈ es.map Prod.fst := List.mem_map_of_mem he
          exact hnodup.1 hmem
        rw [if_neg hne]
      rw [upsert, if_pos rfl, List.map_cons, if_pos rfl, List.map_congr_left hrest, List.map_id']
    · have hmem : key ∈ es.map Prod.fst := by
        rw [List.map_cons, List.mem_cons] at h
        exact h.resolve_left (Ne.symm hk)
      rw [upsert, if_neg hk, List.map_cons, if_neg hk, ih hnodup.2 hmem]

/-- Under its key stands the new value, and under any other key what stood there. -/
theorem lookup_upsert (k : String) :
    (upsert key value es).lookup k = if k = key then some value else es.lookup k := by
  induction es with
  | nil => by_cases hk : k = key <;> simp [upsert, hk]
  | cons e es ih =>
    obtain ⟨k', v⟩ := e
    by_cases hk' : k' = key
    · -- the entry of the key is changed where it stands
      subst hk'
      rw [upsert, if_pos rfl, List.lookup_cons, List.lookup_cons]
      by_cases hk : k = k'
      · simp [hk]
      · rw [if_neg hk, beq_false_of_ne hk]
    · rw [upsert, if_neg hk', List.lookup_cons, List.lookup_cons, ih]
      by_cases hk : k = k'
      · subst hk
        simp [hk']
      · rw [beq_false_of_ne hk]

/-- What stands under a key is found there if the keys are distinct. -/
theorem lookup_eq_some_iff_mem (hnodup : (es.map Prod.fst).Nodup) :
    es.lookup key = some value ↔ (key, value) ∈ es := by
  rw [List.lookup_eq_some_iff]
  constructor
  · rintro ⟨before, after, rfl, -⟩
    simp
  · intro hmem
    obtain ⟨before, after, rfl⟩ := List.append_of_mem hmem
    refine ⟨before, after, rfl, ?_⟩
    intro e he
    rw [List.map_append, List.map_cons, List.nodup_append] at hnodup
    -- an entry before it has another key
    have hne : e.1 ≠ key := hnodup.2.2 e.1 (List.mem_map_of_mem he) key List.mem_cons_self
    simpa using Ne.symm hne

end

section

variable {m : OrderedMap α} {key key' : String}

/-- An insertion at a key that is present changes its value only. -/
theorem entries_insert_of_mem (value : α) (h : key ∈ m.entries.map Prod.fst) :
    (m.insert key value).entries =
      m.entries.map fun e => (e.1, if e.1 = key then value else e.2) :=
  upsert_of_mem m.nodup_keys h

/-- An insertion at a key that is present leaves all keys in their places. -/
theorem map_fst_insert_of_mem (value : α) (h : key ∈ m.entries.map Prod.fst) :
    (m.insert key value).entries.map Prod.fst = m.entries.map Prod.fst := by
  rw [entries_insert, map_fst_upsert, if_pos h]

/-- The value at a key is what stands under it. -/
theorem get?_eq_lookup (m : OrderedMap α) (key : String) : m.get? key = m.entries.lookup key := by
  rw [get?]
  induction m.entries with
  | nil => rfl
  | cons e es ih =>
    rw [List.find?_cons, List.lookup_cons]
    by_cases hkey : e.1 = key
    · simp [hkey]
    · rw [beq_false_of_ne (Ne.symm hkey), decide_eq_false hkey, ih]

/-- After an insertion its key has the new value, and every other key has the value it had. -/
theorem get?_insert (m : OrderedMap α) (key key' : String) (value : α) :
    (m.insert key value).get? key' = if key' = key then some value else m.get? key' := by
  rw [get?_eq_lookup, get?_eq_lookup, entries_insert, lookup_upsert]

/-- The order of insertions at keys that are present is of no account. -/
theorem insert_comm (value value' : α) (hne : key ≠ key') (h : key ∈ m.entries.map Prod.fst)
    (h' : key' ∈ m.entries.map Prod.fst) :
    (m.insert key value).insert key' value' = (m.insert key' value').insert key value := by
  have hstill : key' ∈ (m.insert key value).entries.map Prod.fst := by
    rwa [map_fst_insert_of_mem value h]
  have hstill' : key ∈ (m.insert key' value').entries.map Prod.fst := by
    rwa [map_fst_insert_of_mem value' h']
  apply ext
  rw [entries_insert_of_mem value' hstill, entries_insert_of_mem value h,
    entries_insert_of_mem value hstill', entries_insert_of_mem value' h', List.map_map,
    List.map_map]
  apply List.map_congr_left
  intro e _
  -- no entry has both keys
  by_cases hkey : e.1 = key
  · have hkey' : e.1 ≠ key' := fun heq => hne (hkey.symm.trans heq)
    simp [hkey, hne]
  · simp [hkey]

end

/-! ## A history of insertions -/

section

variable {pairs : List (String × α)}

/-- The last pair of a history is inserted last. -/
theorem ofList_concat (pairs : List (String × α)) (key : String) (value : α) :
    ofList (pairs ++ [(key, value)]) = (ofList pairs).insert key value :=
  List.foldl_append

/-- The keys of a history, each in its first place. -/
theorem map_fst_ofList (pairs : List (String × α)) :
    (ofList pairs).entries.map Prod.fst = (pairs.map Prod.fst).eraseDups := by
  -- on the history from its end, because insertions are made from its front
  induction pairs using List.reverseRecOn with
  | nil => rfl
  | append_singleton pairs pair ih =>
    obtain ⟨key, value⟩ := pair
    rw [ofList_concat, entries_insert, map_fst_upsert, List.map_append, List.eraseDups_append, ← ih]
    have hmem : key ∈ (ofList pairs).entries.map Prod.fst ↔ key ∈ pairs.map Prod.fst := by
      rw [ih, List.mem_eraseDups]
    -- a key that came before keeps its place, and a new one goes to the end
    by_cases hkey : key ∈ pairs.map Prod.fst
    · rw [if_pos (hmem.2 hkey)]
      simp [hkey, List.removeAll]
    · rw [if_neg fun h => hkey (hmem.1 h)]
      simp [hkey, List.removeAll, List.eraseDups_cons]

/-- The value of a key is the first that is found from the end of the history. -/
theorem lookup_ofList (pairs : List (String × α)) (key : String) :
    (ofList pairs).entries.lookup key = pairs.reverse.lookup key := by
  induction pairs using List.reverseRecOn with
  | nil => rfl
  | append_singleton pairs pair ih =>
    obtain ⟨k, v⟩ := pair
    rw [ofList_concat, entries_insert, lookup_upsert, ih, List.reverse_concat, List.lookup_cons]
    by_cases hkey : key = k
    · simp [hkey]
    · rw [if_neg hkey, beq_false_of_ne hkey]

/-- A key has the value of its last insertion. -/
theorem mem_entries_ofList_iff {key : String} {value : α} :
    (key, value) ∈ (ofList pairs).entries ↔
      ∃ before after, pairs = before ++ (key, value) :: after ∧ ∀ pair ∈ after, pair.1 ≠ key := by
  rw [← lookup_eq_some_iff_mem (nodup_keys _), lookup_ofList, List.lookup_eq_some_iff]
  constructor
  · rintro ⟨after, before, hpairs, hafter⟩
    refine ⟨before.reverse, after.reverse, ?_, ?_⟩
    · simpa using congrArg List.reverse hpairs
    · intro pair hpair
      exact Ne.symm (bne_iff_ne.1 (hafter pair (List.mem_reverse.1 hpair)))
  · rintro ⟨before, after, rfl, hafter⟩
    refine ⟨after.reverse, before.reverse, by simp, ?_⟩
    intro pair hpair
    exact bne_iff_ne.2 (Ne.symm (hafter pair (List.mem_reverse.1 hpair)))

/-- Where no key comes twice, the entries are the pairs. -/
theorem entries_ofList_of_nodup (hnodup : (pairs.map Prod.fst).Nodup) :
    (ofList pairs).entries = pairs := by
  induction pairs using List.reverseRecOn with
  | nil => rfl
  | append_singleton pairs pair ih =>
    obtain ⟨key, value⟩ := pair
    rw [List.map_append, List.nodup_append] at hnodup
    obtain ⟨hpairs, -, hdisjoint⟩ := hnodup
    have hnew : key ∉ pairs.map Prod.fst := fun h => hdisjoint key h key (by simp) rfl
    rw [ofList_concat, entries_insert, ih hpairs, upsert_of_not_mem hnew]

/-- A map is made from its own entries. -/
theorem ofList_entries (m : OrderedMap α) : ofList m.entries = m :=
  ext (entries_ofList_of_nodup m.nodup_keys)

/-- There are as many entries as different keys in the history. -/
theorem size_ofList (pairs : List (String × α)) :
    (ofList pairs).size = (pairs.map Prod.fst).toFinset.card := by
  -- the entries have the keys of the history, and none of them twice
  have hkeys : (pairs.map Prod.fst).toFinset = ((ofList pairs).entries.map Prod.fst).toFinset := by
    rw [map_fst_ofList]
    ext key
    rw [List.mem_toFinset, List.mem_toFinset, List.mem_eraseDups]
  rw [hkeys, List.toFinset_card_of_nodup (nodup_keys _), List.length_map, size]

end

/-! ## Properties -/

/-- **Properties after any history of insertions.**  The keys stand in the order in which each came
    first, and none of them twice; a key has the value of its last insertion.  There are as many
    entries as different keys.  The entries make the same properties again, and insertions at two
    keys that are present may change places.  Whatever JSON value the written text can be read as is
    an object with these keys in this order. -/
theorem ofList_first_place_last_value (pairs : List (String × String)) :
    let m : Properties := pairs.foldl (fun m pair => m.insert pair.1 pair.2) empty
    ofList pairs = m ∧
    m.entries.map Prod.fst = (pairs.map Prod.fst).eraseDups ∧
    (m.entries.map Prod.fst).Nodup ∧
    (∀ key value, (key, value) ∈ m.entries ↔
      ∃ before after, pairs = before ++ (key, value) :: after ∧ ∀ pair ∈ after, pair.1 ≠ key) ∧
    m.size = (pairs.map Prod.fst).toFinset.card ∧
    ofList m.entries = m ∧
    (∀ key key' value value', key ≠ key' → key ∈ m.entries.map Prod.fst →
      key' ∈ m.entries.map Prod.fst →
      (m.insert key value).insert key' value' = (m.insert key' value').insert key value) ∧
    ∀ level (j : Json), j.prettyAt level = (propertiesToJson m).prettyAt level →
      ∃ members, j = .object members ∧
        members.map Prod.fst = (pairs.map Prod.fst).eraseDups ∧ (members.map Prod.fst).Nodup := by
  refine ⟨rfl, map_fst_ofList pairs, nodup_keys _, fun _ _ => mem_entries_ofList_iff,
    size_ofList pairs, ofList_entries _, fun _ _ value value' => insert_comm value value', ?_⟩
  intro level j hwritten
  obtain rfl := Json.prettyAt_inj.1 hwritten
  -- a member is written for each entry, under its key
  have hkeys : ((ofList pairs).entries.map fun e => (e.1, Json.string e.2)).map Prod.fst =
      (pairs.map Prod.fst).eraseDups := by
    rw [List.map_map, ← map_fst_ofList]
    rfl
  refine ⟨(ofList pairs).entries.map fun e => (e.1, .string e.2), rfl, hkeys, ?_⟩
  rw [hkeys, ← map_fst_ofList]
  exact nodup_keys _

/-- A key that comes again keeps its place and takes the later value. -/
theorem ofList_first_place_last_value_z_a :
    let m : Properties := ofList [("z", "1"), ("a", "2"), ("z", "3")]
    m.entries = [("z", "3"), ("a", "2")] ∧ m.size = 2 ∧
      (m.insert "z" "4").insert "a" "5" = (m.insert "a" "5").insert "z" "4" ∧
      ∀ j : Json, j.prettyAt 0 = (propertiesToJson m).prettyAt 0 →
        ∃ members, j = .object members ∧ members.map Prod.fst = ["z", "a"] := by
  obtain ⟨-, -, -, -, -, -, hcomm, hjson⟩ :=
    ofList_first_place_last_value [("z", "1"), ("a", "2"), ("z", "3")]
  refine ⟨by decide, by decide, hcomm "z" "a" "4" "5" (by decide) (by decide) (by decide), ?_⟩
  intro j hwritten
  obtain ⟨members, hj, hkeys, -⟩ := hjson 0 j hwritten
  have hfirst : ["z", "a", "z"].eraseDups = ["z", "a"] := by decide
  exact ⟨members, hj, hkeys.trans hfirst⟩

end BuildInjection.OrderedMap
