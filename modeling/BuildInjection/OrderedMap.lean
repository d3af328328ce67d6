/-!
# Maps in order of first insertion

A map from text to values that remembers the order in which its keys came.  Inserting at a key that
is present replaces the value and keeps the place; a new key goes to the end.  No key occurs twice,
and the type carries the proof.
-/

namespace BuildInjection

/-- Entries in order of first insertion, with pairwise distinct keys. -/
structure OrderedMap (α : Type) where
  /-- The keys with their values, in order. -/
  entries : List (String × α)
  /-- No key occurs twice. -/
  nodup_keys : (entries.map Prod.fst).Nodup
deriving DecidableEq

namespace OrderedMap

variable {α : Type}

/-- Replace the value at `key` where it stands, or add the pair at the end. -/
def upsert (key : String) (value : α) : List (String × α) → List (String × α)
  | [] => [(key, value)]
  -- the key stays where it first came
  | (k, v) :: rest => if k = key then (k, value) :: rest else (k, v) :: upsert key value rest

/-- The keys after an insertion are the old ones, followed by the new one if it is new. -/
theorem map_fst_upsert (key : String) (value : α) (es : List (String × α)) :
    (upsert key value es).map Prod.fst =
      if key ∈ es.map Prod.fst then es.map Prod.fst else es.map Prod.fst ++ [key] := by
  induction es with
  | nil => simp [upsert]
  | cons e es ih =>
    obtain ⟨k, v⟩ := e
    by_cases h : k = key
    · simp [upsert, h]
    · have h' : ¬ key = k := fun e => h e.symm
      simp only [upsert, h, if_false, List.map_cons, ih, List.mem_cons, h', false_or]
      split <;> rfl

/-- An insertion keeps the keys distinct. -/
theorem nodup_keys_upsert {key : String} {value : α} {es : List (String × α)}
    (h : (es.map Prod.fst).Nodup) : ((upsert key value es).map Prod.fst).Nodup := by
  rw [map_fst_upsert]
  split
  · exact h
  · rename_i hk
    rw [List.nodup_append]
    exact ⟨h, by simp, by intro a ha b hb; simp at hb; subst hb; exact fun e => hk (e ▸ ha)⟩

/-- The map without entries. -/
def empty : OrderedMap α := ⟨[], List.nodup_nil⟩

instance : Inhabited (OrderedMap α) := ⟨empty⟩

/-- The map with `value` at `key`: in the place of the old value, or at the end. -/
def insert (m : OrderedMap α) (key : String) (value : α) : OrderedMap α :=
  ⟨upsert key value m.entries, nodup_keys_upsert m.nodup_keys⟩

/-- The map that a list of pairs gives when they are inserted one by one. -/
def ofList (pairs : List (String × α)) : OrderedMap α :=
  pairs.foldl (fun m (k, v) => m.insert k v) empty

/-- The number of keys. -/
def size (m : OrderedMap α) : Nat := m.entries.length

/-- Whether the map has no key. -/
def isEmpty (m : OrderedMap α) : Bool := m.entries.isEmpty

/-- The value at a key. -/
def get? (m : OrderedMap α) (key : String) : Option α :=
  -- there is no other entry of the key
  (m.entries.find? (·.1 = key)).map Prod.snd

/-- An insertion is one on the entries. -/
@[simp] theorem entries_insert (m : OrderedMap α) (key : String) (value : α) :
    (m.insert key value).entries = upsert key value m.entries := rfl

/-- Two maps with the same entries in the same order are equal. -/
@[ext] theorem ext {m n : OrderedMap α} (h : m.entries = n.entries) : m = n := by
  cases m; cases n; cases h; rfl

end OrderedMap

/-- Properties of a profile: texts under texts, in order. -/
abbrev Properties := OrderedMap String

end BuildInjection
