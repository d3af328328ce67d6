import BuildInjection.Toml.Value

/-!
# Values that differ in their texts only

Two values have the same shape up to their texts if one can be had from the other by changing texts
that stand in it as values: keys, the number and the order of items and entries, and everything that
is no text are the same (`DiffersInTexts`).  The texts that stand in a value are in it at any depth
(`HasText`).
-/

namespace BuildInjection.Toml.Value

/-- What holds of the values that hold nothing, of an array if it holds of its items, and of a table
    if it holds of the values of its entries, holds of every value. -/
@[induction_eliminator]
theorem induct {motive : Value → Prop} (string : ∀ s, motive (.string s))
    (integer : ∀ i, motive (.integer i)) (float : ∀ x, motive (.float x))
    (boolean : ∀ b, motive (.boolean b)) (datetime : ∀ d, motive (.datetime d))
    (array : ∀ items, (∀ v ∈ items, motive v) → motive (.array items))
    (table : ∀ entries, (∀ e ∈ entries, motive e.2) → motive (.table entries)) (v : Value) :
    motive v := by
  -- on the size, because items and entries stand in lists
  induction hsize : sizeOf v using Nat.strongRecOn generalizing v with
  | _ n ih =>
    cases v with
    | string s => exact string s
    | integer i => exact integer i
    | float x => exact float x
    | boolean b => exact boolean b
    | datetime d => exact datetime d
    | array items =>
      refine array items fun v hv => ih (sizeOf v) ?_ v rfl
      have hitem := List.sizeOf_lt_of_mem hv
      simp only [Value.array.sizeOf_spec] at hsize
      omega
    | table entries =>
      -- an entry is larger than its value
      refine table entries fun e he => ih (sizeOf e.2) ?_ e.2 rfl
      obtain ⟨key, value⟩ := e
      have hentry := List.sizeOf_lt_of_mem he
      simp only [Prod.mk.sizeOf_spec] at hentry
      simp only [Value.table.sizeOf_spec] at hsize
      show sizeOf value < n
      omega

/-- Two values are alike but for their texts, of which those in the same place are related. -/
inductive DiffersInTexts (R : String → String → Prop) : Value → Value → Prop
  | string {s t : String} (h : R s t) : DiffersInTexts R (.string s) (.string t)
  | integer (i : Int) : DiffersInTexts R (.integer i) (.integer i)
  | float (x : Binary64) : DiffersInTexts R (.float x) (.float x)
  | boolean (b : Bool) : DiffersInTexts R (.boolean b) (.boolean b)
  | datetime (d : DateTime) : DiffersInTexts R (.datetime d) (.datetime d)
  /-- Arrays have as many items, and each item belongs to the one in its place. -/
  | array {items items' : List Value} (hlength : items'.length = items.length)
      (h : ∀ (i : Nat) v v', items[i]? = some v → items'[i]? = some v' → DiffersInTexts R v v') :
      DiffersInTexts R (.array items) (.array items')
  /-- Tables have the same keys in the same order, and each value belongs to that in its place. -/
  | table {entries entries' : Entries} (hkeys : entries'.map Prod.fst = entries.map Prod.fst)
      (h : ∀ (i : Nat) e e', entries[i]? = some e → entries'[i]? = some e' → DiffersInTexts R e.2 e'.2) :
      DiffersInTexts R (.table entries) (.table entries')

/-- A text stands in a value, at some depth; keys do not count. -/
inductive HasText : Value → String → Prop
  | string (s : String) : HasText (.string s) s
  | item {items : List Value} {v : Value} {s : String} (hmem : v ∈ items) (h : HasText v s) :
      HasText (.array items) s
  | entry {entries : Entries} {e : String × Value} {s : String} (hmem : e ∈ entries)
      (h : HasText e.2 s) : HasText (.table entries) s

section

variable {R R' : String → String → Prop} {v w : Value}

/-- Only the texts that stand in the first value matter. -/
theorem DiffersInTexts.imp (h : v.DiffersInTexts R w)
    (himp : ∀ s t, v.HasText s → R s t → R' s t) : v.DiffersInTexts R' w := by
  induction h with
  | string h => exact .string (himp _ _ (.string _) h)
  | integer i => exact .integer i
  | float x => exact .float x
  | boolean b => exact .boolean b
  | datetime d => exact .datetime d
  | array hlength _ ih =>
    refine .array hlength fun i v v' hv hv' => ih i v v' hv hv' ?_
    exact fun s t hs => himp s t (.item (List.mem_of_getElem? hv) hs)
  | table hkeys _ ih =>
    refine .table hkeys fun i e e' he he' => ih i e e' he he' ?_
    exact fun s t hs => himp s t (.entry (List.mem_of_getElem? he) hs)

/-- A value does not differ from itself if no text in it has to. -/
theorem differsInTexts_self (h : ∀ s, v.HasText s → R s s) : v.DiffersInTexts R v := by
  induction v with
  | string s => exact .string (h s (.string s))
  | integer i => exact .integer i
  | float x => exact .float x
  | boolean b => exact .boolean b
  | datetime d => exact .datetime d
  | array items ih =>
    refine .array rfl ?_
    intro i v v' hv hv'
    -- the item in the same place is the same one
    obtain rfl := Option.some.inj (hv.symm.trans hv')
    have hmem := List.mem_of_getElem? hv
    exact ih v hmem fun s hs => h s (.item hmem hs)
  | table entries ih =>
    refine .table rfl ?_
    intro i e e' he he'
    obtain rfl := Option.some.inj (he.symm.trans he')
    have hmem := List.mem_of_getElem? he
    exact ih e hmem fun s hs => h s (.entry hmem hs)

end

end BuildInjection.Toml.Value
