import BuildInjection.Json
import Mathlib.Tactic.SplitIfs

/-!
# Laid-out JSON can be read in one way only

The text of a value says where the value ends, except that a number would go on with any digit that
follows it.  So two values that begin the same text are the same value with the same rest
(`delimited`), and a whole text is the text of one value (`pretty_inj`).  The first character tells
what kind of value it is, and a string ends at the first quote that no backslash stands before.
-/

namespace BuildInjection.Json

/-- What holds of the values that hold nothing, of an array if it holds of its items, and of an
    object if it holds of the values of its members, holds of every value. -/
@[induction_eliminator]
theorem induct {motive : Json → Prop} (null : motive .null) (bool : ∀ b, motive (.bool b))
    (number : ∀ n, motive (.number n)) (string : ∀ s, motive (.string s))
    (array : ∀ items, (∀ j ∈ items, motive j) → motive (.array items))
    (object : ∀ members, (∀ m ∈ members, motive m.2) → motive (.object members)) (j : Json) :
    motive j := by
  -- on the size, because items and members stand in lists
  induction hsize : sizeOf j using Nat.strongRecOn generalizing j with
  | _ n ih =>
    cases j with
    | null => exact null
    | bool b => exact bool b
    | number n => exact number n
    | string s => exact string s
    | array items =>
      refine array items fun j hj => ih (sizeOf j) ?_ j rfl
      have hitem := List.sizeOf_lt_of_mem hj
      simp only [Json.array.sizeOf_spec] at hsize
      omega
    | object members =>
      refine object members fun m hm => ih (sizeOf m.2) ?_ m.2 rfl
      obtain ⟨key, value⟩ := m
      have hmember := List.sizeOf_lt_of_mem hm
      simp only [Prod.mk.sizeOf_spec] at hmember
      simp only [Json.object.sizeOf_spec] at hsize
      show sizeOf value < n
      omega

/-! ## Strings -/

/-- The value of a hexadecimal digit. -/
def hexValue (c : Char) : Nat :=
  if c.isDigit then c.toNat - '0'.toNat else c.toNat - 'a'.toNat + 10

/-- A digit has the value that it was made from. -/
theorem hexValue_hexDigit {n : Nat} (h : n < 16) : hexValue (hexDigit n) = n := by
  have hall : ∀ n < 16, hexValue (hexDigit n) = n := by decide
  exact hall n h

/-- The first character of an escaped text, and the rest of the text. -/
def readChar : List Char → Option (Char × List Char)
  | '\\' :: 'n' :: rest => some ('\n', rest)
  | '\\' :: 'r' :: rest => some ('\r', rest)
  | '\\' :: 't' :: rest => some ('\t', rest)
  | '\\' :: 'b' :: rest => some ('\x08', rest)
  | '\\' :: 'f' :: rest => some ('\x0c', rest)
  | '\\' :: 'u' :: _ :: _ :: high :: low :: rest =>
    some (Char.ofNat (16 * hexValue high + hexValue low), rest)
  | '\\' :: c :: rest => some (c, rest)
  | c :: rest => some (c, rest)
  | [] => none

/-- An escaped character is read as itself, whatever follows it. -/
theorem readChar_escapeChar (c : Char) (rest : List Char) :
    readChar (escapeChar c ++ rest) = some (c, rest) := by
  unfold escapeChar
  split_ifs with hquote hslash _ _ _ _ _ hcontrol
  -- the two-character escapes are read by evaluating them
  all_goals try subst_vars; rfl
  · -- the two digits of the code
    have hhigh : hexValue (hexDigit (c.toNat / 16)) = c.toNat / 16 := hexValue_hexDigit (by omega)
    have hlow : hexValue (hexDigit (c.toNat % 16)) = c.toNat % 16 := hexValue_hexDigit (by omega)
    have hcode : 16 * (c.toNat / 16) + c.toNat % 16 = c.toNat := by omega
    simp only [List.cons_append, List.nil_append, readChar, hhigh, hlow, hcode, Char.ofNat_toNat]
  · -- any other character stands for itself, since it is no backslash
    rw [List.singleton_append]
    unfold readChar
    split <;> simp_all

/-- No escaped character begins with the quote that ends a string. -/
theorem quote_cons_ne_escapeChar_append (c : Char) (rest rest' : List Char) :
    '"' :: rest ≠ escapeChar c ++ rest' := by
  unfold escapeChar
  -- only the quote is written with a quote in it, and that after a backslash
  split_ifs with hquote
  all_goals simp [eq_comm, *]

/-- A string ends at its quote and nowhere else. -/
theorem flatMap_escapeChar_append_inj {cs ds rest rest' : List Char}
    (h : cs.flatMap escapeChar ++ '"' :: rest = ds.flatMap escapeChar ++ '"' :: rest') :
    cs = ds ∧ rest = rest' := by
  induction cs generalizing ds with
  | nil =>
    cases ds with
    | nil => exact ⟨rfl, (List.cons.inj h).2⟩
    | cons d ds =>
      rw [List.flatMap_cons, List.append_assoc] at h
      exact absurd h (quote_cons_ne_escapeChar_append d _ _)
  | cons c cs ih =>
    cases ds with
    | nil =>
      rw [List.flatMap_cons, List.append_assoc] at h
      exact absurd h.symm (quote_cons_ne_escapeChar_append c _ _)
    | cons d ds =>
      -- the first characters are what is read from either side
      rw [List.flatMap_cons, List.flatMap_cons, List.append_assoc, List.append_assoc] at h
      have hread := congrArg readChar h
      rw [readChar_escapeChar, readChar_escapeChar, Option.some.injEq, Prod.mk.injEq] at hread
      obtain ⟨rfl, htail⟩ := hread
      obtain ⟨rfl, hrest⟩ := ih htail
      exact ⟨rfl, hrest⟩

/-- A string in quotes is known from the text that it begins. -/
theorem quote_append_inj {s t : String} {rest rest' : List Char}
    (h : (quote s).toList ++ rest = (quote t).toList ++ rest') : s = t ∧ rest = rest' := by
  simp only [quote, String.toList_ofList, List.cons_append, List.append_assoc, List.nil_append,
    List.cons.injEq, true_and] at h
  obtain ⟨hchars, hrest⟩ := flatMap_escapeChar_append_inj h
  exact ⟨String.toList_inj.1 hchars, hrest⟩

/-! ## Numbers -/

/-- A rest that does not lengthen a number before it. -/
def EndsNumber (rest : List Char) : Prop := ∀ c ∈ rest.head?, c.isDigit = false

/-- A character that is no digit ends a number. -/
theorem endsNumber_cons {c : Char} {rest : List Char} (h : c.isDigit = false) :
    EndsNumber (c :: rest) := by
  intro d hd
  rw [List.head?_cons, Option.mem_some] at hd
  rw [← hd]
  exact h

/-- The text of a number is its decimal digits. -/
theorem toList_toString (n : Nat) : (toString n).toList = Nat.toDigits 10 n := by
  rw [Nat.toString_eq_ofList_toDigits, String.toList_ofList]

/-- The digits of a number are all that come before a rest that ends it. -/
theorem takeWhile_isDigit_toString (n : Nat) {rest : List Char} (hrest : EndsNumber rest) :
    ((toString n).toList ++ rest).takeWhile Char.isDigit = Nat.toDigits 10 n := by
  have hdigits : ∀ c ∈ Nat.toDigits 10 n, c.isDigit = true := fun c hc =>
    Nat.isDigit_of_mem_toDigits (by decide) (by decide) hc
  have hnone : rest.takeWhile Char.isDigit = [] := by
    cases rest with
    | nil => rfl
    | cons c rest => rw [List.takeWhile_cons, hrest c rfl, if_neg Bool.false_ne_true]
  rw [toList_toString, List.takeWhile_append_of_pos hdigits, hnone, List.append_nil]

/-- A number is known from the text that it begins, if what follows ends it. -/
theorem toString_append_inj {m n : Nat} {rest rest' : List Char} (hrest : EndsNumber rest)
    (hrest' : EndsNumber rest') (h : (toString m).toList ++ rest = (toString n).toList ++ rest') :
    m = n ∧ rest = rest' := by
  have hdigits : Nat.toDigits 10 m = Nat.toDigits 10 n := by
    rw [← takeWhile_isDigit_toString m hrest, h, takeWhile_isDigit_toString n hrest']
  -- the same digits are of the same number
  have hnumber : m = n := by
    rw [← Nat.ofDigitChars_ten_toDigits (n := m), hdigits, Nat.ofDigitChars_ten_toDigits]
  subst hnumber
  exact ⟨rfl, List.append_cancel_left h⟩

/-! ## Kinds of values -/

/-- The kinds of values. -/
inductive Kind where
  | null
  | bool
  | number
  | string
  | array
  | object

/-- The kind of a value. -/
def kind : Json → Kind
  | .null => .null
  | .bool _ => .bool
  | .number _ => .number
  | .string _ => .string
  | .array _ => .array
  | .object _ => .object

/-- The kind of the values that begin with a character. -/
def kindOf (c : Char) : Kind :=
  if c.isDigit then .number
  else if c = 'n' then .null
  else if c = '"' then .string
  else if c = '[' then .array
  else if c = '\x7b' then .object
  else .bool

/-- The first character of a value tells its kind. -/
theorem map_kindOf_head? (level : Nat) (j : Json) :
    (prettyAt level j).toList.head?.map kindOf = some j.kind := by
  cases j with
  | null => simp [prettyAt, kindOf, kind]
  | bool b => cases b <;> simp [prettyAt, kindOf, kind]
  | number n =>
    obtain ⟨c, cs, hdigits⟩ := List.exists_cons_of_ne_nil (Nat.toDigits_ne_nil (n := n) (b := 10))
    have hmem : c ∈ Nat.toDigits 10 n := by
      rw [hdigits]
      exact List.mem_cons_self
    have hc : c.isDigit = true := Nat.isDigit_of_mem_toDigits (by decide) (by decide) hmem
    rw [prettyAt, toList_toString, hdigits, List.head?_cons, Option.map_some, kindOf, if_pos hc]
    rfl
  | string s => simp [prettyAt, quote, kindOf, kind]
  | array items => cases items <;> simp [prettyAt, kindOf, kind]
  | object members => cases members <;> simp [prettyAt, kindOf, kind]

/-- Values that begin the same text are of the same kind. -/
theorem kind_eq_of_append {level : Nat} {j k : Json} {rest rest' : List Char}
    (h : (prettyAt level j).toList ++ rest = (prettyAt level k).toList ++ rest') :
    j.kind = k.kind := by
  obtain ⟨c, hc, hj⟩ := Option.map_eq_some_iff.1 (map_kindOf_head? level j)
  obtain ⟨d, hd, hk⟩ := Option.map_eq_some_iff.1 (map_kindOf_head? level k)
  have hhead := congrArg List.head? h
  rw [List.head?_append, List.head?_append, hc, hd, Option.some_or, Option.some_or,
    Option.some.injEq] at hhead
  rw [← hj, ← hk, hhead]

/-! ## Parts of a value -/

section

variable {α : Type} (f : α → String) {level : Nat} {tail tail' : List Char}

/-- The text of a part, in front of a rest, is not that of another part. -/
def Delimited (a : α) : Prop :=
  ∀ {b : α} {rest rest' : List Char}, EndsNumber rest → EndsNumber rest' →
    (f a).toList ++ rest = (f b).toList ++ rest' → a = b ∧ rest = rest'

/-- Parts on lines of their own, each after a comma. -/
def parts (level : Nat) (as : List α) : List Char :=
  as.flatMap fun a => ',' :: (newLine level).toList ++ (f a).toList

/-- A first part and more parts on lines of their own, one level further in, and the line on which
    the tail begins. -/
def block (level : Nat) (a : α) (as : List α) (tail : List Char) : List Char :=
  (newLine (level + 1)).toList ++
    ((f a).toList ++ (parts f (level + 1) as ++ ((newLine level).toList ++ tail)))

/-- A line begins with two spaces for each level. -/
theorem toList_newLine (level : Nat) :
    (newLine level).toList = '\n' :: List.replicate (2 * level) ' ' :=
  String.toList_ofList

variable {f}

/-- What follows a part begins with a comma or with a new line, and so with no digit. -/
theorem endsNumber_parts (as : List α) : EndsNumber (parts f level as ++ '\n' :: tail) := by
  cases as with
  | nil => exact endsNumber_cons (by decide)
  | cons a as => exact endsNumber_cons (by decide)

/-- Parts end where a line begins without a comma before it. -/
theorem parts_append_inj {as bs : List α} (has : ∀ a ∈ as, Delimited f a)
    (h : parts f level as ++ '\n' :: tail = parts f level bs ++ '\n' :: tail') :
    as = bs ∧ tail = tail' := by
  induction as generalizing bs with
  | nil =>
    cases bs with
    | nil => exact ⟨rfl, (List.cons.inj h).2⟩
    -- a comma on one side would be a line end on the other
    | cons b bs => simp [parts] at h
  | cons a as ih =>
    obtain ⟨ha, has⟩ := List.forall_mem_cons.1 has
    cases bs with
    | nil => simp [parts] at h
    | cons b bs =>
      simp only [parts, List.flatMap_cons, List.cons_append, List.append_assoc, List.cons.injEq,
        true_and, List.append_cancel_left_eq] at h
      -- the first parts are the same, and so is what follows them
      obtain ⟨rfl, hmore⟩ := ha (endsNumber_parts as) (endsNumber_parts bs) h
      obtain ⟨rfl, htail⟩ := ih has hmore
      exact ⟨rfl, htail⟩

/-- A block is read part by part, and the tail begins on a line of its own. -/
theorem block_inj {a b : α} {as bs : List α} (has : ∀ x ∈ a :: as, Delimited f x)
    (h : block f level a as tail = block f level b bs tail') :
    a :: as = b :: bs ∧ tail = tail' := by
  obtain ⟨ha, has⟩ := List.forall_mem_cons.1 has
  simp only [block, List.append_cancel_left_eq, toList_newLine level, List.cons_append] at h
  obtain ⟨rfl, hmore⟩ := ha (endsNumber_parts as) (endsNumber_parts bs) h
  obtain ⟨rfl, htail⟩ := parts_append_inj has hmore
  rw [List.append_cancel_left_eq] at htail
  exact ⟨rfl, htail⟩

end

/-! ## Values -/

section

variable {level : Nat} {rest : List Char}

/-- The text of a member, with its key. -/
def prettyMember (level : Nat) (m : String × Json) : String :=
  quote m.1 ++ ": " ++ prettyAt level m.2

/-- The key ends at its quote, and the value where it ends alone. -/
theorem delimited_prettyMember {m : String × Json} (h : Delimited (prettyAt level) m.2) :
    Delimited (prettyMember level) m := by
  obtain ⟨key, value⟩ := m
  rintro ⟨key', value'⟩ rest rest' hrest hrest' hsame
  simp only [prettyMember, String.toList_append, List.append_assoc] at hsame
  obtain ⟨rfl, hvalue⟩ := quote_append_inj hsame
  rw [List.append_cancel_left_eq] at hvalue
  obtain ⟨rfl, htail⟩ := h hrest hrest' hvalue
  exact ⟨rfl, htail⟩

/-- Items after the first are parts with commas before them. -/
theorem toList_prettyItems (items : List Json) :
    (prettyItems level items).toList = parts (prettyAt level) level items := by
  induction items with
  | nil => rfl
  | cons item items ih =>
    simp only [prettyItems, String.toList_append, ih, parts, List.flatMap_cons]
    rfl

/-- Members after the first are parts with commas before them. -/
theorem toList_prettyMembers (members : List (String × Json)) :
    (prettyMembers level members).toList = parts (prettyMember level) level members := by
  induction members with
  | nil => rfl
  | cons member members ih =>
    simp only [prettyMembers, String.toList_append, ih, parts, List.flatMap_cons, prettyMember,
      List.append_assoc]
    rfl

/-- An array with items is a block in brackets. -/
theorem prettyAt_array_append (item : Json) (items : List Json) :
    (prettyAt level (.array (item :: items))).toList ++ rest =
      '[' :: block (prettyAt (level + 1)) level item items (']' :: rest) := by
  simp only [prettyAt, String.toList_append, toList_prettyItems, List.append_assoc]
  rfl

/-- An object with members is a block in braces. -/
theorem prettyAt_object_append (member : String × Json) (members : List (String × Json)) :
    (prettyAt level (.object (member :: members))).toList ++ rest =
      '\x7b' :: block (prettyMember (level + 1)) level member members ('\x7d' :: rest) := by
  simp only [prettyAt, String.toList_append, toList_prettyMembers, List.append_assoc, block,
    prettyMember]
  rfl

end

/-- An array is known from the text that it begins, if its items are. -/
theorem delimited_array {items : List Json}
    (hitems : ∀ j ∈ items, ∀ level, Delimited (prettyAt level) j) (level : Nat) :
    Delimited (prettyAt level) (.array items) := by
  intro k rest rest' _ _ h
  have hkind := kind_eq_of_append h
  cases k with
  | array items' =>
    -- ⟨item, items⟩ | an empty array is closed at once, where a block begins with a new line
    rcases items with _ | ⟨item, items⟩ <;> rcases items' with _ | ⟨item', items'⟩
    · exact ⟨rfl, List.append_cancel_left h⟩
    · simp [prettyAt, toList_newLine] at h
    · simp [prettyAt, toList_newLine] at h
    · rw [prettyAt_array_append, prettyAt_array_append, List.cons.injEq] at h
      obtain ⟨hsame, htail⟩ := block_inj (fun j hj => hitems j hj _) h.2
      exact ⟨congrArg array hsame, (List.cons.inj htail).2⟩
  | _ => exact nomatch hkind

/-- An object is known from the text that it begins, if the values of its members are. -/
theorem delimited_object {members : List (String × Json)}
    (hmembers : ∀ m ∈ members, ∀ level, Delimited (prettyAt level) m.2) (level : Nat) :
    Delimited (prettyAt level) (.object members) := by
  intro k rest rest' _ _ h
  have hkind := kind_eq_of_append h
  cases k with
  | object members' =>
    -- ⟨member, members⟩ | as for arrays, an empty object is closed at once
    rcases members with _ | ⟨member, members⟩ <;> rcases members' with _ | ⟨member', members'⟩
    · exact ⟨rfl, List.append_cancel_left h⟩
    · simp [prettyAt, toList_newLine] at h
    · simp [prettyAt, toList_newLine] at h
    · rw [prettyAt_object_append, prettyAt_object_append, List.cons.injEq] at h
      obtain ⟨hsame, htail⟩ := block_inj (fun m hm => delimited_prettyMember (hmembers m hm _)) h.2
      exact ⟨congrArg object hsame, (List.cons.inj htail).2⟩
  | _ => exact nomatch hkind

/-- Every value can be read from its text in one way only. -/
theorem delimited (j : Json) (level : Nat) : Delimited (prettyAt level) j := by
  -- each kind of value on its own, since the first character has told the kind
  induction j generalizing level with
  | null =>
    intro k rest rest' _ _ h
    have hkind := kind_eq_of_append h
    cases k with
    | null => exact ⟨rfl, List.append_cancel_left h⟩
    | _ => exact nomatch hkind
  | bool b =>
    intro k rest rest' _ _ h
    have hkind := kind_eq_of_append h
    cases k with
    | bool c => cases b <;> cases c <;> simp_all [prettyAt]
    | _ => exact nomatch hkind
  | number n =>
    intro k rest rest' hrest hrest' h
    have hkind := kind_eq_of_append h
    cases k with
    | number m =>
      simp only [prettyAt] at h
      obtain ⟨rfl, hsame⟩ := toString_append_inj hrest hrest' h
      exact ⟨rfl, hsame⟩
    | _ => exact nomatch hkind
  | string s =>
    intro k rest rest' _ _ h
    have hkind := kind_eq_of_append h
    cases k with
    | string t =>
      simp only [prettyAt] at h
      obtain ⟨rfl, hsame⟩ := quote_append_inj h
      exact ⟨rfl, hsame⟩
    | _ => exact nomatch hkind
  | array items ih => exact delimited_array ih level
  | object members ih => exact delimited_object ih level

/-- A text is the laid-out form of one value at most, at whatever depth that stands. -/
theorem prettyAt_inj {level : Nat} {j k : Json} : j.prettyAt level = k.prettyAt level ↔ j = k := by
  constructor
  · intro h
    -- whole texts are texts in front of an empty rest, which ends a number
    have hnil : EndsNumber [] := fun c hc => nomatch hc
    have hchars : (prettyAt level j).toList ++ [] = (prettyAt level k).toList ++ [] := by
      rw [List.append_nil, List.append_nil]
      exact congrArg String.toList h
    exact (delimited j level hnil hnil hchars).1
  · rintro rfl
    rfl

/-- Each value has a laid-out text of its own. -/
theorem pretty_inj {j k : Json} : j.pretty = k.pretty ↔ j = k := prettyAt_inj

end BuildInjection.Json
