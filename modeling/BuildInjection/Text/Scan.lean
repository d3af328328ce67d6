/-!
# Reading a text from the left

The two steps from which the readers of this library are made: take a fixed word off the front of
a text, and take everything up to a fixed word.  Both say how much of the text is left, which is
what makes a reader that repeats them come to an end.
-/

namespace BuildInjection.Text

/-- What follows a fixed word at the front of a text. -/
def skip? (word s : List Char) : Option (List Char) :=
  if word.isPrefixOf s then some (s.drop word.length) else none

/-- What comes before the first occurrence of a word that is not empty, and what follows it. -/
def upTo? (word : List Char) : List Char → Option (List Char × List Char)
  | [] => none
  | c :: cs =>
    match skip? word (c :: cs) with
    | some rest => some ([], rest)
    -- the word may still begin at a later character
    | none => (upTo? word cs).map fun (before, rest) => (c :: before, rest)

/-- A number as its digits say it, where `value` holds what stood before. -/
def digitsFrom (base : Nat) (digit : Char → Nat) (value : Nat) (s : List Char) : Nat :=
  s.foldl (fun n c => n * base + digit c) value

/-- The number that a hexadecimal digit stands for. -/
def hexValue (c : Char) : Nat :=
  if c.isDigit then c.toNat - '0'.toNat
  else if 'a' ≤ c && c ≤ 'f' then c.toNat - 'a'.toNat + 10
  -- any other character counts as if it went on from the capital letters
  else c.toNat - 'A'.toNat + 10

/-- Whether a character is a hexadecimal digit. -/
def isHexDigit (c : Char) : Bool :=
  c.isDigit || ('a' ≤ c && c ≤ 'f') || ('A' ≤ c && c ≤ 'F')

/-- The number that digits of a base stand for; hexadecimal digits serve every base up to 16. -/
def number (base : Nat) (s : List Char) : Nat :=
  digitsFrom base hexValue 0 s

/-- The word stands in front of what follows it. -/
theorem skip?_eq_some_iff {word s rest : List Char} :
    skip? word s = some rest ↔ s = word ++ rest := by
  simp only [skip?]
  constructor
  · intro h
    split at h
    · rename_i hp
      obtain ⟨t, rfl⟩ := List.isPrefixOf_iff_prefix.1 hp
      simpa using h
    · simp at h
  · rintro rfl
    simp

theorem length_of_skip? {word s rest : List Char} (h : skip? word s = some rest) :
    s.length = word.length + rest.length := by
  rw [skip?_eq_some_iff.1 h, List.length_append]

/-- What comes before a word, the word and the rest make up the text. -/
theorem eq_append_of_upTo? {word s before rest : List Char}
    (h : upTo? word s = some (before, rest)) : s = before ++ word ++ rest := by
  induction s generalizing before with
  | nil => simp [upTo?] at h
  | cons c cs ih =>
    simp only [upTo?] at h
    split at h
    · rename_i hskip
      obtain ⟨rfl, rfl⟩ := Prod.mk.inj (Option.some.inj h)
      simpa using skip?_eq_some_iff.1 hskip
    · -- the word comes later, so the first character stands before it
      obtain ⟨⟨before', rest'⟩, hrest, e⟩ := Option.map_eq_some_iff.1 h
      obtain ⟨rfl, rfl⟩ := Prod.mk.inj e
      simp [ih hrest]

theorem length_le_of_upTo? {word s before rest : List Char}
    (h : upTo? word s = some (before, rest)) : rest.length ≤ s.length := by
  rw [eq_append_of_upTo? h, List.length_append, List.length_append]
  omega

end BuildInjection.Text
