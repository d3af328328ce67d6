import BuildInjection.Toml.Quoted

/-!
# TOML tokens

A document is cut into punctuation, quoted texts, runs of other characters, blanks and ends of
lines.  A comment counts as a blank.
-/

namespace BuildInjection.Toml

/-- A token of a document. -/
inductive Token where
  /-- A run of characters that are not quoted. -/
  | bare (chars : List Char)
  /-- A quoted text with the characters that it stands for, if it has no fault; `block` says that it
      may span several lines. -/
  | quoted (block : Bool) (chars : Option (List Char))
  /-- Spaces and tabs, or a comment. -/
  | blank (chars : List Char)
  | lineEnd
  | dot
  | equals
  | comma
  | openBracket
  | closeBracket
  | openBrace
  | closeBrace
deriving DecidableEq, Repr

namespace Token

/-- Whether a character may stand in a run: punctuation, blanks and ends of lines end it, quotes do
    not. -/
def isBare (c : Char) : Bool :=
  !(['.', '=', ',', '[', ']', '\x7b', '\x7d', ' ', '\t', '#', '\r', '\n'].contains c)

/-- Read a quoted text of either kind, where `quote` has been read; `onLine` and `block` read the
    two kinds, and `escapes` says whether a backslash is special in them. -/
def readQuoted (quote : Char) (escapes : Bool) (onLine block : List Char → Read (List Char))
    (s : List Char) : Token × List Char :=
  match Text.skip? [quote, quote] s with
  | some s =>
    -- three quotes open a text over several lines, whose first line may be empty
    match block (dropLineEnd s) with
    | some (cs, rest) => (.quoted true (some cs), rest)
    -- a fault does not end the document, so what follows is looked for
    | none => (.quoted true none, skipBlock quote escapes s)
  | none =>
    match onLine s with
    | some (cs, rest) => (.quoted false (some cs), rest)
    | none => (.quoted false none, skipOnLine quote escapes s)

/-- Read a comment, where the number sign has been read.  It holds no control characters and ends
    with the line. -/
def readComment (s : List Char) : Read Token :=
  match s.dropWhile isPlain with
  | [] => some (.blank s, [])
  | '\n' :: rest => some (.blank (s.takeWhile isPlain), '\n' :: rest)
  | '\r' :: '\n' :: rest => some (.blank (s.takeWhile isPlain), '\r' :: '\n' :: rest)
  | _ => none

/-- Read the next token. -/
def read : List Char → Read Token
  | [] => none
  | '\r' :: '\n' :: s => some (.lineEnd, s)
  | c :: s =>
    match c with
    | '\n' => some (.lineEnd, s)
    | '.' => some (.dot, s)
    | '=' => some (.equals, s)
    | ',' => some (.comma, s)
    | '[' => some (.openBracket, s)
    | ']' => some (.closeBracket, s)
    | '\x7b' => some (.openBrace, s)
    | '\x7d' => some (.closeBrace, s)
    | '#' => readComment s
    | '"' => some (readQuoted '"' true readBasic readBasicBlock s)
    | '\x27' => some (readQuoted '\x27' false readLiteral readLiteralBlock s)
    -- a carriage return stands only in front of a line feed
    | '\r' => none
    | _ =>
      if Toml.isBlank c then
        some (.blank (c :: s.takeWhile Toml.isBlank), s.dropWhile Toml.isBlank)
      else some (.bare (c :: s.takeWhile isBare), s.dropWhile isBare)

theorem length_dropLineEnd (s : List Char) : (dropLineEnd s).length ≤ s.length := by
  fun_cases dropLineEnd s <;> grind

theorem length_readQuoted {quote : Char} {escapes : Bool}
    {onLine block : List Char → Read (List Char)}
    (hline : ∀ {s cs rest}, onLine s = some (cs, rest) → rest.length ≤ s.length)
    (hblock : ∀ {s cs rest}, block s = some (cs, rest) → rest.length ≤ s.length)
    (s : List Char) : (readQuoted quote escapes onLine block s).2.length ≤ s.length := by
  simp only [readQuoted]
  split
  · rename_i t hskip
    have h₁ := Text.length_of_skip? hskip
    have h₂ := length_dropLineEnd t
    split
    · rename_i cs rest hr
      have h₃ := hblock hr
      show rest.length ≤ s.length
      omega
    · have h₃ := length_skipBlock quote escapes t
      show (skipBlock quote escapes t).length ≤ s.length
      omega
  · split
    · rename_i hr
      exact hline hr
    · exact length_skipOnLine quote escapes s

theorem length_of_readComment {s rest : List Char} {t : Token}
    (h : readComment s = some (t, rest)) : rest.length ≤ s.length := by
  have hl := (List.dropWhile_sublist (l := s) isPlain).length_le
  simp only [readComment] at h
  split at h
  · obtain ⟨_, rfl⟩ := Prod.mk.inj (Option.some.inj h)
    simp
  · rename_i hs
    obtain ⟨_, rfl⟩ := Prod.mk.inj (Option.some.inj h)
    rwa [hs] at hl
  · rename_i hs
    obtain ⟨_, rfl⟩ := Prod.mk.inj (Option.some.inj h)
    rwa [hs] at hl
  · simp at h

/-- Reading a token takes at least one character. -/
theorem length_of_read {s rest : List Char} {t : Token} (h : read s = some (t, rest)) :
    rest.length < s.length := by
  unfold read at h
  split at h
  · simp at h
  · obtain ⟨_, rfl⟩ := Prod.mk.inj (Option.some.inj h)
    simp only [List.length_cons]; omega
  · rename_i c s _
    simp only [List.length_cons]
    split at h
    iterate 8
      obtain ⟨_, rfl⟩ := Prod.mk.inj (Option.some.inj h)
      omega
    · have := length_of_readComment h
      omega
    · have hl : (readQuoted '"' true readBasic readBasicBlock s).2.length ≤ s.length :=
        length_readQuoted length_of_readBasic length_of_readBasicBlock s
      rw [Option.some.inj h] at hl
      exact Nat.lt_succ_of_le hl
    · have hl : (readQuoted '\x27' false readLiteral readLiteralBlock s).2.length ≤ s.length :=
        length_readQuoted length_of_readLiteral length_of_readLiteralBlock s
      rw [Option.some.inj h] at hl
      exact Nat.lt_succ_of_le hl
    · simp at h
    · split at h
      · obtain ⟨_, rfl⟩ := Prod.mk.inj (Option.some.inj h)
        have := (List.dropWhile_sublist (l := s) Toml.isBlank).length_le
        omega
      · obtain ⟨_, rfl⟩ := Prod.mk.inj (Option.some.inj h)
        have := (List.dropWhile_sublist (l := s) isBare).length_le
        omega

/-- The tokens of a text. -/
def ofChars? (s : List Char) : Option (List Token) :=
  match s with
  | [] => some []
  | c :: s =>
    match h : read (c :: s) with
    | none => none
    | some (t, rest) =>
      have : rest.length < (c :: s).length := length_of_read h
      (ofChars? rest).map (t :: ·)
termination_by s.length
decreasing_by exact this

end Token

end BuildInjection.Toml
