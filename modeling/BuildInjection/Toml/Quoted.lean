import BuildInjection.Text.Scan

/-!
# Quoted texts

The four ways to quote a text: on one line or over several, with escapes or without.  Each reader
starts after the opening quotes and returns the characters and what follows the closing quotes.
-/

namespace BuildInjection.Toml

/-- A character with its value and the rest of the text, as most readers return it. -/
abbrev Read (α : Type) := Option (α × List Char)

/-- The characters that may stand in a text on one line: the tab, and everything that is no control
    character. -/
def isPlain (c : Char) : Bool :=
  c = '\t' || (0x20 ≤ c.toNat && c.toNat != 0x7F)

/-- Space and tab. -/
def isBlank (c : Char) : Bool := c = ' ' || c = '\t'

/-- Put a character in front of the characters that were read. -/
def consRead (c : Char) (r : Read (List Char)) : Read (List Char) :=
  r.map fun (cs, rest) => (c :: cs, rest)

theorem consRead_eq_some {c : Char} {r : Read (List Char)} {cs rest : List Char}
    (h : consRead c r = some (cs, rest)) : ∃ ds, r = some (ds, rest) := by
  obtain ⟨⟨ds, rest'⟩, hr, e⟩ := Option.map_eq_some_iff.1 h
  exact ⟨ds, (Prod.mk.inj e).2 ▸ hr⟩

/-! ## Escapes -/

/-- The character of a code point in so many hexadecimal digits. -/
def readCodePoint (width : Nat) (s : List Char) : Read Char :=
  let digits := s.take width
  let n := Text.number 16 digits
  -- surrogates and numbers that are too large are no characters
  if digits.length = width && digits.all Text.isHexDigit && decide n.isValidChar then
    some (Char.ofNat n, s.drop width) else none

/-- Read what follows a backslash. -/
def readEscape : List Char → Read Char
  | [] => none
  | c :: s =>
    match c with
    | 'b' => some ('\x08', s)
    | 't' => some ('\t', s)
    | 'n' => some ('\n', s)
    | 'f' => some ('\x0c', s)
    | 'r' => some ('\r', s)
    | 'e' => some ('\x1b', s)
    | '"' => some ('"', s)
    | '\\' => some ('\\', s)
    | 'x' => readCodePoint 2 s
    | 'u' => readCodePoint 4 s
    | 'U' => readCodePoint 8 s
    | _ => none

/-- The digits of a code point are taken off the text. -/
theorem length_of_readCodePoint {width : Nat} {s rest : List Char} {c : Char}
    (h : readCodePoint width s = some (c, rest)) : rest.length ≤ s.length := by
  simp only [readCodePoint] at h
  split at h
  · obtain ⟨_, rfl⟩ := Prod.mk.inj (Option.some.inj h)
    simp
  · simp at h

/-- Reading an escape takes at least one character. -/
theorem length_of_readEscape {s rest : List Char} {c : Char}
    (h : readEscape s = some (c, rest)) : rest.length < s.length := by
  cases s with
  | nil => simp [readEscape] at h
  | cons d s =>
    simp only [readEscape] at h
    simp only [List.length_cons]
    split at h <;>
      first
      | (obtain ⟨_, rfl⟩ := Prod.mk.inj (Option.some.inj h); omega)
      | (have hl := length_of_readCodePoint h; omega)
      | simp at h

/-! ## On one line -/

/-- Read a text without escapes. -/
def readLiteral : List Char → Read (List Char)
  | [] => none
  | c :: s =>
    if c = '\x27' then some ([], s)
    else if isPlain c then consRead c (readLiteral s)
    else none

/-- Read a text with escapes. -/
def readBasic (s : List Char) : Read (List Char) :=
  match s with
  | [] => none
  | c :: s =>
    if c = '"' then some ([], s)
    else if c = '\\' then
      match h : readEscape s with
      | none => none
      | some (e, rest) =>
        -- the escape took at least the character after the backslash
        have : rest.length < s.length := length_of_readEscape h
        consRead e (readBasic rest)
    else if isPlain c then consRead c (readBasic s)
    else none
termination_by s.length

theorem length_of_readLiteral {s rest cs : List Char} (h : readLiteral s = some (cs, rest)) :
    rest.length ≤ s.length := by
  induction s generalizing cs with
  | nil => simp [readLiteral] at h
  | cons c s ih =>
    simp only [readLiteral] at h
    split at h
    · obtain ⟨_, rfl⟩ := Prod.mk.inj (Option.some.inj h)
      simp
    · split at h
      · obtain ⟨ds, hr⟩ := consRead_eq_some h
        exact Nat.le_succ_of_le (ih hr)
      · simp at h

theorem length_of_readBasic {s rest cs : List Char} (h : readBasic s = some (cs, rest)) :
    rest.length ≤ s.length := by
  induction hn : s.length using Nat.strongRecOn generalizing cs s with
  | _ n ih =>
    rw [readBasic.eq_def] at h
    split at h
    · simp at h
    · rename_i c s
      simp only [List.length_cons] at hn
      split at h
      · obtain ⟨_, rfl⟩ := Prod.mk.inj (Option.some.inj h)
        omega
      · split at h
        · -- an escape, and then the rest of the text
          split at h
          · simp at h
          · rename_i e rest' he
            have hlt := length_of_readEscape he
            obtain ⟨ds, hr⟩ := consRead_eq_some h
            have := ih rest'.length (by omega) hr rfl
            omega
        · -- any other character that may stand on a line
          split at h
          · obtain ⟨ds, hr⟩ := consRead_eq_some h
            have := ih s.length (by omega) hr rfl
            omega
          · simp at h

/-! ## Over several lines -/

/-- Read the quotes that close a text over several lines.  There are three, and one or two more
    belong to the text. -/
def closeBlock? (quote : Char) (s : List Char) : Read (List Char) :=
  -- of more than five quotes the others are left for the next text
  let run := min (s.takeWhile (· = quote)).length 5
  if run < 3 then none else some (List.replicate (run - 3) quote, s.drop run)

/-- A text without the end of a line at its front. -/
def dropLineEnd : List Char → List Char
  | '\n' :: s => s
  | '\r' :: '\n' :: s => s
  | s => s

/-- A text without the blanks and the ends of lines at its front. -/
def dropBlankLines : List Char → List Char
  | '\r' :: '\n' :: s => dropBlankLines s
  | c :: s => if isBlank c || c = '\n' then dropBlankLines s else c :: s
  | [] => []

/-- What follows a backslash at the end of a line: blanks, the end of the line, and whatever is
    blank after it are left out. -/
def readLineFold (s : List Char) : Option (List Char) :=
  match s.dropWhile isBlank with
  | '\n' :: rest => some (dropBlankLines rest)
  | '\r' :: '\n' :: rest => some (dropBlankLines rest)
  | _ => none

/-- Whether a character may stand in a text over several lines, given what follows it: a carriage
    return only in front of a line feed. -/
def isBlockChar (c : Char) (s : List Char) : Bool :=
  isPlain c || c = '\n' || (c = '\r' && s.head? = some '\n')

/-- Read a text over several lines without escapes. -/
def readLiteralBlock : List Char → Read (List Char)
  | [] => none
  | c :: s =>
    match closeBlock? '\x27' (c :: s) with
    | some (quotes, rest) => some (quotes, rest)
    | none => if isBlockChar c s then consRead c (readLiteralBlock s) else none

theorem length_dropBlankLines (s : List Char) : (dropBlankLines s).length ≤ s.length := by
  fun_induction dropBlankLines s <;> simp_all <;> omega

theorem length_of_readLineFold {s rest : List Char} (h : readLineFold s = some rest) :
    rest.length < s.length := by
  have hl := (List.dropWhile_sublist (l := s) isBlank).length_le
  simp only [readLineFold] at h
  split at h
  · rename_i t hs
    rw [hs] at hl
    have := length_dropBlankLines t
    simp only [List.length_cons, Option.some.injEq] at hl h
    subst h
    omega
  · rename_i t hs
    rw [hs] at hl
    have := length_dropBlankLines t
    simp only [List.length_cons, Option.some.injEq] at hl h
    subst h
    omega
  · simp at h

/-- Read a text over several lines with escapes. -/
def readBasicBlock (s : List Char) : Read (List Char) :=
  match s with
  | [] => none
  | c :: s =>
    match closeBlock? '"' (c :: s) with
    | some (quotes, rest) => some (quotes, rest)
    | none =>
      if c = '\\' then
        -- at the end of a line a backslash folds lines, and elsewhere it begins an escape
        match hf : readLineFold s with
        | some rest =>
          have : rest.length < s.length := length_of_readLineFold hf
          readBasicBlock rest
        | none =>
          match h : readEscape s with
          | none => none
          | some (e, rest) =>
            have : rest.length < s.length := length_of_readEscape h
            consRead e (readBasicBlock rest)
      else if isBlockChar c s then consRead c (readBasicBlock s)
      else none
termination_by s.length

theorem length_of_closeBlock? {quote : Char} {s rest cs : List Char}
    (h : closeBlock? quote s = some (cs, rest)) : rest.length ≤ s.length := by
  simp only [closeBlock?] at h
  split at h
  · simp at h
  · obtain ⟨_, rfl⟩ := Prod.mk.inj (Option.some.inj h)
    simp

theorem length_of_readLiteralBlock {s rest cs : List Char}
    (h : readLiteralBlock s = some (cs, rest)) : rest.length ≤ s.length := by
  induction s generalizing cs with
  | nil => simp [readLiteralBlock] at h
  | cons c s ih =>
    simp only [readLiteralBlock] at h
    split at h
    · rename_i quotes rest' hclose
      obtain ⟨_, rfl⟩ := Prod.mk.inj (Option.some.inj h)
      exact length_of_closeBlock? hclose
    · split at h
      · obtain ⟨ds, hr⟩ := consRead_eq_some h
        exact Nat.le_succ_of_le (ih hr)
      · simp at h

theorem length_of_readBasicBlock {s rest cs : List Char}
    (h : readBasicBlock s = some (cs, rest)) : rest.length ≤ s.length := by
  induction hn : s.length using Nat.strongRecOn generalizing cs s with
  | _ n ih =>
    rw [readBasicBlock.eq_def] at h
    split at h
    · simp at h
    · rename_i c s
      simp only [List.length_cons] at hn
      split at h
      · -- the text is closed here
        rename_i quotes rest' hclose
        obtain ⟨_, rfl⟩ := Prod.mk.inj (Option.some.inj h)
        have := length_of_closeBlock? hclose
        simp only [List.length_cons] at this
        omega
      · split at h
        · split at h
          · -- lines are folded
            rename_i rest' hf
            have hlt := length_of_readLineFold hf
            have := ih rest'.length (by omega) h rfl
            omega
          · split at h
            · simp at h
            · rename_i e rest' he
              have hlt := length_of_readEscape he
              obtain ⟨ds, hr⟩ := consRead_eq_some h
              have := ih rest'.length (by omega) hr rfl
              omega
        · split at h
          · obtain ⟨ds, hr⟩ := consRead_eq_some h
            have := ih s.length (by omega) hr rfl
            omega
          · simp at h

/-! ## Texts that cannot be read

A text with a fault in it still ends somewhere, and what follows it is read as usual. -/

/-- What follows a faulty text on one line: the text ends with its closing quote or else with the
    line.  `escapes` says whether a backslash hides a quote. -/
def skipOnLine (quote : Char) (escapes : Bool) : List Char → List Char
  | [] => []
  | c :: s =>
    if c = quote then s
    else if c = '\n' then c :: s
    else if escapes && c = '\\' then
      match s with
      | [] => []
      -- the quote or backslash that a backslash hides is passed over with it
      | d :: t => if d = quote || d = '\\' then skipOnLine quote escapes t
          else skipOnLine quote escapes (d :: t)
    else skipOnLine quote escapes s

/-- What follows a faulty text over several lines: the text ends with its closing quotes or else
    with the document. -/
def skipBlock (quote : Char) (escapes : Bool) : List Char → List Char
  | [] => []
  | c :: s =>
    match closeBlock? quote (c :: s) with
    | some (_, rest) => rest
    | none =>
      if escapes && c = '\\' then
        match s with
        | [] => []
        | d :: t => if d = quote || d = '\\' then skipBlock quote escapes t
            else skipBlock quote escapes (d :: t)
      else skipBlock quote escapes s

theorem length_skipOnLine (quote : Char) (escapes : Bool) (s : List Char) :
    (skipOnLine quote escapes s).length ≤ s.length := by
  fun_induction skipOnLine quote escapes s <;> simp_all <;> omega

theorem length_skipBlock (quote : Char) (escapes : Bool) (s : List Char) :
    (skipBlock quote escapes s).length ≤ s.length := by
  -- only the closing quotes are taken off by another reader
  fun_induction skipBlock quote escapes s with
  | case2 c s _ rest h => exact length_of_closeBlock? h
  | _ => simp_all <;> omega

end BuildInjection.Toml
