import BuildInjection.Text.Scan
import BuildInjection.Xml.CharacterData
import BuildInjection.Xml.Name

/-!
# Markup

A document is a sequence of tags, stretches of character data, and remarks that say nothing about
the content.  `Markup.read` reads the next of them; it takes at least one character
(`Markup.length_of_read`), so that reading one after the other comes to an end.
-/

namespace BuildInjection.Xml

/-- An attribute of a tag. -/
structure Attribute where
  name : QName
  value : String
deriving DecidableEq, Repr

/-- A part of a document. -/
inductive Markup where
  /-- The tag that opens an element. -/
  | startTag (name : QName) (attributes : List Attribute)
  /-- The tag of an element without content. -/
  | emptyTag (name : QName) (attributes : List Attribute)
  /-- The tag that closes an element. -/
  | endTag (name : QName)
  /-- The characters that a stretch of character data stands for. -/
  | text (chars : List Char)
  /-- A comment or a processing instruction. -/
  | remark
deriving DecidableEq, Repr

/-- A text without its leading white space. -/
def skipSpaces (s : List Char) : List Char := s.dropWhile isSpace

theorem length_skipSpaces (s : List Char) : (skipSpaces s).length ≤ s.length :=
  (List.dropWhile_sublist _).length_le

/-! ## Attributes -/

namespace Attribute

/-- Read what a pair of quotes encloses; a `<` may not stand in it. -/
def readValue : List Char → Option (List Char × List Char)
  | [] => none
  | quote :: s =>
    -- the value ends at the kind of quote that it began with
    if quote = '"' || quote = '\x27' then
      let value := s.takeWhile fun c => c != quote && c != '<'
      match s.dropWhile fun c => c != quote && c != '<' with
      | [] => none
      | c :: rest => if c = quote && value.all isLegal then some (value, rest) else none
    else none

/-- Read what follows the name of an attribute. -/
def readEqual (s : List Char) : Option (List Char × List Char) :=
  match skipSpaces s with
  | '=' :: s => readValue (skipSpaces s)
  | _ => none

/-- Read an attribute as it is written: a name, an equals sign and a quoted value. -/
def readWritten (s : List Char) : Option ((QName × List Char) × List Char) :=
  (QName.read s).bind fun (name, s) => (readEqual s).map fun (value, rest) => ((name, value), rest)

/-- Read an attribute with the value for which the written one stands. -/
def read (s : List Char) : Option (Attribute × List Char) :=
  (readWritten s).bind fun ((name, written), rest) =>
    (attributeValue? written).map fun value => (⟨name, String.ofList value⟩, rest)

theorem length_of_readValue {s rest v : List Char} (h : readValue s = some (v, rest)) :
    rest.length ≤ s.length := by
  cases s with
  | nil => simp [readValue] at h
  | cons quote s =>
    simp only [readValue] at h
    split at h
    · split at h
      · simp at h
      · rename_i c rest' hdrop
        split at h
        · obtain ⟨_, rfl⟩ := Prod.mk.inj (Option.some.inj h)
          have hl := (List.dropWhile_sublist (l := s) fun c => c != quote && c != '<').length_le
          rw [hdrop] at hl
          simp only [List.length_cons] at hl ⊢
          omega
        · simp at h
    · simp at h

theorem length_of_readEqual {s rest v : List Char} (h : readEqual s = some (v, rest)) :
    rest.length ≤ s.length := by
  simp only [readEqual] at h
  split at h
  · rename_i s' hs
    have h₁ := length_of_readValue h
    have h₂ := length_skipSpaces s'
    have h₃ := length_skipSpaces s
    rw [hs] at h₃
    simp only [List.length_cons] at h₃
    omega
  · simp at h

theorem length_of_readWritten {s rest : List Char} {w : QName × List Char}
    (h : readWritten s = some (w, rest)) : rest.length < s.length := by
  obtain ⟨⟨name, s'⟩, hname, h⟩ := Option.bind_eq_some_iff.1 h
  obtain ⟨⟨value, rest'⟩, hvalue, e⟩ := Option.map_eq_some_iff.1 h
  obtain ⟨_, rfl⟩ := Prod.mk.inj e
  exact Nat.lt_of_le_of_lt (length_of_readEqual hvalue) (QName.length_of_read hname)

/-- Reading an attribute takes at least one character. -/
theorem length_of_read {s rest : List Char} {a : Attribute} (h : read s = some (a, rest)) :
    rest.length < s.length := by
  obtain ⟨⟨w, rest'⟩, hw, h⟩ := Option.bind_eq_some_iff.1 h
  obtain ⟨value, _, e⟩ := Option.map_eq_some_iff.1 h
  obtain ⟨_, rfl⟩ := Prod.mk.inj e
  exact length_of_readWritten hw

end Attribute

/-- Whether a text begins with white space. -/
def beginsWithSpace : List Char → Bool
  | [] => false
  | c :: _ => isSpace c

/-- Read the attributes of a tag up to its end, and say whether the tag closes its element as well.
    White space stands before each attribute. -/
def readAttributes (done : List Attribute) (s : List Char) :
    Option (List Attribute × Bool × List Char) :=
  match hs : skipSpaces s with
  | '>' :: rest => some (done.reverse, false, rest)
  | '/' :: '>' :: rest => some (done.reverse, true, rest)
  | s' =>
    if beginsWithSpace s then
      -- the tag goes on, and so it has one more attribute
      match ha : Attribute.read s' with
      | none => none
      | some (a, rest) =>
        have : rest.length < s.length := by
          have h₁ := Attribute.length_of_read ha
          have h₂ := length_skipSpaces s
          rw [hs] at h₂
          omega
        readAttributes (a :: done) rest
    else none
termination_by s.length

theorem length_of_readAttributes {done as : List Attribute} {closed : Bool} {s rest : List Char}
    (h : readAttributes done s = some (as, closed, rest)) : rest.length ≤ s.length := by
  induction hn : s.length using Nat.strongRecOn generalizing done s with
  | _ n ih =>
    have h₂ := length_skipSpaces s
    rw [readAttributes] at h
    split at h
    · rename_i rest' hs
      obtain ⟨_, _, rfl⟩ := h
      rw [hs] at h₂
      simp only [List.length_cons] at h₂
      omega
    · rename_i rest' hs
      obtain ⟨_, _, rfl⟩ := h
      rw [hs] at h₂
      simp only [List.length_cons] at h₂
      omega
    · -- the tag has not ended, and an attribute has been taken off
      split at h
      · split at h
        · simp at h
        · rename_i a rest' ha
          have h₁ := Attribute.length_of_read ha
          have := ih rest'.length (by omega) h rfl
          omega
      · simp at h

/-! ## Parts of a document -/

namespace Markup

/-- Read the rest of a comment: no two hyphens stand in it next to each other, and none at its
    end. -/
def readComment (s : List Char) : Option (Markup × List Char) :=
  (Text.upTo? ['-', '-', '>'] s).bind fun (inside, rest) =>
    if inside.all isLegal && (Text.upTo? ['-', '-'] inside).isNone && inside.getLast? != some '-'
    -- what a comment holds is of no account
    then some (.remark, rest) else none

/-- Read the rest of a section that is taken as it is. -/
def readVerbatim (s : List Char) : Option (Markup × List Char) :=
  (Text.upTo? [']', ']', '>'] s).bind fun (inside, rest) =>
    if inside.all isLegal then some (.text (verbatim inside), rest) else none

/-- Read what follows `<!`: a comment or a section that is taken as it is. -/
def readDeclared (s : List Char) : Option (Markup × List Char) :=
  match Text.skip? ['-', '-'] s with
  | some s => readComment s
  | none => (Text.skip? ['[', 'C', 'D', 'A', 'T', 'A', '['] s).bind readVerbatim

/-- Read what follows `<?`: a processing instruction, which begins with a name.  A declaration of
    the version is none. -/
def readInstruction (s : List Char) : Option (Markup × List Char) :=
  if (Text.skip? ['x', 'm', 'l', ' '] s).isSome || !QName.beginsName s then none
  else (Text.upTo? ['?', '>'] s).bind fun (inside, rest) =>
    if inside.all isLegal then some (.remark, rest) else none

/-- Read what follows `</`: a name and the end of the tag. -/
def readEndTag (s : List Char) : Option (Markup × List Char) :=
  (QName.read s).bind fun (name, s) =>
    match skipSpaces s with
    | '>' :: rest => some (.endTag name, rest)
    | _ => none

/-- Read what follows the `<` of any other tag. -/
def readTag (s : List Char) : Option (Markup × List Char) :=
  (QName.read s).bind fun (name, s) =>
    (readAttributes [] s).map fun (attributes, closed, rest) =>
      (if closed then .emptyTag name attributes else .startTag name attributes, rest)

/-- Read character data up to the next tag; `]]>` may not stand in it. -/
def readText (s : List Char) : Option (Markup × List Char) :=
  let chars := s.takeWhile (· != '<')
  -- the characters are looked at before references are resolved
  if chars.all isLegal && (Text.upTo? [']', ']', '>'] chars).isNone then
    (content? chars).map fun chars => (.text chars, s.dropWhile (· != '<'))
  else none

/-- Read the next part of a document. -/
def read : List Char → Option (Markup × List Char)
  | [] => none
  | '<' :: '!' :: s => readDeclared s
  | '<' :: '?' :: s => readInstruction s
  | '<' :: '/' :: s => readEndTag s
  -- the marks after `<` have been looked at, so this opens an element
  | '<' :: s => readTag s
  | c :: s => readText (c :: s)

theorem length_of_readComment {s rest : List Char} {m : Markup}
    (h : readComment s = some (m, rest)) : rest.length ≤ s.length := by
  obtain ⟨⟨inside, rest'⟩, hup, h⟩ := Option.bind_eq_some_iff.1 h
  simp only at h
  split at h
  · obtain ⟨_, rfl⟩ := Prod.mk.inj (Option.some.inj h)
    exact Text.length_le_of_upTo? hup
  · simp at h

theorem length_of_readVerbatim {s rest : List Char} {m : Markup}
    (h : readVerbatim s = some (m, rest)) : rest.length ≤ s.length := by
  obtain ⟨⟨inside, rest'⟩, hup, h⟩ := Option.bind_eq_some_iff.1 h
  simp only at h
  split at h
  · obtain ⟨_, rfl⟩ := Prod.mk.inj (Option.some.inj h)
    exact Text.length_le_of_upTo? hup
  · simp at h

theorem length_of_readDeclared {s rest : List Char} {m : Markup}
    (h : readDeclared s = some (m, rest)) : rest.length ≤ s.length := by
  simp only [readDeclared] at h
  split at h
  · rename_i s' hskip
    have := Text.length_of_skip? hskip
    have := length_of_readComment h
    omega
  · obtain ⟨s', hskip, h⟩ := Option.bind_eq_some_iff.1 h
    have := Text.length_of_skip? hskip
    have := length_of_readVerbatim h
    omega

theorem length_of_readInstruction {s rest : List Char} {m : Markup}
    (h : readInstruction s = some (m, rest)) : rest.length ≤ s.length := by
  simp only [readInstruction] at h
  split at h
  · simp at h
  · obtain ⟨⟨inside, rest'⟩, hup, h⟩ := Option.bind_eq_some_iff.1 h
    simp only at h
    split at h
    · obtain ⟨_, rfl⟩ := Prod.mk.inj (Option.some.inj h)
      exact Text.length_le_of_upTo? hup
    · simp at h

theorem length_of_readEndTag {s rest : List Char} {m : Markup}
    (h : readEndTag s = some (m, rest)) : rest.length ≤ s.length := by
  obtain ⟨⟨name, s'⟩, hname, h⟩ := Option.bind_eq_some_iff.1 h
  have h₁ := QName.length_of_read hname
  have h₂ := length_skipSpaces s'
  simp only at h
  split at h
  · rename_i rest' hs
    obtain ⟨_, rfl⟩ := Prod.mk.inj (Option.some.inj h)
    rw [hs] at h₂
    simp only [List.length_cons] at h₂
    omega
  · simp at h

theorem length_of_readTag {s rest : List Char} {m : Markup}
    (h : readTag s = some (m, rest)) : rest.length ≤ s.length := by
  obtain ⟨⟨name, s'⟩, hname, h⟩ := Option.bind_eq_some_iff.1 h
  obtain ⟨⟨as, closed, rest'⟩, has, e⟩ := Option.map_eq_some_iff.1 h
  obtain ⟨_, rfl⟩ := Prod.mk.inj e
  have h₁ := QName.length_of_read hname
  have h₂ := length_of_readAttributes has
  omega

theorem rest_of_readText {s rest : List Char} {m : Markup}
    (h : readText s = some (m, rest)) : rest = s.dropWhile (· != '<') := by
  simp only [readText] at h
  split at h
  · obtain ⟨_, _, e⟩ := Option.map_eq_some_iff.1 h
    exact (Prod.mk.inj e).2.symm
  · simp at h

/-- Reading a part takes at least one character. -/
theorem length_of_read {s rest : List Char} {m : Markup} (h : read s = some (m, rest)) :
    rest.length < s.length := by
  unfold read at h
  split at h
  · simp at h
  · have := length_of_readDeclared h
    simp only [List.length_cons]; omega
  · have := length_of_readInstruction h
    simp only [List.length_cons]; omega
  · have := length_of_readEndTag h
    simp only [List.length_cons]; omega
  · have := length_of_readTag h
    simp only [List.length_cons]; omega
  · -- character data has at least one character, and that is no bracket
    rename_i c s' _ _ _ hc
    have hr := rest_of_readText h
    have hb : (c != '<') = true := by simpa using hc
    rw [List.dropWhile_cons, if_pos hb] at hr
    have := (List.dropWhile_sublist (l := s') (· != '<')).length_le
    rw [hr]
    simp only [List.length_cons]; omega

end Markup

end BuildInjection.Xml
