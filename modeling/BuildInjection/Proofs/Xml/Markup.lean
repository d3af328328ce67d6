import BuildInjection.Proofs.Xml.CharacterData
import BuildInjection.Proofs.Xml.Name
import BuildInjection.Xml.Markup

/-!
# Reading tags and character data

A tag without attributes is read back as it was written.  Whatever a document holds, the names of
its elements have a base without a colon, and its character data stands for legal characters.
-/

namespace BuildInjection.Xml

/-! ## Tags as they are written -/

/-- No tag of its own kind begins as a name does. -/
theorem isNameStart_marks :
    isNameStart '!' = false ∧ isNameStart '?' = false ∧ isNameStart '/' = false := by decide

/-- A start tag without attributes ends at once. -/
theorem readAttributes_startTag (rest : List Char) :
    readAttributes [] ('>' :: rest) = some ([], false, rest) := by
  -- there is no white space before the bracket, and no attribute
  have hs : skipSpaces ('>' :: rest) = '>' :: rest := by simp [skipSpaces, isSpace]
  rw [readAttributes]
  split
  · rename_i rest' h
    rw [hs] at h
    obtain rfl := (List.cons.inj h).2
    rfl
  · rename_i rest' h
    rw [hs] at h
    exact absurd (List.cons.inj h).1 (by decide)
  · rename_i h _
    exact absurd hs (h rest)

/-- So does an empty tag, and it says that it is one. -/
theorem readAttributes_emptyTag (rest : List Char) :
    readAttributes [] ('/' :: '>' :: rest) = some ([], true, rest) := by
  have hs : skipSpaces ('/' :: '>' :: rest) = '/' :: '>' :: rest := by simp [skipSpaces, isSpace]
  rw [readAttributes]
  split
  · rename_i rest' h
    rw [hs] at h
    exact absurd (List.cons.inj h).1 (by decide)
  · rename_i rest' h
    rw [hs] at h
    obtain rfl := (List.cons.inj (List.cons.inj h).2).2
    rfl
  · rename_i _ h
    exact absurd hs (h rest)

namespace Markup

/-- What begins as a name does after its `<` is a tag that opens an element. -/
theorem read_name {name : String} (h : isPlainName name = true) (s : List Char) :
    read ('<' :: (name.toList ++ s)) = readTag (name.toList ++ s) := by
  -- the three marks that would make it another kind of markup begin no name
  obtain ⟨c, cs, hcs, hstart⟩ := exists_cons_of_isPlainName h
  obtain ⟨hbang, hquestion, hslash⟩ := isNameStart_marks
  have hne : ∀ d, isNameStart d = false → c ≠ d := by
    rintro d hd rfl
    rw [hstart] at hd
    simp at hd
  rw [hcs, List.cons_append, read]
  · intro s' e
    exact hne '!' hbang (List.cons.inj e).1
  · intro s' e
    exact hne '?' hquestion (List.cons.inj e).1
  · intro s' e
    exact hne '/' hslash (List.cons.inj e).1

/-- A start tag is read back with the name that it was written with. -/
theorem read_startTag {name : String} (h : isPlainName name = true) (rest : List Char) :
    read ('<' :: (name.toList ++ '>' :: rest)) = some (.startTag ⟨"", name⟩ [], rest) := by
  rw [read_name h, readTag, QName.read_plain h (by decide)]
  simp [readAttributes_startTag]

/-- So is an empty tag. -/
theorem read_emptyTag {name : String} (h : isPlainName name = true) (rest : List Char) :
    read ('<' :: (name.toList ++ '/' :: '>' :: rest)) = some (.emptyTag ⟨"", name⟩ [], rest) := by
  rw [read_name h, readTag, QName.read_plain h (by decide)]
  simp [readAttributes_emptyTag]

/-- So is an end tag. -/
theorem read_endTag {name : String} (h : isPlainName name = true) (rest : List Char) :
    read ('<' :: '/' :: (name.toList ++ '>' :: rest)) = some (.endTag ⟨"", name⟩, rest) := by
  show readEndTag (name.toList ++ '>' :: rest) = _
  have hs : skipSpaces ('>' :: rest) = '>' :: rest := by simp [skipSpaces, isSpace]
  rw [readEndTag, QName.read_plain h (by decide)]
  simp [hs]

/-! ## What is read -/

/-- What every part of a document meets: names have a base without a colon, and character data
    stands for legal characters. -/
def IsSound : Markup → Prop
  | .startTag name _ | .emptyTag name _ | .endTag name => isPlainName name.base = true
  | .text chars => ∀ c ∈ chars, isLegal c = true
  | .remark => True

/-- A comment holds nothing to keep, and a section holds legal characters. -/
theorem isSound_of_readDeclared {s rest : List Char} {m : Markup}
    (h : readDeclared s = some (m, rest)) : m.IsSound := by
  simp only [readDeclared] at h
  split at h
  · -- a comment
    obtain ⟨⟨inside, rest'⟩, _, h⟩ := Option.bind_eq_some_iff.1 h
    simp only at h
    split at h
    · obtain ⟨rfl, _⟩ := Prod.mk.inj (Option.some.inj h)
      trivial
    · simp at h
  · -- a section that is taken as it is
    obtain ⟨s', _, h⟩ := Option.bind_eq_some_iff.1 h
    obtain ⟨⟨inside, rest'⟩, _, h⟩ := Option.bind_eq_some_iff.1 h
    simp only at h
    split at h
    · rename_i hlegal
      obtain ⟨rfl, _⟩ := Prod.mk.inj (Option.some.inj h)
      exact isLegal_of_verbatim (List.all_eq_true.1 hlegal)
    · simp at h

/-- An instruction holds nothing to keep. -/
theorem isSound_of_readInstruction {s rest : List Char} {m : Markup}
    (h : readInstruction s = some (m, rest)) : m.IsSound := by
  simp only [readInstruction] at h
  split at h
  · simp at h
  · obtain ⟨⟨inside, rest'⟩, _, h⟩ := Option.bind_eq_some_iff.1 h
    simp only at h
    split at h
    · obtain ⟨rfl, _⟩ := Prod.mk.inj (Option.some.inj h)
      trivial
    · simp at h

/-- The name of an end tag has a base without a colon. -/
theorem isSound_of_readEndTag {s rest : List Char} {m : Markup}
    (h : readEndTag s = some (m, rest)) : m.IsSound := by
  obtain ⟨⟨name, s'⟩, hname, h⟩ := Option.bind_eq_some_iff.1 h
  simp only at h
  split at h
  · obtain ⟨rfl, _⟩ := Prod.mk.inj (Option.some.inj h)
    exact QName.isPlainName_base_of_read hname
  · simp at h

/-- So has the name of a start tag, and that of an empty one. -/
theorem isSound_of_readTag {s rest : List Char} {m : Markup}
    (h : readTag s = some (m, rest)) : m.IsSound := by
  obtain ⟨⟨name, s'⟩, hname, h⟩ := Option.bind_eq_some_iff.1 h
  -- whether the tag closes its element makes no difference to its name
  obtain ⟨⟨attributes, closed, rest'⟩, _, e⟩ := Option.map_eq_some_iff.1 h
  obtain ⟨rfl, _⟩ := Prod.mk.inj e
  cases closed
  · exact QName.isPlainName_base_of_read hname
  · exact QName.isPlainName_base_of_read hname

/-- Character data stands for legal characters. -/
theorem isSound_of_readText {s rest : List Char} {m : Markup}
    (h : readText s = some (m, rest)) : m.IsSound := by
  simp only [readText] at h
  split at h
  · rename_i hlegal
    rw [Bool.and_eq_true] at hlegal
    -- the characters were checked as they stand, before any reference was resolved
    obtain ⟨chars, hchars, e⟩ := Option.map_eq_some_iff.1 h
    obtain ⟨rfl, _⟩ := Prod.mk.inj e
    exact isLegal_of_content? (List.all_eq_true.1 hlegal.1) hchars
  · simp at h

/-- Every part of a document that is read is sound. -/
theorem isSound_of_read {s rest : List Char} {m : Markup} (h : read s = some (m, rest)) :
    m.IsSound := by
  -- one case for each kind of markup, as the first characters tell it
  unfold read at h
  split at h
  · simp at h
  · exact isSound_of_readDeclared h
  · exact isSound_of_readInstruction h
  · exact isSound_of_readEndTag h
  · exact isSound_of_readTag h
  · exact isSound_of_readText h

end Markup

end BuildInjection.Xml
