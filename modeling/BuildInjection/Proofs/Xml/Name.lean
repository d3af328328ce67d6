import BuildInjection.Proofs.Cut
import BuildInjection.Xml.Name

/-!
# Names without a colon

A name without a colon is read back as it was written, up to the first character that is no part of
a name (`QName.read_plain`).  The base of every name that is read is such a name
(`isPlainName_base_of_read`), whatever its qualifier is.
-/

namespace BuildInjection.Xml

/-- Whether a text is a name of XML without a colon. -/
def isPlainName (s : String) : Bool :=
  QName.beginsName s.toList && s.toList.all fun c => isNameChar c && c != ':'

/-- A name begins with a character that may begin one and consists of name characters. -/
theorem isPlainName_iff {s : String} :
    isPlainName s = true ↔
      QName.beginsName s.toList = true ∧ ∀ c ∈ s.toList, isNameChar c = true ∧ c ≠ ':' := by
  simp [isPlainName]

/-- The first character of a name, and what follows it. -/
theorem exists_cons_of_isPlainName {s : String} (h : isPlainName s = true) :
    ∃ c cs, s.toList = c :: cs ∧ isNameStart c = true := by
  obtain ⟨hbegin, _⟩ := isPlainName_iff.1 h
  cases hs : s.toList with
  | nil => rw [hs] at hbegin; cases hbegin
  | cons c cs =>
    rw [hs] at hbegin
    exact ⟨c, cs, rfl, hbegin⟩

namespace QName

/-- A name without a colon spells the qualified name without a qualifier. -/
theorem ofChars?_plain {s : String} (h : isPlainName s = true) :
    ofChars? s.toList = some ⟨"", s⟩ := by
  obtain ⟨hbegin, hall⟩ := isPlainName_iff.1 h
  have hcut : cut (· = ':') s.toList = [s.toList] :=
    cut_eq_singleton fun c hc => by simpa using (hall c hc).2
  rw [ofChars?, hcut]
  simp [hbegin]

/-- A name is read up to the first character that is no part of one. -/
theorem read_plain {s : String} (h : isPlainName s = true) {c : Char}
    (hc : isNameChar c = false) (rest : List Char) :
    read (s.toList ++ c :: rest) = some (⟨"", s⟩, c :: rest) := by
  have hall : ∀ a ∈ s.toList, isNameChar a = true := fun a ha => ((isPlainName_iff.1 h).2 a ha).1
  rw [read, List.takeWhile_append_of_pos hall, List.dropWhile_append_of_pos hall]
  -- the character after the name is where the reading ends
  rw [List.takeWhile_cons, List.dropWhile_cons]
  simp [hc, ofChars?_plain h]

/-- A piece of a word is a plain name if it begins as a name does. -/
theorem isPlainName_of_mem_cut {word piece : List Char}
    (hword : ∀ c ∈ word, isNameChar c = true) (hpiece : piece ∈ cut (· = ':') word)
    (hbegin : beginsName piece = true) : isPlainName (String.ofList piece) = true := by
  rw [isPlainName_iff, String.toList_ofList]
  refine ⟨hbegin, fun c hc => ⟨hword c (mem_of_mem_cut hpiece hc), ?_⟩⟩
  simpa using isSep_eq_false_of_mem_cut hpiece hc

/-- The base of a qualified name is a name without a colon. -/
theorem isPlainName_base_of_ofChars? {word : List Char} {n : QName}
    (hword : ∀ c ∈ word, isNameChar c = true) (h : ofChars? word = some n) :
    isPlainName n.base = true := by
  unfold ofChars? at h
  split at h
  · -- one piece is the base itself
    rename_i base hcut
    split at h
    · rename_i hbegin
      obtain rfl := Option.some.inj h
      exact isPlainName_of_mem_cut hword (by rw [hcut]; exact List.mem_singleton_self base) hbegin
    · simp at h
  · -- of two pieces the second is the base
    rename_i qualifier base hcut
    split at h
    · rename_i hbegin
      obtain rfl := Option.some.inj h
      rw [Bool.and_eq_true] at hbegin
      exact isPlainName_of_mem_cut hword (by rw [hcut]; simp) hbegin.2
    · simp at h
  · simp at h

/-- The base of a name that was read is a name without a colon. -/
theorem isPlainName_base_of_read {s rest : List Char} {n : QName}
    (h : read s = some (n, rest)) : isPlainName n.base = true := by
  obtain ⟨n', hn, e⟩ := Option.map_eq_some_iff.1 h
  obtain ⟨rfl, rfl⟩ := Prod.mk.inj e
  refine isPlainName_base_of_ofChars? ?_ hn
  -- what was taken from the text are the characters of a name
  intro c hc
  exact List.mem_takeWhile_imp hc

end QName

end BuildInjection.Xml
