import BuildInjection.Cut
import BuildInjection.Xml.Characters

/-!
# Qualified names

A name of an element or an attribute: a base, with a qualifier before a colon or without one.
-/

namespace BuildInjection.Xml

/-- A name with its qualifier, which is empty where none is written. -/
structure QName where
  qualifier : String := ""
  base : String
deriving DecidableEq, Repr, Inhabited

namespace QName

/-- Whether a part of a qualified name begins as a name does. -/
def beginsName : List Char → Bool
  | [] => false
  | c :: _ => isNameStart c

/-- The qualified name that some name characters spell.  There is at most one colon, the base is
    never empty, and each part begins as a name does. -/
def ofChars? (word : List Char) : Option QName :=
  match cut (· = ':') word with
  | [base] => if beginsName base then some ⟨"", String.ofList base⟩ else none
  | [qualifier, base] =>
    -- an empty qualifier is taken for none
    if (qualifier.isEmpty || beginsName qualifier) && beginsName base then
      some ⟨String.ofList qualifier, String.ofList base⟩
    else none
  | _ => none

/-- Read a qualified name: the name characters as far as they go. -/
def read (s : List Char) : Option (QName × List Char) :=
  (ofChars? (s.takeWhile isNameChar)).map (·, s.dropWhile isNameChar)

/-- No name is spelled by nothing. -/
theorem ofChars?_nil : ofChars? [] = none := rfl

/-- Reading a name takes at least one character. -/
theorem length_of_read {s rest : List Char} {n : QName} (h : read s = some (n, rest)) :
    rest.length < s.length := by
  obtain ⟨n', hn, e⟩ := Option.map_eq_some_iff.1 h
  obtain ⟨rfl, rfl⟩ := Prod.mk.inj e
  -- at least one character was taken, since no name is empty
  have hs : s.takeWhile isNameChar ≠ [] := by
    intro e
    rw [e, ofChars?_nil] at hn
    simp at hn
  have hl : (s.takeWhile isNameChar).length + (s.dropWhile isNameChar).length = s.length := by
    rw [← List.length_append, List.takeWhile_append_dropWhile]
  have := List.length_pos_iff.2 hs
  omega

end QName

end BuildInjection.Xml
