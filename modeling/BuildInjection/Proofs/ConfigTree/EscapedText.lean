import Mathlib.Data.List.Chain
import BuildInjection.ConfigTree.Printer
import BuildInjection.Proofs.Xml.CharacterData
import BuildInjection.Xml.Markup

/-!
# Reading back a value that was escaped

A written value holds no tag, and its references stand for what was escaped.  What is read back is
the value up to its ends of lines (`read_escape`): a carriage return becomes a line feed unless the
next character is written as a reference (`readBack_eq_iff`).
-/

namespace BuildInjection.ConfigTree

open Xml (Piece)

/-! ## What an escaped character is read as -/

/-- Whether a character of a value is written as a reference. -/
def isEscaped (c : Char) : Bool := c = '<' || c = '>' || c = '&' || c = '"'

/-- The piece as which a character of a value is read back. -/
def pieceOf (c : Char) : Piece := if isEscaped c then .reference c else .plain c

/-- A character is one of the four that are escaped, or it is written plainly. -/
theorem escapeChar_cases (c : Char) :
    (c = '<' ∨ c = '>' ∨ c = '&' ∨ c = '"') ∨
      isEscaped c = false ∧ escapeChar c = [c] := by
  by_cases h₁ : c = '<'
  · exact .inl (.inl h₁)
  by_cases h₂ : c = '>'
  · exact .inl (.inr (.inl h₂))
  by_cases h₃ : c = '&'
  · exact .inl (.inr (.inr (.inl h₃)))
  by_cases h₄ : c = '"'
  · exact .inl (.inr (.inr (.inr h₄)))
  · exact .inr (by simp [isEscaped, escapeChar, h₁, h₂, h₃, h₄])

/-- A written character holds no angle bracket. -/
theorem ne_bracket_of_mem_escapeChar {c d : Char} (h : d ∈ escapeChar c) : d ≠ '<' ∧ d ≠ '>' := by
  -- as one computation, so that each of the four references is closed by evaluating it
  have hall : (escapeChar c).all (fun d => d != '<' && d != '>') = true := by
    rcases escapeChar_cases c with (rfl | rfl | rfl | rfl) | ⟨hc, hplain⟩
    · rfl
    · rfl
    · rfl
    · rfl
    · simp only [isEscaped, Bool.or_eq_false_iff, decide_eq_false_iff_not] at hc
      simp [hplain, hc.1.1.1, hc.1.1.2]
  simpa using List.all_eq_true.1 hall d h

/-- A character is written with legal characters exactly if it is legal itself. -/
theorem all_isLegal_escapeChar (c : Char) : (escapeChar c).all Xml.isLegal = Xml.isLegal c := by
  rcases escapeChar_cases c with (rfl | rfl | rfl | rfl) | ⟨_, hplain⟩
  · decide
  · decide
  · decide
  · decide
  · rw [hplain, List.all_cons, List.all_nil, Bool.and_true]

/-- A written character is read as one piece. -/
theorem piecesFrom_escapeChar (c : Char) (s : List Char) :
    Xml.piecesFrom none (escapeChar c ++ s) = (Xml.piecesFrom none s).map (pieceOf c :: ·) := by
  rcases escapeChar_cases c with (rfl | rfl | rfl | rfl) | ⟨hc, hplain⟩
  · rfl
  · rfl
  · rfl
  · rfl
  · -- only an ampersand would open a reference
    have hamp : c ≠ '&' := by
      rintro rfl
      exact absurd hc (by decide)
    rw [hplain, List.singleton_append, Xml.piecesFrom]
    simp [hamp, pieceOf, hc]

/-! ## Whole values -/

/-- The characters that come back when a written value is read. -/
def readBack (value : String) : List Char := Xml.unify (value.toList.map pieceOf)

/-- A written value holds no angle bracket. -/
theorem ne_bracket_of_mem_escape (value : String) {d : Char} (h : d ∈ escape value) :
    d ≠ '<' ∧ d ≠ '>' := by
  obtain ⟨c, _, hd⟩ := List.mem_flatMap.1 h
  exact ne_bracket_of_mem_escapeChar hd

/-- A value is written with legal characters exactly if it consists of them. -/
theorem all_isLegal_escape (value : String) :
    (escape value).all Xml.isLegal = value.toList.all Xml.isLegal := by
  rw [escape, List.all_flatMap]
  simp only [all_isLegal_escapeChar]

/-- A written value is read as one piece for each of its characters. -/
theorem pieces?_escape (value : String) :
    Xml.pieces? (escape value) = some (value.toList.map pieceOf) := by
  unfold Xml.pieces? escape
  -- every character is read on its own, since no reference is left open after it
  induction value.toList with
  | nil => rfl
  | cons c cs ih => rw [List.flatMap_cons, piecesFrom_escapeChar, ih]; rfl

/-- No text in which there is no closing bracket ends a section. -/
theorem upTo?_eq_none {s : List Char} (h : ∀ d ∈ s, d ≠ '>') :
    Text.upTo? [']', ']', '>'] s = none := by
  cases hup : Text.upTo? [']', ']', '>'] s with
  | none => rfl
  | some found =>
    -- the mark that was found would end in a closing bracket
    obtain ⟨before, rest⟩ := found
    have hs := Text.eq_append_of_upTo? hup
    exact absurd rfl (h '>' (by rw [hs]; simp))

/-- Text that is a written value goes up to the next tag, and it is read if its characters are
    legal. -/
theorem readText_escape (value : String) (rest : List Char) :
    Xml.Markup.readText (escape value ++ '<' :: rest) =
      if value.toList.all Xml.isLegal then some (.text (readBack value), '<' :: rest) else none := by
  have hplain : ∀ d ∈ escape value, (d != '<') = true := by
    intro d hd
    simpa using (ne_bracket_of_mem_escape value hd).1
  -- the text is all that stands before the tag, since a written value has no opening bracket
  have htake : (escape value ++ '<' :: rest).takeWhile (· != '<') = escape value := by
    rw [List.takeWhile_append_of_pos hplain]
    simp
  have hdrop : (escape value ++ '<' :: rest).dropWhile (· != '<') = '<' :: rest := by
    rw [List.dropWhile_append_of_pos hplain]
    simp
  -- nor does it hold the end of a section, which text must not
  have hend := upTo?_eq_none fun d hd => (ne_bracket_of_mem_escape value hd).2
  simp only [Xml.Markup.readText, htake, hdrop, all_isLegal_escape, hend, Option.isNone_none,
    Bool.and_true, Xml.content?, pieces?_escape, Option.map_some]
  rfl

/-- A written value that is not empty is read up to the tag after it. -/
theorem read_escape {value : String} (hne : value ≠ "") (rest : List Char) :
    Xml.Markup.read (escape value ++ '<' :: rest) =
      if value.toList.all Xml.isLegal then some (.text (readBack value), '<' :: rest) else none := by
  rw [← readText_escape]
  -- there is a first character, and it begins no tag
  have hpos : escape value ≠ [] := by
    have hcs : value.toList ≠ [] := by simpa using hne
    obtain ⟨c, cs, hcons⟩ := List.exists_cons_of_ne_nil hcs
    rw [escape, hcons, List.flatMap_cons]
    rcases escapeChar_cases c with (rfl | rfl | rfl | rfl) | ⟨_, hplain⟩
    · exact List.cons_ne_nil _ _
    · exact List.cons_ne_nil _ _
    · exact List.cons_ne_nil _ _
    · exact List.cons_ne_nil _ _
    · rw [hplain]
      exact List.cons_ne_nil _ _
  obtain ⟨d, ds, hcons⟩ := List.exists_cons_of_ne_nil hpos
  have hd : d ≠ '<' := (ne_bracket_of_mem_escape value (by rw [hcons]; simp)).1
  rw [hcons, List.cons_append]
  -- so the reader takes the branch of text
  unfold Xml.Markup.read
  split
  all_goals simp_all

/-! ## Ends of lines -/

/-- What comes back is never longer than the value. -/
theorem length_readBack_le (value : String) : (readBack value).length ≤ value.toList.length := by
  have hle := Xml.length_unifyFrom_le false false (value.toList.map pieceOf)
  rw [List.length_map] at hle
  exact hle

/-- Every carriage return stands right before a character that is written as a reference. -/
def KeepsReturns (cs : List Char) : Prop := cs.IsChain fun a b => a = '\r' → isEscaped b = true

instance (cs : List Char) : Decidable (KeepsReturns cs) :=
  inferInstanceAs (Decidable (List.IsChain _ cs))

/-- Only a carriage return asks for something to stand after it. -/
theorem keepsReturns_cons_of_ne {c : Char} (hc : c ≠ '\r') (cs : List Char) :
    KeepsReturns (c :: cs) ↔ KeepsReturns cs := by
  cases cs with
  | nil => simp [KeepsReturns]
  | cons d ds => simp [KeepsReturns, hc]

/-- A carriage return asks for a character that is written as a reference. -/
theorem keepsReturns_return_cons (c : Char) (cs : List Char) :
    KeepsReturns ('\r' :: c :: cs) ↔ isEscaped c = true ∧ KeepsReturns (c :: cs) := by
  simp [KeepsReturns]

/-- Where there is no carriage return there is none to keep. -/
theorem keepsReturns_of_not_mem {cs : List Char} (h : '\r' ∉ cs) : KeepsReturns cs := by
  induction cs with
  | nil => exact List.isChain_nil
  | cons c cs ih =>
    rw [List.mem_cons, not_or] at h
    exact (keepsReturns_cons_of_ne (Ne.symm h.1) cs).2 (ih h.2)

/-- Text comes through the unifying of line ends exactly if it keeps its carriage returns.  The
    second part is about text after a carriage return that is held back. -/
theorem unifyFrom_map_pieceOf_eq_iff {cs : List Char} (hlast : cs.getLast? ≠ some '\r') :
    (∀ asIs, Xml.unifyFrom false asIs (cs.map pieceOf) = cs ↔ KeepsReturns cs) ∧
      (Xml.unifyFrom true false (cs.map pieceOf) = '\r' :: cs ↔ KeepsReturns ('\r' :: cs)) := by
  -- the two states of the reader lead to one another, so both are in the induction
  induction cs with
  | nil => simp [Xml.unifyFrom, KeepsReturns]
  | cons c cs ih =>
    have hlast' : cs.getLast? ≠ some '\r' := by
      cases cs with
      | nil => simp
      | cons d ds => simpa using hlast
    obtain ⟨hfree, hheld⟩ := ih hlast'
    rw [List.map_cons, keepsReturns_return_cons]
    by_cases hc : isEscaped c = true
    · -- a reference keeps what stands before it and what it stands for
      have hne : c ≠ '\r' := by
        rintro rfl
        exact absurd hc (by decide)
      rw [keepsReturns_cons_of_ne hne, pieceOf, if_pos hc, ← hfree true]
      exact ⟨fun asIs => by simp [Xml.unifyFrom], by simp [Xml.unifyFrom, hc]⟩
    · rw [pieceOf, if_neg hc]
      refine ⟨fun asIs => ?_, ?_⟩
      · by_cases hr : c = '\r'
        · -- a carriage return is held back until it is known what follows it
          subst hr
          have hcs : (cs.map pieceOf).isEmpty = false := by
            cases cs with
            | nil => exact absurd rfl hlast
            | cons d ds => rfl
          rw [← hheld]
          cases asIs with
          | true => rw [Xml.unifyFrom_plain_asIs, if_pos rfl]
          | false => rw [Xml.unifyFrom_plain, if_pos rfl, hcs]; rfl
        · -- any other character is passed on at once, in either state
          rw [keepsReturns_cons_of_ne hr, ← hfree false]
          cases asIs with
          | true => rw [Xml.unifyFrom_plain_asIs, if_neg hr]; simp
          | false => rw [Xml.unifyFrom_plain, if_neg hr]; simp
      · -- a carriage return before a plain character becomes a line feed
        rw [Xml.unifyFrom_plain, if_pos rfl]
        simp [hc]

/-- A value without a carriage return at its end comes back as it is exactly if every carriage
    return in it stands right before an escaped character. -/
theorem readBack_eq_iff {value : String} (hlast : value.toList.getLast? ≠ some '\r') :
    readBack value = value.toList ↔ KeepsReturns value.toList :=
  (unifyFrom_map_pieceOf_eq_iff hlast).1 false

/-- A value without carriage returns comes back as it is. -/
theorem readBack_of_not_mem {value : String} (h : '\r' ∉ value.toList) :
    readBack value = value.toList := by
  have hlast : value.toList.getLast? ≠ some '\r' := fun e => h (List.mem_of_getLast? e)
  exact (readBack_eq_iff hlast).2 (keepsReturns_of_not_mem h)

end BuildInjection.ConfigTree
