import BuildInjection.Proofs.Xml.Markup
import BuildInjection.Xml.Document

/-!
# Reading elements part by part

What the reader of elements does with the next part of a document, without its argument why it comes
to an end; and documents that are nothing but an element.
-/

namespace BuildInjection.Xml

/-! ## The next part -/

namespace Element

variable {inner : OpenElement} {outer : List OpenElement} {s rest : List Char}

/-- What comes of the rest of a document after its next part, which is added to the innermost
    element, opens one, or closes it. -/
def goOn (inner : OpenElement) (outer : List OpenElement) (rest : List Char) :
    Markup → Option (Element × List Char)
  | .text chars => readContent (inner.addText chars) outer rest
  | .remark => readContent inner outer rest
  | .emptyTag name attributes => readContent (inner.addChild ⟨name, attributes, [], []⟩) outer rest
  | .startTag name attributes => readContent { name, attributes } (inner :: outer) rest
  | .endTag name =>
    if name = inner.name then
      match outer with
      | [] => some (inner.close, rest)
      | next :: outer => readContent (next.addChild inner.close) outer rest
    else none

/-- Nothing is read where the next part cannot be read. -/
theorem readContent_of_none (h : Markup.read s = none) : readContent inner outer s = none := by
  rw [readContent]
  split
  · rfl
  · rename_i hsome
    rw [h] at hsome
    simp at hsome

/-- A part that is read goes into the innermost element. -/
theorem readContent_of_some {part : Markup} (h : Markup.read s = some (part, rest)) :
    readContent inner outer s = goOn inner outer rest part := by
  rw [readContent]
  split
  · rename_i hnone
    rw [h] at hnone
    simp at hnone
  · -- the part is the one that was read, whatever kind it is of
    rename_i part' rest' hsome
    rw [h] at hsome
    obtain ⟨rfl, rfl⟩ := Prod.mk.inj (Option.some.inj hsome)
    cases part <;> rfl

end Element

/-! ## Documents without a prolog -/

/-- What begins as a tag does not begin with white space. -/
theorem skipSpaces_tag (s : List Char) : skipSpaces ('<' :: s) = '<' :: s := by
  simp [skipSpaces, isSpace]

/-- An empty text has no remarks. -/
theorem skipRemarks_nil : skipRemarks [] = [] := by
  rw [skipRemarks]
  split
  · rename_i h
    cases h
  · rfl

/-- A text that begins with a tag has no remarks at its front. -/
theorem skipRemarks_tag {s rest : List Char} {part : Markup}
    (h : Markup.read ('<' :: s) = some (part, rest)) (hpart : part ≠ .remark) :
    skipRemarks ('<' :: s) = '<' :: s := by
  rw [skipRemarks]
  split
  · rename_i hremark
    rw [skipSpaces_tag, h] at hremark
    exact absurd (Prod.mk.inj (Option.some.inj hremark)).1 hpart
  · exact skipSpaces_tag s

/-- A document that begins with a tag is one element with nothing but remarks after it. -/
theorem Element.ofDocument?_tag {c : Char} (hc : c ≠ '?') {s rest : List Char} {part : Markup}
    (h : Markup.read ('<' :: c :: s) = some (part, rest)) (hpart : part ≠ .remark) :
    Element.ofDocument? ('<' :: c :: s) =
      (Element.read ('<' :: c :: s)).bind fun (e, rest) =>
        if (skipRemarks rest).isEmpty && e.isWellNamed [] then some e else none := by
  -- there is neither a byte order mark nor a declaration
  have hprolog : skipProlog ('<' :: c :: s) = some ('<' :: c :: s) := by
    have hmark : ¬ ('<' :: c :: s).head? = some '\ufeff' := by simp
    have hskip : Text.skip? ['<', '?', 'x', 'm', 'l', ' '] ('<' :: c :: s) = none := by
      rw [Text.skip?, if_neg]
      simp [Ne.symm hc]
    simp only [skipProlog, if_neg hmark, hskip]
  rw [Element.ofDocument?, hprolog, Option.bind_some, skipRemarks_tag h hpart]

end BuildInjection.Xml
