import BuildInjection.ConfigTree.Reader
import BuildInjection.Proofs.ConfigTree.EscapedText
import BuildInjection.Proofs.ConfigTree.Nodes
import BuildInjection.Proofs.Xml.Element

/-!
# Written trees read back

The written form of a tree whose names have no colon is read exactly if all its values consist of
legal characters, and what is read is the tree with every value read back on its own
(`parse?_render_eq`).  The proof follows the tree: `readContent_renderChars` says what one written
tree does to the element in which it stands.
-/

namespace BuildInjection.ConfigTree

open Xml (Element OpenElement Markup)

/-! ## The element as which a tree is written -/

/-- The characters that come back when an optional value is read. -/
def textOf : Option String → List Char
  | none => []
  | some value => readBack value

mutual

/-- The element that is read where a tree is written. -/
def toElement : ConfigTree → Element
  | ⟨name, value, children⟩ => ⟨⟨"", name⟩, [], textOf value, toElements children⟩

/-- The elements that are read where several trees are written. -/
def toElements : List ConfigTree → List Element
  | [] => []
  | t :: ts => toElement t :: toElements ts

end

/-- Several trees are written as one element each. -/
theorem toElements_eq_map (ts : List ConfigTree) : toElements ts = ts.map toElement := by
  induction ts with
  | nil => rw [toElements]; rfl
  | cons t ts ih => rw [toElements, ih]; rfl

/-- The element of a tree has its name, its value and an element for each child. -/
theorem toElement_mk (name : String) (value : Option String) (children : List ConfigTree) :
    toElement ⟨name, value, children⟩ =
      ⟨⟨"", name⟩, [], textOf value, children.map toElement⟩ := by
  rw [toElement, toElements_eq_map]

/-- Whether the value of a node, if it has one, consists of legal characters. -/
def hasLegalValue (t : ConfigTree) : Bool := t.value.all fun v => v.toList.all Xml.isLegal

/-! ## Reading what was written -/

/-- A written value goes into the element in which it stands. -/
theorem readContent_escapeValue (inner : OpenElement) (outer : List OpenElement)
    (value : Option String) (rest : List Char) :
    Element.readContent inner outer (escapeValue value ++ '<' :: rest) =
      if value.all (fun v => v.toList.all Xml.isLegal) then
        Element.readContent (inner.addText (textOf value)) outer ('<' :: rest)
      else none := by
  have hempty : inner.addText [] = inner := by simp [OpenElement.addText]
  cases value with
  | none => simp [escapeValue, textOf, hempty]
  | some v =>
    by_cases hv : v = ""
    · -- an empty value writes nothing, and it is the same as no text
      subst hv
      have hback : readBack "" = [] := rfl
      simp [escapeValue, escape, textOf, hback, hempty]
    · -- any other value is one text, up to the tag after it
      have hread := read_escape hv rest
      show Element.readContent inner outer (escape v ++ '<' :: rest) = _
      simp only [Option.all_some]
      by_cases hlegal : v.toList.all Xml.isLegal = true
      · rw [if_pos hlegal] at hread ⊢
        rw [Element.readContent_of_some hread]
        rfl
      · rw [if_neg hlegal] at hread ⊢
        exact Element.readContent_of_none hread

/-- The written form of a node after its start tag. -/
def renderBody (t : ConfigTree) : List Char :=
  escapeValue t.value ++ renderAll t.children ++ '<' :: '/' :: t.name.toList ++ ['>']

/-- A node with neither value nor children is written as an empty-element tag, and any other between
    a start tag and an end tag. -/
theorem renderChars_eq (t : ConfigTree) :
    renderChars t =
      if t.value = none ∧ t.children = [] then '<' :: t.name.toList ++ ['/', '>']
      else '<' :: t.name.toList ++ '>' :: renderBody t := by
  obtain ⟨name, value, children⟩ := t
  cases value with
  | none =>
    cases children with
    | nil => simp [renderChars]
    | cons t ts => simp [renderChars, renderBody]
  | some v => simp [renderChars, renderBody]

/-- What follows the value of a node begins with a tag, be it the one of a child or its own end. -/
theorem exists_renderAll_append_eq_cons (ts : List ConfigTree) (s : List Char) :
    ∃ s', renderAll ts ++ '<' :: s = '<' :: s' := by
  cases ts with
  | nil => exact ⟨s, by rw [renderAll]; rfl⟩
  | cons t ts =>
    rw [renderAll, renderChars_eq]
    split
    · exact ⟨_, rfl⟩
    · exact ⟨_, rfl⟩

/-- Go on after an element has been read: it is a child of the innermost open element, or all there
    is to read. -/
def resume (outer : List OpenElement) (e : Element) (rest : List Char) :
    Option (Element × List Char) :=
  match outer with
  | [] => some (e, rest)
  | next :: outer => Element.readContent (next.addChild e) outer rest

/-- After its start tag a node is read to its end, if all values in it can be read. -/
def ReadsBody (t : ConfigTree) : Prop :=
  ∀ (outer : List OpenElement) (rest : List Char),
    Element.readContent { name := ⟨"", t.name⟩, attributes := [] } outer (renderBody t ++ rest) =
      if t.nodes.all hasLegalValue then resume outer t.toElement rest else none

/-- A node without value and children has nothing that could not be read. -/
theorem toElement_of_empty {t : ConfigTree} (h : t.value = none ∧ t.children = []) :
    t.toElement = ⟨⟨"", t.name⟩, [], [], []⟩ ∧ t.nodes.all hasLegalValue = true := by
  obtain ⟨name, value, children⟩ := t
  obtain ⟨rfl, rfl⟩ := h
  exact ⟨by rw [toElement_mk]; rfl, by simp [hasLegalValue]⟩

/-- A written tree is one more child of the element in which it stands. -/
theorem readContent_renderChars {t : ConfigTree} (hname : Xml.isPlainName t.name = true)
    (hbody : t.ReadsBody) (inner : OpenElement) (outer : List OpenElement) (rest : List Char) :
    Element.readContent inner outer (renderChars t ++ rest) =
      if t.nodes.all hasLegalValue then
        Element.readContent (inner.addChild t.toElement) outer rest
      else none := by
  rw [renderChars_eq]
  split
  · -- an empty-element tag is the whole of the child
    rename_i hempty
    obtain ⟨helement, hlegal⟩ := toElement_of_empty hempty
    have hread := Markup.read_emptyTag hname rest
    have hnext : Element.readContent inner outer _ = Element.goOn inner outer _ _ :=
      Element.readContent_of_some hread
    rw [if_pos hlegal, helement]
    simpa [Element.goOn] using hnext
  · -- a start tag opens the child, and its body closes it again
    have hread := Markup.read_startTag hname (renderBody t ++ rest)
    have hnext : Element.readContent inner outer _ = Element.goOn inner outer _ _ :=
      Element.readContent_of_some hread
    rw [Element.goOn, hbody] at hnext
    simpa [resume] using hnext

/-- Written trees are more children of the element in which they stand, in their order. -/
theorem readContent_renderAll {ts : List ConfigTree}
    (hts : ∀ t ∈ ts, Xml.isPlainName t.name = true ∧ t.ReadsBody) (inner : OpenElement)
    (outer : List OpenElement) (rest : List Char) :
    Element.readContent inner outer (renderAll ts ++ rest) =
      if (nodesOfAll ts).all hasLegalValue then
        Element.readContent
          { inner with children := (ts.map toElement).reverse ++ inner.children } outer rest
      else none := by
  induction ts generalizing inner with
  | nil =>
    rw [renderAll]
    rfl
  | cons t ts ih =>
    -- the first tree goes into the element, and the others go into what it has become
    obtain ⟨hname, hbody⟩ := hts t List.mem_cons_self
    have hrest := ih fun u hu => hts u (List.mem_cons_of_mem t hu)
    rw [renderAll, List.append_assoc, readContent_renderChars hname hbody, hrest]
    rw [nodesOfAll_cons, List.all_append]
    by_cases ht : t.nodes.all hasLegalValue = true
    · simp [ht, OpenElement.addChild]
    · simp [ht]

/-- Every tree whose names have no colon is read to its end. -/
theorem readsBody {t : ConfigTree} (ht : t.IsNamed) : t.ReadsBody := by
  induction t with
  | mk name value children ih =>
    intro outer rest
    obtain ⟨hname, hbelow⟩ := isNamed_mk.1 ht
    have hchildren : ∀ t ∈ children, Xml.isPlainName t.name = true ∧ t.ReadsBody :=
      fun t hmem => ⟨hbelow t hmem t t.self_mem_nodes, ih t hmem (hbelow t hmem)⟩
    -- the value, the children and the end tag are read one after the other
    obtain ⟨s, hs⟩ := exists_renderAll_append_eq_cons children ('/' :: (name.toList ++ '>' :: rest))
    have hsplit : renderBody ⟨name, value, children⟩ ++ rest = escapeValue value ++ '<' :: s := by
      rw [← hs]
      simp [renderBody]
    have hend := Markup.read_endTag hname rest
    rw [hsplit, readContent_escapeValue, ← hs, readContent_renderAll hchildren]
    rw [Element.readContent_of_some hend, toElement_mk, nodes_mk, List.all_cons]
    -- an illegal character anywhere ends the reading
    by_cases hvalue : value.all (fun v => v.toList.all Xml.isLegal) = true
    · by_cases hall : (nodesOfAll children).all hasLegalValue = true
      · simp only [hasLegalValue, hvalue, hall, Bool.and_self, if_true, OpenElement.addText,
          Element.goOn, OpenElement.close, List.nil_append, List.append_nil, List.reverse_reverse]
        rfl
      · simp [hasLegalValue, hvalue, hall]
    · simp [hasLegalValue, hvalue]

/-! ## Whole documents -/

/-- The element of a tree needs no declaration of a qualifier. -/
theorem isWellNamed_toElement (t : ConfigTree) (scope : Xml.Scope) :
    t.toElement.isWellNamed scope = true := by
  induction t with
  | mk name value children ih =>
    -- the scope is the same for the children, because there are no attributes
    have hall : Xml.allWellNamed scope (children.map toElement) = true := by
      clear value name
      induction children with
      | nil => rw [List.map_nil, Xml.allWellNamed]
      | cons t ts ihts =>
        rw [List.map_cons, Xml.allWellNamed, ih t List.mem_cons_self, Bool.true_and]
        exact ihts fun u hu => ih u (List.mem_cons_of_mem t hu)
    have henter : scope.enter [] = scope := rfl
    rw [toElement_mk, Xml.Element.isWellNamed, henter, hall]
    simp [Xml.declarationsAllowed, Xml.declarations, Xml.Scope.admitsElement,
      Xml.Scope.admitsAttributes, Xml.plainAttributes]

/-- The value that is read where a value is written. -/
def reread (value : String) : Option String := valueOfText (readBack value)

/-- Several elements become one node each. -/
theorem ofElements_eq_map (es : List Element) : ofElements es = es.map ofElement := by
  induction es with
  | nil => rw [ofElements]; rfl
  | cons e es ih => rw [ofElements, ih]; rfl

/-- The node of the element of a tree is the tree with its values read back. -/
theorem ofElement_toElement (t : ConfigTree) : ofElement t.toElement = t.mapValues reread := by
  induction t with
  | mk name value children ih =>
    have hchildren : (children.map toElement).map ofElement = children.map (mapValues reread) := by
      rw [List.map_map]
      exact List.map_congr_left ih
    rw [toElement_mk, ofElement, ofElements_eq_map, mapValues_mk, hchildren]
    cases value <;> rfl

/-- The element of a written tree. -/
theorem ofDocument?_renderChars {t : ConfigTree} (ht : t.IsNamed) :
    Element.ofDocument? (renderChars t) =
      if t.nodes.all hasLegalValue then some t.toElement else none := by
  have hname := ht t t.self_mem_nodes
  obtain ⟨c, cs, hcs, hstart⟩ := Xml.exists_cons_of_isPlainName hname
  -- the text does not begin with a declaration
  have hc : c ≠ '?' := by
    rintro rfl
    exact absurd hstart (by decide)
  rw [renderChars_eq]
  split
  · -- the whole text is one empty tag
    rename_i hempty
    obtain ⟨helement, hlegal⟩ := toElement_of_empty hempty
    have hread := Markup.read_emptyTag hname []
    have hwell := isWellNamed_toElement t []
    rw [hcs, List.cons_append] at hread
    have hdoc := Element.ofDocument?_tag hc hread (by simp)
    rw [Element.read, hread] at hdoc
    rw [if_pos hlegal]
    rw [helement] at hwell ⊢
    simpa [hcs, hwell, Xml.skipRemarks_nil] using hdoc
  · -- the start tag opens an element in which the rest of the node is read
    have hread := Markup.read_startTag hname (renderBody t)
    have hbody := readsBody ht [] []
    have hwell := isWellNamed_toElement t []
    rw [hcs, List.cons_append] at hread
    have hdoc := Element.ofDocument?_tag hc hread (by simp)
    rw [List.append_nil] at hbody
    rw [Element.read, hread] at hdoc
    simp only [hbody] at hdoc
    by_cases hlegal : t.nodes.all hasLegalValue = true
    · rw [if_pos hlegal] at hdoc ⊢
      simpa [hcs, resume, hwell, Xml.skipRemarks_nil] using hdoc
    · rw [if_neg hlegal] at hdoc ⊢
      simpa [hcs] using hdoc

/-- A written tree can be read exactly if all values in it consist of legal characters, and what is
    read is the tree with its values read back. -/
theorem parse?_render_eq {t : ConfigTree} (ht : t.IsNamed) :
    parse? t.render = if t.nodes.all hasLegalValue then some (t.mapValues reread) else none := by
  rw [parse?, render, String.toList_ofList, ofDocument?_renderChars ht, ← ofElement_toElement]
  split <;> rfl

end BuildInjection.ConfigTree
