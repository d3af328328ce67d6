import BuildInjection.Proofs.ConfigTree.Reload

/-!
# Trees that were read

Every tree that a reader makes out of a text has names without a colon, and values that are trimmed,
not empty and of legal characters (`isClean_of_parse?`).  The stack of open elements carries the
invariant from part to part of the document.
-/

namespace BuildInjection

namespace ConfigTree

/-- A tree as reading makes it. -/
def IsClean (t : ConfigTree) : Prop :=
  ∀ n ∈ t.nodes, Xml.isPlainName n.name = true ∧ ∀ v ∈ n.value, IsTidy v

/-- A tree is clean exactly if its top and all its children are. -/
theorem isClean_mk {name : String} {value : Option String} {children : List ConfigTree} :
    IsClean ⟨name, value, children⟩ ↔
      (Xml.isPlainName name = true ∧ ∀ v ∈ value, IsTidy v) ∧ ∀ t ∈ children, t.IsClean :=
  forall_nodes_mk (P := fun name value => Xml.isPlainName name = true ∧ ∀ v ∈ value, IsTidy v)

/-- A tidy value is not empty, so clean trees are sound. -/
theorem IsClean.isSound {t : ConfigTree} (h : t.IsClean) : t.IsSound := fun n hn =>
  ⟨(h n hn).1, fun hempty => ((h n hn).2 "" hempty).ne_empty rfl⟩

/-- Clean trees have names without a colon. -/
theorem IsClean.isNamed {t : ConfigTree} (h : t.IsClean) : t.IsNamed := h.isSound.isNamed

/-- Characters that are legal give a tidy value or none. -/
theorem isTidy_of_valueOfText {chars : List Char} (hlegal : ∀ c ∈ chars, Xml.isLegal c = true)
    {value : String} (h : valueOfText chars = some value) : IsTidy value := by
  unfold valueOfText at h
  split at h
  · simp at h
  · rename_i hblank
    obtain rfl := Option.some.inj h
    have hsub : (Text.trimChars chars).Sublist chars := trimEnds_sublist _ _
    -- trimming leaves something, trims only once, and takes characters away without adding any
    refine ⟨?_, ?_, ?_⟩
    · intro hempty
      have hnil := congrArg String.toList hempty
      rw [String.toList_ofList] at hnil
      exact hblank (List.all_eq_true.2 (trimEnds_eq_nil_iff.1 hnil))
    · rw [Text.trim, String.toList_ofList, Text.trimChars, Text.trimChars, trimEnds_trimEnds]
    · intro c hc
      rw [String.toList_ofList] at hc
      exact hlegal c (hsub.subset hc)

end ConfigTree

namespace Xml

open ConfigTree (ofElement)

/-- An open element out of which a clean tree will come. -/
structure OpenElement.IsClean (e : OpenElement) : Prop where
  name : isPlainName e.name.base = true
  text : ∀ c ∈ e.text, isLegal c = true
  children : ∀ child ∈ e.children, (ofElement child).IsClean

namespace OpenElement

variable {e : OpenElement}

/-- An element that has only begun. -/
theorem isClean_start {name : QName} (attributes : List Attribute)
    (hname : isPlainName name.base = true) : IsClean { name, attributes } where
  name := hname
  text := by simp
  children := by simp

/-- Legal text does not make an open element unclean. -/
theorem IsClean.addText (he : e.IsClean) {chars : List Char}
    (hchars : ∀ c ∈ chars, isLegal c = true) : (e.addText chars).IsClean where
  name := he.name
  text := by
    intro c hc
    rcases List.mem_append.1 hc with hc | hc
    · exact he.text c hc
    · exact hchars c hc
  children := he.children

/-- Nor does an element out of which a clean tree comes. -/
theorem IsClean.addChild (he : e.IsClean) {child : Element}
    (hchild : (ofElement child).IsClean) : (e.addChild child).IsClean where
  name := he.name
  text := he.text
  children := by
    intro c hc
    -- the children are held with the last one first
    rcases List.mem_cons.1 hc with rfl | hc
    · exact hchild
    · exact he.children c hc

/-- The element becomes a clean tree when its end tag has been read. -/
theorem IsClean.close (he : e.IsClean) : (ofElement e.close).IsClean := by
  rw [OpenElement.close, ofElement, ConfigTree.ofElements_eq_map, ConfigTree.isClean_mk]
  refine ⟨⟨he.name, fun v hv => ConfigTree.isTidy_of_valueOfText he.text hv⟩, ?_⟩
  intro t ht
  obtain ⟨child, hchild, rfl⟩ := List.mem_map.1 ht
  exact he.children child (List.mem_reverse.1 hchild)

end OpenElement

namespace Element

/-- An element without content becomes a clean tree. -/
theorem isClean_empty {name : QName} (attributes : List Attribute)
    (hname : isPlainName name.base = true) :
    (ofElement ⟨name, attributes, [], []⟩).IsClean :=
  (OpenElement.isClean_start attributes hname).close

/-- What is read inside clean open elements is clean. -/
theorem isClean_of_readContent {inner : OpenElement} {outer : List OpenElement}
    {s rest : List Char} {e : Element} (h : readContent inner outer s = some (e, rest))
    (hinner : inner.IsClean) (houter : ∀ o ∈ outer, o.IsClean) : (ofElement e).IsClean := by
  -- on the length of what is left to read, which each part makes shorter
  induction hlength : s.length using Nat.strongRecOn generalizing inner outer s with
  | _ n ih =>
    subst hlength
    cases hread : Markup.read s with
    | none =>
      rw [readContent_of_none hread] at h
      simp at h
    | some result =>
      obtain ⟨part, rest'⟩ := result
      have hless : rest'.length < s.length := Markup.length_of_read hread
      have hsound : part.IsSound := Markup.isSound_of_read hread
      rw [readContent_of_some hread] at h
      -- the rest is shorter, and the stack is still clean after the part
      cases part with
      | text chars => exact ih _ hless h (hinner.addText hsound) houter rfl
      | remark => exact ih _ hless h hinner houter rfl
      | emptyTag name attributes =>
        exact ih _ hless h (hinner.addChild (isClean_empty attributes hsound)) houter rfl
      -- the element that was open moves on to the stack
      | startTag name attributes =>
        refine ih _ hless h (OpenElement.isClean_start attributes hsound) ?_ rfl
        exact List.forall_mem_cons.2 ⟨hinner, houter⟩
      | endTag name =>
        simp only [goOn] at h
        split at h
        · cases outer with
          -- the outermost element has been closed, and it is the one that is read
          | nil =>
            obtain ⟨rfl, -⟩ := Prod.mk.inj (Option.some.inj h)
            exact hinner.close
          | cons next outer =>
            obtain ⟨hnext, houter⟩ := List.forall_mem_cons.1 houter
            exact ih _ hless h (hnext.addChild hinner.close) houter rfl
        · simp at h

/-- What is read as the root of a document becomes a clean tree. -/
theorem isClean_of_read {s rest : List Char} {e : Element} (h : read s = some (e, rest)) :
    (ofElement e).IsClean := by
  unfold read at h
  split at h
  · -- the root is an empty tag
    rename_i name attributes rest' hread
    obtain ⟨rfl, -⟩ := Prod.mk.inj (Option.some.inj h)
    exact isClean_empty attributes (Markup.isSound_of_read hread)
  · -- the root has content, and it is alone on the stack
    rename_i name attributes rest' hread
    have hname : isPlainName name.base = true := Markup.isSound_of_read hread
    exact isClean_of_readContent h (OpenElement.isClean_start attributes hname) (by simp)
  · simp at h

end Element

end Xml

/-- Every tree that is read from a text is clean. -/
theorem ConfigTree.isClean_of_parse? {s : String} {t : ConfigTree} (h : parse? s = some t) :
    t.IsClean := by
  obtain ⟨e, he, rfl⟩ := Option.map_eq_some_iff.1 h
  -- what stands before and after the root makes no difference to it
  obtain ⟨s', _, he⟩ := Option.bind_eq_some_iff.1 he
  obtain ⟨⟨e', rest⟩, hread, he⟩ := Option.bind_eq_some_iff.1 he
  simp only at he
  split at he
  · obtain rfl := Option.some.inj he
    exact Xml.Element.isClean_of_read hread
  · simp at he

end BuildInjection
