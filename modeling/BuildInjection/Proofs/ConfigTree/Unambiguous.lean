import BuildInjection.Proofs.ConfigTree.RoundTrip

/-!
# No two trees are written alike

The written form of a tree tells where the tree ends, so that two trees which begin the same text
are the same tree with the same rest (`renderChars_append_inj`).  Nothing is asked of the values but
that they are not empty: what the reader would trim or refuse is told apart in the text as well
(`render_eq_render_iff`).  A name ends at the first character that is none of a name, a value at the
first angle bracket, and a list of children at the first end tag.
-/

namespace BuildInjection

/-- Whether a text is a name of XML, with a colon in it or without one. -/
def Xml.isName (s : String) : Bool := QName.beginsName s.toList && s.toList.all isNameChar

/-- A name of XML begins as a name does and goes on with its characters. -/
theorem Xml.isName_iff {s : String} :
    isName s = true ↔
      QName.beginsName s.toList = true ∧ ∀ c ∈ s.toList, isNameChar c = true := by
  simp [isName]

/-- A name is told apart from what follows it by the first character that is no part of a name. -/
theorem Xml.name_append_inj {name name' : String} (hname : isName name = true)
    (hname' : isName name' = true) {c c' : Char} {s s' : List Char} (hc : isNameChar c = false)
    (hc' : isNameChar c' = false) (h : name.toList ++ c :: s = name'.toList ++ c' :: s') :
    name = name' ∧ c = c' ∧ s = s' := by
  -- to the list lemma, what separates is any character that is none of a name
  have hsep : ∀ {n : String}, isName n = true → ∀ d ∈ n.toList, (!isNameChar d) = false := by
    intro n hn d hd
    rw [(isName_iff.1 hn).2 d hd]
    rfl
  obtain ⟨hchars, hmark, hrest⟩ :=
    append_cons_inj (hsep hname) (hsep hname') (by simp [hc]) (by simp [hc']) h
  exact ⟨String.toList_inj.1 hchars, hmark, hrest⟩

namespace ConfigTree

/-! ## Values -/

/-- A character is known from the piece as which it is read. -/
theorem pieceOf_injective : Function.Injective pieceOf := by
  intro c d h
  unfold pieceOf at h
  split at h <;> split at h <;> simp_all

/-- Every value has an escaped form of its own. -/
theorem escape_injective : Function.Injective escape := by
  intro v w h
  have hpieces := congrArg Xml.pieces? h
  rw [pieces?_escape, pieces?_escape, Option.some.injEq] at hpieces
  exact String.toList_inj.1 (List.map_injective_iff.2 pieceOf_injective hpieces)

/-- No value is told apart from every value but the empty one. -/
theorem escapeValue_inj {v w : Option String} (hv : v ≠ some "") (hw : w ≠ some "")
    (h : escapeValue v = escapeValue w) : v = w := by
  -- no value is written as the empty value would be, and that one is excluded
  have hempty : escape "" = [] := rfl
  cases v with
  | none =>
    cases w with
    | none => rfl
    | some w =>
      rw [escapeValue, escapeValue, ← hempty] at h
      exact absurd (congrArg some (escape_injective h).symm) hw
  | some v =>
    cases w with
    | none =>
      rw [escapeValue, escapeValue, ← hempty] at h
      exact absurd (congrArg some (escape_injective h)) hv
    | some w =>
      rw [escapeValue, escapeValue] at h
      exact congrArg some (escape_injective h)

/-- A value ends at the first angle bracket. -/
theorem escapeValue_append_inj {v w : Option String} (hv : v ≠ some "") (hw : w ≠ some "")
    {s s' : List Char} (h : escapeValue v ++ '<' :: s = escapeValue w ++ '<' :: s') :
    v = w ∧ s = s' := by
  have hsep : ∀ (x : Option String), ∀ d ∈ escapeValue x, decide (d = '<') = false := by
    intro x d hd
    cases x with
    | none => exact absurd hd List.not_mem_nil
    | some value => exact decide_eq_false (ne_bracket_of_mem_escape value hd).1
  obtain ⟨hchars, -, hrest⟩ :=
    append_cons_inj (hsep v) (hsep w) (decide_eq_true rfl) (decide_eq_true rfl) h
  exact ⟨escapeValue_inj hv hw hchars, hrest⟩

/-! ## Trees -/

/-- Every node has a name of XML, and a value that is not empty if it has one. -/
def IsWritable (t : ConfigTree) : Prop :=
  ∀ n ∈ t.nodes, Xml.isName n.name = true ∧ n.value ≠ some ""

instance (t : ConfigTree) : Decidable t.IsWritable :=
  inferInstanceAs (Decidable (∀ n ∈ t.nodes, Xml.isName n.name = true ∧ n.value ≠ some ""))

/-- A tree is writable exactly if its top and all its children are. -/
theorem isWritable_mk {name : String} {value : Option String} {children : List ConfigTree} :
    IsWritable ⟨name, value, children⟩ ↔
      (Xml.isName name = true ∧ value ≠ some "") ∧ ∀ t ∈ children, t.IsWritable :=
  forall_nodes_mk (P := fun name value => Xml.isName name = true ∧ value ≠ some "")

/-- The text of a tree, in front of any rest, is not that of another tree. -/
def Delimited (t : ConfigTree) : Prop :=
  ∀ {u : ConfigTree} {rest rest' : List Char}, u.IsWritable →
    renderChars t ++ rest = renderChars u ++ rest' → t = u ∧ rest = rest'

/-- The mark after the name in the first tag of a tree, and what follows it. -/
def afterName (t : ConfigTree) (rest : List Char) : List Char :=
  if t.value = none ∧ t.children = [] then '/' :: '>' :: rest else '>' :: (renderBody t ++ rest)

/-- A written tree is its first tag's name, then what `afterName` says. -/
theorem renderChars_append (t : ConfigTree) (rest : List Char) :
    renderChars t ++ rest = '<' :: (t.name.toList ++ t.afterName rest) := by
  rw [renderChars_eq, afterName]
  split <;> simp

/-- The body of a node is its value, its children and its end tag. -/
theorem renderBody_append (t : ConfigTree) (rest : List Char) :
    renderBody t ++ rest = escapeValue t.value ++
      (renderAll t.children ++ '<' :: '/' :: (t.name.toList ++ '>' :: rest)) := by
  simp [renderBody]

/-- No tree begins with an end tag. -/
theorem endTag_ne_renderChars_append {t : ConfigTree} (hname : Xml.isName t.name = true)
    (s rest : List Char) : '<' :: '/' :: s ≠ renderChars t ++ rest := by
  intro h
  have hslash : Xml.isNameStart '/' = false := by decide
  have hbegin := (Xml.isName_iff.1 hname).1
  rw [renderChars_append] at h
  cases hchars : t.name.toList with
  | nil =>
    rw [hchars] at hbegin
    exact absurd hbegin Bool.false_ne_true
  | cons c cs =>
    rw [hchars, List.cons_append] at h
    -- a name would have to begin with the slash
    obtain ⟨rfl, -⟩ := List.cons.inj (List.cons.inj h).2
    rw [hchars, Xml.QName.beginsName, hslash] at hbegin
    exact absurd hbegin Bool.false_ne_true

/-- Children end at the end tag of the node in which they stand. -/
theorem renderAll_append_inj {ts us : List ConfigTree} (hts : ∀ t ∈ ts, t.IsWritable ∧ Delimited t)
    (hus : ∀ u ∈ us, u.IsWritable) {s s' : List Char}
    (h : renderAll ts ++ '<' :: '/' :: s = renderAll us ++ '<' :: '/' :: s') :
    ts = us ∧ s = s' := by
  have hname : ∀ {t : ConfigTree}, t.IsWritable → Xml.isName t.name = true :=
    fun ht => (ht _ (self_mem_nodes _)).1
  induction ts generalizing us with
  | nil =>
    cases us with
    | nil => exact ⟨rfl, (List.cons.inj (List.cons.inj h).2).2⟩
    | cons u us =>
      rw [renderAll, renderAll, List.append_assoc] at h
      -- the one list has ended where the other goes on with a tree
      exact absurd h (endTag_ne_renderChars_append (hname (hus u List.mem_cons_self)) _ _)
  | cons t ts ih =>
    obtain ⟨⟨ht, hdelimited⟩, hts⟩ := List.forall_mem_cons.1 hts
    cases us with
    | nil =>
      rw [renderAll, renderAll, List.append_assoc] at h
      exact absurd h.symm (endTag_ne_renderChars_append (hname ht) _ _)
    | cons u us =>
      rw [List.forall_mem_cons] at hus
      rw [renderAll, renderAll, List.append_assoc, List.append_assoc] at h
      -- the first trees are the same, and so is what follows them
      obtain ⟨rfl, hmore⟩ := hdelimited hus.1 h
      obtain ⟨rfl, hrest⟩ := ih hts hus.2 hmore
      exact ⟨rfl, hrest⟩

/-- After its first tag a node is read to its end. -/
theorem renderBody_append_inj {t u : ConfigTree} (hname : t.name = u.name)
    (ht : t.value ≠ some "" ∧ ∀ c ∈ t.children, c.IsWritable ∧ Delimited c)
    (hu : u.value ≠ some "" ∧ ∀ c ∈ u.children, c.IsWritable) {rest rest' : List Char}
    (h : renderBody t ++ rest = renderBody u ++ rest') : t = u ∧ rest = rest' := by
  obtain ⟨s, hs⟩ := exists_renderAll_append_eq_cons t.children
    ('/' :: (t.name.toList ++ '>' :: rest))
  obtain ⟨s', hs'⟩ := exists_renderAll_append_eq_cons u.children
    ('/' :: (u.name.toList ++ '>' :: rest'))
  rw [renderBody_append, renderBody_append, hs, hs'] at h
  -- first the value, then the children, and then the end tag of the same name
  obtain ⟨hvalue, rfl⟩ := escapeValue_append_inj ht.1 hu.1 h
  obtain ⟨hchildren, hend⟩ := renderAll_append_inj ht.2 hu.2 (hs.trans hs'.symm)
  rw [hname, List.append_cancel_left_eq] at hend
  obtain ⟨name, value, children⟩ := t
  obtain ⟨name', value', children'⟩ := u
  simp_all only
  exact ⟨trivial, (List.cons.inj hend).2⟩

/-- The mark after a name tells an empty tag from a start tag. -/
theorem afterName_cases (t : ConfigTree) (rest : List Char) :
    (t.value = none ∧ t.children = []) ∧ t.afterName rest = '/' :: '>' :: rest ∨
      t.afterName rest = '>' :: (renderBody t ++ rest) := by
  rw [afterName]
  split
  · rename_i hempty
    exact .inl ⟨hempty, rfl⟩
  · exact .inr rfl

/-- A tree in front of any rest is known from the text. -/
theorem renderChars_append_inj {t : ConfigTree} (ht : t.IsWritable) : Delimited t := by
  induction t with
  | mk name value children ih =>
    rintro ⟨name', value', children'⟩ rest rest' hu h
    obtain ⟨⟨hname, hvalue⟩, hchildren⟩ := isWritable_mk.1 ht
    obtain ⟨⟨hname', hvalue'⟩, hchildren'⟩ := isWritable_mk.1 hu
    have hslash : Xml.isNameChar '/' = false := by decide
    have hclose : Xml.isNameChar '>' = false := by decide
    rw [renderChars_append, renderChars_append] at h
    replace h := (List.cons.inj h).2
    -- either tree may be an empty tag; only tags of the same kind agree in the mark
    rcases afterName_cases ⟨name, value, children⟩ rest with ⟨⟨rfl, rfl⟩, hafter⟩ | hafter <;>
      rcases afterName_cases ⟨name', value', children'⟩ rest' with ⟨⟨rfl, rfl⟩, hafter'⟩ | hafter' <;>
      rw [hafter, hafter'] at h
    · obtain ⟨rfl, -, hrest⟩ := Xml.name_append_inj hname hname' hslash hslash h
      exact ⟨rfl, (List.cons.inj hrest).2⟩
    · obtain ⟨-, hmark, -⟩ := Xml.name_append_inj hname hname' hslash hclose h
      exact absurd hmark (by decide)
    · obtain ⟨-, hmark, -⟩ := Xml.name_append_inj hname hname' hclose hslash h
      exact absurd hmark (by decide)
    · obtain ⟨rfl, -, hbody⟩ := Xml.name_append_inj hname hname' hclose hclose h
      have hbelow : ∀ c ∈ children, c.IsWritable ∧ Delimited c :=
        fun c hc => ⟨hchildren c hc, ih c hc (hchildren c hc)⟩
      -- both have content, which has been told apart already
      exact renderBody_append_inj (t := ⟨name, value, children⟩) (u := ⟨name, value', children'⟩)
        rfl ⟨hvalue, hbelow⟩ ⟨hvalue', hchildren'⟩ hbody

/-- **Written trees are unambiguous.**  Trees whose names are names of XML and whose values are not
    empty have the same written form only if they are the same, whatever characters the values
    hold. -/
theorem render_eq_render_iff {t u : ConfigTree}
    (ht : ∀ n ∈ t.nodes, Xml.isName n.name = true ∧ n.value ≠ some "")
    (hu : ∀ n ∈ u.nodes, Xml.isName n.name = true ∧ n.value ≠ some "") :
    t.render = u.render ↔ t = u := by
  constructor
  · intro h
    -- whole texts are texts in front of an empty rest
    have hchars : renderChars t ++ [] = renderChars u ++ [] := by
      rw [List.append_nil, List.append_nil]
      simpa only [render, String.toList_ofList] using congrArg String.toList h
    exact (renderChars_append_inj ht hu hchars).1
  · rintro rfl
    rfl

/-- A tree with a value in which there is markup. -/
def markupInValue : ConfigTree := ⟨"p:a", some "\r<b/>&lt;", []⟩

/-- A tree with a child where the other one has markup. -/
def childAfterValue : ConfigTree := ⟨"p:a", some "\r", [⟨"b", none, []⟩]⟩

/-- Markup in a value is told apart from a child. -/
theorem render_markupInValue_ne :
    (∀ n ∈ markupInValue.nodes, Xml.isName n.name = true ∧ n.value ≠ some "") ∧
      (∀ n ∈ childAfterValue.nodes, Xml.isName n.name = true ∧ n.value ≠ some "") ∧
      markupInValue.render ≠ childAfterValue.render := by
  have hvalue : markupInValue.IsWritable := by decide
  have hchild : childAfterValue.IsWritable := by decide
  refine ⟨hvalue, hchild, fun h => ?_⟩
  exact absurd ((render_eq_render_iff hvalue hchild).1 h) (by decide)

end ConfigTree

end BuildInjection
