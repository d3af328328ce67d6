import BuildInjection.EarModule
import BuildInjection.Proofs.ConfigTree.Nodes
import BuildInjection.Proofs.Text

/-!
# Module nodes

A spec gives a node of one shape: its name is one that an element may have, and its children are the
fields of the spec, which are never empty and hold neither a space nor a colon
(`isModule_of_treeOfSpec`).  Otherwise the fields stand as they are, with whatever characters they
have.
-/

namespace BuildInjection.EarModule

/-- What may begin the name of a module element may begin a name of XML. -/
theorem isNameStart_of_isElementStart {c : Char} (h : isElementStart c = true) :
    Xml.isNameStart c = true := by
  rw [isElementStart, Bool.or_eq_true] at h
  rcases h with h | h <;> simp [Xml.isNameStart, h]

/-- What may stand in the name of a module element may stand in a name of XML. -/
theorem isNameChar_of_isElementChar {c : Char} (h : isElementChar c = true) :
    Xml.isNameChar c = true := by
  simp only [isElementChar, Char.isAlphanum, Bool.or_eq_true] at h
  rcases h with (((h | h) | h) | h) | h <;> simp [Xml.isNameChar, Xml.isNameStart, h]

/-- No name of a module element has a colon. -/
theorem ne_colon_of_isElementChar {c : Char} (h : isElementChar c = true) : c ≠ ':' := by
  rintro rfl
  exact absurd h (by decide)

/-- What may name a module element is a name of XML. -/
theorem isPlainName_of_isElementName {name : String} (h : isElementName name = true) :
    Xml.isPlainName name = true := by
  rw [Xml.isPlainName_iff]
  unfold isElementName at h
  split at h
  · simp at h
  · rename_i c cs hname
    rw [Bool.and_eq_true, List.all_eq_true] at h
    obtain ⟨hstart, hrest⟩ := h
    rw [hname]
    refine ⟨isNameStart_of_isElementStart hstart, ?_⟩
    intro d hd
    have hchar : isElementChar d = true := by
      rcases List.mem_cons.1 hd with rfl | hd
      · -- a character that may stand first may stand anywhere
        simp only [isElementStart, Bool.or_eq_true] at hstart
        rcases hstart with h | h <;> simp [isElementChar, Char.isAlphanum, h]
      · exact hrest d hd
    exact ⟨isNameChar_of_isElementChar hchar, ne_colon_of_isElementChar hchar⟩

/-! ## What a spec describes -/

/-- The node of a module that has a name. -/
def node (m : EarModule) : ConfigTree :=
  ⟨m.elementName, none, .leaf "groupId" m.groupId :: .leaf "artifactId" m.artifactId ::
    (m.contextRoot.map (ConfigTree.leaf "contextRoot")).toList⟩

/-- What is said of names and values holds in the node of a module if it holds of the name alone and
    of the fields. -/
theorem forall_nodes_node {P : String → Option String → Prop} {m : EarModule} :
    (∀ n ∈ m.node.nodes, P n.name n.value) ↔
      P m.elementName none ∧ P "groupId" (some m.groupId) ∧ P "artifactId" (some m.artifactId) ∧
        ∀ root ∈ m.contextRoot, P "contextRoot" (some root) := by
  have hleaf : ∀ name value : String,
      (∀ n ∈ (ConfigTree.leaf name value).nodes, P n.name n.value) ↔ P name (some value) := by
    intro name value
    rw [ConfigTree.leaf, ConfigTree.forall_nodes_mk]
    simp
  rw [node, ConfigTree.forall_nodes_mk, List.forall_mem_cons, List.forall_mem_cons, hleaf, hleaf]
  -- the third child is there only if there is a context root
  cases m.contextRoot with
  | none => simp
  | some root => simp [hleaf]

/-- A spec has a module if it has three fields, and the fourth is its context root. -/
theorem ofSpec_eq_ok_iff {spec : String} {m : EarModule} :
    ofSpec spec = .ok m ↔
      ∃ rest, Text.fields spec = m.groupId :: m.artifactId :: m.moduleType :: rest ∧
        m.contextRoot = rest.head? := by
  unfold ofSpec
  split
  · rename_i groupId artifactId moduleType rest hfields
    rw [hfields, Except.ok.injEq]
    constructor
    · rintro rfl
      exact ⟨rest, rfl, rfl⟩
    · rintro ⟨rest', hsame, hroot⟩
      obtain ⟨g, a, t, root⟩ := m
      simp only [List.cons.injEq] at hsame
      obtain ⟨rfl, rfl, rfl, rfl⟩ := hsame
      exact congrArg _ hroot.symm
  · -- with fewer than three fields there is no module to describe
    rename_i hshort
    refine iff_of_false (by simp) ?_
    rintro ⟨rest, hfields, -⟩
    exact hshort _ _ _ _ hfields

/-- A module gives its node if its type is not the suffix alone and its name can be that of an
    element. -/
theorem toTree_eq_ok_iff {spec : String} {m : EarModule} {t : ConfigTree} :
    toTree spec m = .ok t ↔
      m.moduleType ≠ suffix ∧ isElementName m.elementName = true ∧ t = m.node := by
  unfold toTree
  by_cases hbare : m.moduleType = suffix
  · simp [hbare]
  · rw [if_neg hbare]
    by_cases hname : isElementName m.elementName = true
    · rw [if_pos hname]
      show Except.ok m.node = .ok t ↔ _
      simp [hbare, hname, eq_comm]
    · rw [if_neg hname]
      simp [hname]

/-- A spec describes a node if its module type is more than the suffix and gives a name. -/
theorem treeOfSpec_eq_ok_iff {spec : String} {t : ConfigTree} :
    treeOfSpec spec = .ok t ↔
      ∃ m, ofSpec spec = .ok m ∧ m.moduleType ≠ suffix ∧ isElementName m.elementName = true ∧
        t = m.node := by
  unfold treeOfSpec
  cases ofSpec spec with
  | error fault => simp [Except.bind]
  | ok m => simp [Except.bind, toTree_eq_ok_iff]

/-! ## The shape of a module -/

/-- A value that can stand in a module: it is not empty, and nothing in it separates specs or
    fields. -/
structure IsField (value : String) : Prop where
  ne_empty : value ≠ ""
  no_space : ' ' ∉ value.toList
  no_colon : ':' ∉ value.toList

/-- The fields of a spec without a space are such values. -/
theorem isField_of_mem_fields {spec value : String} (hspace : ' ' ∉ spec.toList)
    (h : value ∈ Text.fields spec) : IsField value where
  ne_empty := Text.ne_empty_of_mem_pieces h
  no_space hmem := hspace (Text.mem_of_mem_piece h hmem)
  no_colon := Text.sep_not_mem_of_mem_pieces h

/-- A node as every module has it. -/
structure IsModule (t : ConfigTree) : Prop where
  /-- It has a name that an element may have. -/
  isElementName : isElementName t.name = true
  /-- The name has something before the suffix. -/
  stem : ∃ stem, stem ≠ "" ∧ t.name = stem ++ suffix
  /-- It has no value of its own. -/
  value : t.value = none
  /-- It has two or three children, which are leaves. -/
  children : ∃ groupId artifactId, ∃ contextRoot : Option String,
    IsField groupId ∧ IsField artifactId ∧ (∀ root ∈ contextRoot, IsField root) ∧
    t.children = .leaf "groupId" groupId :: .leaf "artifactId" artifactId ::
      (contextRoot.map (ConfigTree.leaf "contextRoot")).toList

/-- The suffix is added to a type that does not end in it, so it never stands alone. -/
theorem exists_stem {m : EarModule} (hne : m.moduleType ≠ "") (hbare : m.moduleType ≠ suffix) :
    ∃ stem, stem ≠ "" ∧ m.elementName = stem ++ suffix := by
  unfold elementName
  split
  · -- the type ends in the suffix already, and it is not the suffix alone
    rename_i hsuffix
    obtain ⟨chars, hchars⟩ := List.isSuffixOf_iff_suffix.1 hsuffix
    have htype : m.moduleType = String.ofList chars ++ suffix := by
      rw [← String.toList_inj, String.toList_append, String.toList_ofList, hchars]
    refine ⟨String.ofList chars, ?_, htype⟩
    intro hempty
    rw [hempty, String.empty_append] at htype
    exact hbare htype
  · exact ⟨m.moduleType, hne, rfl⟩

section

variable {spec : String} {t : ConfigTree}

/-- What holds of all fields of a spec holds of those that make up the module. -/
theorem forall_fields_of_ofSpec {P : String → Prop} {m : EarModule} (h : ofSpec spec = .ok m)
    (hfields : ∀ value ∈ Text.fields spec, P value) :
    P m.groupId ∧ P m.artifactId ∧ P m.moduleType ∧ ∀ root ∈ m.contextRoot, P root := by
  obtain ⟨rest, hsplit, hroot⟩ := ofSpec_eq_ok_iff.1 h
  rw [hsplit] at hfields
  obtain ⟨hgroup, hfields⟩ := List.forall_mem_cons.1 hfields
  obtain ⟨hartifact, hfields⟩ := List.forall_mem_cons.1 hfields
  obtain ⟨htype, hrest⟩ := List.forall_mem_cons.1 hfields
  refine ⟨hgroup, hartifact, htype, ?_⟩
  intro root hmem
  rw [hroot] at hmem
  exact hrest root (List.mem_of_mem_head? hmem)

/-- Every node that a spec describes has the shape of a module. -/
theorem isModule_of_treeOfSpec (hspace : ' ' ∉ spec.toList) (h : treeOfSpec spec = .ok t) :
    IsModule t := by
  obtain ⟨m, hspec, hbare, hname, rfl⟩ := treeOfSpec_eq_ok_iff.1 h
  obtain ⟨hgroup, hartifact, htype, hroot⟩ :=
    forall_fields_of_ofSpec hspec fun _ hvalue => isField_of_mem_fields hspace hvalue
  exact ⟨hname, exists_stem htype.ne_empty hbare, rfl, m.groupId, m.artifactId, m.contextRoot,
    hgroup, hartifact, hroot, rfl⟩

/-- Every node that a spec describes is sound. -/
theorem isSound_of_treeOfSpec (h : treeOfSpec spec = .ok t) : t.IsSound := by
  obtain ⟨m, hspec, -, hname, rfl⟩ := treeOfSpec_eq_ok_iff.1 h
  obtain ⟨hgroup, hartifact, -, hroot⟩ :=
    forall_fields_of_ofSpec hspec fun _ hvalue => Text.ne_empty_of_mem_pieces hvalue
  have hsome : ∀ {value : String}, value ≠ "" → some value ≠ some "" := fun hne hsame =>
    hne (Option.some.inj hsame)
  -- the name without a value, and each child with its own
  apply (forall_nodes_node (P := fun name value => Xml.isPlainName name = true ∧ value ≠ some "")).2
  refine ⟨⟨isPlainName_of_isElementName hname, nofun⟩, ⟨by decide, hsome hgroup⟩,
    ⟨by decide, hsome hartifact⟩, ?_⟩
  intro root hmem
  exact ⟨by decide, hsome (hroot root hmem)⟩

end

end BuildInjection.EarModule
