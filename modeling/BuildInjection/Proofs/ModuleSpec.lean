import BuildInjection.Proofs.EarModule

/-!
# Specs of modules

The fields of a spec decide what comes of it (`treeOfSpec_grammar`).  There are too few of them, or
the third is the suffix alone, or it gives no name for an element, or there is a node; fields after
the fourth are not looked at.  Two specs that describe a node describe the same one exactly if their
fields agree, where a type counts as the same with the suffix and without it.
-/

namespace BuildInjection.EarModule

/-! ## Names -/

/-- A character of `[A-Za-z_]`. -/
def BeginsElement (c : Char) : Prop := 'A' ≤ c ∧ c ≤ 'Z' ∨ 'a' ≤ c ∧ c ≤ 'z' ∨ c = '_'

/-- A character of `[A-Za-z0-9_.-]`. -/
def ContinuesElement (c : Char) : Prop :=
  BeginsElement c ∨ '0' ≤ c ∧ c ≤ '9' ∨ c = '.' ∨ c = '-'

/-- A text of `[A-Za-z_][A-Za-z0-9_.-]*`. -/
def MatchesElement (name : String) : Prop :=
  ∃ c cs, name.toList = c :: cs ∧ BeginsElement c ∧ ∀ d ∈ cs, ContinuesElement d

/-- The check of a first character is the one for its class. -/
theorem isElementStart_iff {c : Char} : isElementStart c = true ↔ BeginsElement c := by
  have hupper : c.isUpper = true ↔ 'A' ≤ c ∧ c ≤ 'Z' := decide_eq_true_iff
  have hlower : c.isLower = true ↔ 'a' ≤ c ∧ c ≤ 'z' :=
    Bool.and_eq_true_iff.trans (and_congr decide_eq_true_iff decide_eq_true_iff)
  have halpha : c.isAlpha = (c.isUpper || c.isLower) := rfl
  rw [isElementStart, BeginsElement, halpha, Bool.or_eq_true, Bool.or_eq_true, hupper, hlower,
    decide_eq_true_eq, or_assoc]

/-- The check of a further character is the one for its class. -/
theorem isElementChar_iff {c : Char} : isElementChar c = true ↔ ContinuesElement c := by
  have hdigit : c.isDigit = true ↔ '0' ≤ c ∧ c ≤ '9' :=
    Bool.and_eq_true_iff.trans (and_congr decide_eq_true_iff decide_eq_true_iff)
  have halphanum : c.isAlphanum = (c.isAlpha || c.isDigit) := rfl
  rw [ContinuesElement, ← isElementStart_iff, isElementChar, isElementStart, halphanum]
  simp only [Bool.or_eq_true, decide_eq_true_eq, hdigit]
  rw [or_right_comm, or_assoc, or_assoc]
  exact or_or_or_comm

/-- The check of a name is a match. -/
theorem isElementName_iff {name : String} : isElementName name = true ↔ MatchesElement name := by
  unfold isElementName MatchesElement
  cases name.toList with
  | nil => simp
  | cons c cs =>
    rw [Bool.and_eq_true, List.all_eq_true, isElementStart_iff]
    simp only [isElementChar_iff]
    constructor
    · rintro ⟨hc, hcs⟩
      exact ⟨c, cs, rfl, hc, hcs⟩
    · rintro ⟨c', cs', hsame, hc, hcs⟩
      obtain ⟨rfl, rfl⟩ := List.cons.inj hsame
      exact ⟨hc, hcs⟩

/-! ## Types -/

/-- A type ends in the suffix. -/
def HasSuffix (type : String) : Prop := ∃ stem, type = stem ++ suffix

/-- The name of the element for a type: the type itself if it ends in the suffix, and otherwise the
    type with the suffix after it. -/
inductive NamesElement (type : String) : String → Prop
  | asIs (h : HasSuffix type) : NamesElement type type
  | added (h : ¬ HasSuffix type) : NamesElement type (type ++ suffix)

/-- Two types are the same, or one of them is the other with the suffix added, where that is added
    at all. -/
def SameType (type type' : String) : Prop :=
  type = type' ∨ (¬ HasSuffix type ∧ type' = type ++ suffix) ∨
    (¬ HasSuffix type' ∧ type = type' ++ suffix)

/-- The check of the suffix finds it exactly where a type ends in it. -/
theorem isSuffixOf_iff {type : String} :
    suffix.toList.isSuffixOf type.toList = true ↔ HasSuffix type := by
  rw [List.isSuffixOf_iff_suffix]
  constructor
  · rintro ⟨chars, hchars⟩
    refine ⟨String.ofList chars, ?_⟩
    rw [← String.toList_inj, String.toList_append, String.toList_ofList, hchars]
  · rintro ⟨stem, rfl⟩
    exact ⟨stem.toList, by rw [String.toList_append]⟩

/-- The name of a module's element is the one for its type. -/
theorem namesElement_elementName (m : EarModule) : NamesElement m.moduleType m.elementName := by
  unfold elementName
  split
  · rename_i h
    exact .asIs (isSuffixOf_iff.1 h)
  · rename_i h
    exact .added fun hsuffix => h (isSuffixOf_iff.2 hsuffix)

/-- Types have the same name exactly if they count as the same. -/
theorem NamesElement.eq_iff {type type' name name' : String} (h : NamesElement type name)
    (h' : NamesElement type' name') : name = name' ↔ SameType type type' := by
  unfold SameType
  cases h with
  | asIs hsuffix =>
    cases h' with
    | asIs hsuffix' => simp [hsuffix, hsuffix']
    | added hnone =>
      -- a type with the suffix is not the other, which has none
      have hne : type ≠ type' := by
        rintro rfl
        exact hnone hsuffix
      simp [hsuffix, hnone, hne]
  | added hnone =>
    cases h' with
    | asIs hsuffix =>
      have hne : type ≠ type' := by
        rintro rfl
        exact hnone hsuffix
      simp [hsuffix, hnone, hne, eq_comm]
    | added hnone' =>
      -- neither type has the suffix, so neither is the other with it
      have hne : type' ≠ type ++ suffix := fun e => hnone' ⟨type, e⟩
      have hne' : type ≠ type' ++ suffix := fun e => hnone ⟨type', e⟩
      simp [hne, hne']

/-! ## Specs -/

section

variable {spec : String} {m : EarModule}

/-- A spec with too few fields has no type. -/
theorem ofSpec_of_short (h : (Text.fields spec).length < 3) :
    ofSpec spec = .error (.noModuleType spec) := by
  unfold ofSpec
  split
  · rename_i hfields
    simp only [hfields, List.length_cons] at h
    omega
  · rfl

/-- What comes of a module: its type is no name, or no element can have its name, or it is a
    node. -/
theorem toTree_iff (spec : String) (m : EarModule) :
    (toTree spec m = .error (.bareSuffix spec) ↔ m.moduleType = suffix) ∧
    (toTree spec m = .error (.badElementName spec m.elementName) ↔
      m.moduleType ≠ suffix ∧ ¬ MatchesElement m.elementName) ∧
    (toTree spec m = .ok m.node ↔ m.moduleType ≠ suffix ∧ MatchesElement m.elementName) ∧
    toTree spec m ≠ .error (.noModuleType spec) := by
  rw [toTree_eq_ok_iff, toTree, ← isElementName_iff]
  by_cases hbare : m.moduleType = suffix
  · simp [hbare]
  · by_cases hname : isElementName m.elementName = true
    · simp [hbare, hname]
    · simp [hbare, hname]

/-- A module whose root is left out has one child less. -/
theorem node_mk (groupId artifactId type : String) (rest : List String) :
    node ⟨groupId, artifactId, type, rest.head?⟩ =
      ⟨elementName ⟨groupId, artifactId, type, rest.head?⟩, none, .leaf "groupId" groupId ::
        .leaf "artifactId" artifactId :: (rest.take 1).map (.leaf "contextRoot")⟩ := by
  cases rest <;> rfl

/-- Modules have the same node exactly if they have the same name and the same fields. -/
theorem node_eq_iff {m m' : EarModule} :
    m.node = m'.node ↔ m.elementName = m'.elementName ∧ m.groupId = m'.groupId ∧
      m.artifactId = m'.artifactId ∧ m.contextRoot = m'.contextRoot := by
  cases hroot : m.contextRoot <;> cases hroot' : m'.contextRoot <;>
    simp [node, ConfigTree.leaf, hroot, hroot']

/-- What comes of a spec with a type. -/
theorem treeOfSpec_of_fields {groupId artifactId type : String} {rest : List String}
    (h : Text.fields spec = groupId :: artifactId :: type :: rest) :
    treeOfSpec spec = toTree spec ⟨groupId, artifactId, type, rest.head?⟩ := by
  have hspec : ofSpec spec = .ok ⟨groupId, artifactId, type, rest.head?⟩ :=
    ofSpec_eq_ok_iff.2 ⟨rest, h, rfl⟩
  rw [treeOfSpec, hspec]
  rfl

/-- Only a spec with too few fields has no type. -/
theorem treeOfSpec_eq_noModuleType_iff :
    treeOfSpec spec = .error (.noModuleType spec) ↔ (Text.fields spec).length < 3 := by
  constructor
  · intro h
    match hfields : Text.fields spec with
    | groupId :: artifactId :: type :: rest =>
      rw [treeOfSpec_of_fields hfields] at h
      exact absurd h (toTree_iff spec _).2.2.2
    | [] | [_] | [_, _] => simp
  · intro h
    rw [treeOfSpec, ofSpec_of_short h]
    rfl

end

/-- **What comes of a spec.**  A spec with fewer than three fields has no module type.  Any other is
    refused if its type is the suffix alone, or if no element can have the name that the type gives,
    and otherwise describes the node of that name whose children are its fields, up to the fourth.
    Specs that describe a node describe the same node exactly if their first, second and fourth
    fields are the same and their types count as the same. -/
theorem treeOfSpec_grammar :
    (∀ spec, ∃ fields, Text.AreRuns ':' fields spec ∧
      (treeOfSpec spec = .error (.noModuleType spec) ↔ fields.length < 3) ∧
      ∀ groupId artifactId type rest, fields = groupId :: artifactId :: type :: rest →
        ∃ name, NamesElement type name ∧
          (treeOfSpec spec = .error (.bareSuffix spec) ↔ type = suffix) ∧
          (treeOfSpec spec = .error (.badElementName spec name) ↔
            type ≠ suffix ∧ ¬ MatchesElement name) ∧
          (treeOfSpec spec = .ok ⟨name, none, .leaf "groupId" groupId ::
              .leaf "artifactId" artifactId :: (rest.take 1).map (.leaf "contextRoot")⟩ ↔
            type ≠ suffix ∧ MatchesElement name)) ∧
    ∀ spec spec' t t', treeOfSpec spec = .ok t → treeOfSpec spec' = .ok t' →
      ∃ groupId artifactId type rest groupId' artifactId' type' rest',
        Text.AreRuns ':' (groupId :: artifactId :: type :: rest) spec ∧
        Text.AreRuns ':' (groupId' :: artifactId' :: type' :: rest') spec' ∧
        (t = t' ↔ groupId = groupId' ∧ artifactId = artifactId' ∧ rest.head? = rest'.head? ∧
          SameType type type') := by
  constructor
  · -- the three results for a spec with a type are those of its module
    intro spec
    refine ⟨Text.fields spec, Text.pieces_eq_iff.1 rfl, treeOfSpec_eq_noModuleType_iff, ?_⟩
    intro groupId artifactId type rest hfields
    obtain ⟨hbare, hbad, hnode, -⟩ := toTree_iff spec ⟨groupId, artifactId, type, rest.head?⟩
    rw [node_mk] at hnode
    rw [treeOfSpec_of_fields hfields]
    exact ⟨_, namesElement_elementName ⟨groupId, artifactId, type, rest.head?⟩, hbare, hbad, hnode⟩
  · intro spec spec' t t' ht ht'
    obtain ⟨m, hspec, -, -, rfl⟩ := treeOfSpec_eq_ok_iff.1 ht
    obtain ⟨m', hspec', -, -, rfl⟩ := treeOfSpec_eq_ok_iff.1 ht'
    obtain ⟨rest, hfields, hroot⟩ := ofSpec_eq_ok_iff.1 hspec
    obtain ⟨rest', hfields', hroot'⟩ := ofSpec_eq_ok_iff.1 hspec'
    refine ⟨_, _, _, rest, _, _, _, rest', Text.pieces_eq_iff.1 hfields,
      Text.pieces_eq_iff.1 hfields', ?_⟩
    -- the names are the same exactly if the types count as the same
    have hname := (namesElement_elementName m).eq_iff (namesElement_elementName m')
    rw [node_eq_iff, hname, hroot, hroot', and_comm, and_assoc, and_assoc]

/-- The suffix in the middle of a type, or twice, is no reason to leave it out at the end. -/
example : treeOfSpec "::g:a:Modules::/x:y" = .ok ⟨"ModulesModule", none,
    [.leaf "groupId" "g", .leaf "artifactId" "a", .leaf "contextRoot" "/x"]⟩ := by
  rfl

end BuildInjection.EarModule
