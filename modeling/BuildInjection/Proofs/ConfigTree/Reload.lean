import BuildInjection.Proofs.ConfigTree.RoundTrip

/-!
# Saving and reloading configuration trees

Which trees come back from their written form, and as what.  `parse?_render_of_no_returns` says it
for all trees without carriage returns, and `parse?_render_eq_some_iff` says exactly which trees
come back unchanged: those in which every value survives on its own (`SurvivesReload`).
-/

namespace BuildInjection.ConfigTree

/-! ## Values -/

/-- A value without blanks at its ends, or nothing if it is all blank. -/
def tidy (value : String) : Option String :=
  if Text.trim value = "" then none else some (Text.trim value)

/-- The value that characters give is what is left of them when blanks are taken off both ends. -/
theorem valueOfText_eq_tidy (chars : List Char) :
    valueOfText chars = tidy (String.ofList chars) := by
  have htrim : Text.trim (String.ofList chars) = String.ofList (Text.trimChars chars) := by
    rw [Text.trim, String.toList_ofList]
  have hblank : Text.trim (String.ofList chars) = "" ↔ chars.all Text.isBlank = true := by
    rw [htrim, ← String.toList_inj, String.toList_ofList, List.all_eq_true]
    exact trimEnds_eq_nil_iff
  rw [valueOfText, tidy]
  by_cases h : chars.all Text.isBlank = true
  · rw [if_pos h, if_pos (hblank.2 h)]
  · rw [if_neg h, if_neg fun e => h (hblank.1 e), htrim]

/-- A value is tidied into itself exactly if it is trimmed and not empty. -/
theorem tidy_eq_some_self_iff {value : String} :
    tidy value = some value ↔ value ≠ "" ∧ Text.trim value = value := by
  rw [tidy]
  constructor
  · intro h
    split at h
    · simp at h
    · rename_i hne
      have htrim := Option.some.inj h
      -- an empty value would be its own trimmed form
      exact ⟨fun e => hne (htrim.trans e), htrim⟩
  · rintro ⟨hne, htrim⟩
    rw [htrim, if_neg hne]

/-- A tidy value has no blank character at its end. -/
theorem getLast?_of_trim_eq {value : String} (h : Text.trim value = value) {c : Char}
    (hc : value.toList.getLast? = some c) : Text.isBlank c = false := by
  have hchars : trimEnds Text.isBlank value.toList = value.toList := by
    have := congrArg String.toList h
    rwa [Text.trim, String.toList_ofList] at this
  exact eq_false_of_getLast?_of_trimEnds_eq hchars hc

/-- A value that comes back unchanged from a text of legal characters. -/
theorem reread_eq_some_self_iff {value : String} :
    reread value = some value ↔
      value ≠ "" ∧ Text.trim value = value ∧ KeepsReturns value.toList := by
  rw [reread, valueOfText_eq_tidy]
  constructor
  · intro h
    -- nothing that is cut off or merged could be made up for
    have htrim : Text.trimChars (readBack value) = value.toList := by
      rw [tidy, Text.trim, String.toList_ofList] at h
      split at h
      · simp at h
      · have hvalue := congrArg String.toList (Option.some.inj h)
        rwa [String.toList_ofList] at hvalue
    -- what came back is no longer than the value, so trimming cut nothing off
    have hback := eq_of_trimEnds_eq htrim (length_readBack_le value)
    rw [hback, String.ofList_toList, tidy_eq_some_self_iff] at h
    have hlast : value.toList.getLast? ≠ some '\r' := by
      intro e
      exact absurd (getLast?_of_trim_eq h.2 e) (by decide)
    exact ⟨h.1, h.2, (readBack_eq_iff hlast).1 hback⟩
  · rintro ⟨hne, htrim, hkeeps⟩
    -- a trimmed value ends in no carriage return, because that would be blank
    have hlast : value.toList.getLast? ≠ some '\r' := by
      intro e
      exact absurd (getLast?_of_trim_eq htrim e) (by decide)
    rw [(readBack_eq_iff hlast).2 hkeeps, String.ofList_toList, tidy_eq_some_self_iff]
    exact ⟨hne, htrim⟩

/-- What reading makes of a value: it is not empty, no end of it is blank, and it consists of legal
    characters. -/
structure IsTidy (value : String) : Prop where
  ne_empty : value ≠ ""
  trim_eq : Text.trim value = value
  isLegal : ∀ c ∈ value.toList, Xml.isLegal c = true

/-- What a value needs in order to come back unchanged: it is as reading makes it, and every
    carriage return stands right before an escaped character. -/
structure SurvivesReload (value : String) : Prop extends IsTidy value where
  keepsReturns : KeepsReturns value.toList

/-! ## Trees -/

/-- The check on all nodes says of every character of every value that it is legal. -/
theorem all_hasLegalValue_iff {t : ConfigTree} :
    t.nodes.all hasLegalValue = true ↔
      ∀ n ∈ t.nodes, ∀ v ∈ n.value, ∀ c ∈ v.toList, Xml.isLegal c = true := by
  rw [List.all_eq_true]
  refine forall₂_congr fun n _ => ?_
  cases h : n.value <;> simp [hasLegalValue, h]

/-- A tree whose names have no colon comes back unchanged exactly if every value in it survives. -/
theorem parse?_render_eq_some_iff {t : ConfigTree} (ht : t.IsNamed) :
    parse? t.render = some t ↔ ∀ n ∈ t.nodes, ∀ v ∈ n.value, SurvivesReload v := by
  rw [parse?_render_eq ht]
  constructor
  · -- what was read at all is legal, and what was read as itself is tidy
    intro h
    split at h
    · rename_i hlegal
      have hsame := mapValues_eq_self_iff.1 (Option.some.inj h)
      intro n hn v hv
      obtain ⟨hne, htrim, hkeeps⟩ := reread_eq_some_self_iff.1 (hsame n hn v hv)
      exact ⟨⟨hne, htrim, all_hasLegalValue_iff.1 hlegal n hn v hv⟩, hkeeps⟩
    · simp at h
  · intro h
    -- legal values are read at all, and each as itself
    have hlegal : t.nodes.all hasLegalValue = true :=
      all_hasLegalValue_iff.2 fun n hn v hv => (h n hn v hv).isLegal
    have hsame : t.mapValues reread = t := mapValues_eq_self_iff.2 fun n hn v hv =>
      reread_eq_some_self_iff.2
        ⟨(h n hn v hv).ne_empty, (h n hn v hv).trim_eq, (h n hn v hv).keepsReturns⟩
    rw [if_pos hlegal, hsame]

/-- A tree without carriage returns in its values comes back with its values tidied up, if they
    consist of legal characters. -/
theorem parse?_render_eq_tidy {t : ConfigTree} (ht : t.IsNamed)
    (hreturns : ∀ n ∈ t.nodes, ∀ v ∈ n.value, '\r' ∉ v.toList) :
    parse? t.render = if t.nodes.all hasLegalValue then some (t.mapValues tidy) else none := by
  have hsame : t.mapValues reread = t.mapValues tidy := by
    refine mapValues_eq_mapValues_iff.2 fun n hn => ?_
    cases hv : n.value with
    | none => rfl
    | some v =>
      show reread v = tidy v
      rw [reread, valueOfText_eq_tidy, readBack_of_not_mem (hreturns n hn v hv),
        String.ofList_toList]
  rw [parse?_render_eq ht, hsame]

/-- Apart from the carriage return, the legal characters are tab, line feed and everything from the
    space on, U+FFFE and U+FFFF left out. -/
theorem isLegal_iff_of_ne_return {c : Char} (hc : c ≠ '\r') :
    Xml.isLegal c = true ↔
      c = '\t' ∨ c = '\n' ∨ 0x20 ≤ c.toNat ∧ c.toNat ≠ 0xFFFE ∧ c.toNat ≠ 0xFFFF := by
  have htab : c = '\t' → c.toNat < 0x20 := by rintro rfl; decide
  have hfeed : c = '\n' → c.toNat < 0x20 := by rintro rfl; decide
  have hspace : c = ' ' → ¬ c.toNat < 0x20 := by rintro rfl; decide
  rw [Xml.isLegal]
  -- below the space only white space is legal
  by_cases hlow : c.toNat < 0x20
  · rw [if_pos hlow]
    have hne : c ≠ ' ' := fun e => hspace e hlow
    have hhigh : ¬ 0x20 ≤ c.toNat := by omega
    simp [Xml.isSpace, hc, hne, hhigh]
  · rw [if_neg hlow]
    simp only [Bool.and_eq_true, bne_iff_ne]
    constructor
    · rintro ⟨h₁, h₂⟩
      exact .inr (.inr ⟨by omega, h₁, h₂⟩)
    · rintro (h | h | ⟨_, h₁, h₂⟩)
      · exact absurd (htab h) hlow
      · exact absurd (hfeed h) hlow
      · exact ⟨h₁, h₂⟩

/-- **Round trip of written trees.**  If no name has a colon and no value a carriage return, the
    written form of a tree can be read exactly if all values consist of legal characters; what is
    read is the tree with every value trimmed and blank ones left out; and it is the tree itself
    exactly if, besides, every value is trimmed and not empty. -/
theorem parse?_render_of_no_returns {t : ConfigTree}
    (hnames : ∀ n ∈ t.nodes, Xml.isPlainName n.name = true)
    (hreturns : ∀ n ∈ t.nodes, ∀ v ∈ n.value, '\r' ∉ v.toList) :
    ((parse? t.render).isSome ↔
      ∀ n ∈ t.nodes, ∀ v ∈ n.value, ∀ c ∈ v.toList,
        c = '\t' ∨ c = '\n' ∨ 0x20 ≤ c.toNat ∧ c.toNat ≠ 0xFFFE ∧ c.toNat ≠ 0xFFFF) ∧
    (∀ u, parse? t.render = some u → u = t.mapValues tidy) ∧
    (parse? t.render = some t ↔
      (parse? t.render).isSome ∧ ∀ n ∈ t.nodes, ∀ v ∈ n.value, v ≠ "" ∧ Text.trim v = v) := by
  have hlegal : t.nodes.all hasLegalValue = true ↔
      ∀ n ∈ t.nodes, ∀ v ∈ n.value, ∀ c ∈ v.toList,
        c = '\t' ∨ c = '\n' ∨ 0x20 ≤ c.toNat ∧ c.toNat ≠ 0xFFFE ∧ c.toNat ≠ 0xFFFF := by
    rw [all_hasLegalValue_iff]
    refine forall₂_congr fun n hn => forall₂_congr fun v hv => forall₂_congr fun c hc => ?_
    refine isLegal_iff_of_ne_return ?_
    rintro rfl
    exact hreturns n hn v hv hc
  -- tidying the whole tree changes nothing exactly if it changes no value
  have hself : t.mapValues tidy = t ↔ ∀ n ∈ t.nodes, ∀ v ∈ n.value, v ≠ "" ∧ Text.trim v = v := by
    rw [mapValues_eq_self_iff]
    exact forall₂_congr fun n _ => forall₂_congr fun v _ => tidy_eq_some_self_iff
  rw [parse?_render_eq_tidy hnames hreturns, ← hlegal, ← hself]
  by_cases h : t.nodes.all hasLegalValue = true
  · simp only [h, if_true, Option.isSome_some, true_and, Option.some.injEq, iff_self, and_true]
    exact fun u hu => hu.symm
  · simp [h]

/-- A tree with markup, blanks and a value that is all blank, at several levels. -/
def mixed : ConfigTree :=
  ⟨"a", some " x<&>\"\n", [⟨"b", none, []⟩, ⟨"é-1", some "\t", [⟨"d", some "]]>", []⟩]⟩]⟩

/-- Blanks are cut off and the blank value is left out; markup and the inner names stay. -/
theorem parse?_render_mixed :
    (∀ n ∈ mixed.nodes, Xml.isPlainName n.name = true) ∧
      (∀ n ∈ mixed.nodes, ∀ v ∈ n.value, '\r' ∉ v.toList) ∧
      parse? mixed.render =
        some ⟨"a", some "x<&>\"", [⟨"b", none, []⟩, ⟨"é-1", none, [⟨"d", some "]]>", []⟩]⟩]⟩ := by
  have hnames : ∀ n ∈ mixed.nodes, Xml.isPlainName n.name = true := by decide
  have hreturns : ∀ n ∈ mixed.nodes, ∀ v ∈ n.value, '\r' ∉ v.toList := by decide
  obtain ⟨hsome, htidy, _⟩ := parse?_render_of_no_returns hnames hreturns
  have hlegal := all_hasLegalValue_iff.1 (show mixed.nodes.all hasLegalValue = true by decide)
  have hread : (parse? mixed.render).isSome := by
    refine hsome.2 fun n hn v hv c hc => (isLegal_iff_of_ne_return ?_).1 (hlegal n hn v hv c hc)
    rintro rfl
    exact hreturns n hn v hv hc
  obtain ⟨u, hu⟩ := Option.isSome_iff_exists.1 hread
  have hmixed : mixed.mapValues tidy =
      ⟨"a", some "x<&>\"", [⟨"b", none, []⟩, ⟨"é-1", none, [⟨"d", some "]]>", []⟩]⟩]⟩ := by decide
  exact ⟨hnames, hreturns, by rw [hu, htidy u hu, hmixed]⟩

end BuildInjection.ConfigTree
