import BuildInjection.Proofs.Cut
import BuildInjection.Text.Basic

/-!
# What cutting and trimming leave of a text

A text is blank if trimming leaves nothing of it.  Its pieces are those of `List.splitOn` that are
not empty (`pieces_eq`), so a piece holds characters of the text and never the separator.  They are
the runs of the other characters (`pieces_eq_iff`), whatever number of separators stands between
them and at the ends.
-/

namespace BuildInjection.Text

/-- A text is blank if trimming leaves nothing of it. -/
theorem isBlankText_eq_true_iff {s : String} : isBlankText s = true ↔ trim s = "" := by
  rw [isBlankText, List.all_eq_true, trim, ← String.toList_inj, String.toList_ofList]
  exact trimEnds_eq_nil_iff.symm

/-- The pieces of a text are those of the library that are not empty. -/
theorem pieces_eq (sep : Char) (s : String) :
    pieces sep s = ((s.toList.splitOn sep).filter (· ≠ [])).map String.ofList := by
  have hcut : cut (· = sep) s.toList = s.toList.splitOn sep := cut_eq_splitOnP _ _
  have hempty : (fun piece : List Char => !piece.isEmpty) = fun piece => decide (piece ≠ []) := by
    funext piece
    cases piece <;> rfl
  rw [pieces, hcut, hempty]

section

variable {sep : Char} {s piece : String} (h : piece ∈ pieces sep s)
include h

/-- A piece of a text comes from a piece of its characters. -/
theorem exists_cut_of_mem_pieces :
    ∃ chars ∈ cut (· = sep) s.toList, chars ≠ [] ∧ piece = String.ofList chars := by
  obtain ⟨chars, hchars, rfl⟩ := List.mem_map.1 h
  obtain ⟨hcut, hne⟩ := List.mem_filter.1 hchars
  exact ⟨chars, hcut, by simpa using hne, rfl⟩

/-- No piece is empty. -/
theorem ne_empty_of_mem_pieces : piece ≠ "" := by
  obtain ⟨chars, -, hne, rfl⟩ := exists_cut_of_mem_pieces h
  intro hempty
  exact hne (by simpa using congrArg String.toList hempty)

/-- No piece holds the separator. -/
theorem sep_not_mem_of_mem_pieces : sep ∉ piece.toList := by
  obtain ⟨chars, hcut, -, rfl⟩ := exists_cut_of_mem_pieces h
  rw [String.toList_ofList]
  intro hsep
  simpa using isSep_eq_false_of_mem_cut hcut hsep

/-- A piece holds nothing that is not in the text. -/
theorem mem_of_mem_piece {c : Char} (hc : c ∈ piece.toList) : c ∈ s.toList := by
  obtain ⟨chars, hcut, -, rfl⟩ := exists_cut_of_mem_pieces h
  rw [String.toList_ofList] at hc
  exact mem_of_mem_cut hcut hc

end

/-! ## Texts with separators in them -/

/-- A text is some pieces with separators in it: one or more between two pieces, and any number
    before the first and after the last. -/
inductive Separated (sep : Char) : List String → List Char → Prop
  | nil : Separated sep [] []
  /-- The last piece may end the text. -/
  | last (piece : String) : Separated sep [piece] piece.toList
  /-- A separator ends a piece. -/
  | cons (piece : String) {more : List String} {text : List Char} (h : Separated sep more text) :
    Separated sep (piece :: more) (piece.toList ++ sep :: text)
  /-- Another separator adds nothing. -/
  | skip {all : List String} {text : List Char} (h : Separated sep all text) :
    Separated sep all (sep :: text)

/-- The runs of a text are what is between its separators, where there is something. -/
structure AreRuns (sep : Char) (runs : List String) (s : String) : Prop where
  separated : Separated sep runs s.toList
  ne_empty : ∀ run ∈ runs, run ≠ ""
  no_sep : ∀ run ∈ runs, sep ∉ run.toList

/-- Joining pieces puts one separator between two of them. -/
theorem separated_intercalate (sep : Char) (all : List String) :
    Separated sep all ((String.singleton sep).intercalate all).toList := by
  rw [String.toList_intercalate, String.toList_singleton]
  induction all with
  | nil => exact .nil
  | cons piece more ih =>
    cases more with
    | nil => simpa using Separated.last piece
    | cons next more => simpa using ih.cons piece

section

variable {sep : Char} {all : List String} {text : List Char}

/-- There is nothing in a text but the pieces and the separators. -/
theorem mem_of_separated (h : Separated sep all text) {c : Char} (hc : c ∈ text) :
    c = sep ∨ ∃ piece ∈ all, c ∈ piece.toList := by
  -- along the text, from its first piece or separator
  induction h with
  | nil => exact absurd hc List.not_mem_nil
  | last piece => exact .inr ⟨piece, List.mem_singleton_self piece, hc⟩
  | cons piece _ ih =>
    rcases List.mem_append.1 hc with hc | hc
    · exact .inr ⟨piece, List.mem_cons_self, hc⟩
    · rcases List.mem_cons.1 hc with hc | hc
      · exact .inl hc
      · exact (ih hc).imp_right fun ⟨p, hp, hmem⟩ => ⟨p, List.mem_cons_of_mem piece hp, hmem⟩
  | skip _ ih =>
    rcases List.mem_cons.1 hc with hc | hc
    · exact .inl hc
    · exact ih hc

/-- What is in a piece is in the text. -/
theorem mem_of_mem_separated (h : Separated sep all text) {piece : String} (hpiece : piece ∈ all)
    {c : Char} (hc : c ∈ piece.toList) : c ∈ text := by
  induction h with
  | nil => exact absurd hpiece List.not_mem_nil
  | last _ => rwa [← List.mem_singleton.1 hpiece]
  | cons _ _ ih =>
    rcases List.mem_cons.1 hpiece with rfl | hpiece
    · exact List.mem_append_left _ hc
    · exact List.mem_append_right _ (List.mem_cons_of_mem sep (ih hpiece))
  | skip _ ih => exact List.mem_cons_of_mem sep (ih hpiece)

/-- The separator splits a text in two. -/
theorem pieces_append_cons (before after : List Char) :
    pieces sep (String.ofList (before ++ sep :: after)) =
      pieces sep (String.ofList before) ++ pieces sep (String.ofList after) := by
  simp only [pieces_eq, String.toList_ofList, List.splitOn_append_cons_self, List.filter_append,
    List.map_append]

/-- A text without the separator is one piece, if it is not empty. -/
theorem pieces_eq_of_no_sep {s : String} (h : sep ∉ s.toList) :
    pieces sep s = [s].filter (· ≠ "") := by
  rw [pieces_eq, List.splitOn_eq_singleton h]
  by_cases hempty : s = ""
  · simp [hempty]
  · simp [hempty]

/-- The pieces of a text are the ones it was made of, less the empty ones. -/
theorem pieces_of_separated (h : Separated sep all text)
    (hno : ∀ piece ∈ all, sep ∉ piece.toList) :
    pieces sep (String.ofList text) = all.filter (· ≠ "") := by
  induction h with
  | nil => rfl
  | last piece =>
    rw [String.ofList_toList]
    exact pieces_eq_of_no_sep (hno piece List.mem_cons_self)
  | @cons piece more text _ ih =>
    obtain ⟨hpiece, hmore⟩ := List.forall_mem_cons.1 hno
    rw [pieces_append_cons, ih hmore, String.ofList_toList, pieces_eq_of_no_sep hpiece,
      ← List.filter_append, List.singleton_append]
  -- a separator in front makes one more empty piece
  | @skip all text _ ih =>
    rw [← ih hno]
    exact pieces_append_cons [] text

/-- A word in front of a separated text is one more piece of it, if it is not empty. -/
theorem separated_pieces_append_cons {word : List Char} (hword : sep ∉ word)
    (h : Separated sep all text) :
    Separated sep (pieces sep (String.ofList word) ++ all) (word ++ sep :: text) := by
  by_cases hempty : word = []
  · subst hempty
    exact h.skip
  · have hpiece : pieces sep (String.ofList word) = [String.ofList word] := by
      rw [pieces_eq_of_no_sep (by rwa [String.toList_ofList])]
      simp [hempty]
    rw [hpiece]
    simpa using h.cons (String.ofList word)

/-- A text is its pieces with separators in it.  The induction is on what follows a word that has
    been read so far. -/
theorem separated_pieces_append (word : List Char) (hword : sep ∉ word) (rest : List Char) :
    Separated sep (pieces sep (String.ofList (word ++ rest))) (word ++ rest) := by
  induction rest generalizing word with
  | nil =>
    rw [List.append_nil, pieces_eq_of_no_sep (by rwa [String.toList_ofList])]
    by_cases hempty : word = []
    · subst hempty
      exact .nil
    · simpa [hempty] using Separated.last (String.ofList word)
  | cons c rest ih =>
    by_cases hc : c = sep
    · -- the word ends here, and the next one begins with what follows
      have hnext : Separated sep (pieces sep (String.ofList rest)) rest := ih [] List.not_mem_nil
      rw [hc, pieces_append_cons]
      exact separated_pieces_append_cons hword hnext
    · have hlonger : sep ∉ word ++ [c] := by
        simpa [hword] using Ne.symm hc
      simpa using ih (word ++ [c]) hlonger

end

/-- The pieces of a text are its runs. -/
theorem pieces_eq_iff {sep : Char} {s : String} {runs : List String} :
    pieces sep s = runs ↔ AreRuns sep runs s := by
  constructor
  · rintro rfl
    exact {
      separated := by simpa using separated_pieces_append [] List.not_mem_nil s.toList
      ne_empty := fun _ => ne_empty_of_mem_pieces
      no_sep := fun _ => sep_not_mem_of_mem_pieces }
  · -- the runs are not empty, so none of them is dropped
    intro h
    have hpieces := pieces_of_separated h.separated h.no_sep
    rw [String.ofList_toList] at hpieces
    rw [hpieces, List.filter_eq_self]
    simpa using h.ne_empty

/-- A text has no pieces if there is nothing in it but the separator. -/
theorem pieces_eq_nil_iff {sep : Char} {s : String} :
    pieces sep s = [] ↔ ∀ c ∈ s.toList, c = sep := by
  constructor
  · intro h c hc
    rcases mem_of_separated (pieces_eq_iff.1 h).separated hc with hsep | ⟨piece, hpiece, -⟩
    · exact hsep
    · exact absurd hpiece List.not_mem_nil
  · intro h
    apply List.eq_nil_iff_forall_not_mem.2
    intro piece hpiece
    -- a piece has a character, and that would be the separator
    cases hchars : piece.toList with
    | nil => exact ne_empty_of_mem_pieces hpiece (String.toList_eq_nil_iff.1 hchars)
    | cons c more =>
      have hc : c ∈ piece.toList := by simp [hchars]
      have hsep : c = sep := h c (mem_of_mem_piece hpiece hc)
      exact sep_not_mem_of_mem_pieces hpiece (hsep ▸ hc)

end BuildInjection.Text
