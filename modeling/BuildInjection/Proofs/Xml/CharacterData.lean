import BuildInjection.Xml.CharacterData

/-!
# What character data stands for

Unifying the ends of lines never adds a character (`length_unifyFrom_le`), and the only characters
that it puts in are carriage returns and line feeds.  So character data of legal characters stands
for legal characters only (`isLegal_of_content?`), because a reference to any other is refused.
-/

namespace BuildInjection.Xml

/-- The character for which a piece stands. -/
def Piece.char : Piece → Char
  | .plain c => c
  | .reference c => c

/-! ## Unifying the ends of lines -/

/-- A plain character right after a reference is kept as it is. -/
theorem unifyFrom_plain_asIs (held : Bool) (c : Char) (ps : List Piece) :
    unifyFrom held true (.plain c :: ps) =
      if c = '\r' then unifyFrom true false ps else c :: unifyFrom false false ps := rfl

/-- A plain character elsewhere decides on the carriage return before it, and may be one itself. -/
theorem unifyFrom_plain (held : Bool) (c : Char) (ps : List Piece) :
    unifyFrom held false (.plain c :: ps) =
      (if held then ['\n'] else []) ++
        if c = '\r' then if ps.isEmpty then ['\n'] else unifyFrom true false ps
        else if held && c = '\n' then unifyFrom false false ps
        else c :: unifyFrom false false ps := by
  rw [unifyFrom, if_neg Bool.false_ne_true]
  by_cases hc : c = '\r'
  · rw [if_pos hc, if_pos hc]
  · rw [if_neg hc, if_neg hc]

/-- A carriage return that is held back is the only character that can come on top of the pieces. -/
theorem length_unifyFrom_le (held asIs : Bool) (ps : List Piece) :
    (unifyFrom held asIs ps).length ≤ ps.length + held.toNat := by
  induction ps generalizing held asIs with
  | nil => cases held <;> simp [unifyFrom]
  | cons p ps ih =>
    have hheld := ih true false
    have hfree := ih false false
    simp only [Bool.toNat_true, Bool.toNat_false, Nat.add_zero] at hheld hfree
    rw [List.length_cons]
    -- a return that is held back comes out before a reference, or goes into the next piece
    cases p with
    | reference c =>
      have hafter := ih false true
      simp only [Bool.toNat_false, Nat.add_zero] at hafter
      rw [unifyFrom, List.length_append, List.length_cons]
      cases held <;> simp <;> omega
    | plain c =>
      cases asIs with
      | true =>
        rw [unifyFrom_plain_asIs]
        split
        · omega
        · rw [List.length_cons]
          omega
      | false =>
        have hfront : (if held then ['\n'] else []).length = held.toNat := by cases held <;> rfl
        rw [unifyFrom_plain, List.length_append, hfront]
        repeat' split
        · simp only [List.length_singleton]
          omega
        · omega
        · omega
        · rw [List.length_cons]
          omega

/-- Unifying the ends of lines puts in nothing but carriage returns and line feeds. -/
theorem mem_unifyFrom {held asIs : Bool} {ps : List Piece} {c : Char}
    (h : c ∈ unifyFrom held asIs ps) : c = '\r' ∨ c = '\n' ∨ c ∈ ps.map Piece.char := by
  induction ps generalizing held asIs with
  | nil => cases held <;> simp_all [unifyFrom]
  | cons p ps ih =>
    -- a character that is put in comes of this piece or of those after it
    have hrest : ∀ {held asIs : Bool}, c ∈ unifyFrom held asIs ps →
        c = '\r' ∨ c = '\n' ∨ c ∈ (p :: ps).map Piece.char := by
      intro held asIs hc
      rcases ih hc with h | h | h
      · exact .inl h
      · exact .inr (.inl h)
      · exact .inr (.inr (List.mem_cons_of_mem _ h))
    have hhead : c = p.char → c = '\r' ∨ c = '\n' ∨ c ∈ (p :: ps).map Piece.char := by
      rintro rfl
      exact .inr (.inr List.mem_cons_self)
    cases p with
    | reference d =>
      simp only [unifyFrom, List.mem_append, List.mem_cons] at h
      rcases h with h | h | h
      · cases held <;> simp_all
      · exact hhead h
      · exact hrest h
    | plain d =>
      cases asIs with
      | true =>
        rw [unifyFrom_plain_asIs] at h
        split at h
        · exact hrest h
        · exact (List.mem_cons.1 h).elim hhead hrest
      | false =>
        rw [unifyFrom_plain, List.mem_append] at h
        rcases h with h | h
        · cases held <;> simp_all
        · repeat' split at h
          · exact .inr (.inl (List.mem_singleton.1 h))
          · exact hrest h
          · exact hrest h
          · exact (List.mem_cons.1 h).elim hhead hrest

/-! ## Legal characters -/

/-- A reference stands for a legal character if it stands for anything. -/
theorem isLegal_of_charOfDigits? {base : Nat} {digits : List Char} {c : Char}
    (h : charOfDigits? base digits = some c) : isLegal c = true := by
  simp only [charOfDigits?] at h
  split at h
  · rename_i hlegal
    obtain rfl := Option.some.inj h
    simp only [Bool.and_eq_true] at hlegal
    exact hlegal.2
  · simp at h

/-- The five named references stand for legal characters, and the numbered ones are checked. -/
theorem isLegal_of_charOfReference? {name : List Char} {c : Char}
    (h : charOfReference? name = some c) : isLegal c = true := by
  unfold charOfReference? at h
  split at h
  · -- the five names, one by one
    obtain rfl := Option.some.inj h; decide
  · obtain rfl := Option.some.inj h; decide
  · obtain rfl := Option.some.inj h; decide
  · obtain rfl := Option.some.inj h; decide
  · obtain rfl := Option.some.inj h; decide
  · -- a number to the base of sixteen
    split at h
    · exact isLegal_of_charOfDigits? h
    · simp at h
  · -- a number to the base of ten
    split at h
    · exact isLegal_of_charOfDigits? h
    · simp at h
  · simp at h

/-- Pieces of legal characters stand for legal characters. -/
theorem isLegal_of_piecesFrom {pending : Option (List Char)} {s : List Char} {ps : List Piece}
    (hs : ∀ c ∈ s, isLegal c = true) (h : piecesFrom pending s = some ps) :
    ∀ c ∈ ps.map Piece.char, isLegal c = true := by
  -- along the text, inside a reference or outside
  induction s generalizing pending ps with
  | nil =>
    simp only [piecesFrom] at h
    split at h
    · obtain rfl := Option.some.inj h
      intro c hc
      simp at hc
    · simp at h
  | cons d s ih =>
    have hd : isLegal d = true := hs d List.mem_cons_self
    have htail : ∀ c ∈ s, isLegal c = true := fun c hc => hs c (List.mem_cons_of_mem d hc)
    simp only [piecesFrom] at h
    split at h
    · -- outside a reference
      split at h
      · exact ih htail h
      · obtain ⟨rest, hrest, rfl⟩ := Option.map_eq_some_iff.1 h
        intro c hc
        rcases List.mem_cons.1 hc with rfl | hc
        · exact hd
        · exact ih htail hrest c hc
    · -- inside a reference, which ends here or goes on
      split at h
      · obtain ⟨r, hr, h⟩ := Option.bind_eq_some_iff.1 h
        obtain ⟨rest, hrest, rfl⟩ := Option.map_eq_some_iff.1 h
        intro c hc
        rcases List.mem_cons.1 hc with rfl | hc
        · exact isLegal_of_charOfReference? hr
        · exact ih htail hrest c hc
      · exact ih htail h

/-- What unifying the ends of lines puts in is legal. -/
theorem isLegal_of_mem_unify {ps : List Piece} (hps : ∀ c ∈ ps.map Piece.char, isLegal c = true)
    {c : Char} (h : c ∈ unify ps) : isLegal c = true := by
  rcases mem_unifyFrom h with rfl | rfl | h
  · decide
  · decide
  · exact hps c h

/-- Content of legal characters stands for legal characters. -/
theorem isLegal_of_content? {s chars : List Char} (hs : ∀ c ∈ s, isLegal c = true)
    (h : content? s = some chars) : ∀ c ∈ chars, isLegal c = true := by
  obtain ⟨ps, hps, rfl⟩ := Option.map_eq_some_iff.1 h
  intro c hc
  exact isLegal_of_mem_unify (isLegal_of_piecesFrom hs hps) hc

/-- A section of legal characters stands for legal characters. -/
theorem isLegal_of_verbatim {s : List Char} (hs : ∀ c ∈ s, isLegal c = true) :
    ∀ c ∈ verbatim s, isLegal c = true := by
  intro c hc
  refine isLegal_of_mem_unify (fun d hd => ?_) hc
  -- every character of a section stands for itself
  rw [List.map_map, List.mem_map] at hd
  obtain ⟨e, he, rfl⟩ := hd
  exact hs e he

end BuildInjection.Xml
