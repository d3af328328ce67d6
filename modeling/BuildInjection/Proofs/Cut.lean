import Mathlib.Data.List.DropRight
import BuildInjection.Cut

/-!
# What cutting and trimming leave of a list

A list without a separator is one piece, and every element of a piece is an element of the list.
Trimming takes off both ends only as much as it has to, so that it changes nothing the second time
(`trimEnds_trimEnds`), and whatever is shorter than a list cannot be trimmed to it
(`eq_of_trimEnds_eq`).
-/

namespace BuildInjection

variable {α : Type}

/-! ## Cutting -/

/-- The pieces are those of the standard library. -/
theorem cut_eq_splitOnP (isSep : α → Bool) (as : List α) : cut isSep as = as.splitOnP isSep := by
  induction as with
  | nil => rfl
  | cons a as ih =>
    rw [cut, List.splitOnP_cons_eq_if_modifyHead, ih]
    by_cases ha : isSep a = true
    · rw [if_pos ha, if_pos ha]
    · rw [if_neg ha, if_neg ha]
      -- there is a first piece, and it takes the element
      cases hsplit : as.splitOnP isSep with
      | nil => exact absurd hsplit (List.splitOnP_ne_nil isSep as)
      | cons piece pieces => rfl

/-- A list without a separator is one piece. -/
theorem cut_eq_singleton {isSep : α → Bool} {as : List α} (h : ∀ a ∈ as, isSep a = false) :
    cut isSep as = [as] := by
  induction as with
  | nil => rfl
  | cons a as ih =>
    have ha : isSep a = false := h a List.mem_cons_self
    have has : cut isSep as = [as] := ih fun b hb => h b (List.mem_cons_of_mem a hb)
    simp [cut, ha, has]

/-- What is in a piece is in the list. -/
theorem mem_of_mem_cut {isSep : α → Bool} {as piece : List α} (h : piece ∈ cut isSep as) {a : α}
    (ha : a ∈ piece) : a ∈ as := by
  induction as generalizing piece with
  | nil =>
    rw [cut, List.mem_singleton] at h
    rw [h] at ha
    exact ha
  | cons b as ih =>
    simp only [cut] at h
    split at h
    · -- a separator ends an empty piece, and the others are pieces of the rest
      rcases List.mem_cons.1 h with rfl | h
      · exact absurd ha List.not_mem_nil
      · exact List.mem_cons_of_mem b (ih h ha)
    · -- the element goes to the front of the first piece
      cases hcut : cut isSep as with
      | nil => exact absurd hcut (cut_ne_nil isSep as)
      | cons first more =>
        rw [hcut] at h ih
        rcases List.mem_cons.1 h with rfl | h
        · rcases List.mem_cons.1 ha with rfl | ha
          · exact List.mem_cons_self
          · exact List.mem_cons_of_mem b (ih List.mem_cons_self ha)
        · exact List.mem_cons_of_mem b (ih (List.mem_cons_of_mem first h) ha)

/-- Where the first separator stands, and what is before and after it, is known from the list. -/
theorem append_cons_inj {isSep : α → Bool} {as bs : List α} {a b : α} {s t : List α}
    (has : ∀ x ∈ as, isSep x = false) (hbs : ∀ x ∈ bs, isSep x = false) (ha : isSep a = true)
    (hb : isSep b = true) (h : as ++ a :: s = bs ++ b :: t) : as = bs ∧ a = b ∧ s = t := by
  induction as generalizing bs with
  | nil =>
    cases bs with
    | nil => exact ⟨rfl, List.cons.inj h⟩
    | cons y bs =>
      obtain ⟨rfl, -⟩ := List.cons.inj h
      -- a separator on one side would be none on the other
      exact absurd ha (by simp [hbs a List.mem_cons_self])
  | cons x as ih =>
    obtain ⟨hx, has⟩ := List.forall_mem_cons.1 has
    cases bs with
    | nil =>
      obtain ⟨rfl, -⟩ := List.cons.inj h
      exact absurd hb (by simp [hx])
    | cons y bs =>
      obtain ⟨rfl, htail⟩ := List.cons.inj h
      obtain ⟨rfl, hrest⟩ := ih has (fun z hz => hbs z (List.mem_cons_of_mem x hz)) htail
      exact ⟨rfl, hrest⟩

/-! ## Trimming -/

/-- Trimming is the library's dropping, from the left and then from the right. -/
theorem trimEnds_eq_rdropWhile (unwanted : α → Bool) (as : List α) :
    trimEnds unwanted as = (as.dropWhile unwanted).rdropWhile unwanted := rfl

/-- Nothing is left exactly when nothing is wanted. -/
theorem trimEnds_eq_nil_iff {unwanted : α → Bool} {as : List α} :
    trimEnds unwanted as = [] ↔ ∀ a ∈ as, unwanted a = true := by
  rw [trimEnds_eq_rdropWhile, List.rdropWhile_eq_nil_iff]
  constructor
  · -- the first wanted element would be left
    intro h a ha
    by_contra hna
    have hdrop : as.dropWhile unwanted = [] := by
      by_contra hne
      have hhead := List.head_dropWhile_not unwanted hne
      rw [h _ (List.head_mem hne)] at hhead
      simp at hhead
    exact hna (List.dropWhile_eq_nil_iff.1 hdrop a ha)
  · intro h a ha
    exact h a ((List.dropWhile_sublist unwanted).mem ha)

/-- What is left stood in the list, in the same order. -/
theorem trimEnds_sublist (unwanted : α → Bool) (as : List α) :
    (trimEnds unwanted as).Sublist as := by
  rw [trimEnds_eq_rdropWhile]
  -- a list without an end of it, of a list without a front of it
  exact (List.rdropWhile_prefix unwanted _).sublist.trans (List.dropWhile_sublist unwanted)

/-- A list that begins with something wanted keeps its front. -/
theorem dropWhile_trimEnds (unwanted : α → Bool) (as : List α) :
    (trimEnds unwanted as).dropWhile unwanted = trimEnds unwanted as := by
  cases h : trimEnds unwanted as with
  | nil => rfl
  | cons a rest =>
    -- what is left begins like the list whose front has been taken off
    obtain ⟨tail, htail⟩ := List.rdropWhile_prefix unwanted (as.dropWhile unwanted)
    rw [← trimEnds_eq_rdropWhile, h, List.cons_append] at htail
    have hne : as.dropWhile unwanted ≠ [] := by simp [← htail]
    have ha : ¬ unwanted a = true := by
      have := List.head_dropWhile_not unwanted hne
      simpa [← htail] using this
    rw [List.dropWhile_cons, if_neg ha]

/-- Trimming a second time changes nothing. -/
theorem trimEnds_trimEnds (unwanted : α → Bool) (as : List α) :
    trimEnds unwanted (trimEnds unwanted as) = trimEnds unwanted as := by
  -- the front is there to stay, and cutting the end twice is the library's lemma
  rw [trimEnds_eq_rdropWhile unwanted (trimEnds unwanted as), dropWhile_trimEnds]
  rw [trimEnds_eq_rdropWhile, List.rdropWhile_idempotent]

/-- The last element of a trimmed list is a wanted one. -/
theorem eq_false_of_getLast?_of_trimEnds_eq {unwanted : α → Bool} {as : List α} {a : α}
    (h : trimEnds unwanted as = as) (ha : as.getLast? = some a) : unwanted a = false := by
  have hne : as ≠ [] := by
    rintro rfl
    simp at ha
  -- a trimmed list has kept its front, so it is its end that has been looked at
  have hdrop : as.dropWhile unwanted = as := by
    rw [← h]
    exact dropWhile_trimEnds unwanted as
  rw [trimEnds_eq_rdropWhile, hdrop, List.rdropWhile_eq_self_iff] at h
  rw [← (List.getLast_eq_iff_getLast?_eq_some hne).2 ha]
  exact Bool.eq_false_iff.2 (h hne)

/-- A list that is no longer than what comes of trimming it is that list. -/
theorem eq_of_trimEnds_eq {unwanted : α → Bool} {as bs : List α}
    (h : trimEnds unwanted as = bs) (hle : as.length ≤ bs.length) : as = bs := by
  have hsub : bs.Sublist as := h ▸ trimEnds_sublist unwanted as
  exact (hsub.eq_of_length_le hle).symm

end BuildInjection
