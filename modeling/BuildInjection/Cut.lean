/-!
# Cutting and trimming lists

A list is cut at every separator in it, or freed of what is not wanted at its ends.  The readers of
this library use both on characters and on larger parts.
-/

namespace BuildInjection

variable {α : Type}

/-- The pieces of a list between its separators, empty ones included. -/
def cut (isSep : α → Bool) : List α → List (List α)
  | [] => [[]]
  | a :: as =>
    if isSep a then [] :: cut isSep as
    else match cut isSep as with
      | [] => [[a]]
      -- the element belongs to the piece that begins here
      | piece :: pieces => (a :: piece) :: pieces

/-- A list without the elements of a kind at either end. -/
def trimEnds (unwanted : α → Bool) (as : List α) : List α :=
  ((as.dropWhile unwanted).reverse.dropWhile unwanted).reverse

/-- There is always a piece, and it may be empty. -/
theorem cut_ne_nil (isSep : α → Bool) (as : List α) : cut isSep as ≠ [] := by
  cases as with
  | nil => simp [cut]
  | cons a as =>
    simp only [cut]
    split
    · simp
    · split <;> simp

/-- No piece holds a separator. -/
theorem isSep_eq_false_of_mem_cut {isSep : α → Bool} {as piece : List α}
    (h : piece ∈ cut isSep as) {a : α} (ha : a ∈ piece) : isSep a = false := by
  induction as generalizing piece with
  | nil => simp_all [cut]
  | cons b as ih =>
    simp only [cut] at h
    split at h
    · rcases List.mem_cons.1 h with rfl | h
      · simp at ha
      · exact ih h ha
    · rename_i hb
      cases hcut : cut isSep as with
      | nil => exact absurd hcut (cut_ne_nil isSep as)
      | cons first more =>
        rw [hcut] at h ih
        rcases List.mem_cons.1 h with rfl | h
        · rcases List.mem_cons.1 ha with rfl | ha
          · simpa using hb
          · exact ih List.mem_cons_self ha
        · exact ih (List.mem_cons_of_mem _ h) ha

end BuildInjection
