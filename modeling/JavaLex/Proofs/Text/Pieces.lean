import JavaLex.Text.Line

/-! # Pieces of a text

A text has a piece at least, and one more for each place where it is cut.
-/
namespace JavaLex.Text

theorem pieces_ne_nil (d : Char) (s : List Char) : pieces d s ≠ [] := by
  cases s with
  | nil => simp
  | cons c s =>
    rw [pieces_cons]
    split
    · simp
    · split <;> simp

theorem pieces_of_not_mem {d : Char} {s : List Char} (h : d ∉ s) : pieces d s = [s] := by
  induction s with
  | nil => rfl
  | cons c s ih =>
    rw [List.mem_cons, not_or] at h
    rw [pieces_cons, if_neg (Ne.symm h.1), ih h.2]

/-- A place where `d` stands cuts a text apart. -/
theorem pieces_append_cons (d : Char) (s t : List Char) :
    pieces d (s ++ d :: t) = pieces d s ++ pieces d t := by
  induction s with
  | nil => simp [pieces_cons]
  | cons c s ih =>
    rw [List.cons_append, pieces_cons, pieces_cons, ih]
    split
    · rfl
    · cases hs : pieces d s with
      | nil => exact absurd hs (pieces_ne_nil d s)
      | cons piece rest => rfl

/-- Texts without `d` are the pieces of what they make with `d` between them. -/
theorem pieces_intercalate {d : Char} {ls : List (List Char)} (hne : ls ≠ [])
    (h : ∀ l ∈ ls, d ∉ l) : pieces d ([d].intercalate ls) = ls := by
  induction ls with
  | nil => exact absurd rfl hne
  | cons l ls ih =>
    obtain ⟨hl, hls⟩ := List.forall_mem_cons.mp h
    cases ls with
    | nil => rw [List.intercalate_singleton, pieces_of_not_mem hl]
    | cons l' ls =>
      rw [List.intercalate_cons_cons, List.append_assoc, List.singleton_append,
        pieces_append_cons, pieces_of_not_mem hl, ih (List.cons_ne_nil _ _) hls,
        List.singleton_append]

theorem pieces_eq_splitOn (d : Char) (s : List Char) : pieces d s = s.splitOn d := by
  induction s with
  | nil => rfl
  | cons c s ih =>
    rw [pieces_cons, ih, List.splitOn_cons_eq_if_modifyHead]
    by_cases hc : c = d
    · simp [hc]
    · cases hs : s.splitOn d with
      | nil => exact absurd hs (List.splitOn_ne_nil d s)
      | cons piece rest => simp [hc]

theorem length_pieces (d : Char) (s : List Char) : (pieces d s).length = s.count d + 1 := by
  induction s with
  | nil => rfl
  | cons c s ih =>
    rw [pieces_cons]
    split
    case isTrue hc => rw [hc, List.count_cons_self, List.length_cons, ih]
    case isFalse hc =>
      rw [List.count_cons_of_ne hc, ← ih]
      cases hs : pieces d s with
      | nil => exact absurd hs (pieces_ne_nil d s)
      | cons piece rest => rfl

end JavaLex.Text
