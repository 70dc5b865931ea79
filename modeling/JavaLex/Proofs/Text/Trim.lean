import JavaLex.Text.Line
import Mathlib.Data.List.DropRight

/-! # Cutting off the end of a text

What is cut off is the run of characters behind the last one that stays. Cutting again takes
nothing more.
-/
namespace JavaLex.Text
variable {p : Char → Bool}

/-- What is cut off comes after the last character that stays. -/
theorem trimEnd_append_cons {c : Char} (h : p c = false) (s t : List Char) :
    trimEnd p (s ++ c :: t) = s ++ c :: trimEnd p t := by
  have hstop : (c :: s.reverse).dropWhile p = c :: s.reverse :=
    List.dropWhile_cons_of_neg (by simp [h])
  have hdrop : (t.reverse ++ c :: s.reverse).dropWhile p =
      t.reverse.dropWhile p ++ c :: s.reverse := by
    rw [List.dropWhile_append, hstop]
    split
    case isTrue hnil => rw [List.isEmpty_iff.mp hnil, List.nil_append]
    case isFalse => rfl
  rw [trimEnd, List.reverse_append, List.reverse_cons, List.append_assoc, List.singleton_append,
    hdrop]
  simp [trimEnd]

/-- What stays and what is cut off are the text, and the one ends where the other starts. -/
theorem exists_trail (p : Char → Bool) (s : List Char) : ∃ trail, s = trimEnd p s ++ trail ∧
    (∀ c ∈ trail, p c) ∧ ∀ c ∈ (trimEnd p s).getLast?, p c = false := by
  refine ⟨s.rtakeWhile p, List.rdropWhile_append_rtakeWhile.symm, ?_, ?_⟩
  · intro c hc
    exact List.mem_rtakeWhile_imp hc
  · intro c hc
    obtain ⟨hne, rfl⟩ := List.mem_getLast?_eq_getLast hc
    exact Bool.eq_false_iff.mpr (List.rdropWhile_last_not p s hne)

theorem mem_of_mem_trimEnd {c : Char} {s : List Char} (h : c ∈ trimEnd p s) : c ∈ s := by
  rw [trimEnd, List.mem_reverse] at h
  exact List.mem_reverse.mp ((List.dropWhile_sublist p).subset h)

theorem trimEnd_eq_self {s : List Char} (h : ∀ c ∈ s, p c = false) : trimEnd p s = s := by
  refine List.rdropWhile_eq_self_iff.mpr fun hne => ?_
  rw [h _ (List.getLast_mem hne)]
  exact Bool.false_ne_true

theorem trimEnd_trimEnd (s : List Char) : trimEnd p (trimEnd p s) = trimEnd p s :=
  List.rdropWhile_idempotent p s

end JavaLex.Text
