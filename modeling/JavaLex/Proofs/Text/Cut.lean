import JavaLex.Proofs.Lexicon.Blank
import JavaLex.Proofs.Text.Pieces

/-! # Cutting a text into lines

A text falls apart into the lines that have an end and what stands after the last of the ends. Its
lines are the ended ones and that remainder, unless it is empty. A text that is put together of
ended lines and a remainder is cut there again.
-/
namespace JavaLex.Text
open Lexicon

/-- No line ends within it. -/
def IsLine (line : List Char) : Prop :=
  ∀ c ∈ line, isTerminator c = false

/-- What ends a line before `s`. A carriage return and a line feed are one end. -/
inductive Terminates (s : List Char) : List Char → Prop where
  | lineFeed : Terminates s ['\n']
  | carriageReturn : s.head? ≠ some '\n' → Terminates s ['\r']
  | both : Terminates s ['\r', '\n']

/-- The text is the ended lines, each before its end, and the remainder. -/
inductive Cut : List Char → List (List Char) → List Char → Prop where
  | remainder {tail : List Char} : IsLine tail → Cut tail [] tail
  | line {l t s tail : List Char} {ended : List (List Char)} : IsLine l → Terminates s t →
      Cut s ended tail → Cut (l ++ (t ++ s)) (l :: ended) tail

variable {s t l tail : List Char} {c : Char} {ended : List (List Char)}

theorem isTerminator_iff : isTerminator c ↔ c = '\n' ∨ c = '\r' := by
  simp [isTerminator]

theorem IsLine.not_mem_lineFeed (h : IsLine l) : '\n' ∉ l :=
  fun hmem => Bool.false_ne_true (h _ hmem).symm

theorem IsLine.not_mem_carriageReturn (h : IsLine l) : '\r' ∉ l :=
  fun hmem => Bool.false_ne_true (h _ hmem).symm

theorem linesFrom_cons (hc : isTerminator c = false) (line : List Char)
    (done : Array (List Char)) (s : List Char) :
    linesFrom line done (c :: s) = linesFrom (c :: line) done s := by
  have hreturn : c ≠ '\r' := by
    rintro rfl
    cases hc
  rw [linesFrom.eq_3 _ _ _ _ fun _ h _ => hreturn h, hc]
  rfl

theorem linesFrom_line (hl : IsLine l) (line : List Char) (done : Array (List Char))
    (s : List Char) : linesFrom line done (l ++ s) = linesFrom (l.reverse ++ line) done s := by
  induction l generalizing line with
  | nil => rfl
  | cons c l ih =>
    obtain ⟨hc, hl⟩ := List.forall_mem_cons.mp hl
    rw [List.cons_append, linesFrom_cons hc, ih hl, List.reverse_cons, List.append_assoc]
    rfl

theorem linesFrom_terminator (ht : Terminates s t) (line : List Char)
    (done : Array (List Char)) :
    linesFrom line done (t ++ s) = linesFrom [] (done.push line.reverse) s := by
  cases ht with
  | lineFeed => rfl
  | both => rfl
  | carriageReturn hs =>
    rw [List.singleton_append, linesFrom.eq_3]
    · rfl
    · rintro r - rfl
      exact hs rfl

theorem linesFrom_append (line : List Char) (found done : Array (List Char)) (s : List Char) :
    linesFrom line (found ++ done) s = found ++ linesFrom line done s := by
  fun_induction linesFrom line done s with
  | case1 line done hline => simp [linesFrom, hline]
  | case2 line done hline => simp [linesFrom, hline]
  | case3 line done s ih => rw [linesFrom, ← ih, Array.append_push]
  | case4 line done c s hcr hc ih =>
    rw [linesFrom.eq_3 _ _ _ _ hcr, if_pos hc, ← ih, Array.append_push]
  | case5 line done c s hcr hc ih => rw [linesFrom.eq_3 _ _ _ _ hcr, if_neg hc, ih]

theorem lines_terminator (hl : IsLine l) (ht : Terminates s t) :
    lines (l ++ (t ++ s)) = l :: lines s := by
  rw [lines, linesFrom_line hl, linesFrom_terminator ht, List.append_nil, List.reverse_reverse,
    lines]
  simpa using congrArg Array.toList (linesFrom_append [] #[l] #[] s)

theorem lines_of_isLine (hl : IsLine l) : lines l = if l = [] then [] else [l] := by
  have h := linesFrom_line hl [] #[] []
  rw [List.append_nil, List.append_nil] at h
  rw [lines, h, linesFrom]
  split <;> simp_all

/-- A text that holds a terminator has a first line with an end. -/
theorem exists_first (s : List Char) : IsLine s ∨
    ∃ l t rest, s = l ++ (t ++ rest) ∧ IsLine l ∧ Terminates rest t := by
  obtain ⟨tail, hs, hline, htail⟩ := takeWhile_eq_iff.mp
    (rfl : s.takeWhile (!isTerminator ·) = s.takeWhile (!isTerminator ·))
  generalize s.takeWhile (!isTerminator ·) = l at hs hline
  have hl : IsLine l := fun c hc => by simpa using hline c hc
  cases tail with
  | nil =>
    rw [hs, List.append_nil]
    exact .inl hl
  | cons c tail =>
    have hc : isTerminator c := by simpa using htail c rfl
    right
    rcases isTerminator_iff.mp hc with rfl | rfl
    · exact ⟨l, ['\n'], tail, hs, hl, .lineFeed⟩
    · by_cases hfeed : tail.head? = some '\n'
      · obtain ⟨rest, rfl⟩ := List.head?_eq_some_iff.mp hfeed
        exact ⟨l, ['\r', '\n'], rest, hs, hl, .both⟩
      · exact ⟨l, ['\r'], tail, hs, hl, .carriageReturn hfeed⟩

theorem Terminates.ne_nil (h : Terminates s t) : t ≠ [] := by
  cases h <;> simp

theorem exists_cut (s : List Char) : ∃ ended tail, Cut s ended tail := by
  rcases exists_first s with hline | ⟨l, t, rest, hs, hl, ht⟩
  · exact ⟨[], s, .remainder hline⟩
  · have hlt : rest.length < s.length := by
      have hpos := List.length_pos_iff.mpr ht.ne_nil
      simp only [hs, List.length_append]
      omega
    obtain ⟨ended, tail, hcut⟩ := exists_cut rest
    exact ⟨l :: ended, tail, hs ▸ .line hl ht hcut⟩
termination_by s.length

namespace Cut

theorem isLine_of_mem (h : Cut s ended tail) : ∀ l ∈ ended, IsLine l := by
  induction h with
  | remainder => simp
  | line hl _ _ ih => exact List.forall_mem_cons.mpr ⟨hl, ih⟩

theorem isLine_tail (h : Cut s ended tail) : IsLine tail := by
  induction h with
  | remainder htail => exact htail
  | line _ _ _ ih => exact ih

theorem lines_eq (h : Cut s ended tail) :
    lines s = ended ++ if tail = [] then [] else [tail] := by
  induction h with
  | remainder htail => rw [lines_of_isLine htail, List.nil_append]
  | line hl ht _ ih => rw [lines_terminator hl ht, ih, List.cons_append]

end Cut

/-- The ended lines, each before a line feed, and the remainder. -/
def joined (ended : List (List Char)) (tail : List Char) : List Char :=
  ended.flatMap (· ++ ['\n']) ++ tail

theorem joined_cons (l : List Char) (ended : List (List Char)) (tail : List Char) :
    joined (l :: ended) tail = l ++ (['\n'] ++ joined ended tail) := by
  simp [joined]

theorem cut_joined (hended : ∀ l ∈ ended, IsLine l) (htail : IsLine tail) :
    Cut (joined ended tail) ended tail := by
  induction ended with
  | nil => exact .remainder htail
  | cons l ended ih =>
    obtain ⟨hl, hended⟩ := List.forall_mem_cons.mp hended
    rw [joined_cons]
    exact .line hl .lineFeed (ih hended)

/-- Cut at its line feeds alone, such a text falls apart into the same lines. -/
theorem pieces_joined (hended : ∀ l ∈ ended, IsLine l) (htail : IsLine tail) :
    pieces '\n' (joined ended tail) = ended ++ [tail] := by
  induction ended with
  | nil => exact pieces_of_not_mem htail.not_mem_lineFeed
  | cons l ended ih =>
    obtain ⟨hl, hended⟩ := List.forall_mem_cons.mp hended
    rw [joined_cons, List.singleton_append, pieces_append_cons,
      pieces_of_not_mem hl.not_mem_lineFeed, ih hended, List.singleton_append, List.cons_append]

theorem carriageReturn_not_mem_joined (hended : ∀ l ∈ ended, IsLine l) (htail : IsLine tail) :
    '\r' ∉ joined ended tail := by
  induction ended with
  | nil => exact htail.not_mem_carriageReturn
  | cons l ended ih =>
    obtain ⟨hl, hended⟩ := List.forall_mem_cons.mp hended
    rw [joined_cons]
    simp [hl.not_mem_carriageReturn, ih hended]

theorem intercalate_lineFeed (ended : List (List Char)) (tail : List Char) :
    List.intercalate ['\n'] (ended ++ [tail]) = joined ended tail := by
  induction ended with
  | nil => simp [joined]
  | cons l ended ih =>
    rw [joined_cons, ← ih, List.cons_append]
    cases ended <;> simp [List.intercalate]

/-! ## Line feeds alone -/

/-- The text has so many lines ended by LF. A line feed at the end starts no further line. -/
def HasLines (s : List Char) (n : Nat) : Prop :=
  ∃ ended tail, s = joined ended tail ∧ (∀ l ∈ ended, '\n' ∉ l) ∧ '\n' ∉ tail ∧
    n = ended.length + if tail = [] then 0 else 1

theorem exists_joined (s : List Char) :
    ∃ ended tail, s = joined ended tail ∧ (∀ l ∈ ended, '\n' ∉ l) ∧ '\n' ∉ tail := by
  induction s with
  | nil => exact ⟨[], [], rfl, by simp, by simp⟩
  | cons c s ih =>
    obtain ⟨ended, tail, rfl, hended, htail⟩ := ih
    by_cases hc : c = '\n'
    · exact ⟨[] :: ended, tail, by simp [joined_cons, hc],
        List.forall_mem_cons.mpr ⟨by simp, hended⟩, htail⟩
    · cases ended with
      | nil => exact ⟨[], c :: tail, rfl, by simp, by simp [Ne.symm hc, htail]⟩
      | cons l ended =>
        obtain ⟨hl, hended⟩ := List.forall_mem_cons.mp hended
        exact ⟨(c :: l) :: ended, tail, by simp [joined_cons],
          List.forall_mem_cons.mpr ⟨by simp [Ne.symm hc, hl], hended⟩, htail⟩

theorem count_joined (hended : ∀ l ∈ ended, '\n' ∉ l) (htail : '\n' ∉ tail) :
    (joined ended tail).count '\n' = ended.length := by
  induction ended with
  | nil => exact List.count_eq_zero.mpr htail
  | cons l ended ih =>
    obtain ⟨hl, hended⟩ := List.forall_mem_cons.mp hended
    rw [joined_cons, List.count_append, List.count_append, List.count_eq_zero.mpr hl, ih hended,
      List.length_cons]
    exact (Nat.zero_add _).trans (Nat.add_comm _ _)

/-- There is nothing, or a line feed at the end, exactly if nothing stands after the last one. -/
theorem all_getLast?_joined (htail : '\n' ∉ tail) :
    (joined ended tail).getLast?.all (· == '\n') ↔ tail = [] := by
  rcases List.eq_nil_or_concat tail with rfl | ⟨front, c, rfl⟩
  · rcases List.eq_nil_or_concat ended with rfl | ⟨front, l, rfl⟩
    · simp [joined]
    · simp [joined]
  · have hc : c ≠ '\n' := by
      rintro rfl
      simp at htail
    have hlast : joined ended (front.concat c) = joined ended front ++ [c] := by simp [joined]
    rw [hlast, List.getLast?_concat]
    simp [hc]

theorem hasLines_iff {n : Nat} : HasLines s n ↔ n = lineCount s := by
  have hcount : ∀ ended tail, (∀ l ∈ ended, '\n' ∉ l) → '\n' ∉ tail →
      lineCount (joined ended tail) = ended.length + if tail = [] then 0 else 1 := by
    intro ended tail hended htail
    rw [lineCount, count_joined hended htail]
    simp only [all_getLast?_joined htail]
  constructor
  · rintro ⟨ended, tail, rfl, hended, htail, rfl⟩
    exact (hcount ended tail hended htail).symm
  · rintro rfl
    obtain ⟨ended, tail, rfl, hended, htail⟩ := exists_joined s
    exact ⟨ended, tail, rfl, hended, htail, hcount ended tail hended htail⟩

end JavaLex.Text
