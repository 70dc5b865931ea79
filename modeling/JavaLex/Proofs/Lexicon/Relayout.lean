import JavaLex.Proofs.Lexicon.Indentation

/-! # Bodies that are laid out otherwise

A body may end its lines in another way or stand further to the right. The one leaves its cut as it
is and the other puts a margin in front of every line of it, the last one included, so the lines
share as much more indentation as they have got. What is left of a body is the same in both cases.
-/
namespace JavaLex

namespace Text
variable {s t l tail margin : List Char} {c : Char} {ended : List (List Char)}

/-! ## Terminators -/

/-- The text with a line feed for each carriage return and line feed. -/
def mergeReturns : List Char → List Char
  | [] => []
  | '\r' :: '\n' :: s => '\n' :: mergeReturns s
  | c :: s => c :: mergeReturns s

/-- The text with a line feed for each terminator: for the pairs first, and then for what carriage
returns are left. -/
def normalized (s : List Char) : List Char :=
  (mergeReturns s).map fun c => if c = '\r' then '\n' else c

theorem mergeReturns_cons (hc : isTerminator c = false) (s : List Char) :
    mergeReturns (c :: s) = c :: mergeReturns s := by
  apply mergeReturns.eq_3
  rintro r rfl -
  cases hc

theorem mergeReturns_carriageReturn (hs : s.head? ≠ some '\n') :
    mergeReturns ('\r' :: s) = '\r' :: mergeReturns s := by
  apply mergeReturns.eq_3
  rintro r - rfl
  exact hs rfl

theorem normalized_line (hl : IsLine l) (s : List Char) :
    normalized (l ++ s) = l ++ normalized s := by
  induction l with
  | nil => rfl
  | cons c l ih =>
    obtain ⟨hc, hl⟩ := List.forall_mem_cons.mp hl
    have hreturn : c ≠ '\r' := by
      rintro rfl
      cases hc
    rw [List.cons_append, normalized, mergeReturns_cons hc, List.map_cons, if_neg hreturn]
    exact congrArg (c :: ·) (ih hl)

theorem normalized_terminator (ht : Terminates s t) :
    normalized (t ++ s) = ['\n'] ++ normalized s := by
  cases ht with
  | lineFeed => rfl
  | carriageReturn hs =>
    rw [List.singleton_append, normalized, mergeReturns_carriageReturn hs]
    rfl
  | both => rfl

theorem Cut.normalized_eq (h : Cut s ended tail) : normalized s = joined ended tail := by
  induction h with
  | @remainder tail htail => simpa [joined, normalized, mergeReturns] using normalized_line htail []
  | line hl ht _ ih => rw [normalized_line hl, normalized_terminator ht, ih, joined_cons]

/-- A carriage return before a pair is an end of its own. -/
example : normalized "a\r\r\nb\n\r".toList = "a\n\nb\n\n".toList := by decide

/-! ## Margins -/

/-- The text with a margin directly after each terminator. -/
def marginAfterEnds (margin : List Char) : List Char → List Char
  | [] => []
  | '\r' :: '\n' :: s => '\r' :: '\n' :: (margin ++ marginAfterEnds margin s)
  | c :: s =>
    if isTerminator c then c :: (margin ++ marginAfterEnds margin s)
    else c :: marginAfterEnds margin s

/-- The text with a margin at its start and directly after each terminator. -/
def indented (margin s : List Char) : List Char :=
  margin ++ marginAfterEnds margin s

theorem marginAfterEnds_cons (hc : isTerminator c = false) (margin s : List Char) :
    marginAfterEnds margin (c :: s) = c :: marginAfterEnds margin s := by
  rw [marginAfterEnds.eq_3, hc]
  · rfl
  · rintro r rfl -
    cases hc

theorem marginAfterEnds_line (hl : IsLine l) (margin s : List Char) :
    marginAfterEnds margin (l ++ s) = l ++ marginAfterEnds margin s := by
  induction l with
  | nil => rfl
  | cons c l ih =>
    obtain ⟨hc, hl⟩ := List.forall_mem_cons.mp hl
    rw [List.cons_append, marginAfterEnds_cons hc, ih hl, List.cons_append]

theorem marginAfterEnds_terminator (ht : Terminates s t) (margin : List Char) :
    marginAfterEnds margin (t ++ s) = t ++ indented margin s := by
  cases ht with
  | lineFeed => rfl
  | carriageReturn hs =>
    rw [List.singleton_append, marginAfterEnds.eq_3]
    · rfl
    · rintro r - rfl
      exact hs rfl
  | both => rfl

theorem head?_marginAfterEnds (margin s : List Char) :
    (marginAfterEnds margin s).head? = s.head? := by
  fun_cases marginAfterEnds margin s <;> rfl

/-- A carriage return is not joined to what comes after it by a margin in between. -/
theorem Terminates.indented (h : Terminates s t) (hmargin : IsLine margin) :
    Terminates (indented margin s) t := by
  cases h with
  | lineFeed => exact .lineFeed
  | both => exact .both
  | carriageReturn hs =>
    apply Terminates.carriageReturn
    cases margin with
    | nil => rwa [Text.indented, List.nil_append, head?_marginAfterEnds]
    | cons c margin =>
      intro hc
      obtain rfl := Option.some.inj hc
      exact hmargin.not_mem_lineFeed List.mem_cons_self

/-- The text is cut at the same places, each line with the margin in front. -/
theorem Cut.indented (h : Cut s ended tail) (hmargin : IsLine margin) :
    Cut (indented margin s) (ended.map (margin ++ ·)) (margin ++ tail) := by
  induction h with
  | @remainder tail htail =>
    have hrest : marginAfterEnds margin tail = tail := by
      simpa [marginAfterEnds] using marginAfterEnds_line htail margin []
    rw [Text.indented, hrest]
    exact .remainder (List.forall_mem_append.mpr ⟨hmargin, htail⟩)
  | line hl ht _ ih =>
    rw [Text.indented, marginAfterEnds_line hl, marginAfterEnds_terminator ht,
      ← List.append_assoc]
    exact .line (List.forall_mem_append.mpr ⟨hmargin, hl⟩) (ht.indented hmargin) ih

end Text

namespace Lexicon
open Text

variable {margin : List Char} {lines : List (List Char)}

/-- What is left of a body does not tell how its lines ended. -/
theorem stripIndent_normalized (body : List Char) :
    stripIndent (normalized body) = stripIndent body := by
  obtain ⟨ended, tail, hcut⟩ := exists_cut body
  have hnormalized : Cut (normalized body) ended tail := by
    rw [hcut.normalized_eq]
    exact cut_joined hcut.isLine_of_mem hcut.isLine_tail
  rw [stripIndent_of_cut hnormalized, stripIndent_of_cut hcut]

/-! ## Lines behind a margin -/

section Margin
variable (hmargin : Blank margin)
include hmargin

theorem isBlank_margin (line : List Char) : isBlank (margin ++ line) = isBlank line := by
  have hall : margin.all isWhitespace := List.all_eq_true.mpr hmargin
  rw [isBlank, List.all_append, hall, Bool.true_and, isBlank]

theorem indentation_margin (line : List Char) :
    indentation (margin ++ line) = margin.length + indentation line := by
  rw [indentation, List.takeWhile_append_of_pos hmargin, List.length_append, indentation]

/-- A margin is removed with what stands behind it. -/
theorem stripLine_margin (k : Nat) (line : List Char) :
    stripLine (margin.length + k) (margin ++ line) = stripLine k line := by
  have hskip : min (margin.length + k) (indentation (margin ++ line)) =
      margin.length + min k (indentation line) := by
    rw [indentation_margin hmargin, Nat.add_min_add_left]
  rw [stripLine, isBlank_margin hmargin, hskip, List.drop_length_add_append, stripLine]

theorem indentBounds_margin (lines : List (List Char)) :
    indentBounds (lines.map (margin ++ ·)) = (indentBounds lines).map (margin.length + ·) := by
  have hcontent : (lines.map (margin ++ ·)).filter (!isBlank ·) =
      (lines.filter (!isBlank ·)).map (margin ++ ·) := by
    rw [List.filter_map]
    congr 2
    funext line
    simp [isBlank_margin hmargin]
  rw [indentBounds, indentBounds, hcontent, List.map_append, List.map_map, List.map_map,
    List.getLast?_map]
  congr 1
  · congr 1
    funext line
    exact indentation_margin hmargin line
  · cases lines.getLast? with
    | none => rfl
    | some last =>
      simp only [Option.map_some, isBlank_margin hmargin, List.length_append]
      split <;> rfl

/-- The lines share their margin and what they shared without it. -/
theorem sharedIndent_margin (h : lines ≠ []) :
    sharedIndent (lines.map (margin ++ ·)) = margin.length + sharedIndent lines := by
  have hbounds := indentBounds_margin hmargin lines
  apply Nat.le_antisymm
  · apply sharedIndent_le
    rw [hbounds]
    exact List.mem_map_of_mem (sharedIndent_mem (indentBounds_ne_nil h))
  · have hmem : sharedIndent (lines.map (margin ++ ·)) ∈ indentBounds (lines.map (margin ++ ·)) :=
      sharedIndent_mem (indentBounds_ne_nil (mt List.map_eq_nil_iff.mp h))
    rw [hbounds] at hmem
    obtain ⟨n, hn, heq⟩ := List.mem_map.mp hmem
    have hle := sharedIndent_le hn
    omega

theorem outdent_margin (ended : List (List Char)) (tail : List Char) :
    outdent (ended.map (margin ++ ·)) (margin ++ tail) = margin.length + outdent ended tail := by
  have hlines := sharedIndent_margin hmargin (List.concat_ne_nil tail ended)
  rwa [List.map_append, List.map_singleton, ← outdent_eq_sharedIndent,
    ← outdent_eq_sharedIndent] at hlines

/-- What is left of a body does not tell how far to the right it stood. -/
theorem stripIndent_margin (hline : IsLine margin) (body : List Char) :
    stripIndent (indented margin body) = stripIndent body := by
  obtain ⟨ended, tail, hcut⟩ := exists_cut body
  have hlines : stripLine (margin.length + outdent ended tail) ∘ (margin ++ ·) =
      stripLine (outdent ended tail) := by
    funext line
    exact stripLine_margin hmargin _ line
  rw [stripIndent_of_cut (hcut.indented hline), outdent_margin hmargin, List.map_map, hlines,
    stripLine_margin hmargin, stripIndent_of_cut hcut]

end Margin

/-- As many spaces in front of every line, behind the last terminator too, are no more than
incidental. -/
theorem stripIndent_indented (k : Nat) (body : List Char) :
    stripIndent (indented (List.replicate k ' ') body) = stripIndent body := by
  apply stripIndent_margin
  · intro c hc
    rw [List.eq_of_mem_replicate hc]
    decide
  · intro c hc
    rw [List.eq_of_mem_replicate hc]
    decide

/-- The spaces behind the last terminator make a closing line of their own. -/
example : indented [' ', ' '] "a\r\n\r b\n".toList = "  a\r\n  \r   b\n  ".toList := by decide

end Lexicon
end JavaLex
