import JavaLex.Lexicon.TextBlock
import JavaLex.Proofs.Text.Cut
import JavaLex.Proofs.Text.Trim

/-! # Incidental indentation

A body is stripped line by line: each line of its cut loses the same number of characters from its
front, as far as they are whitespace, and the whitespace at its end. The lines that are left are
cut again at the same places, no whitespace is left at their ends, and one of them starts in the
first column if the remainder is not empty. So stripping again changes nothing.
-/
namespace JavaLex.Lexicon
open Text

variable {body line lead rest tail : List Char} {lines ended : List (List Char)} {c : Char}
  {n k : Nat}

/-! ## One line -/

theorem isBlank_iff : isBlank line ↔ Blank line := by
  simp [isBlank, Blank]

/-- A line that is not blank has whitespace, a first other character and what comes after it. -/
theorem line_cases (line : List Char) : isBlank line ∨
    ∃ lead c rest, line = lead ++ c :: rest ∧ Blank lead ∧ isWhitespace c = false := by
  obtain ⟨lead, tail, rfl, hlead, htail⟩ := exists_gap line
  cases tail with
  | nil =>
    rw [List.append_nil, isBlank_iff]
    exact .inl hlead
  | cons c rest => exact .inr ⟨lead, c, rest, rfl, hlead, htail c rfl⟩

section Content
variable (hlead : Blank lead) (hc : isWhitespace c = false)
include hc

theorem isBlank_content : isBlank (lead ++ c :: rest) = false := by
  simp [isBlank, hc]

include hlead

theorem indentation_content : indentation (lead ++ c :: rest) = lead.length := by
  rw [indentation, List.takeWhile_append_of_pos hlead, List.takeWhile_cons_of_neg (by simp [hc]),
    List.append_nil]

theorem stripLine_content (k : Nat) :
    stripLine k (lead ++ c :: rest) = lead.drop k ++ c :: trimEnd isWhitespace rest := by
  have hdrop : (lead ++ c :: rest).drop (min k lead.length) = lead.drop k ++ c :: rest := by
    rw [List.drop_append_of_le_length (Nat.min_le_right k lead.length)]
    congr 1
    rcases Nat.le_total k lead.length with h | h
    · rw [Nat.min_eq_left h]
    · rw [Nat.min_eq_right h, List.drop_length, List.drop_eq_nil_of_le h]
  rw [stripLine, isBlank_content hc, indentation_content hlead hc, hdrop,
    trimEnd_append_cons hc]
  rfl

end Content

theorem stripLine_of_isBlank (h : isBlank line) (k : Nat) : stripLine k line = [] := by
  rw [stripLine, if_pos h]

theorem Blank.drop (h : Blank lead) (k : Nat) : Blank (lead.drop k) :=
  fun c hc => h c (List.mem_of_mem_drop hc)

theorem isBlank_stripLine (k : Nat) (line : List Char) :
    isBlank (stripLine k line) = isBlank line := by
  rcases line_cases line with hblank | ⟨lead, c, rest, rfl, hlead, hc⟩
  · rw [stripLine_of_isBlank hblank, hblank]
    rfl
  · rw [stripLine_content hlead hc, isBlank_content hc, isBlank_content hc]

theorem indentation_stripLine (h : isBlank line = false) (k : Nat) :
    indentation (stripLine k line) = indentation line - k := by
  rcases line_cases line with hblank | ⟨lead, c, rest, rfl, hlead, hc⟩
  · rw [h] at hblank
    cases hblank
  · rw [stripLine_content hlead hc, indentation_content (hlead.drop k) hc,
      indentation_content hlead hc, List.length_drop]

/-- What is stripped has no more whitespace to lose at its end. -/
theorem stripLine_zero_stripLine (k : Nat) (line : List Char) :
    stripLine 0 (stripLine k line) = stripLine k line := by
  rcases line_cases line with hblank | ⟨lead, c, rest, rfl, hlead, hc⟩
  · rw [stripLine_of_isBlank hblank]
    rfl
  · rw [stripLine_content hlead hc, stripLine_content (hlead.drop k) hc, trimEnd_trimEnd,
      List.drop_zero]

theorem isLine_stripLine (h : IsLine line) (k : Nat) : IsLine (stripLine k line) := by
  intro c hc
  unfold stripLine at hc
  split at hc
  case isTrue => simp at hc
  case isFalse => exact h c (List.mem_of_mem_drop (mem_of_mem_trimEnd hc))

theorem stripLine_eq_nil_iff : stripLine k line = [] ↔ isBlank line := by
  constructor
  · intro h
    rw [← isBlank_stripLine k, h]
    rfl
  · exact fun h => stripLine_of_isBlank h k

/-! ## The indentation to remove -/

theorem mem_indentBounds_iff : n ∈ indentBounds lines ↔
    (∃ line ∈ lines, isBlank line = false ∧ indentation line = n) ∨
      ∃ last, lines.getLast? = some last ∧ isBlank last ∧ last.length = n := by
  rw [indentBounds, List.mem_append]
  apply or_congr
  · simp [and_assoc]
  · cases lines.getLast? with
    | none => simp
    | some last =>
      by_cases h : isBlank last
      · simp only [h, if_true, List.mem_singleton, Option.some.injEq, exists_eq_left', true_and]
        exact eq_comm
      · simp [h]

/-- The last line bounds what is removed, be it blank or not. -/
theorem indentBounds_ne_nil (h : lines ≠ []) : indentBounds lines ≠ [] := by
  have hlast : lines.getLast? = some (lines.getLast h) := List.getLast?_eq_some_getLast h
  cases hblank : isBlank (lines.getLast h) with
  | true =>
    apply List.ne_nil_of_mem (a := (lines.getLast h).length)
    exact mem_indentBounds_iff.mpr (.inr ⟨_, hlast, hblank, rfl⟩)
  | false =>
    apply List.ne_nil_of_mem (a := indentation (lines.getLast h))
    exact mem_indentBounds_iff.mpr (.inl ⟨_, List.getLast_mem h, hblank, rfl⟩)

theorem sharedIndent_mem (h : indentBounds lines ≠ []) :
    sharedIndent lines ∈ indentBounds lines := by
  obtain ⟨n, hn⟩ := Option.isSome_iff_exists.mp (List.isSome_min?_of_ne_nil h)
  rw [sharedIndent, hn]
  exact (List.min?_eq_some_iff.mp hn).1

theorem sharedIndent_le (h : n ∈ indentBounds lines) : sharedIndent lines ≤ n := by
  obtain ⟨m, hm⟩ := Option.isSome_iff_exists.mp
    (List.isSome_min?_of_ne_nil (List.ne_nil_of_mem h))
  rw [sharedIndent, hm]
  exact (List.min?_eq_some_iff.mp hm).2 n h

/-- Once the shared indentation is removed there is none, unless the last line is blank. -/
theorem sharedIndent_map_stripLine {last : List Char} (hlast : lines.getLast? = some last)
    (hcontent : isBlank last = false) :
    sharedIndent (lines.map (stripLine (sharedIndent lines))) = 0 := by
  have hbound : indentBounds lines ≠ [] :=
    indentBounds_ne_nil (List.ne_nil_of_mem (List.mem_of_getLast? hlast))
  apply Nat.eq_zero_of_le_zero
  apply sharedIndent_le
  rcases mem_indentBounds_iff.mp (sharedIndent_mem hbound) with
    ⟨line, hmem, hline, hindent⟩ | ⟨blank, hblank, hisBlank, -⟩
  · refine mem_indentBounds_iff.mpr (.inl ⟨_, List.mem_map_of_mem hmem, ?_, ?_⟩)
    · rw [isBlank_stripLine, hline]
    · rw [indentation_stripLine hline, hindent, Nat.sub_self]
  · rw [hlast, Option.some.injEq] at hblank
    subst hblank
    rw [hcontent] at hisBlank
    cases hisBlank

/-! ## The whole body -/

theorem endsInTerminator_of_isLine (h : IsLine line) : endsInTerminator line = false := by
  cases hlast : line.getLast? with
  | none => rw [endsInTerminator, hlast, Option.any_none]
  | some c => rw [endsInTerminator, hlast, Option.any_some, h c (List.mem_of_getLast? hlast)]

theorem endsInTerminator_append (h : rest ≠ []) :
    endsInTerminator (line ++ rest) = endsInTerminator rest := by
  rw [endsInTerminator, endsInTerminator, List.getLast?_append,
    Option.or_of_isSome (List.getLast?_isSome.mpr h)]

theorem endsInTerminator_of_terminates {t : List Char} (h : Terminates rest t) :
    endsInTerminator t := by
  cases h <;> rfl

theorem endsInTerminator_of_cut (h : Cut body ended tail) :
    endsInTerminator body = decide (tail = [] ∧ ended ≠ []) := by
  induction h with
  | remainder htail => simp [endsInTerminator_of_isLine htail]
  | @line l t s tail ended hl ht hcut ih =>
    cases hcut with
    | remainder htail =>
      by_cases hs : s = []
      · subst hs
        rw [List.append_nil, endsInTerminator_append ht.ne_nil,
          endsInTerminator_of_terminates ht]
        simp
      · rw [← List.append_assoc, endsInTerminator_append hs, endsInTerminator_of_isLine htail]
        simp [hs]
    | line hl' ht' hcut' =>
      rw [← List.append_assoc, endsInTerminator_append (by simp [ht'.ne_nil]), ih]
      simp

/-- The number of characters that each line loses from its front. -/
def outdent (ended : List (List Char)) (tail : List Char) : Nat :=
  if tail = [] then 0 else sharedIndent (ended ++ [tail])

@[simp] theorem outdent_nil (ended : List (List Char)) : outdent ended [] = 0 := if_pos rfl

theorem outdent_of_ne_nil (h : tail ≠ []) : outdent ended tail = sharedIndent (ended ++ [tail]) :=
  if_neg h

/-- A body that ends in a terminator is one whose last line is empty. -/
theorem outdent_eq_sharedIndent (ended : List (List Char)) (tail : List Char) :
    outdent ended tail = sharedIndent (ended ++ [tail]) := by
  by_cases htail : tail = []
  · subst htail
    have hbound : 0 ∈ indentBounds (ended ++ [[]]) :=
      mem_indentBounds_iff.mpr (.inr ⟨[], List.getLast?_concat, rfl, rfl⟩)
    rw [outdent_nil, Nat.eq_zero_of_le_zero (sharedIndent_le hbound)]
  · exact outdent_of_ne_nil htail

@[simp] theorem stripLine_nil (k : Nat) : stripLine k [] = [] := rfl

theorem stripIndent_of_cut (h : Cut body ended tail) :
    stripIndent body = joined (ended.map (stripLine (outdent ended tail)))
      (stripLine (outdent ended tail) tail) := by
  rw [stripIndent, h.lines_eq, endsInTerminator_of_cut h]
  by_cases htail : tail = []
  · subst htail
    rcases ended.eq_nil_or_concat with rfl | ⟨init, last, rfl⟩
    · rfl
    · simp [intercalate_lineFeed, joined]
  · simp [htail, outdent_of_ne_nil, intercalate_lineFeed]

/-- The lines that are left are cut again at the same places. -/
theorem cut_stripIndent (h : Cut body ended tail) :
    Cut (stripIndent body) (ended.map (stripLine (outdent ended tail)))
      (stripLine (outdent ended tail) tail) := by
  rw [stripIndent_of_cut h]
  apply cut_joined
  · intro l hl
    obtain ⟨line, hline, rfl⟩ := List.mem_map.mp hl
    exact isLine_stripLine (h.isLine_of_mem line hline) _
  · exact isLine_stripLine h.isLine_tail _

/-- No line has indentation to lose once all have lost the indentation they share. -/
theorem outdent_stripIndent (ended : List (List Char)) (tail : List Char) :
    outdent (ended.map (stripLine (outdent ended tail))) (stripLine (outdent ended tail) tail) =
      0 := by
  by_cases hblank : isBlank tail
  · rw [stripLine_of_isBlank hblank, outdent_nil]
  · have htail : tail ≠ [] := by
      rintro rfl
      exact hblank rfl
    rw [outdent_of_ne_nil (mt stripLine_eq_nil_iff.mp hblank), outdent_of_ne_nil htail]
    have hlast : (ended ++ [tail]).getLast? = some tail := List.getLast?_concat
    have hzero := sharedIndent_map_stripLine hlast (by simpa using hblank)
    rwa [List.map_append] at hzero

/-- Nothing is left to strip of what is stripped. -/
theorem stripIndent_idempotent (body : List Char) :
    stripIndent (stripIndent body) = stripIndent body := by
  obtain ⟨ended, tail, hcut⟩ := exists_cut body
  have hfirst := stripIndent_of_cut hcut
  have hsecond := stripIndent_of_cut (cut_stripIndent hcut)
  rw [outdent_stripIndent] at hsecond
  generalize outdent ended tail = k at hfirst hsecond
  have hfixed : stripLine 0 ∘ stripLine k = stripLine k := by
    funext line
    exact stripLine_zero_stripLine k line
  calc stripIndent (stripIndent body)
      = joined ((ended.map (stripLine k)).map (stripLine 0)) (stripLine 0 (stripLine k tail)) :=
        hsecond
    _ = joined (ended.map (stripLine k)) (stripLine k tail) := by
        rw [List.map_map, hfixed, stripLine_zero_stripLine]
    _ = stripIndent body := hfirst.symm

/-- The first pass takes the closing line for the indentation and ends the body with a terminator,
so the second goes by another rule. -/
example : stripIndent " a\r  b \n  ".toList = "a\n b\n".toList := by decide

end JavaLex.Lexicon
