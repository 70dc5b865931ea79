import JavaLex.Proofs.Source.Excerpt
import JavaLex.Proofs.Source.Lookup

/-! # The underline of a span

A message on a span ends with the line on which the span starts and carets below it. They start
below the first character of the span and go on as far as the span does on that line; where it
starts with a line feed, there is still one.
-/
namespace JavaLex.Source.LineIndex

/-! ## What a span covers -/

/-- From the first offset to the second a source has `covered`. What stands before it is whole lines
and the beginning of the line on which it starts. -/
structure Spans (source : List Char) (first last : Nat)
    (done current covered after : List Char) : Prop where
  source_eq : source = done ++ (current ++ (covered ++ after))
  whole : Whole done
  not_mem : '\n' ∉ current
  first_eq : byteLength (done ++ current) = first
  last_eq : byteLength (done ++ (current ++ covered)) = last

theorem exists_spans {source : List Char} {first last : Nat} (hfirst : IsBoundary source first)
    (hlast : IsBoundary source last) (hlt : first < last) :
    ∃ done current covered after, Spans source first last done current covered after := by
  obtain ⟨before, hbefore, rfl⟩ := hfirst
  obtain ⟨through, hthrough, rfl⟩ := hlast
  have hprefix : before <+: through := by
    rcases List.prefix_or_prefix_of_prefix hbefore hthrough with hprefix | hprefix
    · exact hprefix
    · have hle := byteLength_le_of_prefix hprefix
      exact absurd hlt (Nat.not_lt.mpr hle)
  obtain ⟨covered, rfl⟩ := hprefix
  obtain ⟨after, rfl⟩ := hthrough
  obtain ⟨done, current, rfl, hdone, hcurrent⟩ := exists_whole_append before
  exact ⟨done, current, covered, after, by simp, hdone, hcurrent, rfl, by simp⟩

/-! ## The carets -/

/-- On its first line a span covers what comes before its first line feed. -/
theorem caretCount_cover {before current : List Char}
    (hcolumn : (Position.start.advanceAll before).column = current.length + 1)
    (covered after : List Char) :
    caretCount ⟨Position.start.advanceAll before, Position.start.advanceAll (before ++ covered)⟩
        (current ++ (covered ++ after).takeWhile (· ≠ '\n')) =
      max 1 (covered.takeWhile (· ≠ '\n')).length := by
  have hline := Position.line_advanceAll (Position.start.advanceAll before) covered
  rw [← Position.advanceAll_append] at hline
  unfold caretCount
  dsimp only
  by_cases hfeed : '\n' ∈ covered
  · have hpos : 0 < covered.count '\n' := List.count_pos_iff.mpr hfeed
    obtain ⟨front, rest, rfl, hfront⟩ := List.eq_append_cons_of_mem hfeed
    have htake : ∀ more, (front ++ '\n' :: more).takeWhile (· ≠ '\n') = front := by
      intro more
      rw [takeWhile_current hfront, List.takeWhile_cons_of_neg (by simp), List.append_nil]
    rw [if_neg (by omega), hcolumn, List.append_assoc, List.cons_append, htake, htake,
      List.length_append, Nat.add_sub_cancel, Nat.add_sub_cancel_left]
  · have htake : covered.takeWhile (· ≠ '\n') = covered := by
      simpa using takeWhile_current hfeed []
    rw [List.count_eq_zero_of_not_mem hfeed, Nat.add_zero] at hline
    rw [if_pos hline.symm, Position.advanceAll_append, Position.column_advanceAll hfeed, htake,
      Nat.add_sub_cancel_left]

/-- A rendering ends with a line, which has `current` up to a place and `ahead` from there on, and
with carets below it, the first of which stands below the place. -/
def EndsUnderlined (rendered : String) (current ahead : List Char) (carets : Nat) : Prop :=
  ∃ head number pointer : List Char,
    rendered.toList = head ++ '\n' :: (number ++ (current ++ ahead) ++ '\n' ::
      (pointer ++ List.replicate carets '^' ++ ['\n'])) ∧
    '\n' ∉ number ∧ '\n' ∉ pointer ∧ '^' ∉ pointer ∧
    pointer.length = (number ++ current).length

theorem endsUnderlined_underlined {column : Nat} {current : List Char}
    (hcolumn : column = current.length + 1) (message : String) (line carets : Nat)
    (ahead : List Char) :
    EndsUnderlined (message ++ underlined line column carets (current ++ ahead)) current ahead
      carets := by
  have hnumber := lineFeed_not_mem_toString line
  have hlist := toList_underlined line column carets (current ++ ahead)
  rw [← String.length_toList] at hlist
  generalize (toString line).toList = number at hnumber hlist
  refine ⟨message.toList ++ (List.replicate number.length ' ' ++ [' ', '|']),
    number ++ [' ', '|', ' '],
    List.replicate number.length ' ' ++ [' ', '|', ' '] ++ List.replicate (column - 1) ' ',
    ?_, ?_, ?_, ?_, ?_⟩
  · rw [String.toList_append, hlist, ← List.append_assoc]
  · simp [hnumber]
  · simp
  · simp
  · simp [hcolumn]

/-! ## The span in its source -/

namespace Spans
variable {source done current covered after : List Char} {first last : Nat}

theorem positionAt?_first (h : Spans source first last done current covered after) :
    (ofSource source).positionAt? first =
      some (Position.start.advanceAll (done ++ current)) := by
  rw [← h.first_eq, h.source_eq, ← List.append_assoc, positionAt?_byteLength]

theorem positionAt?_last (h : Spans source first last done current covered after) :
    (ofSource source).positionAt? last =
      some (Position.start.advanceAll (done ++ current ++ covered)) := by
  rw [← h.last_eq, h.source_eq, ← List.append_assoc current, ← List.append_assoc done,
    positionAt?_byteLength, ← List.append_assoc]

/-- The line on which a span starts goes up to the next line feed or to the end. -/
theorem line_eq (h : Spans source first last done current covered after) :
    (Text.pieces '\n' source)[done.count '\n']? =
      some (current ++ (covered ++ after).takeWhile (· ≠ '\n')) := by
  obtain ⟨tail, htail, hrest, hfeed⟩ := exists_tail (covered ++ after)
  generalize (covered ++ after).takeWhile (· ≠ '\n') = rest at htail hrest
  have hsplit : source = done ++ ((current ++ rest) ++ tail) := by
    rw [List.append_assoc, ← htail, ← h.source_eq]
  rw [hsplit]
  apply getElem?_pieces h.whole
  · rw [List.mem_append, not_or]
    exact ⟨h.not_mem, hrest⟩
  · exact hfeed

/-- Without carriage returns the whole of that line is shown. -/
theorem line?_eq (h : Spans source first last done current covered after)
    (hreturn : '\r' ∉ source) :
    (ofSource source).line? (Position.start.advanceAll (done ++ current)).line =
      some (current ++ (covered ++ after).takeWhile (· ≠ '\n')) := by
  have hkept : ∀ c ∈ current ++ (covered ++ after).takeWhile (· ≠ '\n'),
      (c == '\r') = false := by
    intro c hc
    rw [beq_eq_false_iff_ne]
    rintro rfl
    apply hreturn
    rw [h.source_eq]
    rcases List.mem_append.mp hc with hmem | hmem
    · simp [hmem]
    · have hcover := (List.takeWhile_sublist _).subset hmem
      simp [List.mem_append.mp hcover]
  rw [Position.advanceAll_whole h.whole h.not_mem, h.source_eq, line?_whole h.whole h.not_mem,
    Text.trimEnd_eq_self hkept]

end Spans

/-- The carets of a message on a span start below the character at its first offset, in the line
that holds this character, and are as many as the characters of the span up to its first line feed,
or one. -/
theorem render_underlines {source : List Char} {first last : Nat}
    (hfirst : IsBoundary source first) (hlast : IsBoundary source last) (hlt : first < last)
    (hreturn : '\r' ∉ source) (message : String) :
    ∃ done current covered after p q, Spans source first last done current covered after ∧
      (ofSource source).positionAt? first = some p ∧ (ofSource source).positionAt? last = some q ∧
      (Text.pieces '\n' source)[done.count '\n']? =
        some (current ++ (covered ++ after).takeWhile (· ≠ '\n')) ∧
      EndsUnderlined ((ofSource source).render ⟨p, q⟩ message) current
        ((covered ++ after).takeWhile (· ≠ '\n'))
        (max 1 (covered.takeWhile (· ≠ '\n')).length) := by
  obtain ⟨done, current, covered, after, hspans⟩ := exists_spans hfirst hlast hlt
  have hcolumn : (Position.start.advanceAll (done ++ current)).column = current.length + 1 := by
    rw [Position.advanceAll_whole hspans.whole hspans.not_mem]
  refine ⟨done, current, covered, after, _, _, hspans, hspans.positionAt?_first,
    hspans.positionAt?_last, hspans.line_eq, ?_⟩
  simp only [render, hspans.line?_eq hreturn, caretCount_cover hcolumn]
  exact endsUnderlined_underlined hcolumn _ _ _ _

def fourLines : List Char :=
  "x\n\të = b\n\nc".toList

/-- A span from the second character of the second line, which has two bytes, to the fourth line. -/
theorem render_underlines_fourLines :
    IsBoundary fourLines 3 ∧ IsBoundary fourLines 11 ∧ 3 < 11 ∧ '\r' ∉ fourLines ∧
      ∃ done current covered after p q, Spans fourLines 3 11 done current covered after ∧
        (ofSource fourLines).positionAt? 3 = some p ∧
        (ofSource fourLines).positionAt? 11 = some q ∧
        (Text.pieces '\n' fourLines)[done.count '\n']? =
          some (current ++ (covered ++ after).takeWhile (· ≠ '\n')) ∧
        EndsUnderlined ((ofSource fourLines).render ⟨p, q⟩ "Unknown name") current
          ((covered ++ after).takeWhile (· ≠ '\n'))
          (max 1 (covered.takeWhile (· ≠ '\n')).length) := by
  have hfirst : IsBoundary fourLines 3 := ⟨"x\n\t".toList, ⟨"ë = b\n\nc".toList, rfl⟩, rfl⟩
  have hlast : IsBoundary fourLines 11 := ⟨"x\n\të = b\n\n".toList, ⟨['c'], rfl⟩, rfl⟩
  have hreturn : '\r' ∉ fourLines := by decide
  exact ⟨hfirst, hlast, by decide, hreturn,
    render_underlines hfirst hlast (by decide) hreturn "Unknown name"⟩

example : (ofSource fourLines).render ⟨⟨3, 2, 2⟩, ⟨11, 4, 1⟩⟩ "Unknown name" =
    "Error: Unknown name\n  --> 2:2\n  |\n2 | \të = b\n  |  ^^^^^\n" := by
  decide +kernel

end JavaLex.Source.LineIndex
