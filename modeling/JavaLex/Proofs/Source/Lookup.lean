import JavaLex.Proofs.Source.Place
import JavaLex.Proofs.Text.Pieces

/-! # Offsets, lines and columns

The index of a source answers for every offset between two characters what one finds by going there
character by character, and what it answers leads back to the offset. A line and a column that no
character has are cut to the end of the line in their offset alone, so they are the position of
that offset only up to the column behind the line.
-/
namespace JavaLex.Source.LineIndex

/-- An offset between two characters, or at either end. -/
def IsBoundary (source : List Char) (offset : Nat) : Prop :=
  ∃ before, before <+: source ∧ byteLength before = offset

theorem byteLength_le_of_prefix {before source : List Char} (h : before <+: source) :
    byteLength before ≤ byteLength source := by
  obtain ⟨after, rfl⟩ := h
  rw [byteLength_append]
  exact Nat.le_add_right _ _

/-- What a source has up to an offset. Past the end that is all of it. -/
theorem exists_cut {source : List Char} {offset : Nat}
    (h : IsBoundary source offset ∨ byteLength source < offset) : ∃ before after,
      source = before ++ after ∧ byteLength before = min offset (byteLength source) := by
  rcases h with ⟨before, hprefix, rfl⟩ | hpast
  · have hle := byteLength_le_of_prefix hprefix
    obtain ⟨after, rfl⟩ := hprefix
    exact ⟨before, after, rfl, (Nat.min_eq_left hle).symm⟩
  · exact ⟨source, [], (List.append_nil source).symm, (Nat.min_eq_right (by omega)).symm⟩

/-- Past the end the index answers for the end. -/
theorem positionAt?_min (m : LineIndex) (offset : Nat) :
    m.positionAt? (min offset (byteLength m.source)) = m.positionAt? offset := by
  simp only [positionAt?, Nat.min_assoc, Nat.min_self]

/-- How the index answers for an offset up to which the source is `before`. -/
structure LooksUp (source : List Char) (offset : Nat) (before : List Char) : Prop where
  position : (ofSource source).positionAt? offset = some (Position.start.advanceAll before)
  /-- The search does not end before the first line, above which there is none. -/
  slot_ne : (ofSource source).slot (min offset (byteLength source)) ≠ .before 0
  /-- The line that is found starts at or before the offset. -/
  start_le : ∃ line start,
    (ofSource source).lineIndex? (min offset (byteLength source)) = some line ∧
      (ofSource source).starts[line]? = some start ∧ start ≤ min offset (byteLength source)

theorem starts_zero (source : List Char) : (ofSource source).starts[0]? = some 0 := by
  have hstart : Whole [] := by simp [Whole]
  exact getElem?_starts hstart source

/-- Looking up an offset agrees with going there from the start, and no step of it goes below
zero. -/
theorem looksUp_of_boundary {source : List Char} {offset : Nat}
    (h : IsBoundary source offset ∨ byteLength source < offset) : ∃ before after,
      source = before ++ after ∧ byteLength before = min offset (byteLength source) ∧
        LooksUp source offset before := by
  obtain ⟨before, after, rfl, hcut⟩ := exists_cut h
  refine ⟨before, after, rfl, hcut, ?_, ?_, ?_⟩
  · rw [← positionAt?_min]
    change (ofSource (before ++ after)).positionAt? (min offset (byteLength (before ++ after))) = _
    rw [← hcut, positionAt?_byteLength]
  · exact slot_ne_before_zero (ascending_starts _) (starts_zero _) _
  · obtain ⟨done, current, rfl, hdone, hcurrent⟩ := exists_whole_append before
    refine ⟨done.count '\n', byteLength done, ?_, ?_, ?_⟩
    · rw [← hcut, lineIndex?_byteLength, List.count_append,
        List.count_eq_zero_of_not_mem hcurrent, Nat.add_zero]
    · rw [List.append_assoc, getElem?_starts hdone]
    · rw [← hcut, byteLength_append]
      exact Nat.le_add_right _ _

/-- The start of a line behind a character of two bytes, and an offset past the end. -/
theorem looksUp_of_boundary_lineStart :
    IsBoundary "ë\nx".toList 3 ∧ byteLength "ë\nx".toList < 9 ∧
      (∃ before after, "ë\nx".toList = before ++ after ∧
        byteLength before = min 3 (byteLength "ë\nx".toList) ∧ LooksUp "ë\nx".toList 3 before) ∧
      ∃ before after, "ë\nx".toList = before ++ after ∧
        byteLength before = min 9 (byteLength "ë\nx".toList) ∧ LooksUp "ë\nx".toList 9 before := by
  have hboundary : IsBoundary "ë\nx".toList 3 := ⟨"ë\n".toList, ⟨['x'], by decide⟩, by decide⟩
  have hpast : byteLength "ë\nx".toList < 9 := by decide
  exact ⟨hboundary, hpast, looksUp_of_boundary (.inl hboundary), looksUp_of_boundary (.inr hpast)⟩

/-- The line and the column that an offset is found at lead back to it. -/
theorem positionOf_positionAt? {source : List Char} {offset : Nat} (h : IsBoundary source offset) :
    ∃ p, (ofSource source).positionAt? offset = some p ∧
      (ofSource source).positionOf p.line p.column = p := by
  obtain ⟨before, ⟨after, rfl⟩, rfl⟩ := h
  exact ⟨_, positionAt?_byteLength before after, positionOf_advanceAll before after⟩

/-- At the line feed of the second line, which a character of three bytes stands before. -/
theorem positionOf_positionAt?_lineFeed : IsBoundary "\n€\n".toList 4 ∧
    ∃ p, (ofSource "\n€\n".toList).positionAt? 4 = some p ∧
      (ofSource "\n€\n".toList).positionOf p.line p.column = p := by
  have hboundary : IsBoundary "\n€\n".toList 4 := ⟨"\n€".toList, ⟨['\n'], by decide⟩, by decide⟩
  exact ⟨hboundary, positionOf_positionAt? hboundary⟩

/-! ## Lines and columns that no character has -/

theorem size_starts (source : List Char) :
    (ofSource source).starts.size = (Text.pieces '\n' source).length := by
  have hstarts : (ofSource source).starts.toList = 0 :: lineStarts 0 source :=
    starts_ofSource [] source
  rw [← Array.length_toList, hstarts, List.length_cons, length_lineStarts, Text.length_pieces]

theorem lineCount_ofSource (source : List Char) :
    (ofSource source).lineCount = source.count '\n' + 1 := by
  rw [lineCount, size_starts, Text.length_pieces]

/-- A line stands behind whole lines and goes up to a line feed or the end. -/
theorem exists_whole_of_piece {source text : List Char} {line : Nat}
    (h : (Text.pieces '\n' source)[line]? = some text) : ∃ done tail,
      source = done ++ (text ++ tail) ∧ Whole done ∧ done.count '\n' = line ∧ '\n' ∉ text ∧
        ∀ c ∈ tail.head?, c = '\n' := by
  induction line generalizing source with
  | zero =>
    by_cases hfeed : '\n' ∈ source
    · obtain ⟨first, rest, rfl, hfirst⟩ := List.eq_append_cons_of_mem hfeed
      rw [Text.pieces_append_cons, Text.pieces_of_not_mem hfirst] at h
      obtain rfl : first = text := by simpa using h
      exact ⟨[], '\n' :: rest, rfl, by simp [Whole], rfl, hfirst, by simp⟩
    · rw [Text.pieces_of_not_mem hfeed] at h
      obtain rfl : source = text := by simpa using h
      exact ⟨[], [], by simp, by simp [Whole], rfl, hfeed, by simp⟩
  | succ line ih =>
    by_cases hfeed : '\n' ∈ source
    · obtain ⟨first, rest, rfl, hfirst⟩ := List.eq_append_cons_of_mem hfeed
      rw [Text.pieces_append_cons, Text.pieces_of_not_mem hfirst] at h
      obtain ⟨done, tail, rfl, hdone, rfl, htext, htail⟩ := ih h
      refine ⟨first ++ '\n' :: done, tail, by simp, hdone.line_append first, ?_, htext, htail⟩
      rw [List.count_append, List.count_eq_zero_of_not_mem hfirst, Nat.zero_add,
        List.count_cons_self]
    · rw [Text.pieces_of_not_mem hfeed] at h
      simp at h

/-- What stands behind whole lines, up to a line feed or the end, is the next line. -/
theorem getElem?_pieces {done text tail : List Char} (hdone : Whole done) (htext : '\n' ∉ text)
    (htail : ∀ c ∈ tail.head?, c = '\n') :
    (Text.pieces '\n' (done ++ (text ++ tail)))[done.count '\n']? = some text := by
  have hfirst : (Text.pieces '\n' (text ++ tail))[0]? = some text := by
    cases tail with
    | nil => rw [List.append_nil, Text.pieces_of_not_mem htext, List.getElem?_cons_zero]
    | cons c tail =>
      obtain rfl : c = '\n' := htail c rfl
      rw [Text.pieces_append_cons, Text.pieces_of_not_mem htext]
      rfl
  rcases hdone.eq_nil_or_concat with rfl | ⟨lines, rfl⟩
  · exact hfirst
  · have hcount : (lines ++ ['\n']).count '\n' = (Text.pieces '\n' lines).length := by
      rw [Text.length_pieces, List.count_append, List.count_singleton_self]
    rw [List.append_assoc, List.singleton_append, Text.pieces_append_cons, hcount,
      List.getElem?_append_right (Nat.le_refl _), Nat.sub_self, hfirst]

/-- In a line the offset goes no further than the end of the line. -/
theorem positionOf_of_piece {done text tail : List Char} (hdone : Whole done)
    (htext : '\n' ∉ text) (htail : ∀ c ∈ tail.head?, c = '\n') {line : Nat}
    (hline : line - 1 = done.count '\n') (column : Nat) :
    (ofSource (done ++ (text ++ tail))).positionOf line column =
      ⟨byteLength (done ++ text.take (column - 1)), max line 1, max column 1⟩ := by
  have hfrom : (ofSource (done ++ (text ++ tail))).fromLine? line =
      some (byteLength done, text ++ tail) := by
    have hwhole := fromLine?_whole hdone (text ++ tail)
    rwa [fromLine?, Nat.add_sub_cancel, ← hline] at hwhole
  rw [positionOf, hfrom]
  simp only [takeWhile_current htext, takeWhile_tail htail, List.append_nil, byteLength_append]

/-- The position of an offset in a line, told from its line and column. -/
theorem positionAt?_of_piece {done text : List Char} (hdone : Whole done) (htext : '\n' ∉ text)
    (tail : List Char) (n : Nat) :
    (ofSource (done ++ (text ++ tail))).positionAt? (byteLength (done ++ text.take n)) =
      some ⟨byteLength (done ++ text.take n), done.count '\n' + 1, min n text.length + 1⟩ := by
  have hsplit : done ++ (text ++ tail) = done ++ text.take n ++ (text.drop n ++ tail) := by
    rw [List.append_assoc, ← List.append_assoc (text.take n), List.take_append_drop]
  have htake : '\n' ∉ text.take n := fun h => htext (List.mem_of_mem_take h)
  rw [hsplit, positionAt?_byteLength, Position.advanceAll_whole hdone htake, List.length_take,
    byteLength_append]

theorem positionOf_of_past {source : List Char} {line : Nat}
    (h : (Text.pieces '\n' source)[line - 1]? = none) (column : Nat) :
    (ofSource source).positionOf line column = Position.start.advanceAll source := by
  have hstart : (ofSource source).starts[line - 1]? = none := by
    rw [List.getElem?_eq_none_iff, ← size_starts] at h
    exact Array.getElem?_eq_none h
  rw [positionOf, fromLine?, hstart]
  rfl

theorem positionAt?_end (source : List Char) :
    (ofSource source).positionAt? (Position.start.advanceAll source).offset =
      some (Position.start.advanceAll source) := by
  have hoffset : (Position.start.advanceAll source).offset = byteLength source :=
    (Position.offset_advanceAll _ _).trans (Nat.zero_add _)
  rw [hoffset]
  simpa using positionAt?_byteLength source []

/-- How a line and a column are cut to a source. What is answered is the position of its own offset
exactly if the column goes no further than the one behind the line. -/
structure Clamps (source : List Char) (line column : Nat) : Prop where
  past : (Text.pieces '\n' source)[line - 1]? = none →
    (ofSource source).positionOf line column = Position.start.advanceAll source
  /-- Within a line the answer has the line and the column that were asked for, counted from one. -/
  kept : ∀ text, (Text.pieces '\n' source)[line - 1]? = some text →
    ((ofSource source).positionOf line column).line = max line 1 ∧
      ((ofSource source).positionOf line column).column = max column 1
  /-- The position of its offset has the column cut to the one behind the line. -/
  own : ∀ text, (Text.pieces '\n' source)[line - 1]? = some text →
    (ofSource source).positionAt? ((ofSource source).positionOf line column).offset =
      some ⟨((ofSource source).positionOf line column).offset, max line 1,
        min (max column 1) (text.length + 1)⟩
  consistent_iff : (ofSource source).positionAt? ((ofSource source).positionOf line column).offset =
      some ((ofSource source).positionOf line column) ↔
    ∀ text, (Text.pieces '\n' source)[line - 1]? = some text → column ≤ text.length + 1

/-- A line past the last is cut to the end of the source, and a column past the end of its line in
its offset alone. -/
theorem clamps_positionOf (source : List Char) (line column : Nat) :
    Clamps source line column := by
  cases h : (Text.pieces '\n' source)[line - 1]? with
  | none =>
    have hpast := positionOf_of_past h column
    refine ⟨fun _ => hpast, by simp [h], by simp [h], ?_⟩
    simp [hpast, positionAt?_end, h]
  | some text =>
    obtain ⟨done, tail, rfl, hdone, hline, htext, htail⟩ := exists_whole_of_piece h
    have hof := positionOf_of_piece hdone htext htail hline.symm column
    have hat := positionAt?_of_piece hdone htext tail (column - 1)
    -- Line and column are counted from one here and from zero there.
    have hfirst : done.count '\n' + 1 = max line 1 := by omega
    have hcut : min (column - 1) text.length + 1 = min (max column 1) (text.length + 1) := by omega
    rw [hfirst, hcut] at hat
    refine ⟨by simp [h], ?_, ?_, ?_⟩
    · intro other hother
      rw [hof]
      exact ⟨rfl, rfl⟩
    · intro other hother
      obtain rfl : text = other := by simpa [h] using hother
      rw [hof, hat]
    · rw [hof, hat]
      simp only [h, Option.some.injEq, Position.mk.injEq, true_and, forall_eq']
      omega

/-- The first line has two characters. Its fortieth column has the offset of its line feed, which
stands in the third. -/
theorem positionOf_past_line :
    (ofSource "ab\ncd".toList).positionOf 1 40 = ⟨2, 1, 40⟩ ∧
      (ofSource "ab\ncd".toList).positionAt? 2 = some ⟨2, 1, 3⟩ ∧
      (ofSource "ab\ncd".toList).positionAt?
        ((ofSource "ab\ncd".toList).positionOf 1 40).offset ≠
          some ((ofSource "ab\ncd".toList).positionOf 1 40) := by
  have hof : (ofSource "ab\ncd".toList).positionOf 1 40 = ⟨2, 1, 40⟩ := by decide
  have hat : (ofSource "ab\ncd".toList).positionAt? 2 = some ⟨2, 1, 3⟩ :=
    positionAt?_byteLength "ab".toList "\ncd".toList
  refine ⟨hof, hat, ?_⟩
  rw [hof, hat]
  decide

end JavaLex.Source.LineIndex
