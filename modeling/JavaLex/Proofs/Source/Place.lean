import JavaLex.Proofs.Source.Search
import Mathlib.Data.List.Induction
import Mathlib.Data.List.TakeWhile

/-! # The place of a character

A place in a source is a split of it into what stands before and what is left. What stands before
is whole lines and the beginning of one, which gives the line, the column and the offset; the line
index leads from the line and column, and from the offset, to the same position.
-/
namespace JavaLex.Source

theorem foldl_utf8Size (n : Nat) (s : List Char) :
    s.foldl (fun n c => n + c.utf8Size) n = n + byteLength s := by
  induction s generalizing n with
  | nil => rfl
  | cons c s ih =>
    rw [byteLength, List.foldl_cons, List.foldl_cons, ih, ih (0 + c.utf8Size)]
    omega

@[simp] theorem byteLength_nil : byteLength [] = 0 := rfl

@[simp] theorem byteLength_cons (c : Char) (s : List Char) :
    byteLength (c :: s) = c.utf8Size + byteLength s := by
  rw [byteLength, List.foldl_cons, foldl_utf8Size, Nat.zero_add]

theorem exists_byteLength_cons (c : Char) (s : List Char) : ∃ n, byteLength (c :: s) = n + 1 := by
  apply Nat.exists_eq_add_one.mpr
  rw [byteLength_cons]
  exact Nat.add_pos_left c.utf8Size_pos _

@[simp] theorem byteLength_append (s t : List Char) :
    byteLength (s ++ t) = byteLength s + byteLength t := by
  rw [byteLength, List.foldl_append, foldl_utf8Size]
  rfl

theorem utf8Size_lineFeed : '\n'.utf8Size = 1 := by
  decide

/-- Whole lines, each with its line feed. -/
def Whole (s : List Char) : Prop :=
  ∀ c ∈ s.getLast?, c = '\n'

theorem whole_concat (s : List Char) : Whole (s ++ ['\n']) := by
  simp [Whole]

theorem Whole.eq_nil_or_concat {s : List Char} (h : Whole s) :
    s = [] ∨ ∃ t, s = t ++ ['\n'] := by
  rcases List.eq_nil_or_concat s with rfl | ⟨t, c, rfl⟩
  · exact .inl rfl
  · rw [h c (by simp)]
    exact .inr ⟨t, by simp⟩

theorem Whole.line_append {done : List Char} (h : Whole done) (first : List Char) :
    Whole (first ++ '\n' :: done) := by
  rcases h.eq_nil_or_concat with rfl | ⟨lines, rfl⟩
  · exact whole_concat first
  · simpa using whole_concat (first ++ '\n' :: lines)

/-- Every text is whole lines and the beginning of one. -/
theorem exists_whole_append (s : List Char) :
    ∃ done current, s = done ++ current ∧ Whole done ∧ '\n' ∉ current := by
  induction s using List.reverseRecOn with
  | nil => exact ⟨[], [], rfl, by simp [Whole], by simp⟩
  | append_singleton s c ih =>
    by_cases hc : c = '\n'
    · subst hc
      exact ⟨s ++ ['\n'], [], by simp, whole_concat s, by simp⟩
    · obtain ⟨done, current, rfl, hdone, hcurrent⟩ := ih
      refine ⟨done, current ++ [c], by simp, hdone, ?_⟩
      simp [hcurrent, Ne.symm hc]

/-- Up to its end a line is all there is before its line feed. -/
theorem takeWhile_current {current : List Char} (h : '\n' ∉ current) (t : List Char) :
    (current ++ t).takeWhile (· ≠ '\n') = current ++ t.takeWhile (· ≠ '\n') :=
  List.takeWhile_append_of_pos fun _ hc => by simpa using ne_of_mem_of_not_mem hc h

/-- What is left of a line, and what comes behind it. -/
theorem exists_tail (t : List Char) : ∃ tail, t = t.takeWhile (· ≠ '\n') ++ tail ∧
    '\n' ∉ t.takeWhile (· ≠ '\n') ∧ ∀ c ∈ tail.head?, c = '\n' := by
  refine ⟨t.dropWhile (· ≠ '\n'), List.takeWhile_append_dropWhile.symm, ?_, ?_⟩
  · exact fun hmem => by simpa using List.mem_takeWhile_imp hmem
  · intro c hc
    have hstop := List.head?_dropWhile_not (· ≠ '\n') t
    rw [hc] at hstop
    simpa using hstop

theorem takeWhile_tail {tail : List Char} (h : ∀ c ∈ tail.head?, c = '\n') :
    tail.takeWhile (· ≠ '\n') = [] := by
  cases tail with
  | nil => rfl
  | cons c tail => exact List.takeWhile_cons_of_neg (by simpa using h c rfl)

namespace Position

theorem offset_advanceAll (p : Position) (s : List Char) :
    (p.advanceAll s).offset = p.offset + byteLength s := by
  induction s generalizing p with
  | nil => rfl
  | cons c s ih =>
    have hc : (p.advance c).offset = p.offset + c.utf8Size := by
      unfold advance
      split
      case isTrue h => rw [h, utf8Size_lineFeed]
      case isFalse => rfl
    change ((p.advance c).advanceAll s).offset = _
    rw [ih, hc, byteLength_cons, Nat.add_assoc]

theorem line_advanceAll (p : Position) (s : List Char) :
    (p.advanceAll s).line = p.line + s.count '\n' := by
  induction s generalizing p with
  | nil => rfl
  | cons c s ih =>
    change ((p.advance c).advanceAll s).line = _
    rw [ih]
    by_cases hc : c = '\n'
    · simp only [advance, hc, if_true, List.count_cons_self]
      omega
    · simp [advance, hc]

/-- Within a line the column counts on. -/
theorem column_advanceAll {s : List Char} (h : '\n' ∉ s) (p : Position) :
    (p.advanceAll s).column = p.column + s.length := by
  induction s generalizing p with
  | nil => rfl
  | cons c s ih =>
    rw [List.mem_cons, not_or] at h
    change ((p.advance c).advanceAll s).column = _
    rw [ih h.2, advance, if_neg (Ne.symm h.1), List.length_cons]
    exact Nat.add_right_comm _ _ _

/-- A line starts in the first column. -/
theorem column_whole {s : List Char} (h : Whole s) : (start.advanceAll s).column = 1 := by
  rcases h.eq_nil_or_concat with rfl | ⟨t, rfl⟩
  · rfl
  · rw [advanceAll_append]
    rfl

/-- The position behind whole lines and the beginning of one. -/
theorem advanceAll_whole {done current : List Char} (hdone : Whole done)
    (hcurrent : '\n' ∉ current) :
    start.advanceAll (done ++ current) =
      ⟨byteLength done + byteLength current, done.count '\n' + 1, current.length + 1⟩ := by
  have hoffset := offset_advanceAll start (done ++ current)
  have hline := line_advanceAll start (done ++ current)
  have hcolumn : (start.advanceAll (done ++ current)).column = current.length + 1 := by
    rw [advanceAll_append, column_advanceAll hcurrent, column_whole hdone, Nat.add_comm]
  rw [byteLength_append] at hoffset
  rw [List.count_append, List.count_eq_zero_of_not_mem hcurrent] at hline
  cases hp : start.advanceAll (done ++ current) with
  | mk offset line column =>
    rw [hp] at hoffset hline hcolumn
    simp only [start, Nat.zero_add] at hoffset hline hcolumn
    rw [hoffset, hline, hcolumn, Nat.add_zero, Nat.add_comm 1]

end Position

namespace LineIndex

/-- The offsets behind the line feeds of a text that starts at offset `n`. -/
def lineStarts (n : Nat) : List Char → List Nat
  | [] => []
  | c :: s =>
    if c = '\n' then (n + 1) :: lineStarts (n + c.utf8Size) s else lineStarts (n + c.utf8Size) s

theorem toList_startsFrom (n : Nat) (found : Array Nat) (s : List Char) :
    (startsFrom n found s).toList = found.toList ++ lineStarts n s := by
  induction s generalizing n found with
  | nil => simp [startsFrom, lineStarts]
  | cons c s ih =>
    rw [startsFrom, ih, lineStarts]
    by_cases hc : c = '\n'
    · simp [hc]
    · simp [hc]

theorem lineStarts_append (n : Nat) (s t : List Char) :
    lineStarts n (s ++ t) = lineStarts n s ++ lineStarts (n + byteLength s) t := by
  induction s generalizing n with
  | nil => rfl
  | cons c s ih =>
    rw [List.cons_append, lineStarts, lineStarts, ih, byteLength_cons, Nat.add_assoc]
    split <;> rfl

theorem length_lineStarts (n : Nat) (s : List Char) : (lineStarts n s).length = s.count '\n' := by
  induction s generalizing n with
  | nil => rfl
  | cons c s ih =>
    rw [lineStarts]
    by_cases hc : c = '\n'
    · simp [hc, ih]
    · simp [hc, ih]

theorem mem_lineStarts {n offset : Nat} {s : List Char} (h : offset ∈ lineStarts n s) :
    n < offset ∧ offset ≤ n + byteLength s := by
  induction s generalizing n with
  | nil => simp [lineStarts] at h
  | cons c s ih =>
    rw [lineStarts] at h
    rw [byteLength_cons]
    split at h
    case isTrue hc =>
      have hsize : c.utf8Size = 1 := hc ▸ utf8Size_lineFeed
      rcases List.mem_cons.mp h with rfl | h
      · omega
      · have := ih h
        omega
    case isFalse =>
      have := ih h
      omega

/-- The starts of the lines up to a place, and those behind it. -/
theorem starts_ofSource (s t : List Char) :
    (ofSource (s ++ t)).starts.toList = (0 :: lineStarts 0 s) ++ lineStarts (byteLength s) t := by
  have htoList := toList_startsFrom 0 #[0] (s ++ t)
  rw [lineStarts_append, Nat.zero_add] at htoList
  exact htoList

theorem getLast?_starts {s : List Char} (h : Whole s) :
    (0 :: lineStarts 0 s).getLast? = some (byteLength s) := by
  rcases h.eq_nil_or_concat with rfl | ⟨t, rfl⟩
  · rfl
  · rw [lineStarts_append, byteLength_append, byteLength_cons, byteLength_nil, utf8Size_lineFeed]
    rw [← List.cons_append, lineStarts, if_pos rfl, lineStarts, List.getLast?_concat, Nat.zero_add]

theorem dropBytes?_append (s t : List Char) : dropBytes? (byteLength s) (s ++ t) = some t := by
  induction s with
  | nil => rw [byteLength_nil, dropBytes?, List.nil_append]
  | cons c s ih =>
    obtain ⟨n, hn⟩ := exists_byteLength_cons c s
    rw [hn, List.cons_append, dropBytes?, ← hn, byteLength_cons, if_pos (Nat.le_add_right _ _),
      Nat.add_sub_cancel_left, ih]

theorem countBytes?_append (k : Nat) (s t : List Char) :
    countBytes? k (byteLength s) (s ++ t) = some (k + s.length) := by
  induction s generalizing k with
  | nil => rw [byteLength_nil, countBytes?, List.length_nil, Nat.add_zero]
  | cons c s ih =>
    obtain ⟨n, hn⟩ := exists_byteLength_cons c s
    rw [hn, List.cons_append, countBytes?, ← hn, byteLength_cons, if_pos (Nat.le_add_right _ _),
      Nat.add_sub_cancel_left, ih, List.length_cons, Nat.add_assoc, Nat.add_comm 1]

/-- The start of the line behind whole lines. -/
theorem getElem?_starts {done : List Char} (h : Whole done) (rest : List Char) :
    (ofSource (done ++ rest)).starts[done.count '\n']? = some (byteLength done) := by
  have hlength : (0 :: lineStarts 0 done).length = done.count '\n' + 1 := by
    rw [List.length_cons, length_lineStarts]
  have hlast := getLast?_starts h
  rw [List.getLast?_eq_getElem?, hlength, Nat.add_sub_cancel] at hlast
  rw [← Array.getElem?_toList, starts_ofSource, List.getElem?_append_left (by omega), hlast]

theorem fromLine?_whole {done : List Char} (h : Whole done) (rest : List Char) :
    (ofSource (done ++ rest)).fromLine? (done.count '\n' + 1) = some (byteLength done, rest) := by
  have hdrop : dropBytes? (byteLength done) (ofSource (done ++ rest)).source = some rest :=
    dropBytes?_append done rest
  rw [fromLine?, Nat.add_sub_cancel, getElem?_starts h, Option.bind_eq_bind, Option.bind_some, hdrop]
  rfl

theorem ascending_lineStarts (n : Nat) (s : List Char) : (lineStarts n s).Pairwise (· < ·) := by
  induction s generalizing n with
  | nil => exact .nil
  | cons c s ih =>
    rw [lineStarts]
    split
    case isTrue hc =>
      refine List.pairwise_cons.mpr ⟨?_, ih _⟩
      intro offset hoffset
      have hsize : c.utf8Size = 1 := hc ▸ utf8Size_lineFeed
      have hbehind := (mem_lineStarts hoffset).1
      omega
    case isFalse => exact ih _

theorem ascending_starts (s : List Char) : Ascending (ofSource s).starts := by
  have hstarts : (ofSource s).starts.toList = 0 :: lineStarts 0 s := starts_ofSource [] s
  rw [Ascending, hstarts]
  exact List.pairwise_cons.mpr ⟨fun _ h => (mem_lineStarts h).1, ascending_lineStarts 0 s⟩

theorem le_of_mem_starts {offset : Nat} {s : List Char} (h : offset ∈ 0 :: lineStarts 0 s) :
    offset ≤ byteLength s := by
  rcases List.mem_cons.mp h with rfl | h
  · exact Nat.zero_le _
  · simpa using (mem_lineStarts h).2

/-- The line after the one that holds a place starts behind the next line feed. -/
theorem getElem?_starts_succ (s t : List Char) :
    (ofSource (s ++ t)).starts[s.count '\n' + 1]? = (lineStarts (byteLength s) t)[0]? := by
  have hlength : (0 :: lineStarts 0 s).length = s.count '\n' + 1 := by
    rw [List.length_cons, length_lineStarts]
  rw [← Array.getElem?_toList, starts_ofSource, ← hlength,
    List.getElem?_append_right (Nat.le_refl _), Nat.sub_self]

/-- The line that holds a place is the last one that starts up to there. -/
theorem lineIndex?_byteLength (s t : List Char) :
    (ofSource (s ++ t)).lineIndex? (byteLength s) = some (s.count '\n') := by
  have hlength : (0 :: lineStarts 0 s).length = s.count '\n' + 1 := by
    rw [List.length_cons, length_lineStarts]
  have hline : s.count '\n' < (0 :: lineStarts 0 s).length := by omega
  have hstart : (ofSource (s ++ t)).starts[s.count '\n']? =
      some (0 :: lineStarts 0 s)[s.count '\n'] := by
    rw [← Array.getElem?_toList, starts_ofSource, List.getElem?_append_left hline,
      List.getElem?_eq_getElem hline]
  have hnext := getElem?_starts_succ s t
  obtain ⟨hsize, hget⟩ := Array.getElem?_eq_some_iff.mp hstart
  apply lineIndex?_eq_some (ascending_starts _) hsize
  · rw [hget]
    exact le_of_mem_starts (List.getElem_mem hline)
  · intro hlt
    rw [Array.getElem?_eq_getElem hlt] at hnext
    exact (mem_lineStarts (List.mem_of_getElem? hnext.symm)).1

theorem countBetween?_append (done current rest : List Char) :
    countBetween? (byteLength done) (byteLength (done ++ current)) (done ++ (current ++ rest)) =
      some current.length := by
  have hle : byteLength done ≤ byteLength (done ++ current) := by
    rw [byteLength_append]
    exact Nat.le_add_right _ _
  rw [countBetween?, if_pos hle, dropBytes?_append, Option.bind_eq_bind, Option.bind_some,
    byteLength_append, Nat.add_sub_cancel_left, countBytes?_append, Nat.zero_add]

/-- From the offset of a place to its position. -/
theorem positionAt?_byteLength (s t : List Char) :
    (ofSource (s ++ t)).positionAt? (byteLength s) = some (Position.start.advanceAll s) := by
  obtain ⟨done, current, rfl, hdone, hcurrent⟩ := exists_whole_append s
  have hmin : min (byteLength (done ++ current))
      (byteLength (ofSource (done ++ current ++ t)).source) = byteLength (done ++ current) :=
    Nat.min_eq_left (by rw [ofSource, byteLength_append _ t]; omega)
  have hline : (ofSource (done ++ current ++ t)).lineIndex? (byteLength (done ++ current)) =
      some (done.count '\n') := by
    rw [lineIndex?_byteLength, List.count_append, List.count_eq_zero_of_not_mem hcurrent,
      Nat.add_zero]
  have hstart : (ofSource (done ++ current ++ t)).starts[done.count '\n']? =
      some (byteLength done) := by
    rw [List.append_assoc, getElem?_starts hdone]
  have hcount : countBetween? (byteLength done) (byteLength (done ++ current))
      (ofSource (done ++ current ++ t)).source = some current.length := by
    rw [ofSource, List.append_assoc, countBetween?_append]
  rw [Position.advanceAll_whole hdone hcurrent]
  simp only [positionAt?, hmin, hline, hstart, hcount, Option.bind_eq_bind, Option.bind_some]
  rw [byteLength_append]
  rfl

/-- From the line and the column of a place to its position. -/
theorem positionOf_advanceAll (s t : List Char) :
    (ofSource (s ++ t)).positionOf (Position.start.advanceAll s).line
      (Position.start.advanceAll s).column = Position.start.advanceAll s := by
  obtain ⟨done, current, rfl, hdone, hcurrent⟩ := exists_whole_append s
  have htake : ((current ++ t).takeWhile (· ≠ '\n')).take current.length = current := by
    rw [takeWhile_current hcurrent, List.take_left]
  rw [Position.advanceAll_whole hdone hcurrent, List.append_assoc, positionOf, fromLine?_whole hdone]
  simp only [Nat.add_sub_cancel, htake, Position.mk.injEq, true_and]
  omega

theorem slice?_append (done current rest : List Char) :
    slice? (byteLength done) (byteLength (done ++ current)) (done ++ (current ++ rest)) =
      some current := by
  have hle : byteLength done ≤ byteLength (done ++ current) := by
    rw [byteLength_append]
    exact Nat.le_add_right _ _
  rw [slice?, if_pos hle, dropBytes?_append, Option.bind_eq_bind, Option.bind_some,
    byteLength_append, Nat.add_sub_cancel_left, countBytes?_append, Option.bind_eq_bind,
    Option.bind_some, Nat.zero_add, List.take_left]
  rfl

/-- A line ends before its line feed, or with the source. -/
theorem lineEnd?_whole (done : List Char) {text tail : List Char} (htext : '\n' ∉ text)
    (htail : ∀ c ∈ tail.head?, c = '\n') :
    (ofSource (done ++ (text ++ tail))).lineEnd? (done.count '\n' + 1) =
      some (byteLength (done ++ text)) := by
  have hnext := getElem?_starts_succ (done ++ text) tail
  rw [List.append_assoc, List.count_append, List.count_eq_zero_of_not_mem htext, Nat.add_zero]
    at hnext
  rw [lineEnd?, hnext]
  cases tail with
  | nil =>
    rw [List.append_nil]
    rfl
  | cons c tail =>
    rw [htail c rfl, lineStarts, if_pos rfl, List.getElem?_cons_zero]

/-- The line behind whole lines, as it is shown. -/
theorem line?_whole {done current : List Char} (hdone : Whole done) (hcurrent : '\n' ∉ current)
    (t : List Char) : (ofSource (done ++ (current ++ t))).line? (done.count '\n' + 1) =
      some (Text.trimEnd (· == '\r') (current ++ t.takeWhile (· ≠ '\n'))) := by
  obtain ⟨tail, htail, hrest, hfeed⟩ := exists_tail t
  generalize t.takeWhile (· ≠ '\n') = rest at htail hrest
  have htext : '\n' ∉ current ++ rest := by
    rw [List.mem_append, not_or]
    exact ⟨hcurrent, hrest⟩
  have hend := lineEnd?_whole done htext hfeed
  have hslice := slice?_append done (current ++ rest) tail
  rw [List.append_assoc, ← htail] at hend hslice
  rw [line?, if_neg (Nat.succ_ne_zero _), Nat.add_sub_cancel, getElem?_starts hdone, hend]
  simp only [ofSource, Option.bind_eq_bind, Option.bind_some, hslice]
  rfl

/-- The line of a place, as it is shown. -/
theorem line?_advanceAll (s t : List Char) :
    ∃ current, '\n' ∉ current ∧ (Position.start.advanceAll s).column = current.length + 1 ∧
      (ofSource (s ++ t)).line? (Position.start.advanceAll s).line =
        some (Text.trimEnd (· == '\r') (current ++ t.takeWhile (· ≠ '\n'))) := by
  obtain ⟨done, current, rfl, hdone, hcurrent⟩ := exists_whole_append s
  refine ⟨current, hcurrent, ?_, ?_⟩
  · rw [Position.advanceAll_whole hdone hcurrent]
  · rw [Position.advanceAll_whole hdone hcurrent, List.append_assoc, line?_whole hdone hcurrent]

end LineIndex
end JavaLex.Source
