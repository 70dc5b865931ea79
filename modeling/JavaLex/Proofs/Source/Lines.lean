import JavaLex.Proofs.Source.Lookup
import Mathlib.Data.List.DropRight

/-! # The lines of a source

The line feeds of a source cut it into lines, one more than there are line feeds, and the index
answers for each of them and for no other number. What it answers is the whole line but for the
carriage returns at its end, so nothing of the source is lost between two lines or told twice.
-/
namespace JavaLex.Source.LineIndex
variable {source text : List Char} {line : Nat}

theorem line?_of_piece (h : (Text.pieces '\n' source)[line]? = some text) :
    (ofSource source).line? (line + 1) = some (text.rdropWhile (· == '\r')) := by
  obtain ⟨done, tail, rfl, hdone, rfl, htext, htail⟩ := exists_whole_of_piece h
  rw [line?_whole hdone htext, takeWhile_tail htail, List.append_nil]
  rfl

theorem line?_past (h : (Text.pieces '\n' source)[line]? = none) :
    (ofSource source).line? (line + 1) = none := by
  have hstart : (ofSource source).starts[line]? = none := by
    rw [List.getElem?_eq_none_iff, ← size_starts] at h
    exact Array.getElem?_eq_none h
  rw [line?, if_neg (Nat.succ_ne_zero _), Nat.add_sub_cancel, hstart]
  rfl

/-- The lines of a source are its pieces between line feeds, in their order. -/
theorem line?_succ (source : List Char) (line : Nat) :
    (ofSource source).line? (line + 1) =
      (source.splitOn '\n')[line]?.map (List.rdropWhile (· == '\r')) := by
  rw [← Text.pieces_eq_splitOn]
  cases h : (Text.pieces '\n' source)[line]? with
  | none => exact line?_past h
  | some text => exact line?_of_piece h

theorem isSome_line?_iff (source : List Char) (line : Nat) :
    ((ofSource source).line? line).isSome ↔ 1 ≤ line ∧ line ≤ (ofSource source).lineCount := by
  cases line with
  | zero => simp [line?]
  | succ line =>
    have hpiece : (Text.pieces '\n' source)[line]?.isSome ↔
        line < (Text.pieces '\n' source).length := by
      simp
    rw [line?_succ, Option.isSome_map, ← Text.pieces_eq_splitOn, lineCount, size_starts, hpiece]
    omega

/-- All lines, from the first to the last. -/
theorem map_line? (source : List Char) :
    (List.range' 1 (ofSource source).lineCount).map (ofSource source).line? =
      ((source.splitOn '\n').map (List.rdropWhile (· == '\r'))).map some := by
  have hlength : (ofSource source).lineCount = (source.splitOn '\n').length := by
    rw [lineCount, size_starts, Text.pieces_eq_splitOn]
  apply List.ext_getElem
  · simp [hlength]
  · intro k hk hk'
    simp only [List.length_map] at hk'
    simp [Nat.add_comm 1 k, line?_succ, List.getElem?_eq_getElem hk']

/-- A piece of a text without carriage returns has none at its end. -/
theorem rdropWhile_of_mem_splitOn (h : '\r' ∉ source) (hmem : text ∈ source.splitOn '\n') :
    text.rdropWhile (· == '\r') = text := by
  rw [← Text.pieces_eq_splitOn] at hmem
  obtain ⟨line, hline⟩ := List.mem_iff_getElem?.mp hmem
  obtain ⟨done, tail, rfl, -⟩ := exists_whole_of_piece hline
  refine List.rdropWhile_eq_self_iff.mpr fun hne hlast => h ?_
  have htext := List.getLast_mem hne
  rw [beq_iff_eq.mp hlast] at htext
  simp [htext]

/-- How an index cuts a source into lines. -/
structure CutsLines (m : LineIndex) (source : List Char) : Prop where
  isSome_iff : ∀ line, (m.line? line).isSome ↔ 1 ≤ line ∧ line ≤ m.lineCount
  lineCount_eq : m.lineCount = source.count '\n' + 1
  line_eq : ∀ line, m.line? (line + 1) =
    (source.splitOn '\n')[line]?.map (List.rdropWhile (· == '\r'))
  /-- Where no carriage return is cut off, the lines and the line feeds between them are the
  source. -/
  joined : '\r' ∉ source → ∃ lines, (List.range' 1 m.lineCount).map m.line? = lines.map some ∧
    ['\n'].intercalate lines = source

theorem cutsLines_ofSource (source : List Char) : CutsLines (ofSource source) source where
  isSome_iff := isSome_line?_iff source
  lineCount_eq := lineCount_ofSource source
  line_eq := line?_succ source
  joined hreturn := by
    refine ⟨source.splitOn '\n', ?_, List.intercalate_splitOn '\n'⟩
    have hkept : (source.splitOn '\n').map (List.rdropWhile (· == '\r')) = source.splitOn '\n' := by
      rw [List.map_congr_left fun _ => rdropWhile_of_mem_splitOn hreturn, List.map_id']
    rw [map_line?, hkept]

example : (List.range 5).map (ofSource "ë\r\n\n\r€\n".toList).line? =
    [none, some ['ë'], some [], some ['\r', '€'], some []] := by
  decide

end JavaLex.Source.LineIndex
