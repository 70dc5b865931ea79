import JavaLex.Proofs.Source.Place
import JavaLex.Proofs.Text.Trim

/-! # The excerpt of a place

The line of a place holds the character that comes next, in the column that the position names,
even where carriage returns are cut off behind it. The excerpt of a diagnostic has its caret
below that character.
-/
namespace JavaLex.Source.LineIndex

/-- The line of a place, as it is shown, has the character that comes next in its column. -/
theorem line?_next {c : Char} (hfeed : c ≠ '\n') (hreturn : c ≠ '\r') (s t : List Char) :
    ∃ shown, (ofSource (s ++ c :: t)).line? (Position.start.advanceAll s).line = some shown ∧
      '\n' ∉ shown ∧ 1 ≤ (Position.start.advanceAll s).column ∧
      shown[(Position.start.advanceAll s).column - 1]? = some c := by
  obtain ⟨current, hcurrent, hcolumn, hline⟩ := line?_advanceAll s (c :: t)
  rw [List.takeWhile_cons_of_pos (by simpa using hfeed),
    Text.trimEnd_append_cons (by simpa using hreturn)] at hline
  refine ⟨_, hline, ?_, ?_, ?_⟩
  · rw [List.mem_append, List.mem_cons, not_or, not_or]
    refine ⟨hcurrent, Ne.symm hfeed, fun hmem => ?_⟩
    simpa using List.mem_takeWhile_imp (Text.mem_of_mem_trimEnd hmem)
  · omega
  · rw [hcolumn, Nat.add_sub_cancel, List.getElem?_append_right (Nat.le_refl _), Nat.sub_self]
    rfl

/-- A block of three lines shows a line below its empty gutter and behind its number. The last of them
has one caret behind the gutter, in the column, and above the caret stands `c`. -/
def CaretBelow (block : String) (line column : Nat) (shown : List Char) (c : Char) : Prop :=
  ∃ number bar numbered pointer : List Char,
    block.toList = bar ++ '\n' :: (numbered ++ '\n' :: (pointer ++ ['\n'])) ∧
    '\n' ∉ bar ∧ '\n' ∉ numbered ∧ '\n' ∉ pointer ∧
    number = (toString line).toList ∧
    bar = List.replicate number.length ' ' ++ [' ', '|'] ∧
    numbered = number ++ [' ', '|', ' '] ++ shown ∧
    pointer = List.replicate number.length ' ' ++ [' ', '|', ' '] ++
      List.replicate (column - 1) ' ' ++ ['^'] ∧
    pointer[number.length + 3 + (column - 1)]? = some '^' ∧
    numbered[number.length + 3 + (column - 1)]? = some c

theorem lineFeed_not_mem_toString (n : Nat) : '\n' ∉ (toString n).toList := by
  intro h
  rw [Nat.toString_eq_repr, Nat.toList_repr] at h
  exact absurd (Nat.isDigit_of_mem_toDigits (by decide) (by decide) h) (by decide)

theorem toList_underlined (line column carets : Nat) (shown : List Char) :
    (underlined line column carets shown).toList =
      (List.replicate (toString line).length ' ' ++ [' ', '|']) ++ '\n' ::
        ((toString line).toList ++ [' ', '|', ' '] ++ shown ++ '\n' ::
          (List.replicate (toString line).length ' ' ++ [' ', '|', ' '] ++
            List.replicate (column - 1) ' ' ++ List.replicate carets '^' ++ ['\n'])) := by
  have hself : ∀ text : String, toString text = text := fun _ => rfl
  simp [underlined, gutter, spaces, hself]

theorem caretBelow_underlined {line column : Nat} {shown : List Char} {c : Char}
    (hshown : '\n' ∉ shown) (hc : shown[column - 1]? = some c) :
    CaretBelow (underlined line column 1 shown) line column shown c := by
  have hnumber := lineFeed_not_mem_toString line
  have htoList := toList_underlined line column 1 shown
  rw [← String.length_toList, List.replicate_one] at htoList
  refine ⟨_, _, _, _, htoList, ?_, ?_, ?_, rfl, rfl, rfl, rfl, ?_, ?_⟩ <;>
    generalize (toString line).toList = number at hnumber ⊢
  · simp
  · simp [hnumber, hshown]
  · simp
  · have hlength : (List.replicate number.length ' ' ++ [' ', '|', ' '] ++
        List.replicate (column - 1) ' ').length = number.length + 3 + (column - 1) := by
      simp only [List.length_append, List.length_replicate]
      rfl
    rw [← hlength, List.getElem?_concat_length]
  · have hlength : (number ++ [' ', '|', ' ']).length = number.length + 3 := by
      simp
    rw [← hlength, List.getElem?_append_right (Nat.le_add_right _ _), Nat.add_sub_cancel_left, hc]

/-- A span of one character is shown with the same block by either of the two renderings. -/
theorem render_single {m : LineIndex} {p : Position} {shown : List Char}
    (h : m.line? p.line = some shown) (message : String) :
    m.render (Span.single p) message =
      s!"Error: {message}\n  --> {p}\n" ++ underlined p.line p.column 1 shown := by
  have hcount : caretCount (Span.single p) shown = 1 := by
    simp [caretCount, Span.single]
  have hline : m.line? (Span.single p).first.line = some shown := h
  simp only [render, hline, hcount]
  rfl

theorem excerpt?_single {m : LineIndex} {p : Position} {shown : List Char}
    (h : m.line? p.line = some shown) :
    m.excerpt? (Span.single p) = some (underlined p.line p.column 1 shown) := by
  simp only [excerpt?, Span.single, h, Option.map_some]

end JavaLex.Source.LineIndex
