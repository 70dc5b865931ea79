import JavaLex.Proofs.Lexicon.Blank
import JavaLex.Scan.Scanner
import JavaLex.Source.Position

/-! # The cursor of the scanner

A scanner moves by one character at a time and in no other way, so what holds of one move holds
of every run of calls: the cursor stays within the source, never goes back, and its line and
column are those of the position after all that was consumed. What a call hands out is located
at the first character that is not whitespace.
-/
namespace JavaLex.Scan
open Lexicon Source

/-- The same line and the same column, whatever the offset. -/
def Cursor.Agrees (p : Cursor) (q : Position) : Prop :=
  p.line = q.line ∧ p.column = q.column

theorem Cursor.agrees_start : Cursor.start.Agrees Position.start :=
  ⟨rfl, rfl⟩

theorem Cursor.Agrees.pass {p : Cursor} {q : Position} (h : p.Agrees q) (c : Char) :
    (p.pass c).Agrees (q.advance c) := by
  unfold Cursor.pass Position.advance
  split
  · exact ⟨congrArg (· + 1) h.1, rfl⟩
  · exact ⟨h.1, congrArg (· + 1) h.2⟩

/-- Go past some characters. -/
def Cursor.passAll (p : Cursor) (s : List Char) : Cursor :=
  s.foldl Cursor.pass p

theorem Cursor.passAll_append (p : Cursor) (s t : List Char) :
    p.passAll (s ++ t) = (p.passAll s).passAll t := by
  simp [Cursor.passAll]

theorem Cursor.passAll_of_not_mem {s : List Char} (h : '\n' ∉ s) (p : Cursor) :
    p.passAll s = ⟨p.line, p.column + s.length⟩ := by
  induction s generalizing p with
  | nil => rfl
  | cons c s ih =>
    rw [List.mem_cons, not_or] at h
    have hpass : p.pass c = ⟨p.line, p.column + 1⟩ := if_neg (Ne.symm h.1)
    have hcons : p.passAll (c :: s) = (p.pass c).passAll s := rfl
    rw [hcons, hpass, ih h.2, List.length_cons, Nat.add_assoc, Nat.add_comm 1]

theorem Cursor.Agrees.passAll {p : Cursor} {q : Position} (h : p.Agrees q) (s : List Char) :
    (p.passAll s).Agrees (q.advanceAll s) := by
  induction s generalizing p q with
  | nil => exact h
  | cons c s ih => exact ih (h.pass c)

/-- The line and the column that a call answers with. -/
def Item.location? : Item → Option (Nat × Nat)
  | .ok t => some (t.line, t.column)
  | .error e => e.location?

namespace Scanner

/-- The scanner after `n` calls. -/
def after (s : Scanner) : Nat → Scanner
  | 0 => s
  | n + 1 => (s.after n).next.2

section Skip
variable (s : Scanner)

theorem skip_nil {s : Scanner} (hs : s.rest = []) (n : Nat) : s.skip n = s := by
  induction n with
  | zero => rfl
  | succ n ih => simpa [skip, bump, hs] using ih

theorem skip_cons {s : Scanner} {c : Char} {r : List Char} (hs : s.rest = c :: r) (n : Nat) :
    s.skip (n + 1) = skip ⟨s.source, s.consumed + 1, s.position.pass c, r⟩ n := by
  simp [skip, bump, hs]

@[simp] theorem skip_rest (n : Nat) : (s.skip n).rest = s.rest.drop n := by
  induction n generalizing s with
  | zero => rfl
  | succ n ih =>
    cases hs : s.rest with
    | nil => simp [skip_nil hs, hs]
    | cons c r => rw [skip_cons hs, ih, List.drop_succ_cons]

@[simp] theorem skip_position (n : Nat) :
    (s.skip n).position = s.position.passAll (s.rest.take n) := by
  induction n generalizing s with
  | zero => rfl
  | succ n ih =>
    cases hs : s.rest with
    | nil => simp [skip_nil hs, Cursor.passAll]
    | cons c r => rw [skip_cons hs, ih, List.take_succ_cons]; rfl

@[simp] theorem skip_consumed (n : Nat) :
    (s.skip n).consumed = s.consumed + (s.rest.take n).length := by
  induction n generalizing s with
  | zero => rfl
  | succ n ih =>
    cases hs : s.rest with
    | nil => simp [skip_nil hs]
    | cons c r =>
      rw [skip_cons hs, ih, List.take_succ_cons, List.length_cons]
      exact Nat.add_right_comm _ _ _

theorem skip_add (m n : Nat) : s.skip (m + n) = (s.skip m).skip n := by
  induction m generalizing s with
  | zero => simp [skip]
  | succ m ih => rw [Nat.succ_add, skip, skip, ih]

theorem skipWhitespace_eq {s : Scanner} {gap rest : List Char} (hs : s.rest = gap ++ rest)
    (hgap : Blank gap) (hrest : ∀ c ∈ rest.head?, isWhitespace c = false) :
    s.skipWhitespace = s.skip gap.length := by
  have hrun : s.rest.takeWhile isWhitespace = gap := takeWhile_eq_iff.mpr ⟨rest, hs, hgap, hrest⟩
  rw [skipWhitespace, hrun]

end Skip

/-- Every call goes past whitespace and then past a lexeme, some characters in all. -/
theorem next_eq_skip (s : Scanner) : ∃ n, s.next.2 = s.skipWhitespace.skip n := by
  unfold next readHere
  split
  · exact ⟨0, rfl⟩
  · split
    · exact ⟨_, rfl⟩
    · exact ⟨_, rfl⟩

/-- The fields of a scanner over a source are in step. -/
structure InStep (source : List Char) (s : Scanner) : Prop where
  source_eq : s.source = source
  consumed_le : s.consumed ≤ source.length
  rest_eq : s.rest = source.drop s.consumed
  position_agrees : s.position.Agrees (Position.start.advanceAll (source.take s.consumed))

theorem ofSource_inStep (source : List Char) : (ofSource source).InStep source :=
  ⟨rfl, Nat.zero_le _, rfl, Cursor.agrees_start⟩

theorem InStep.bump {source : List Char} {s : Scanner} (h : s.InStep source) :
    s.bump.InStep source := by
  unfold Scanner.bump
  split
  case h_1 => exact h
  case h_2 c r hr =>
    have hdrop : source.drop s.consumed = c :: r := h.rest_eq.symm.trans hr
    have hlt : s.consumed < source.length := by
      by_contra hge
      simp [List.drop_eq_nil_of_le (Nat.le_of_not_lt hge)] at hdrop
    obtain ⟨hc, htail⟩ := List.cons.inj ((List.drop_eq_getElem_cons hlt).symm.trans hdrop)
    refine ⟨h.source_eq, hlt, htail.symm, ?_⟩
    rw [← List.take_append_getElem hlt, Position.advanceAll_append, hc]
    exact h.position_agrees.pass c

theorem InStep.skip {source : List Char} {s : Scanner} (h : s.InStep source) (n : Nat) :
    (s.skip n).InStep source := by
  induction n generalizing s with
  | zero => exact h
  | succ n ih => exact ih h.bump

theorem InStep.next {source : List Char} {s : Scanner} (h : s.InStep source) :
    s.next.2.InStep source := by
  obtain ⟨n, hn⟩ := s.next_eq_skip
  rw [hn]
  exact (h.skip _).skip n

theorem InStep.after {source : List Char} {s : Scanner} (h : s.InStep source) (n : Nat) :
    (s.after n).InStep source := by
  induction n with
  | zero => exact h
  | succ n ih => exact ih.next

/-- What is left past a gap stands in the source behind something, where the cursor leads to. -/
theorem InStep.split {source gap tail : List Char} {s : Scanner} (h : s.InStep source)
    (hs : s.rest = gap ++ tail) : ∃ before, source = before ++ tail ∧
      (s.position.passAll gap).Agrees (Position.start.advanceAll before) := by
  refine ⟨source.take s.consumed ++ gap, ?_, ?_⟩
  · rw [List.append_assoc, ← hs, h.rest_eq, List.take_append_drop]
  · rw [Position.advanceAll_append]
    exact h.position_agrees.passAll gap

theorem consumed_le_next (s : Scanner) : s.consumed ≤ s.next.2.consumed := by
  obtain ⟨n, hn⟩ := s.next_eq_skip
  rw [hn, skipWhitespace, skip_consumed, skip_consumed]
  omega

/-- What a call hands out is located where whitespace ends. -/
theorem next_location (s : Scanner) :
    s.next.1.location? =
      some (s.skipWhitespace.position.line, s.skipWhitespace.position.column) := by
  unfold next readHere
  split
  · rfl
  · split <;> rfl

/-- The next call answers with the place of the first character from the scanner on that is not
whitespace, or of the end. -/
def AnswersInPlace (source : List Char) (s : Scanner) : Prop :=
  ∃ gap rest, source.drop s.consumed = gap ++ rest ∧ Blank gap ∧
    (∀ c ∈ rest.head?, isWhitespace c = false) ∧
    s.next.1.location? =
      some ((Position.start.advanceAll (source.take s.consumed ++ gap)).line,
        (Position.start.advanceAll (source.take s.consumed ++ gap)).column)

theorem InStep.answersInPlace {source : List Char} {s : Scanner} (h : s.InStep source) :
    s.AnswersInPlace source := by
  obtain ⟨gap, rest, hrest, hgap, hstop⟩ := exists_gap s.rest
  refine ⟨gap, rest, ?_, hgap, hstop, ?_⟩
  · rw [← h.rest_eq, hrest]
  · have hagrees := h.position_agrees.passAll gap
    have hposition : s.skipWhitespace.position = s.position.passAll gap := by
      rw [skipWhitespace_eq hrest hgap hstop, skip_position, hrest, List.take_left]
    rw [Position.advanceAll_append, next_location, hposition, hagrees.1, hagrees.2]

/-- After any number of calls, failed ones among them, the scanner is in step with its source, does
not go back in the next call, and answers it in place. -/
theorem after_in_step (source : List Char) (n : Nat) :
    ((ofSource source).after n).InStep source ∧
      ((ofSource source).after n).consumed ≤ ((ofSource source).after (n + 1)).consumed ∧
      ((ofSource source).after n).AnswersInPlace source := by
  have h : ((ofSource source).after n).InStep source := (ofSource_inStep source).after n
  exact ⟨h, consumed_le_next _, h.answersInPlace⟩

end Scanner
end JavaLex.Scan
