import JavaLex.Proofs.Lexeme.Failing
import JavaLex.Proofs.Scanner.Stream

/-! # Progress

Every call goes on, but for two: one at the end of the source and one at a character that nothing
starts with. From there on all calls answer the same and the scanner stays. What is not closed takes
the rest of the source, so that only the end comes after it. So a supply of items runs dry, after no
more items than there are characters and one.
-/
namespace JavaLex.Scan
open Lexicon Lexeme Source

namespace Scanner
variable {s : Scanner} {item : Item}

/-- Every call from here on answers the same and moves nothing. -/
def Rests (s : Scanner) (item : Item) : Prop :=
  s.next = (item, s)

theorem Rests.next_after (h : s.Rests item) (n : Nat) : (s.after n).next.1 = item := by
  have hafter : s.after n = s := by
    induction n with
    | zero => rfl
    | succ n ih => rw [after, ih, h]
  rw [hafter, h]

theorem rests_of_nil (hs : s.rest = []) : s.Rests (.ok (tokenAt .endOfInput [] s.position)) := by
  have hblank : Blank s.rest := by simp [hs, Blank]
  rw [Rests, next_of_blank hblank, hs]
  rfl

theorem rests_of_unexpected {c : Char} {r : List Char} (hs : s.rest = c :: r)
    (hc : isWhitespace c = false) (hread : read c r = .failure (.unexpectedCharacter c) 0) :
    s.Rests (.error (.atToken (.unexpectedCharacter c) s.position.line s.position.column)) := by
  have hgap : s.rest = [] ++ c :: r := hs
  exact next_of_failure hgap (by simp [Blank]) hc hread

/-- The scanner has nothing left. -/
theorem consumed_of_rest_nil {source : List Char} (h : s.InStep source) (hs : s.rest = []) :
    s.consumed = source.length :=
  Nat.le_antisymm h.consumed_le (List.drop_eq_nil_iff.mp (h.rest_eq.symm.trans hs))

/-- The end of input is found exactly where only whitespace is left. -/
theorem isEnd_next_iff : (∃ t, s.next.1 = .ok t ∧ t.isEnd) ↔ Blank s.rest := by
  constructor
  · rintro ⟨t, ht, hend⟩
    rcases rest_cases s.rest with hblank | ⟨gap, slice, rest, kind, text, hs, hgap, hreads⟩ |
      ⟨gap, c, r, fault, n, hs, hgap, hc, hread⟩
    · exact hblank
    · rw [next_of_reads hs hgap hreads] at ht
      cases ht
      simp [isEnd_tokenAt, hreads.kind_ne] at hend
    · rw [next_of_failure hs hgap hc hread] at ht
      cases ht
  · intro hblank
    exact ⟨_, congrArg Prod.fst (next_of_blank hblank), rfl⟩

/-- A call that neither finds the end nor an unexpected character goes on. -/
theorem consumed_lt_next (hend : ¬ Blank s.rest)
    (hexpected : ∀ c line column,
      s.next.1 ≠ .error (.atToken (.unexpectedCharacter c) line column)) :
    s.consumed < s.next.2.consumed := by
  rcases rest_cases s.rest with hblank | ⟨gap, slice, rest, kind, text, hs, hgap, hreads⟩ |
    ⟨gap, c, r, fault, n, hs, hgap, hc, hread⟩
  · exact absurd hblank hend
  · have hpos := List.length_pos_of_ne_nil hreads.ne_nil
    rw [next_of_reads hs hgap hreads, skip_consumed, hs]
    simp only [List.length_take, List.length_append]
    omega
  · have hpos : 0 < n := by
      rcases read_failure hread with ⟨rfl, -⟩ | hgives
      · rw [next_of_failure hs hgap hc hread] at hexpected
        exact absurd rfl (hexpected c _ _)
      · exact hgives.length_pos
    rw [next_of_failure hs hgap hc hread, skip_consumed, hs]
    simp only [List.length_take, List.length_append, List.length_cons]
    omega

/-- After the end of input the scanner rests, with nothing left. -/
theorem rests_after_end (hblank : Blank s.rest) :
    s.next.2.rest = [] ∧ s.next.2.Rests s.next.1 := by
  have hrest : (s.skip s.rest.length).rest = [] := by simp
  have hrests := rests_of_nil hrest
  rw [skip_position, List.take_length] at hrests
  rw [next_of_blank hblank]
  exact ⟨hrest, hrests⟩

/-- After an unexpected character the scanner rests, and stands at this character. -/
theorem rests_after_unexpected {c : Char} {line column : Nat}
    (h : s.next.1 = .error (.atToken (.unexpectedCharacter c) line column)) :
    s.next.2.rest.head? = some c ∧ s.next.2.position = ⟨line, column⟩ ∧
      s.next.2.Rests s.next.1 := by
  obtain ⟨gap, _, r, _, n, hs, hgap, hc, hread, hleft, he⟩ := exists_failure_of_next h
  cases he
  obtain ⟨rfl, rfl⟩ := eq_of_unexpectedCharacter hread
  have hrest : (s.skip gap.length).rest = c :: r := by simp [hs]
  have hposition : (s.skip gap.length).position = s.position.passAll gap := by
    rw [skip_position, hs, List.take_left]
  have hrests := rests_of_unexpected hrest hc hread
  rw [hposition, ← h] at hrests
  rw [hleft, Nat.add_zero]
  exact ⟨by rw [hrest]; rfl, hposition, hrests⟩

/-- What is not closed takes all that is left. -/
theorem rest_next_of_unclosed {fault : Fault} {line column : Nat}
    (hfault : fault = .unexpectedEndOfInput ∨ fault = .invalidComment)
    (h : s.next.1 = .error (.atToken fault line column)) : s.next.2.rest = [] := by
  obtain ⟨gap, c, r, _, n, hs, hgap, hc, hread, hleft, he⟩ := exists_failure_of_next h
  cases he
  have hlength : n = (c :: r).length := by
    rcases read_failure hread with ⟨rfl, -⟩ | hgives
    · simp at hfault
    · cases hgives <;> simp_all
  rw [hleft, skip_rest, hs, hlength, ← List.length_append, List.drop_length]

/-- No more items than characters left and one. -/
theorem length_stream_le (s : Scanner) : s.stream.length ≤ s.rest.length + 1 := by
  induction hlen : s.rest.length using Nat.strong_induction_on generalizing s with
  | _ len ih =>
    subst hlen
    rw [stream_eq]
    split
    case isTrue => simp
    case isFalse hfinal =>
      have hless := next_rest_length_lt (Bool.eq_false_iff.mpr hfinal)
      have hle := ih _ hless s.next.2 rfl
      rw [List.length_cons]
      omega

/-- How the calls on a scanner over a source go on from where it stands. -/
structure Progresses (source : List Char) (s : Scanner) : Prop where
  moves : ¬ (∃ t, s.next.1 = .ok t ∧ t.isEnd) →
    (∀ c line column, s.next.1 ≠ .error (.atToken (.unexpectedCharacter c) line column)) →
    s.consumed < s.next.2.consumed
  isEnd_iff : (∃ t, s.next.1 = .ok t ∧ t.isEnd) ↔ Blank (source.drop s.consumed)
  ends : ∀ t, s.next.1 = .ok t → t.isEnd → s.next.2.consumed = source.length ∧
    ∀ n, (s.next.2.after n).next.1 = .ok t
  /-- The scanner does not get past a character that nothing starts with. -/
  stops : ∀ c line column, s.next.1 = .error (.atToken (.unexpectedCharacter c) line column) →
    source[s.next.2.consumed]? = some c ∧ s.next.2.position = ⟨line, column⟩ ∧
      ∀ n, (s.next.2.after n).next.1 = .error (.atToken (.unexpectedCharacter c) line column)
  /-- After what is not closed comes the end. -/
  exhausts : ∀ fault line column, fault = .unexpectedEndOfInput ∨ fault = .invalidComment →
    s.next.1 = .error (.atToken fault line column) → s.next.2.consumed = source.length ∧
      ∃ t, t.isEnd ∧ ∀ n, (s.next.2.after n).next.1 = .ok t
  /-- A supply hands out the items of the stream, which are not many, and then nothing more. -/
  supplies : s.stream.length ≤ source.length + 1 ∧
    ∀ n, (s.supply.after n).next.1 = s.stream[n]?

theorem InStep.progresses {source : List Char} (h : s.InStep source) : s.Progresses source where
  moves hend := by
    rw [isEnd_next_iff] at hend
    exact consumed_lt_next hend
  isEnd_iff := by rw [isEnd_next_iff, h.rest_eq]
  ends t ht hend := by
    obtain ⟨hrest, hrests⟩ := rests_after_end (isEnd_next_iff.mp ⟨t, ht, hend⟩)
    rw [ht] at hrests
    exact ⟨consumed_of_rest_nil h.next hrest, hrests.next_after⟩
  stops c line column hc := by
    obtain ⟨hhead, hposition, hrests⟩ := rests_after_unexpected hc
    rw [hc] at hrests
    rw [h.next.rest_eq, List.head?_drop] at hhead
    exact ⟨hhead, hposition, hrests.next_after⟩
  exhausts fault line column hfault hnext := by
    have hrest := rest_next_of_unclosed hfault hnext
    exact ⟨consumed_of_rest_nil h.next hrest, _, rfl, (rests_of_nil hrest).next_after⟩
  supplies := by
    have hle := s.length_stream_le
    rw [h.rest_eq, List.length_drop] at hle
    exact ⟨by omega, Supply.next_after_supply s⟩

/-- After any number of calls, failed ones among them, the next call makes progress, or the scanner
rests; and a supply of its items runs dry. -/
theorem after_progresses (source : List Char) (n : Nat) :
    ((ofSource source).after n).Progresses source :=
  ((ofSource_inStep source).after n).progresses

end Scanner
end JavaLex.Scan
