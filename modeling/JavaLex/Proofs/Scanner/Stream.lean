import JavaLex.Proofs.Lexeme.Reading
import JavaLex.Proofs.Scanner.Cursor

/-! # One call and the stream of calls

A call goes past a gap of whitespace and then either meets the end, or covers the slice of one
lexeme, or fails. Every token but the last takes a character at least, so a stream ends, and the
stream of a scanner is its first item followed by the stream of what is left. A supply hands it out
item by item.
-/
namespace JavaLex.Scan
open Lexicon Lexeme

/-- The token that a call hands out at a cursor. -/
def tokenAt (kind : TokenKind) (text : List Char) (p : Cursor) : Token :=
  ⟨kind, String.ofList text, p.line, p.column⟩

theorem isEnd_tokenAt (kind : TokenKind) (text : List Char) (p : Cursor) :
    (tokenAt kind text p).isEnd = (kind == .endOfInput) := rfl

namespace Scanner
variable {s : Scanner} {gap slice rest text : List Char} {kind : TokenKind}

theorem skip_gap_slice (hs : s.rest = gap ++ (slice ++ rest)) :
    (s.skip (gap.length + slice.length)).rest = rest ∧
      (s.skip (gap.length + slice.length)).position = s.position.passAll (gap ++ slice) := by
  rw [skip_rest, skip_position, hs, ← List.append_assoc, ← List.length_append]
  exact ⟨List.drop_left, by rw [List.take_left]⟩

theorem readHere_of_nil (hs : s.rest = []) :
    s.readHere = (.ok (tokenAt .endOfInput [] s.position), s) := by
  simp only [readHere, hs]
  rfl

theorem readHere_of_token {c : Char} {r : List Char} {n : Nat} (hs : s.rest = c :: r)
    (hread : read c r = .token kind text n) :
    s.readHere = (.ok (tokenAt kind text s.position), s.skip n) := by
  simp only [readHere, hs, hread]
  rfl

theorem readHere_of_failure {c : Char} {r : List Char} {fault : Fault} {n : Nat}
    (hs : s.rest = c :: r) (hread : read c r = .failure fault n) :
    s.readHere = (.error (.atToken fault s.position.line s.position.column), s.skip n) := by
  simp only [readHere, hs, hread]

theorem next_of_blank (hs : Blank s.rest) :
    s.next = (.ok (tokenAt .endOfInput [] (s.position.passAll s.rest)), s.skip s.rest.length) := by
  have hskip : s.skipWhitespace = s.skip s.rest.length :=
    skipWhitespace_eq (List.append_nil _).symm hs (by simp)
  rw [next, hskip, readHere_of_nil (by simp), skip_position, List.take_length]

theorem next_of_reads (hs : s.rest = gap ++ (slice ++ rest)) (hgap : Blank gap)
    (hreads : Reads kind text slice rest) :
    s.next = (.ok (tokenAt kind text (s.position.passAll gap)),
      s.skip (gap.length + slice.length)) := by
  obtain ⟨c, r, rfl, hc, hread⟩ := hreads
  have hrest : (s.skip gap.length).rest = c :: (r ++ rest) := by simp [hs]
  rw [next, skipWhitespace_eq hs hgap (by simpa using hc), readHere_of_token hrest hread,
    skip_position, hs, List.take_left, skip_add]

theorem next_of_failure {c : Char} {r : List Char} {fault : Fault} {n : Nat}
    (hs : s.rest = gap ++ c :: r) (hgap : Blank gap) (hc : isWhitespace c = false)
    (hread : read c r = .failure fault n) :
    s.next = (.error (.atToken fault (s.position.passAll gap).line (s.position.passAll gap).column),
      s.skip (gap.length + n)) := by
  have hrest : (s.skip gap.length).rest = c :: r := by simp [hs]
  rw [next, skipWhitespace_eq hs hgap (by simpa using hc), readHere_of_failure hrest hread,
    skip_position, hs, List.take_left, skip_add]

/-- What a call can meet: the end, a lexeme, or a place where none can be read. -/
theorem rest_cases (s : List Char) : Blank s ∨
    (∃ gap slice rest kind text, s = gap ++ (slice ++ rest) ∧ Blank gap ∧
      Reads kind text slice rest) ∨
    ∃ gap c r fault n, s = gap ++ c :: r ∧ Blank gap ∧ isWhitespace c = false ∧
      read c r = .failure fault n := by
  obtain ⟨gap, tail, rfl, hgap, htail⟩ := exists_gap s
  cases tail with
  | nil => exact .inl (by simpa using hgap)
  | cons c r =>
    have hc : isWhitespace c = false := htail c rfl
    cases hread : read c r with
    | token kind text n =>
      obtain ⟨slice, rest, hs, -, hreads⟩ := reads_of_read hc hread
      exact .inr (.inl ⟨gap, slice, rest, kind, text, by rw [hs], hgap, hreads⟩)
    | failure fault n => exact .inr (.inr ⟨gap, c, r, fault, n, rfl, hgap, hc, hread⟩)

/-- A call fails only where no lexeme can be read. -/
theorem exists_failure_of_next {e : LexicalError} (h : s.next.1 = .error e) :
    ∃ gap c r fault n, s.rest = gap ++ c :: r ∧ Blank gap ∧ isWhitespace c = false ∧
      read c r = .failure fault n ∧ s.next.2 = s.skip (gap.length + n) ∧
      e = .atToken fault (s.position.passAll gap).line (s.position.passAll gap).column := by
  rcases rest_cases s.rest with hblank | ⟨gap, slice, rest, kind, text, hs, hgap, hreads⟩ |
    ⟨gap, c, r, fault, n, hs, hgap, hc, hread⟩
  · rw [next_of_blank hblank] at h
    cases h
  · rw [next_of_reads hs hgap hreads] at h
    cases h
  · rw [next_of_failure hs hgap hc hread] at h ⊢
    cases h
    exact ⟨gap, c, r, fault, n, hs, hgap, hc, hread, rfl, rfl⟩

/-- A call that does not end the stream leaves less. -/
theorem next_rest_length_lt (h : s.next.1.isFinal = false) :
    s.next.2.rest.length < s.rest.length := by
  rcases rest_cases s.rest with hblank | ⟨gap, slice, rest, kind, text, hs, hgap, hreads⟩ |
    ⟨gap, c, r, fault, n, hs, hgap, hc, hread⟩
  · simp [next_of_blank hblank, Item.isFinal, isEnd_tokenAt] at h
  · have hpos := List.length_pos_of_ne_nil hreads.ne_nil
    rw [next_of_reads hs hgap hreads, skip_rest, List.length_drop, hs]
    simp only [List.length_append]
    omega
  · simp [next_of_failure hs hgap hc hread, Item.isFinal] at h

theorem takeItems_succ (found : Array Item) (n : Nat) (s : Scanner) :
    takeItems found (n + 1) s = if s.next.1.isFinal then (found.push s.next.1, s.next.2)
      else takeItems (found.push s.next.1) n s.next.2 := rfl

theorem takeItems_found (found : Array Item) (n : Nat) (s : Scanner) :
    (takeItems found n s).1.toList = found.toList ++ (takeItems #[] n s).1.toList := by
  induction n generalizing found s with
  | zero => simp [takeItems]
  | succ n ih =>
    rw [takeItems_succ, takeItems_succ]
    split
    · simp
    · rw [ih, ih (#[].push _)]
      simp

/-- The items up to the end of input or the first error. -/
def stream (s : Scanner) : List Item :=
  s.items.1.toList

/-- With an item for each character left and one more, a stream is not cut short. -/
theorem takeItems_eq {m n : Nat} (hm : s.rest.length < m) (hn : s.rest.length < n) :
    (takeItems #[] m s).1.toList = (takeItems #[] n s).1.toList := by
  induction m generalizing n s with
  | zero => omega
  | succ m ih =>
    obtain ⟨n, rfl⟩ : ∃ k, n = k + 1 := ⟨n - 1, by omega⟩
    rw [takeItems_succ, takeItems_succ]
    split
    · rfl
    · next hfinal =>
      have hless := next_rest_length_lt (Bool.eq_false_iff.mpr hfinal)
      rw [takeItems_found, takeItems_found _ n, ih (n := n) (by omega) (by omega)]

theorem stream_eq (s : Scanner) :
    s.stream = s.next.1 :: if s.next.1.isFinal then [] else s.next.2.stream := by
  unfold stream items
  rw [takeItems_succ]
  split
  · simp
  · next hfinal =>
    have hless := next_rest_length_lt (Bool.eq_false_iff.mpr hfinal)
    rw [takeItems_found, takeItems_eq hless (Nat.lt_succ_self _)]
    simp

theorem stream_of_blank (hs : Blank s.rest) :
    s.stream = [.ok (tokenAt .endOfInput [] (s.position.passAll s.rest))] := by
  rw [stream_eq, next_of_blank hs]
  rfl

theorem stream_of_reads (hs : s.rest = gap ++ (slice ++ rest)) (hgap : Blank gap)
    (hreads : Reads kind text slice rest) :
    s.stream = .ok (tokenAt kind text (s.position.passAll gap)) ::
      (s.skip (gap.length + slice.length)).stream := by
  rw [stream_eq, next_of_reads hs hgap hreads]
  simp [Item.isFinal, isEnd_tokenAt, hreads.kind_ne]

theorem stream_of_failure {c : Char} {r : List Char} {fault : Fault} {n : Nat}
    (hs : s.rest = gap ++ c :: r) (hgap : Blank gap) (hc : isWhitespace c = false)
    (hread : read c r = .failure fault n) :
    s.stream = [.error (.atToken fault (s.position.passAll gap).line
      (s.position.passAll gap).column)] := by
  rw [stream_eq, next_of_failure hs hgap hc hread]
  rfl

end Scanner

namespace Supply

/-- The supply after `n` items were asked for. -/
def after (i : Supply) : Nat → Supply
  | 0 => i
  | n + 1 => (i.after n).next.2

theorem after_next (i : Supply) (n : Nat) : i.next.2.after n = i.after (n + 1) := by
  induction n with
  | zero => rfl
  | succ n ih => exact congrArg (fun i => i.next.2) ih

theorem next_of_exhausted {i : Supply} (h : i.exhausted) : i.next = (none, i) := by
  rw [next, if_pos h]

theorem after_of_exhausted {i : Supply} (h : i.exhausted) (n : Nat) : i.after n = i := by
  induction n with
  | zero => rfl
  | succ n ih => rw [after, ih, next_of_exhausted h]

theorem next_supply (s : Scanner) :
    s.supply.next = (some s.next.1, ⟨s.next.2, s.next.1.isFinal⟩) := rfl

/-- A supply hands out the stream of its scanner, item by item, and then nothing more. -/
theorem next_after_supply (s : Scanner) (n : Nat) :
    (s.supply.after n).next.1 = s.stream[n]? := by
  induction n generalizing s with
  | zero => rw [Scanner.stream_eq]; rfl
  | succ n ih =>
    rw [← after_next, next_supply, Scanner.stream_eq, List.getElem?_cons_succ]
    cases hfinal : s.next.1.isFinal with
    | true =>
      rw [after_of_exhausted rfl, next_of_exhausted rfl]
      rfl
    | false => exact ih s.next.2

end Supply
end JavaLex.Scan
