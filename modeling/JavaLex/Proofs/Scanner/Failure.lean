import JavaLex.Proofs.Lexeme.Failing
import JavaLex.Proofs.Scanner.Stream

/-! # Where a scan fails

A scan that fails has called the scanner once for each token and once more. Its last call went past
whitespace and stopped at a character at which no lexeme can be read, and the error names the line
and the column of that character.
-/
namespace JavaLex.Scan
open Lexicon Lexeme Source

/-- The call after `calls` others fails at the character `c`: that is where it stands past
whitespace, and no lexeme can be read there. -/
structure FailsAt (source : List Char) (calls : Nat) (fault : Fault) (before : List Char) (c : Char)
    (after : List Char) : Prop where
  source_eq : source = before ++ c :: after
  rest_eq : ((Scanner.ofSource source).after calls).skipWhitespace.rest = c :: after
  solid : isWhitespace c = false
  read_eq : ∃ n, read c after = .failure fault n

namespace Scanner
variable {s : Scanner} {e : LexicalError} {t : Token}

theorem after_next (s : Scanner) (n : Nat) : s.next.2.after n = s.after (n + 1) := by
  induction n with
  | zero => rfl
  | succ n ih => exact congrArg (fun s => s.next.2) ih

theorem run_of_error (h : s.next.1 = .error e) (found : Array Token) (limit room : Nat) :
    s.run found limit room = ⟨found, some e⟩ := by
  cases hnext : s.next with
  | mk item left =>
    rw [hnext] at h
    cases h
    rw [run.eq_def]
    simp only [hnext]

theorem run_of_token_zero (h : s.next.1 = .ok t) (found : Array Token) (limit : Nat) :
    s.run found limit 0 = ⟨found, some (.atToken (.tooManyTokens limit) t.line t.column)⟩ := by
  cases hnext : s.next with
  | mk item left =>
    rw [hnext] at h
    cases h
    rw [run.eq_def]
    simp only [hnext]

theorem run_of_token (h : s.next.1 = .ok t) (found : Array Token) (limit room : Nat) :
    s.run found limit (room + 1) =
      if t.isEnd then ⟨found.push t, none⟩ else s.next.2.run (found.push t) limit room := by
  cases hnext : s.next with
  | mk item left =>
    rw [hnext] at h
    cases h
    rw [run.eq_def]
    simp only [hnext]

/-- The call that fails comes after those that made the tokens. -/
theorem exists_call_of_run {found toks : Array Token} {limit room : Nat}
    (h : s.run found limit room = ⟨toks, some e⟩)
    (he : ∀ line column, e ≠ .atToken (.tooManyTokens limit) line column) :
    ∃ n, toks.size = found.size + n ∧ (s.after n).next.1 = .error e := by
  induction room generalizing s found with
  | zero =>
    cases hnext : s.next.1 with
    | error e' =>
      rw [run_of_error hnext] at h
      cases h
      exact ⟨0, rfl, hnext⟩
    | ok t =>
      rw [run_of_token_zero hnext] at h
      cases h
      exact absurd rfl (he t.line t.column)
  | succ room ih =>
    cases hnext : s.next.1 with
    | error e' =>
      rw [run_of_error hnext] at h
      cases h
      exact ⟨0, rfl, hnext⟩
    | ok t =>
      rw [run_of_token hnext] at h
      split at h
      · cases h
      · obtain ⟨n, hsize, hcall⟩ := ih h
        rw [after_next] at hcall
        rw [Array.size_push, Nat.add_assoc, Nat.add_comm 1] at hsize
        exact ⟨n + 1, hsize, hcall⟩

theorem exists_place_of_run {found toks : Array Token} {limit room : Nat}
    (h : s.run found limit room = ⟨toks, some e⟩) : ∃ fault line column,
      e = .atToken fault line column := by
  by_cases htoken : ∃ line column, e = .atToken (.tooManyTokens limit) line column
  · obtain ⟨line, column, he⟩ := htoken
    exact ⟨_, line, column, he⟩
  · obtain ⟨n, -, hcall⟩ := exists_call_of_run h fun line column he => htoken ⟨line, column, he⟩
    obtain ⟨_, _, _, fault, _, _, _, _, _, -, he⟩ := exists_failure_of_next hcall
    exact ⟨fault, _, _, he⟩

/-- Where a call on a scanner in step with its source fails. -/
theorem InStep.split_of_error {source : List Char} {fault : Fault} {line column : Nat}
    (h : s.InStep source) (hnext : s.next.1 = .error (.atToken fault line column)) :
    ∃ before c after n, source = before ++ c :: after ∧ s.skipWhitespace.rest = c :: after ∧
      isWhitespace c = false ∧ read c after = .failure fault n ∧
      line = (Position.start.advanceAll before).line ∧
      column = (Position.start.advanceAll before).column := by
  obtain ⟨gap, c, after, _, n, hs, hgap, hc, hread, -, he⟩ := exists_failure_of_next hnext
  cases he
  obtain ⟨before, hsource, hagrees⟩ := h.split hs
  refine ⟨before, c, after, n, hsource, ?_, hc, hread, hagrees.1, hagrees.2⟩
  rw [skipWhitespace_eq hs hgap (by simpa using hc), skip_rest, hs, List.drop_left]

end Scanner

/-- The error of a scan that fails names the place of the character at which it fails. -/
theorem scan_failsAt {source : List Char} {toks : Array Token} {fault : Fault} {line column : Nat}
    (h : scan source = ⟨toks, some (.atToken fault line column)⟩)
    (hfault : fault ≠ .tooManyTokens maxTokens) :
    ∃ before c after, FailsAt source toks.size fault before c after ∧
      line = (Position.start.advanceAll before).line ∧
      column = (Position.start.advanceAll before).column := by
  obtain ⟨calls, hsize, hcall⟩ := Scanner.exists_call_of_run h (by simpa using hfault)
  rw [Array.size_empty, Nat.zero_add] at hsize
  obtain ⟨before, c, after, n, hsource, hrest, hc, hread, hline, hcolumn⟩ :=
    ((Scanner.ofSource_inStep source).after calls).split_of_error hcall
  rw [← hsize] at hrest
  exact ⟨before, c, after, ⟨hsource, hrest, hc, n, hread⟩, hline, hcolumn⟩

/-- A character that is found unexpected is the one at which the call fails. -/
theorem FailsAt.eq_of_unexpectedCharacter {source before after : List Char} {calls : Nat}
    {c x : Char} (h : FailsAt source calls (.unexpectedCharacter x) before c after) : x = c := by
  obtain ⟨n, hread⟩ := h.read_eq
  exact (Lexeme.eq_of_unexpectedCharacter hread).1

end JavaLex.Scan
