import JavaLex.Proofs.Lexeme.Opening
import JavaLex.Proofs.Scanner.Stream

/-! # How a call comes out

A call answers with the lexeme that is read past whitespace, placed where the whitespace ends. So
what the text at hand opens with decides which of the faults there can be, and which kind a token
has: each fault has one kind of opening, and where none of these is there is a token.
-/
namespace JavaLex.Scan
open Lexicon Lexeme

/-- What a call hands out for a lexeme that starts at a cursor. -/
def Lexeme.itemAt (p : Cursor) : Lexeme → Item
  | .token kind text _ => .ok (tokenAt kind text p)
  | .failure fault _ => .error (.atToken fault p.line p.column)

/-- The number of characters that a call goes past. -/
def Lexeme.length : Lexeme → Nat
  | .token _ _ n => n
  | .failure _ n => n

/-- The call fails for this reason, wherever that is. -/
def Item.FailsWith (item : Item) (fault : Fault) : Prop :=
  ∃ line column, item = .error (.atToken fault line column)

namespace Scanner
variable {s : Scanner} {gap r : List Char} {c : Char} {fault : Fault} {t : Token}

theorem next_of_read (hs : s.rest = gap ++ c :: r) (hgap : Blank gap)
    (hc : isWhitespace c = false) : s.next = ((read c r).itemAt (s.position.passAll gap),
      s.skip (gap.length + (read c r).length)) := by
  have hrest : (s.skip gap.length).rest = c :: r := by simp [hs]
  have hposition : (s.skip gap.length).position = s.position.passAll gap := by
    rw [skip_position, hs, List.take_left]
  rw [next, skipWhitespace_eq hs hgap (by simpa using hc), skip_add, ← hposition]
  cases hread : read c r with
  | token kind text n => exact readHere_of_token hrest hread
  | failure fault n => exact readHere_of_failure hrest hread

theorem failsWith_iff (hs : s.rest = gap ++ c :: r) (hgap : Blank gap)
    (hc : isWhitespace c = false) :
    s.next.1.FailsWith fault ↔ ∃ n, read c r = .failure fault n := by
  rw [next_of_read hs hgap hc]
  cases read c r <;> simp [Item.FailsWith, Lexeme.itemAt]

theorem next_eq_ok_iff (hs : s.rest = gap ++ c :: r) (hgap : Blank gap)
    (hc : isWhitespace c = false) : s.next.1 = .ok t ↔ ∃ kind text n,
      read c r = .token kind text n ∧ t = tokenAt kind text (s.position.passAll gap) := by
  rw [next_of_read hs hgap hc]
  cases read c r <;> simp [Lexeme.itemAt, eq_comm]

/-- How a call comes out that stands before `c :: r` past whitespace. -/
structure Classified (c : Char) (r : List Char) (item : Item) : Prop where
  invalidComment : item.FailsWith .invalidComment → ['/', '*'] <+: c :: r
  emptyCharacter_iff : item.FailsWith .emptyCharacterLiteral ↔ ['\'', '\''] <+: c :: r
  /-- A text block may have nothing but whitespace between its opener and the line feed. -/
  expectedCharacter_iff : ∀ expected found,
    item.FailsWith (.expectedCharacter expected found) ↔ expected = '\n' ∧
      ∃ blank rest, Opening blank ∧ isWhitespace found = false ∧
        c :: r = blockDelimiter ++ (blank ++ found :: rest)
  unexpectedEnd : item.FailsWith .unexpectedEndOfInput → c = '"' ∨ c = '\''
  unexpectedCharacter_iff : ∀ found,
    item.FailsWith (.unexpectedCharacter found) ↔ found = c ∧ StartsNothing c
  token : ¬ ['/', '*'] <+: c :: r → c ≠ '"' → c ≠ '\'' → ¬ StartsNothing c → ∃ t, item = .ok t
  /-- The kind of a token is the one that the opening leads to. -/
  kind_iff : ∀ t, item = .ok t → ∀ kind, t.kind = kind ↔ Opens c r kind

section Classified
variable (hs : s.rest = gap ++ c :: r) (hgap : Blank gap) (hc : isWhitespace c = false)
include hs hgap hc

/-- What a call gives up is the fault of a lexeme, or nothing starts there. -/
theorem givesUp_of_failsWith (h : s.next.1.FailsWith fault) :
    fault = .unexpectedCharacter c ∧ StartsNothing c ∨ ∃ n, GivesUp (c :: r) fault n := by
  obtain ⟨n, hread⟩ := (failsWith_iff hs hgap hc).mp h
  unfold Lexeme.read at hread
  cases hrecognize : recognize? (c :: r) with
  | none =>
    rw [hrecognize] at hread
    cases hread
    exact .inl ⟨rfl, recognize?_eq_none_iff.mp hrecognize⟩
  | some lexeme =>
    rw [hrecognize, Option.getD_some] at hread
    subst hread
    exact .inr ⟨n, recognize?_failing _ _ _ hrecognize⟩

theorem failsWith_of_recognize {n : Nat} (h : recognize? (c :: r) = some (.failure fault n)) :
    s.next.1.FailsWith fault :=
  (failsWith_iff hs hgap hc).mpr ⟨n, read_of_recognize h⟩

theorem failsWith_emptyCharacter_iff :
    s.next.1.FailsWith .emptyCharacterLiteral ↔ ['\'', '\''] <+: c :: r := by
  constructor
  · intro h
    rcases givesUp_of_failsWith hs hgap hc h with ⟨hfault, -⟩ | ⟨n, hgives⟩
    · cases hfault
    · cases hgives with
      | character hquotes => exact hquotes
  · rintro ⟨rest, hrest⟩
    obtain ⟨rfl, rfl⟩ := List.cons.inj hrest
    exact failsWith_of_recognize hs hgap hc (recognize?_quote _)

theorem failsWith_expectedCharacter_iff (expected found : Char) :
    s.next.1.FailsWith (.expectedCharacter expected found) ↔ expected = '\n' ∧
      ∃ blank rest, Opening blank ∧ isWhitespace found = false ∧
        c :: r = blockDelimiter ++ (blank ++ found :: rest) := by
  constructor
  · intro h
    rcases givesUp_of_failsWith hs hgap hc h with ⟨hfault, -⟩ | ⟨n, hgives⟩
    · cases hfault
    · cases hgives with
      | @opener blank rest _ hblank hfound hopener =>
        exact ⟨rfl, blank, rest, hblank, hfound, hopener⟩
  · rintro ⟨rfl, blank, rest, hblank, hfound, hopener⟩
    obtain ⟨rfl, rfl⟩ := List.cons.inj hopener
    refine failsWith_of_recognize hs hgap hc (n := blank.length + 3) ?_
    rw [recognize?_doubleQuote]
    exact congrArg some (textBlock_other hblank hfound rest)

theorem failsWith_unexpectedCharacter_iff (found : Char) :
    s.next.1.FailsWith (.unexpectedCharacter found) ↔ found = c ∧ StartsNothing c := by
  constructor
  · intro h
    rcases givesUp_of_failsWith hs hgap hc h with ⟨hfault, hnothing⟩ | ⟨n, hgives⟩
    · cases hfault
      exact ⟨rfl, hnothing⟩
    · cases hgives
  · rintro ⟨rfl, hnothing⟩
    refine (failsWith_iff hs hgap hc).mpr ⟨0, ?_⟩
    rw [Lexeme.read, recognize?_eq_none_iff.mpr hnothing, Option.getD_none]

/-- Every fault but one stands behind an opening of its own. -/
theorem exists_token (hcomment : ¬ ['/', '*'] <+: c :: r) (hstring : c ≠ '"') (hquote : c ≠ '\'')
    (hsomething : ¬ StartsNothing c) : ∃ t, s.next.1 = .ok t := by
  cases hitem : s.next.1 with
  | ok t => exact ⟨t, rfl⟩
  | error e =>
    obtain ⟨fault, hfails⟩ : ∃ fault, s.next.1.FailsWith fault := by
      obtain ⟨_, _, _, fault, _, _, _, _, _, -, he⟩ := exists_failure_of_next hitem
      exact ⟨fault, _, _, by rw [hitem, he]⟩
    rcases givesUp_of_failsWith hs hgap hc hfails with ⟨-, hnothing⟩ | ⟨n, hgives⟩
    · exact absurd hnothing hsomething
    · cases hgives with
      | comment hopener => exact absurd hopener hcomment
      | literal hmem hopener =>
        rw [(List.cons_prefix_cons.mp hopener).1] at hmem
        simp [hstring, hquote] at hmem
      | character hopener => exact absurd (List.cons_prefix_cons.mp hopener).1.symm hquote
      | opener _ _ hopener => exact absurd (List.cons.inj hopener).1 hstring

end Classified

/-- Past whitespace, what the text opens with decides how a call comes out. -/
theorem next_classified (hs : s.rest = gap ++ c :: r) (hgap : Blank gap)
    (hc : isWhitespace c = false) : Classified c r s.next.1 where
  invalidComment h := by
    rcases givesUp_of_failsWith hs hgap hc h with ⟨hfault, -⟩ | ⟨n, hgives⟩
    · cases hfault
    · cases hgives with
      | comment hopener => exact hopener
  emptyCharacter_iff := failsWith_emptyCharacter_iff hs hgap hc
  expectedCharacter_iff := failsWith_expectedCharacter_iff hs hgap hc
  unexpectedEnd h := by
    rcases givesUp_of_failsWith hs hgap hc h with ⟨hfault, -⟩ | ⟨n, hgives⟩
    · cases hfault
    · cases hgives with
      | literal hmem hopener =>
        rw [(List.cons_prefix_cons.mp hopener).1] at hmem
        simpa using hmem
  unexpectedCharacter_iff := failsWith_unexpectedCharacter_iff hs hgap hc
  token := exists_token hs hgap hc
  kind_iff t ht kind := by
    obtain ⟨kind', text, n, hread, rfl⟩ := (next_eq_ok_iff hs hgap hc).mp ht
    exact kind_eq_iff hread

/-- What is handed out before the end opens past whitespace. -/
theorem exists_opens_of_next (h : s.next.1 = .ok t) (hkind : t.kind ≠ .endOfInput) :
    ∃ gap c r, s.rest = gap ++ c :: r ∧ Blank gap ∧ Opens c r t.kind := by
  obtain ⟨gap, tail, hs, hgap, htail⟩ := exists_gap s.rest
  cases tail with
  | nil =>
    rw [next_of_blank (hs ▸ by simpa using hgap)] at h
    cases h
    exact absurd rfl hkind
  | cons c r =>
    have hclassified := next_classified hs hgap (htail c rfl)
    exact ⟨gap, c, r, hs, hgap, (hclassified.kind_iff t h t.kind).mp rfl⟩

/-- The opener of a text block with something in its line, and a number that starts with a dot. -/
theorem next_classified_opener : ∃ s t : Scanner,
    s.rest = "\t\"\"\" \r".toList ++ 'x' :: "\n\"\"\"".toList ∧
      s.next.1.FailsWith (.expectedCharacter '\n' 'x') ∧
      t.rest = "\n".toList ++ '.' :: "5f".toList ∧ ∃ number, t.next.1 = .ok number ∧
        number.kind = .number := by
  have hs : (ofSource "\t\"\"\" \rx\n\"\"\"".toList).rest =
      "\t".toList ++ '"' :: "\"\" \rx\n\"\"\"".toList := by decide
  have ht : (ofSource "\n.5f".toList).rest = "\n".toList ++ '.' :: "5f".toList := by decide
  have hopener := next_classified hs (by decide) (by decide)
  have hnumber := next_classified ht (by decide) (by decide)
  refine ⟨_, _, hs, (hopener.expectedCharacter_iff '\n' 'x').mpr ?_, ht, ?_⟩
  · refine ⟨rfl, " \r".toList, "\n\"\"\"".toList, ?_, by decide, by decide⟩
    have hblank : " \r".toList.all fun c => isWhitespace c && c != '\n' := by decide
    simpa [Opening] using hblank
  · obtain ⟨number, hok⟩ := hnumber.token (by decide) (by decide) (by decide)
      fun h => absurd h.2.2.2.2 (by simp [startsSymbol_iff]; decide)
    refine ⟨number, hok, (hnumber.kind_iff number hok .number).mpr (.number ?_)⟩
    exact .inr ⟨rfl, '5', rfl, by decide⟩

end Scanner
end JavaLex.Scan
