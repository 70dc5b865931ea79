import JavaLex.Proofs.Lexeme.Comment
import JavaLex.Proofs.Lexeme.Literal

/-! # Lexemes that are given up

A recognizer that applies fails for one of four reasons, and each says how far it went: what is not
closed goes on to the end of the text, an empty character is two quotes, and the opener of a text
block is given up at the first character that may not stand in its line. A character that no
recognizer applies to stays where it is.
-/
namespace JavaLex.Scan.Lexeme
open Lexicon

/-- The fault that a text has at its head, and the number of characters that it takes. -/
inductive GivesUp (s : List Char) : Fault → Nat → Prop where
  | comment : ['/', '*'] <+: s → GivesUp s .invalidComment s.length
  | literal {quote : Char} : quote ∈ ['"', '\''] → [quote] <+: s →
      GivesUp s .unexpectedEndOfInput s.length
  | character : ['\'', '\''] <+: s → GivesUp s .emptyCharacterLiteral 2
  | opener {blank rest : List Char} {c : Char} : Opening blank → isWhitespace c = false →
      s = blockDelimiter ++ (blank ++ c :: rest) →
      GivesUp s (.expectedCharacter '\n' c) (blank.length + 3)

/-- A recognizer fails only so. -/
def Failing (f : List Char → Option Lexeme) : Prop :=
  ∀ s fault n, f s = some (.failure fault n) → GivesUp s fault n

theorem Failing.orElse {f g : List Char → Option Lexeme} (hf : Failing f) (hg : Failing g) :
    Failing fun s => f s <|> g s := by
  intro s fault n h
  simp only [Option.orElse_eq_orElse, Option.orElse_eq_or, Option.or_eq_some_iff] at h
  rcases h with h | ⟨-, h⟩
  · exact hf s fault n h
  · exact hg s fault n h

/-- The kinds of the lexemes that have no closer. -/
def plainKinds : List TokenKind :=
  [.keyword, .contextualKeyword, .identifier, .number, .separator, .operator]

/-- A recognizer of lexemes without a closer makes tokens only. -/
def Plain (f : List Char → Option Lexeme) : Prop :=
  ∀ s lexeme, f s = some lexeme → ∃ kind ∈ plainKinds, ∃ text n, lexeme = .token kind text n

theorem Plain.failing {f : List Char → Option Lexeme} (hf : Plain f) : Failing f := by
  intro s fault n h
  obtain ⟨kind, -, text, m, hlexeme⟩ := hf s _ h
  cases hlexeme

theorem comment?_failing : Failing comment? := by
  intro s fault n h
  fun_cases comment? s with
  | case1 s => simp [comment?] at h
  | case2 s m hm => simp [comment?, hm] at h
  | case3 s hm =>
    simp only [comment?, hm, Option.some.injEq, failure.injEq] at h
    obtain ⟨rfl, rfl⟩ := h
    exact .comment ⟨s, rfl⟩
  | case4 s hline hblock => simp [comment?] at h

theorem textBlock_gives_up {s : List Char} {fault : Fault} {n : Nat}
    (h : textBlock s = .failure fault n) : GivesUp (blockDelimiter ++ s) fault n := by
  have hliteral (s : List Char) :
      GivesUp (blockDelimiter ++ s) .unexpectedEndOfInput (s.length + 3) :=
    .literal (by simp) ⟨'"' :: '"' :: s, rfl⟩
  obtain ⟨blank, hblank, rfl | ⟨body, rfl⟩ | ⟨c, rest, hc, rfl⟩⟩ := exists_opening s
  · rw [textBlock_of_opening hblank] at h
    cases h
    exact hliteral _
  · cases hbody : blockLength? 0 body with
    | some m =>
      rw [textBlock_of_closed hblank hbody] at h
      cases h
    | none =>
      rw [textBlock_of_unclosed hblank hbody] at h
      cases h
      exact hliteral _
  · rw [textBlock_other hblank hc] at h
    cases h
    exact .opener hblank hc rfl

theorem string?_failing : Failing string? := by
  intro s fault n h
  fun_cases string? s with
  | case1 s =>
    simp only [string?, Option.some.injEq] at h
    exact textBlock_gives_up h
  | case2 s hopen m hm => simp [string?.eq_2 _ hopen, hm] at h
  | case3 s hopen hm =>
    simp only [string?.eq_2 _ hopen, hm, Option.some.injEq, failure.injEq] at h
    obtain ⟨rfl, rfl⟩ := h
    exact .literal (by simp) ⟨s, rfl⟩
  | case4 s hblock hquote => simp [string?.eq_3 _ hblock hquote] at h

theorem character?_failing : Failing character? := by
  intro s fault n h
  fun_cases character? s with
  | case1 s =>
    simp only [character?, Option.some.injEq, failure.injEq] at h
    obtain ⟨rfl, rfl⟩ := h
    exact .character ⟨s, rfl⟩
  | case2 s hopen m hm => simp [character?.eq_2 _ hopen, hm] at h
  | case3 s hopen hm =>
    simp only [character?.eq_2 _ hopen, hm, Option.some.injEq, failure.injEq] at h
    obtain ⟨rfl, rfl⟩ := h
    exact .literal (by simp) ⟨s, rfl⟩
  | case4 s hempty hquote => simp [character?.eq_3 _ hempty hquote] at h

theorem number?_plain : Plain number? := by
  intro s lexeme h
  simp only [number?, Option.map_eq_some_iff] at h
  obtain ⟨r, -, rfl⟩ := h
  exact ⟨.number, by decide, _, _, rfl⟩

theorem word?_plain : Plain word? := by
  intro s lexeme h
  unfold word? at h
  split at h
  · cases h
    refine ⟨_, ?_, _, _, rfl⟩
    rcases TokenKind.ofWord_cases (String.ofList (leadingWord s)) with hw | hw | hw <;>
      rw [hw] <;> decide
  · cases h

theorem separator?_plain : Plain separator? := by
  intro s lexeme h
  simp only [separator?, Option.map_eq_some_iff] at h
  obtain ⟨z, -, rfl⟩ := h
  exact ⟨.separator, by decide, _, _, rfl⟩

theorem operator?_plain : Plain operator? := by
  intro s lexeme h
  simp only [operator?, Option.map_eq_some_iff] at h
  obtain ⟨op, -, rfl⟩ := h
  exact ⟨.operator, by decide, _, _, rfl⟩

theorem recognize?_failing : Failing recognize? :=
  comment?_failing.orElse <| string?_failing.orElse <| character?_failing.orElse <|
    number?_plain.failing.orElse <| word?_plain.failing.orElse <|
      separator?_plain.failing.orElse operator?_plain.failing

/-- No lexeme is read at a character because nothing starts with it, or because what starts with it
is given up. -/
theorem read_failure {c : Char} {s : List Char} {fault : Fault} {n : Nat}
    (h : read c s = .failure fault n) :
    fault = .unexpectedCharacter c ∧ n = 0 ∨ GivesUp (c :: s) fault n := by
  unfold read at h
  cases hs : recognize? (c :: s) with
  | none =>
    rw [hs] at h
    cases h
    exact .inl ⟨rfl, rfl⟩
  | some lexeme =>
    rw [hs, Option.getD_some] at h
    subst h
    exact .inr (recognize?_failing _ _ _ hs)

theorem GivesUp.length_pos {s : List Char} {fault : Fault} {n : Nat} (h : GivesUp s fault n) :
    0 < n := by
  cases h with
  | comment hs => exact Nat.lt_of_lt_of_le Nat.two_pos hs.length_le
  | literal _ hs => exact hs.length_le
  | character => decide
  | opener => omega

/-- A limit on tokens is not reached within a lexeme. -/
theorem read_ne_tooManyTokens {c : Char} {s : List Char} {limit n : Nat} :
    read c s ≠ .failure (.tooManyTokens limit) n := by
  intro h
  rcases read_failure h with ⟨hfault, -⟩ | hgives
  · cases hfault
  · cases hgives

/-- A character is unexpected itself, and not for what comes after it. -/
theorem eq_of_unexpectedCharacter {c x : Char} {s : List Char} {n : Nat}
    (h : read c s = .failure (.unexpectedCharacter x) n) : x = c ∧ n = 0 := by
  rcases read_failure h with ⟨hfault, hn⟩ | hgives
  · cases hfault
    exact ⟨rfl, hn⟩
  · cases hgives

end JavaLex.Scan.Lexeme
