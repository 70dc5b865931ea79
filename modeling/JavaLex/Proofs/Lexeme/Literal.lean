import JavaLex.Proofs.Lexeme.Body
import JavaLex.Proofs.Lexeme.Context

/-! # Strings, text blocks and characters

The literals that stand between delimiters, said without a search: each is its opener, a body
of units and its closer. The recognizers find exactly these.
-/
namespace JavaLex.Scan.Lexeme
open Lexicon

/-- An empty string has no third quote after it. -/
inductive StringLiteral : TokenKind → List Char → List Char → List Char → Prop where
  | quoted {body rest : List Char} : Units ['"'] body → (body = [] → rest.head? ≠ some '"') →
      StringLiteral .string body ('"' :: (body ++ ['"'])) rest
  | block {blank body rest : List Char} : (∀ c ∈ blank, isWhitespace c ∧ c ≠ '\n') →
      Units blockDelimiter body →
      StringLiteral .textBlock (stripIndent body)
        (blockDelimiter ++ (blank ++ '\n' :: (body ++ blockDelimiter))) rest

inductive CharacterLiteral : TokenKind → List Char → List Char → List Char → Prop where
  | quoted {body rest : List Char} : Units ['\''] body → body ≠ [] →
      CharacterLiteral .character body ('\'' :: (body ++ ['\''])) rest

/-- Whitespace that may stand after the opener of a text block, in its line. -/
def Opening (blank : List Char) : Prop :=
  ∀ c ∈ blank, isWhitespace c ∧ c ≠ '\n'

section TextBlock
variable {blank : List Char}

theorem takeWhile_opening (hblank : Opening blank) (tail : List Char)
    (htail : ∀ c ∈ tail.head?, isWhitespace c = false ∨ c = '\n') :
    (blank ++ tail).takeWhile (fun c => isWhitespace c && c != '\n') = blank := by
  refine takeWhile_eq_iff.mpr ⟨tail, rfl, by simpa [Opening] using hblank, ?_⟩
  intro c hc
  rcases htail c hc with hc | rfl
  · simp [hc]
  · simp

theorem textBlock_of_opening (hblank : Opening blank) :
    textBlock blank = .failure .unexpectedEndOfInput (blank.length + 3) := by
  have hrun := takeWhile_opening hblank [] (by simp)
  rw [List.append_nil] at hrun
  simp [textBlock, hrun]

theorem textBlock_of_closed (hblank : Opening blank) {body : List Char} {n : Nat}
    (h : blockLength? 0 body = some n) : textBlock (blank ++ '\n' :: body) =
      .token .textBlock (stripIndent (body.take n)) (blank.length + n + 7) := by
  have hrun := takeWhile_opening hblank ('\n' :: body) (by simp)
  simp only [textBlock, hrun, List.drop_left, h]

theorem textBlock_of_unclosed (hblank : Opening blank) {body : List Char}
    (h : blockLength? 0 body = none) : textBlock (blank ++ '\n' :: body) =
      .failure .unexpectedEndOfInput ((blank ++ '\n' :: body).length + 3) := by
  have hrun := takeWhile_opening hblank ('\n' :: body) (by simp)
  simp only [textBlock, hrun, List.drop_left, h]

theorem textBlock_other (hblank : Opening blank) {c : Char} (hc : isWhitespace c = false)
    (rest : List Char) :
    textBlock (blank ++ c :: rest) = .failure (.expectedCharacter '\n' c) (blank.length + 3) := by
  have hrun := takeWhile_opening hblank (c :: rest) (by simp [hc])
  have hfeed : c = '\n' → False := by
    rintro rfl
    exact absurd hc (by decide)
  simp only [textBlock, hrun, List.drop_left]

/-- What can stand after the opener of a text block: whitespace, and then the end, or a line feed,
or what may not stand there. -/
theorem exists_opening (s : List Char) : ∃ blank, Opening blank ∧
    (s = blank ∨ (∃ body, s = blank ++ '\n' :: body) ∨
      ∃ c rest, isWhitespace c = false ∧ s = blank ++ c :: rest) := by
  obtain ⟨tail, hs, hblank, hstop⟩ := takeWhile_eq_iff.mp
    (rfl : s.takeWhile (fun c => isWhitespace c && c != '\n') = s.takeWhile _)
  refine ⟨_, by simpa [Opening] using hblank, ?_⟩
  cases tail with
  | nil => exact .inl (by simpa using hs)
  | cons c rest =>
    by_cases hc : c = '\n'
    · exact .inr (.inl ⟨rest, hc ▸ hs⟩)
    · exact .inr (.inr ⟨c, rest, by simpa [hc] using hstop c rfl, hs⟩)

theorem textBlock_eq_token_iff {s : List Char} {kind : TokenKind} {text : List Char} {n : Nat} :
    textBlock s = .token kind text n ↔
      ∃ blank body rest, s = blank ++ '\n' :: (body ++ (blockDelimiter ++ rest)) ∧
        (∀ c ∈ blank, isWhitespace c ∧ c ≠ '\n') ∧ Units blockDelimiter body ∧
        kind = .textBlock ∧ text = stripIndent body ∧ n = blank.length + body.length + 7 := by
  constructor
  · intro h
    obtain ⟨blank, hblank, rfl | ⟨r, rfl⟩ | ⟨c, r, hc, rfl⟩⟩ := exists_opening s
    · rw [textBlock_of_opening hblank] at h
      cases h
    · cases hm : blockLength? 0 r with
      | none =>
        rw [textBlock_of_unclosed hblank hm] at h
        cases h
      | some m =>
        rw [textBlock_of_closed hblank hm] at h
        obtain ⟨body, rest, rfl, hbody, rfl⟩ := (finds_block r m).mp hm
        rw [Nat.add_zero, List.take_left] at h
        cases h
        exact ⟨blank, body, rest, rfl, hblank, hbody, rfl, rfl, rfl⟩
    · rw [textBlock_other hblank hc] at h
      cases h
  · rintro ⟨blank, body, rest, rfl, hblank, hbody, rfl, rfl, rfl⟩
    have hm := (finds_block (body ++ (blockDelimiter ++ rest)) _).mpr ⟨body, rest, rfl, hbody, rfl⟩
    rw [textBlock_of_closed hblank hm, Nat.add_zero, List.take_left]

end TextBlock

theorem string?_recognizes : Recognizes string? StringLiteral := by
  intro s kind text n
  constructor
  · intro h
    fun_cases string? s with
    | case1 r =>
      simp only [string?, Option.some.injEq] at h
      obtain ⟨blank, body, rest, rfl, hblank, hbody, rfl, rfl, rfl⟩ := textBlock_eq_token_iff.mp h
      refine ⟨_, rest, ?_, ?_, .block hblank hbody⟩
      · simp [blockDelimiter]
      · simp [blockDelimiter]
        omega
    | case2 r hopen m hm =>
      obtain ⟨body, rest, rfl, hbody, rfl⟩ := (finds_quoted (by decide) r m).mp hm
      simp only [string?.eq_2 _ hopen, hm, Nat.add_zero, List.take_left] at h
      cases h
      refine ⟨_, rest, by simp, by simp, .quoted hbody ?_⟩
      rintro rfl hrest
      obtain ⟨tail, rfl⟩ := List.head?_eq_some_iff.mp hrest
      exact hopen tail rfl
    | case3 r hopen hm => simp [string?.eq_2 _ hopen, hm] at h
    | case4 r hblock hquote => simp [string?.eq_3 _ hblock hquote] at h
  · rintro ⟨slice, rest, rfl, rfl, h⟩
    cases h with
    | @quoted _ _ hbody hempty =>
      have hm := (finds_quoted (by decide) (text ++ '"' :: rest) _).mpr
        ⟨text, rest, rfl, hbody, rfl⟩
      have hopen : ∀ tail, text ++ '"' :: rest = '"' :: '"' :: tail → False := by
        intro tail htail
        cases text with
        | nil => exact hempty rfl (by simp_all)
        | cons c text => exact hbody.head_ne (by decide) (List.cons.inj htail).1
      simp [string?.eq_2 _ hopen, hm]
    | @block blank body _ hblank hbody =>
      have hblock := textBlock_eq_token_iff.mpr
        ⟨blank, body, rest, rfl, hblank, hbody, rfl, rfl, rfl⟩
      simp [blockDelimiter] at hblock
      simp [string?, blockDelimiter, hblock]
      omega

theorem character?_recognizes : Recognizes character? CharacterLiteral := by
  intro s kind text n
  constructor
  · intro h
    fun_cases character? s with
    | case1 r => simp [character?] at h
    | case2 r hopen m hm =>
      obtain ⟨body, rest, rfl, hbody, rfl⟩ := (finds_quoted (by decide) r m).mp hm
      simp only [character?.eq_2 _ hopen, hm, Nat.add_zero, List.take_left] at h
      cases h
      refine ⟨_, rest, by simp, by simp, .quoted hbody ?_⟩
      rintro rfl
      exact hopen rest rfl
    | case3 r hopen hm => simp [character?.eq_2 _ hopen, hm] at h
    | case4 r hempty hquote => simp [character?.eq_3 _ hempty hquote] at h
  · rintro ⟨slice, rest, rfl, rfl, h⟩
    cases h with
    | @quoted _ _ hbody hne =>
      have hm := (finds_quoted (by decide) (text ++ '\'' :: rest) _).mpr
        ⟨text, rest, rfl, hbody, rfl⟩
      have hopen : ∀ tail, text ++ '\'' :: rest = '\'' :: tail → False := by
        intro tail htail
        cases text with
        | nil => exact hne rfl
        | cons c text => exact hbody.head_ne (by decide) (List.cons.inj htail).1
      simp [character?.eq_2 _ hopen, hm]

section Standing
variable {kind : TokenKind} {text slice rest t : List Char}

theorem StringLiteral.of_append (h : StringLiteral kind text slice (rest ++ t)) :
    StringLiteral kind text slice rest := by
  cases h with
  | quoted hbody hempty =>
    exact .quoted hbody fun hnil hrest => hempty hnil (List.mem_head?_append_of_mem_head? hrest)
  | block hblank hbody => exact .block hblank hbody

theorem StringLiteral.append (ht : Follows kind slice.length (slice ++ rest).length t)
    (h : StringLiteral kind text slice rest) : StringLiteral kind text slice (rest ++ t) := by
  cases h with
  | quoted hbody hempty =>
    refine .quoted hbody fun hnil => ?_
    cases rest with
    | nil =>
      intro hquote
      exact absurd (ht.1 _ hquote) (by decide)
    | cons c rest => exact hempty hnil
  | block hblank hbody => exact .block hblank hbody

theorem CharacterLiteral.congr (rest' : List Char) (h : CharacterLiteral kind text slice rest) :
    CharacterLiteral kind text slice rest' := by
  cases h with
  | quoted hbody hne => exact .quoted hbody hne

end Standing

theorem string?_eq_none_iff {c : Char} {s : List Char} : string? (c :: s) = none ↔ c ≠ '"' := by
  constructor
  · rintro h rfl
    unfold string? at h
    split at h
    · simp at h
    · split at h <;> simp at h
    · simp_all
  · intro hc
    rw [string?.eq_3] <;> simp [hc]

theorem string?_contextual : Contextual string? where
  none_of_append h := string?_eq_none_iff.mpr (string?_eq_none_iff.mp h)
  none_append _ h := string?_eq_none_iff.mpr (string?_eq_none_iff.mp h)
  token_of_append hn h := string?_recognizes.token_of_append StringLiteral.of_append hn h
  token_append ht h := string?_recognizes.token_append StringLiteral.append ht h

theorem character?_eq_none_iff {c : Char} {s : List Char} :
    character? (c :: s) = none ↔ c ≠ '\'' := by
  constructor
  · rintro h rfl
    unfold character? at h
    split at h
    · simp at h
    · split at h <;> simp at h
    · simp_all
  · intro hc
    rw [character?.eq_3] <;> simp [hc]

theorem character?_contextual : Contextual character? where
  none_of_append h := character?_eq_none_iff.mpr (character?_eq_none_iff.mp h)
  none_append _ h := character?_eq_none_iff.mpr (character?_eq_none_iff.mp h)
  token_of_append hn h :=
    character?_recognizes.token_of_append (CharacterLiteral.congr _) hn h
  token_append ht h := character?_recognizes.token_append (fun _ => CharacterLiteral.congr _) ht h

end JavaLex.Scan.Lexeme
