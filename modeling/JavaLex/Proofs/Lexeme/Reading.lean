import JavaLex.Proofs.Lexeme.Spelling

/-! # Reading one lexeme

The facts about each recognizer, put together for the lexeme at the head of a text: the slice
that it covers, that it reads the same cut out of its context, and that it reads the same with
anything apart from it put after the text.
-/
namespace JavaLex.Scan.Lexeme
open Lexicon

variable {c : Char} {s t text : List Char} {kind : TokenKind} {n : Nat}

theorem recognize?_contextual : Contextual recognize? :=
  comment?_contextual.orElse <| string?_contextual.orElse <| character?_contextual.orElse <|
    number?_contextual.orElse <| word?_contextual.orElse <| separator?_contextual.orElse
      operator?_contextual

theorem recognize?_spells : Spells recognize? :=
  comment?_spells.orElse <| string?_spells.orElse <| character?_spells.orElse <|
    number?_spells.orElse <| word?_spells.orElse <| separator?_spells.orElse operator?_spells

theorem read_eq_token_iff :
    read c s = .token kind text n ↔ recognize? (c :: s) = some (.token kind text n) := by
  unfold read
  cases recognize? (c :: s) <;> simp

theorem read_of_recognize {lexeme : Lexeme} (h : recognize? (c :: s) = some lexeme) :
    read c s = lexeme := by
  rw [read, h, Option.getD_some]

theorem read_spelling (h : read c s = .token kind text n) :
    ∃ slice rest, c :: s = slice ++ rest ∧ n = slice.length ∧ slice ≠ [] ∧
      Spelling kind text slice :=
  recognize?_spells (read_eq_token_iff.mp h)

theorem read_of_append (hn : n ≤ (c :: s).length) (h : read c (s ++ t) = .token kind text n) :
    read c s = .token kind text n :=
  read_eq_token_iff.mpr (recognize?_contextual.token_of_append hn (read_eq_token_iff.mp h))

theorem read_append (ht : Follows kind n (c :: s).length t) (h : read c s = .token kind text n) :
    read c (s ++ t) = .token kind text n :=
  read_eq_token_iff.mpr (recognize?_contextual.token_append ht (read_eq_token_iff.mp h))

/-- A scanner before the slice and the rest reads a lexeme of the kind and text that is the slice. -/
def Reads (kind : TokenKind) (text slice rest : List Char) : Prop :=
  ∃ c s, slice = c :: s ∧ isWhitespace c = false ∧
    read c (s ++ rest) = .token kind text slice.length

theorem Reads.ne_nil {slice rest : List Char} (h : Reads kind text slice rest) : slice ≠ [] := by
  obtain ⟨c, s, rfl, -⟩ := h
  simp

theorem Reads.spelling {slice rest : List Char} (h : Reads kind text slice rest) :
    Spelling kind text slice := by
  obtain ⟨c, s, rfl, -, hread⟩ := h
  obtain ⟨slice, rest', hs, hlength, -, hspelling⟩ := read_spelling hread
  rw [← List.cons_append] at hs
  rwa [(List.append_inj hs hlength).1]

/-- Only the end of input has no slice. -/
theorem Reads.kind_ne {slice rest : List Char} (h : Reads kind text slice rest) :
    kind ≠ .endOfInput := by
  rintro rfl
  have hne := h.ne_nil
  cases h.spelling with
  | endOfInput => exact hne rfl
  | verbatim hkind => simp at hkind

/-- Something apart may be put after the whole text. -/
theorem Reads.append {slice rest t : List Char} (h : Reads kind text slice rest) (ht : Apart t)
    (hline : kind = .singleLineComment → rest = [] → ∀ c ∈ t.head?, c = '\n') :
    Reads kind text slice (rest ++ t) := by
  obtain ⟨c, s, rfl, hc, hread⟩ := h
  refine ⟨c, s, rfl, hc, ?_⟩
  rw [← List.append_assoc]
  refine read_append ⟨ht, fun hkind hlength => hline hkind ?_⟩ hread
  simpa using hlength

/-- Nothing need come after a lexeme. -/
theorem Reads.cut {slice rest : List Char} (h : Reads kind text slice rest) :
    Reads kind text slice [] := by
  obtain ⟨c, s, rfl, hc, hread⟩ := h
  refine ⟨c, s, rfl, hc, ?_⟩
  rw [List.append_nil]
  exact read_of_append le_rfl hread

/-- What comes after a lexeme may be exchanged for something apart from it. -/
theorem Reads.exchange {slice rest t : List Char} (h : Reads kind text slice rest) (ht : Apart t)
    (hline : kind = .singleLineComment → ∀ c ∈ t.head?, c = '\n') :
    Reads kind text slice t :=
  h.cut.append ht fun hkind _ => hline hkind

/-- The first lexeme of a text that does not start with whitespace. -/
theorem reads_of_read (hc : isWhitespace c = false) (h : read c s = .token kind text n) :
    ∃ slice rest, c :: s = slice ++ rest ∧ n = slice.length ∧ Reads kind text slice rest := by
  obtain ⟨slice, rest, hs, rfl, hne, -⟩ := read_spelling h
  obtain ⟨d, slice, rfl⟩ := List.exists_cons_of_ne_nil hne
  obtain ⟨rfl, rfl⟩ := List.cons.inj hs
  exact ⟨_, rest, rfl, rfl, c, slice, rfl, hc, h⟩

end JavaLex.Scan.Lexeme
