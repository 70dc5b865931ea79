import JavaLex.Proofs.Lexicon.Blank
import JavaLex.Scan.Lexeme

/-! # Lexemes in their context

A recognizer looks past its lexeme only to see whether the lexeme goes on. So a lexeme that is
cut out of its context reads the same, and it reads the same again before anything apart from
it. A line comment alone goes on over whitespace: after it stands a line feed or nothing. Each
recognizer has this property, and trying one recognizer after the other keeps it.
-/
namespace JavaLex.Scan.Lexeme
open Lexicon

/-- What may be put after a text of `length` characters of which the lexeme takes `n`. -/
def Follows (kind : TokenKind) (n length : Nat) (t : List Char) : Prop :=
  Apart t ∧ (kind = .singleLineComment → n = length → ∀ c ∈ t.head?, c = '\n')

/-- The answer does not depend on what stands after the lexeme. A text is given by its first
character and the others, since no recognizer is asked about the end of a source. -/
structure Contextual (f : List Char → Option Lexeme) : Prop where
  none_of_append : ∀ {c s t}, f (c :: (s ++ t)) = none → f (c :: s) = none
  none_append : ∀ {c s t}, Apart t → f (c :: s) = none → f (c :: (s ++ t)) = none
  token_of_append : ∀ {c s t kind text n}, n ≤ (c :: s).length →
    f (c :: (s ++ t)) = some (.token kind text n) → f (c :: s) = some (.token kind text n)
  token_append : ∀ {c s t kind text n}, Follows kind n (c :: s).length t →
    f (c :: s) = some (.token kind text n) → f (c :: (s ++ t)) = some (.token kind text n)

theorem Contextual.orElse {f g : List Char → Option Lexeme} (hf : Contextual f)
    (hg : Contextual g) : Contextual fun s => f s <|> g s where
  none_of_append h := by
    simp only [Option.orElse_eq_orElse, Option.orElse_eq_or, Option.or_eq_none_iff] at h ⊢
    exact ⟨hf.none_of_append h.1, hg.none_of_append h.2⟩
  none_append ht h := by
    simp only [Option.orElse_eq_orElse, Option.orElse_eq_or, Option.or_eq_none_iff] at h ⊢
    exact ⟨hf.none_append ht h.1, hg.none_append ht h.2⟩
  token_of_append hn h := by
    simp only [Option.orElse_eq_orElse, Option.orElse_eq_or, Option.or_eq_some_iff] at h ⊢
    rcases h with h | ⟨hnone, h⟩
    · exact .inl (hf.token_of_append hn h)
    · exact .inr ⟨hf.none_of_append hnone, hg.token_of_append hn h⟩
  token_append ht h := by
    simp only [Option.orElse_eq_orElse, Option.orElse_eq_or, Option.or_eq_some_iff] at h ⊢
    rcases h with h | ⟨hnone, h⟩
    · exact .inl (hf.token_append ht h)
    · exact .inr ⟨hf.none_append ht.1 hnone, hg.token_append ht h⟩

/-- The recognizer makes a token exactly of what `Stands` at the head of the text. -/
def Recognizes (f : List Char → Option Lexeme)
    (Stands : TokenKind → List Char → List Char → List Char → Prop) : Prop :=
  ∀ s kind text n, f s = some (.token kind text n) ↔
    ∃ slice rest, s = slice ++ rest ∧ n = slice.length ∧ Stands kind text slice rest

section Recognizes
variable {f : List Char → Option Lexeme}
  {Stands : TokenKind → List Char → List Char → List Char → Prop}
  {s t text : List Char} {kind : TokenKind} {n : Nat}

/-- A lexeme stands before less if it stands before more. -/
theorem Recognizes.token_of_append (hf : Recognizes f Stands)
    (hless : ∀ {kind text slice rest t}, Stands kind text slice (rest ++ t) →
      Stands kind text slice rest)
    (hn : n ≤ s.length) (h : f (s ++ t) = some (.token kind text n)) :
    f s = some (.token kind text n) := by
  obtain ⟨slice, rest, hs, rfl, hstands⟩ := (hf _ _ _ _).mp h
  obtain ⟨rest', rfl⟩ : slice <+: s :=
    List.prefix_of_prefix_length_le ⟨rest, hs.symm⟩ (List.prefix_append s t) hn
  rw [List.append_assoc, List.append_cancel_left_eq] at hs
  subst hs
  exact (hf _ _ _ _).mpr ⟨slice, rest', rfl, rfl, hless hstands⟩

theorem Recognizes.token_append (hf : Recognizes f Stands)
    (hmore : ∀ {kind text slice rest}, Follows kind slice.length (slice ++ rest).length t →
      Stands kind text slice rest → Stands kind text slice (rest ++ t))
    (ht : Follows kind n s.length t) (h : f s = some (.token kind text n)) :
    f (s ++ t) = some (.token kind text n) := by
  obtain ⟨slice, rest, rfl, rfl, hstands⟩ := (hf _ _ _ _).mp h
  exact (hf _ _ _ _).mpr ⟨slice, rest ++ t, by simp, rfl, hmore ht hstands⟩

end Recognizes

end JavaLex.Scan.Lexeme
