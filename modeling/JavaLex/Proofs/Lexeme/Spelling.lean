import JavaLex.Proofs.Lexeme.Comment
import JavaLex.Proofs.Lexeme.Literal
import JavaLex.Proofs.Lexeme.Number
import JavaLex.Proofs.Lexeme.Symbol
import JavaLex.Proofs.Lexeme.Word

/-! # What a token keeps of its slice

A token covers a slice of the source. The slice is the text of the token itself, or that text
between quotes, or the body of a text block between its delimiters, of which the token keeps
what is left without the incidental indentation. No lexeme is empty.
-/
namespace JavaLex.Scan.Lexeme
open Lexicon

/-- The slice that a token of the kind and text covers. -/
inductive Spelling : TokenKind → List Char → List Char → Prop where
  | endOfInput : Spelling .endOfInput [] []
  | verbatim {kind : TokenKind} {text : List Char} :
      kind ∉ [.endOfInput, .string, .character, .textBlock] → text ≠ [] → Spelling kind text text
  | string (text : List Char) : Spelling .string text ('"' :: (text ++ ['"']))
  | character (text : List Char) : Spelling .character text ('\'' :: (text ++ ['\'']))
  | textBlock {blank body : List Char} : (∀ c ∈ blank, isWhitespace c ∧ c ≠ '\n') →
      Spelling .textBlock (stripIndent body)
        (blockDelimiter ++ (blank ++ '\n' :: (body ++ blockDelimiter)))

/-- Each lexeme covers a slice at the head of the text, which is not empty. -/
def Spells (f : List Char → Option Lexeme) : Prop :=
  ∀ {s kind text n}, f s = some (.token kind text n) →
    ∃ slice rest, s = slice ++ rest ∧ n = slice.length ∧ slice ≠ [] ∧ Spelling kind text slice

theorem Spells.orElse {f g : List Char → Option Lexeme} (hf : Spells f) (hg : Spells g) :
    Spells fun s => f s <|> g s := by
  intro s kind text n h
  simp only [Option.orElse_eq_orElse, Option.orElse_eq_or, Option.or_eq_some_iff] at h
  rcases h with h | ⟨-, h⟩
  · exact hf h
  · exact hg h

/-- A recognizer whose tokens keep their slice spells it. -/
theorem Spells.of_verbatim {f : List Char → Option Lexeme}
    (hf : ∀ {s kind text n}, f s = some (.token kind text n) →
      kind ∉ [.endOfInput, .string, .character, .textBlock] ∧ text ≠ [] ∧ text <+: s ∧
        n = text.length) : Spells f := by
  intro s kind text n h
  obtain ⟨hkind, hne, ⟨rest, rfl⟩, rfl⟩ := hf h
  exact ⟨text, rest, rfl, rfl, hne, .verbatim hkind hne⟩

theorem comment?_spells : Spells comment? := by
  intro s kind text n h
  obtain ⟨slice, rest, rfl, rfl, hstands⟩ := (comment?_recognizes _ _ _ _).mp h
  refine ⟨slice, rest, rfl, rfl, ?_⟩
  cases hstands with
  | line => exact ⟨by simp, .verbatim (by decide) (by simp)⟩
  | block => exact ⟨by simp, .verbatim (by decide) (by simp)⟩

theorem string?_spells : Spells string? := by
  intro s kind text n h
  obtain ⟨slice, rest, rfl, rfl, hstands⟩ := (string?_recognizes _ _ _ _).mp h
  refine ⟨slice, rest, rfl, rfl, ?_⟩
  cases hstands with
  | quoted => exact ⟨by simp, .string text⟩
  | block hblank => exact ⟨by simp, .textBlock hblank⟩

theorem character?_spells : Spells character? := by
  intro s kind text n h
  obtain ⟨slice, rest, rfl, rfl, hstands⟩ := (character?_recognizes _ _ _ _).mp h
  refine ⟨slice, rest, rfl, rfl, ?_⟩
  cases hstands with
  | quoted => exact ⟨by simp, .character text⟩

theorem number?_spells : Spells number? := by
  refine Spells.of_verbatim fun {s kind text n} h => ?_
  simp only [number?, Option.map_eq_some_iff, token.injEq] at h
  obtain ⟨r, hr, rfl, rfl, rfl⟩ := h
  have hlen : (s.take (r.length s)).length = r.length s :=
    List.length_take_of_le (Radix.length_le (radix?_lead_le hr))
  refine ⟨by decide, ?_, List.take_prefix _ _, hlen.symm⟩
  apply List.ne_nil_of_length_pos
  rw [hlen]
  exact radix?_length_pos hr

theorem word?_spells : Spells word? := by
  refine Spells.of_verbatim fun {s kind text n} h => ?_
  cases s with
  | nil => simp [word?] at h
  | cons c s =>
    rw [word?_cons] at h
    split at h
    case isFalse => simp at h
    case isTrue hc =>
      simp only [Option.some.injEq, token.injEq] at h
      obtain ⟨rfl, rfl, rfl⟩ := h
      refine ⟨?_, leadingWord_ne_nil hc, leadingWord_prefix _, rfl⟩
      rcases TokenKind.ofWord_cases (String.ofList (leadingWord (c :: s))) with hw | hw | hw <;>
        simp [hw]

theorem separator?_spells : Spells separator? := by
  refine Spells.of_verbatim fun {s kind text n} h => ?_
  simp only [separator?_eq, Option.map_eq_some_iff, token.injEq] at h
  obtain ⟨z, hz, rfl, rfl, rfl⟩ := h
  have hprefix := leadingSeparator?_prefix hz
  exact ⟨by decide, hprefix.1, hprefix.2, rfl⟩

theorem operator?_spells : Spells operator? := by
  refine Spells.of_verbatim fun {s kind text n} h => ?_
  simp only [operator?_eq, Option.map_eq_some_iff, leadingOperator?_eq_some_iff, token.injEq] at h
  obtain ⟨op, ⟨hne, hop⟩, rfl, rfl, rfl⟩ := h
  obtain ⟨run, hrun, hprefix⟩ := extendOperator_prefix [] s
  rw [List.nil_append, hop] at hrun
  exact ⟨by decide, hne, hrun ▸ hprefix, rfl⟩

end JavaLex.Scan.Lexeme
