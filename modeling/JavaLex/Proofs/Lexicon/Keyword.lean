import JavaLex.Lexicon.Keyword
import JavaLex.Token

/-! # What kind of word a spelling is

The tables of words list the spellings of the members of both sets and no others, and no spelling
is in both. So the kind of a word says whether it is a member of one of the sets, and of which.
-/
namespace JavaLex
open Lexicon

namespace Lexicon
variable {word : String}

theorem isReserved_iff : isReserved word ↔ ∃ k ∈ Keyword.all, k.spelling = word := by
  have htable : reservedWords = Keyword.all.map Keyword.spelling := rfl
  rw [isReserved, List.contains_iff_mem, htable, List.mem_map]

theorem isContextual_iff : isContextual word ↔ ∃ k ∈ ContextualKeyword.all, k.spelling = word := by
  have htable : contextualWords = ContextualKeyword.all.map ContextualKeyword.spelling := rfl
  rw [isContextual, List.contains_iff_mem, htable, List.mem_map]

theorem spelling_ne : ∀ k ∈ Keyword.all, ∀ k' ∈ ContextualKeyword.all, k.spelling ≠ k'.spelling := by
  intro k hk k' hk' heq
  have hcontextual : isContextual k'.spelling := isContextual_iff.mpr ⟨k', hk', rfl⟩
  have hreserved : isReserved k'.spelling := isReserved_iff.mpr ⟨k, hk, heq⟩
  rw [not_isReserved_of_isContextual hcontextual] at hreserved
  cases hreserved

end Lexicon

/-- The kind of a word goes by the members that are spelled so. -/
structure WordKind (word : String) (kind : TokenKind) : Prop where
  keyword_iff : kind = .keyword ↔ ∃ k ∈ Keyword.all, k.spelling = word
  contextual_iff : kind = .contextualKeyword ↔ ∃ k ∈ ContextualKeyword.all, k.spelling = word
  identifier_iff : kind = .identifier ↔ (¬ ∃ k ∈ Keyword.all, k.spelling = word) ∧
    ¬ ∃ k ∈ ContextualKeyword.all, k.spelling = word

theorem wordKind_ofWord (word : String) : WordKind word (.ofWord word) := by
  have hdisjoint : isContextual word → isReserved word = false := not_isReserved_of_isContextual
  refine ⟨?_, ?_, ?_⟩
  all_goals
    simp only [← isReserved_iff, ← isContextual_iff, TokenKind.ofWord]
    cases hreserved : isReserved word <;> cases hcontextual : isContextual word <;> simp_all

end JavaLex
