import JavaLex.Proofs.Lexeme.Context

/-! # Words

A word is a run of the characters that continue identifiers, or such a run with the tail that
makes `non-sealed`. Neither holds whitespace, and the tail is looked for right after the run.
-/
namespace JavaLex.Scan.Lexeme
open Lexicon

section Word
variable {s t : List Char}

def stem (s : List Char) : List Char :=
  s.takeWhile isIdentifierPart

/-- The tail goes on from the stem. -/
def HasTail (s : List Char) : Prop :=
  stem s = "non".toList ∧ nonSealedTail <+: s.drop (stem s).length

instance (s : List Char) : Decidable (HasTail s) :=
  inferInstanceAs (Decidable (_ ∧ _))

theorem leadingWord_eq (s : List Char) :
    leadingWord s = if HasTail s then stem s ++ nonSealedTail else stem s := by
  simp only [leadingWord, List.isPrefixOf_iff_prefix]
  rfl

theorem stem_length_le (s : List Char) : (stem s).length ≤ s.length :=
  (List.takeWhile_prefix isIdentifierPart).length_le

theorem leadingWord_prefix (s : List Char) : leadingWord s <+: s := by
  have hstem : stem s <+: s := List.takeWhile_prefix isIdentifierPart
  rw [leadingWord_eq]
  split
  case isFalse => exact hstem
  case isTrue htail =>
    obtain ⟨rest, hrest⟩ := htail.2
    exact ⟨rest, by rw [List.append_assoc, hrest, List.prefix_iff_eq_append.mp hstem]⟩

theorem leadingWord_ne_nil {c : Char} (hc : isIdentifierStart c) : leadingWord (c :: s) ≠ [] := by
  have hstem : stem (c :: s) ≠ [] := by simp [stem, isIdentifierPart, hc]
  rw [leadingWord_eq]
  split <;> simp [hstem]

theorem stem_append (ht : Apart t) : stem (s ++ t) = stem s :=
  takeWhile_append_stop fun c hc => not_isIdentifierPart_of_isWhitespace (ht c hc)

theorem leadingWord_append (ht : Apart t) : leadingWord (s ++ t) = leadingWord s := by
  have htail : HasTail (s ++ t) ↔ HasTail s := by
    unfold HasTail
    rw [stem_append ht, List.drop_append_of_le_length (stem_length_le s)]
    refine and_congr_right fun _ => ⟨prefix_of_append_apart (by decide) ht, ?_⟩
    exact fun h => h.trans (List.prefix_append _ _)
  simp only [leadingWord_eq, stem_append ht, htail]

theorem leadingWord_of_append (h : (leadingWord (s ++ t)).length ≤ s.length) :
    leadingWord (s ++ t) = leadingWord s := by
  have hstem : stem (s ++ t) = stem s := by
    apply takeWhile_of_append
    refine le_trans ?_ h
    rw [leadingWord_eq]
    split <;> simp [stem]
  have htail : HasTail (s ++ t) ↔ HasTail s := by
    constructor
    · intro hlong
      rw [leadingWord_eq, if_pos hlong, List.length_append, hstem] at h
      unfold HasTail at hlong ⊢
      rw [hstem, List.drop_append_of_le_length (stem_length_le s)] at hlong
      refine ⟨hlong.1, List.prefix_of_prefix_length_le hlong.2 (List.prefix_append _ _) ?_⟩
      rw [List.length_drop]
      omega
    · unfold HasTail
      rw [hstem, List.drop_append_of_le_length (stem_length_le s)]
      exact fun hshort => ⟨hshort.1, hshort.2.trans (List.prefix_append _ _)⟩
  simp only [leadingWord_eq, hstem, htail]

theorem word?_cons (c : Char) (s : List Char) : word? (c :: s) =
    if isIdentifierStart c then
      some (.token (.ofWord (String.ofList (leadingWord (c :: s)))) (leadingWord (c :: s))
        (leadingWord (c :: s)).length)
    else none := by
  by_cases hc : isIdentifierStart c <;> simp [word?, hc]

theorem word?_eq_none_iff {c : Char} {s : List Char} :
    word? (c :: s) = none ↔ isIdentifierStart c = false := by
  rw [word?_cons]
  split <;> simp_all

theorem word?_contextual : Contextual word? where
  none_of_append h := word?_eq_none_iff.mpr (word?_eq_none_iff.mp h)
  none_append _ h := word?_eq_none_iff.mpr (word?_eq_none_iff.mp h)
  token_of_append {c s t kind text n} hn h := by
    rw [word?_cons] at h ⊢
    split at h
    case isFalse => simp at h
    case isTrue hc =>
      simp only [Option.some.injEq, token.injEq] at h
      have hword : leadingWord (c :: (s ++ t)) = leadingWord (c :: s) :=
        leadingWord_of_append (s := c :: s) (h.2.2.trans_le hn)
      rw [hword] at h
      simp only [hc, if_true, Option.some.injEq, token.injEq]
      exact h
  token_append {c s t kind text n} ht h := by
    have hword : leadingWord (c :: (s ++ t)) = leadingWord (c :: s) :=
      leadingWord_append (s := c :: s) ht.1
    rw [word?_cons] at h ⊢
    rw [hword]
    exact h

end Word

end JavaLex.Scan.Lexeme
