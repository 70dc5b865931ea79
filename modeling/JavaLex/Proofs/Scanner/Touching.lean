import JavaLex.Proofs.Scanner.Word

/-! # What comes after a word

A word ends where its run ends, so that no character that continues identifiers comes after it. The
spelling that goes on over a hyphen ends where its tail does, whatever comes next. So two words
stand next to each other without a gap exactly if the text goes on there.
-/
namespace JavaLex.Scan
open Lexicon Lexeme Source

namespace Lexeme
variable {p : Char → Bool} {w rest : List Char}

/-- After `non-sealed` the text goes on with such a character. -/
def GoesOn (p : Char → Bool) (s : List Char) : Prop :=
  ∃ c r, s = nonStem ++ nonSealedTail ++ c :: r ∧ p c

theorem isIdentifierPart_of_isIdentifierStart {c : Char} (h : isIdentifierStart c) :
    isIdentifierPart c := by
  simp [isIdentifierPart, h]

/-- The hyphen ends the run. -/
theorem headWord_nonSealed (r : List Char) :
    HeadWord (nonStem ++ nonSealedTail ++ r) (nonStem ++ nonSealedTail) := by
  have hletters : nonStem.all isIdentifierPart := by decide +kernel
  have hhead : (nonSealedTail ++ r).head? = some '-' := rfl
  have hstem : stem (nonStem ++ nonSealedTail ++ r) = nonStem := by
    rw [stem, takeWhile_eq_iff]
    refine ⟨nonSealedTail ++ r, List.append_assoc .., List.all_eq_true.mp hletters, ?_⟩
    intro c hc
    rw [hhead] at hc
    exact Option.some.inj hc ▸ not_isIdentifierPart_hyphen
  have hlongest := longest_stem (nonStem ++ nonSealedTail ++ r)
  rw [hstem] at hlongest
  exact .nonSealed hlongest (List.prefix_append _ r)

/-- Only the spelling with the hyphen is not as long as it could be. -/
theorem HeadWord.followed_iff (hp : ∀ c, p c → isIdentifierPart c) (h : HeadWord (w ++ rest) w) :
    (∃ c ∈ rest.head?, p c) ↔ GoesOn p (w ++ rest) := by
  constructor
  · rintro ⟨c, hc, hpc⟩
    obtain ⟨r, rfl⟩ := List.head?_eq_some_iff.mp hc
    cases h with
    | run hlongest =>
      -- The character would have been taken into the run.
      have hmem : w ++ [c] ∈ identifierRuns := by
        intro d hd
        rcases List.mem_append.mp hd with hrun | hlast
        · exact hlongest.mem d hrun
        · exact List.mem_singleton.mp hlast ▸ hp c hpc
      have hle := hlongest.length_le _ hmem ⟨r, by simp⟩
      rw [List.length_append, List.length_singleton] at hle
      exact absurd hle (Nat.not_succ_le_self _)
    | nonSealed => exact ⟨c, r, rfl, hpc⟩
  · rintro ⟨c, r, hs, hpc⟩
    rw [hs] at h
    obtain rfl := h.unique (headWord_nonSealed (c :: r))
    obtain rfl := List.append_cancel_left hs
    exact ⟨c, rfl, hpc⟩

end Lexeme

namespace Scanner
variable {s : Scanner} {t : Token}

/-- A call goes past this gap and takes the word that comes then. -/
structure TakesWord (s : Scanner) (gap : List Char) (t : Token) (rest : List Char) : Prop where
  rest_eq : s.rest = gap ++ (t.text.toList ++ rest)
  blank : Blank gap
  starts : ∃ c r, t.text.toList ++ rest = c :: r ∧ isIdentifierStart c
  word : HeadWord (t.text.toList ++ rest) t.text.toList
  place : ⟨t.line, t.column⟩ = s.position.passAll gap
  after : s.next.2.rest = rest

theorem takesWord_of_starts {gap r : List Char} {c : Char} (hs : s.rest = gap ++ c :: r)
    (hgap : Blank gap) (hc : isIdentifierStart c) :
    ∃ t rest, s.next.1 = .ok t ∧ t.kind.isWord ∧ s.TakesWord gap t rest := by
  obtain ⟨rest, hword, hreads⟩ := reads_word hc r
  rw [hword] at hs
  refine ⟨_, rest, congrArg Prod.fst (next_of_reads hs hgap hreads), ?_, ?_⟩
  · rcases TokenKind.ofWord_cases (String.ofList (leadingWord (c :: r))) with hk | hk | hk <;>
      simp [tokenAt, hk, TokenKind.isWord]
  · refine ⟨by simpa [tokenAt] using hs, hgap, ⟨c, r, ?_, hc⟩, ?_, rfl, ?_⟩
    · simpa [tokenAt] using hword.symm
    · simpa [tokenAt, ← hword] using headWord_leadingWord (c :: r)
    · rw [next_of_reads hs hgap hreads]
      exact (skip_gap_slice hs).1

/-- Only what opens with a character that starts identifiers is handed out as a word. -/
theorem takesWord_of_next (h : s.next.1 = .ok t) (hword : t.kind.isWord) :
    ∃ gap rest, s.TakesWord gap t rest := by
  have hend : t.kind ≠ .endOfInput := by
    intro hkind
    rw [hkind] at hword
    cases hword
  obtain ⟨gap, c, r, hs, hgap, hopens⟩ := exists_opens_of_next h hend
  have hstart : isIdentifierStart c := by
    generalize t.kind = kind at hopens hword
    cases hopens with
    | word hstart => exact hstart
    | _ => cases hword
  obtain ⟨t', rest, ht', -, htakes⟩ := takesWord_of_starts hs hgap hstart
  obtain rfl : t' = t := Except.ok.inj (ht'.symm.trans h)
  exact ⟨gap, rest, htakes⟩

/-- How a word is parted from what comes after it. -/
structure Parts (t : Token) (rest : List Char) (item : Item) : Prop where
  followed_iff : (∃ c ∈ rest.head?, isIdentifierPart c) ↔
    GoesOn isIdentifierPart (t.text.toList ++ rest)
  /-- Between two words there is whitespace, if the text does not go on. -/
  gap : ∀ t', item = .ok t' → t'.kind.isWord → ∃ gap rest',
    rest = gap ++ (t'.text.toList ++ rest') ∧ Blank gap ∧
      (gap = [] ↔ GoesOn isIdentifierStart (t.text.toList ++ rest))
  /-- If it does, then with a word. -/
  word : GoesOn isIdentifierStart (t.text.toList ++ rest) → ∃ t', item = .ok t' ∧ t'.kind.isWord

/-- Whitespace starts no word, so a gap is empty exactly if the word after it is what comes next. -/
theorem TakesWord.gap_eq_nil_iff {gap rest : List Char} (h : s.TakesWord gap t rest) :
    gap = [] ↔ ∃ c ∈ s.rest.head?, isIdentifierStart c := by
  rw [h.rest_eq]
  cases gap with
  | nil =>
    obtain ⟨c, r, hr, hstart⟩ := h.starts
    simp [hr, hstart]
  | cons c gap =>
    have hwhite : isWhitespace c := h.blank c List.mem_cons_self
    have hstart : isIdentifierStart c = false := by
      by_contra hstart
      rw [not_isWhitespace_of_isIdentifierStart (eq_true_of_ne_false hstart)] at hwhite
      cases hwhite
    simp [hstart]

theorem TakesWord.parts {gap rest : List Char} (h : s.TakesWord gap t rest) :
    Parts t rest s.next.2.next.1 := by
  have hstart := h.word.followed_iff fun _ => isIdentifierPart_of_isIdentifierStart
  refine ⟨h.word.followed_iff fun _ => id, ?_, ?_⟩
  · intro t' ht' hword'
    obtain ⟨gap', rest', htakes⟩ := takesWord_of_next ht' hword'
    have hnil := htakes.gap_eq_nil_iff
    rw [h.after] at hnil
    exact ⟨gap', rest', h.after ▸ htakes.rest_eq, htakes.blank, hnil.trans hstart⟩
  · intro hgoes
    obtain ⟨c, hc, hstart⟩ := hstart.mpr hgoes
    obtain ⟨r, hr⟩ := List.head?_eq_some_iff.mp hc
    have hnext : s.next.2.rest = [] ++ c :: r := h.after.trans hr
    obtain ⟨t', -, ht', hword', -⟩ := takesWord_of_starts hnext (by simp [Blank]) hstart
    exact ⟨t', ht', hword'⟩

end Scanner
end JavaLex.Scan
