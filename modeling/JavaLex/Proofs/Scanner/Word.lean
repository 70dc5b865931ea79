import JavaLex.Proofs.Lexicon.Keyword
import JavaLex.Proofs.Lexicon.Longest
import JavaLex.Proofs.Scanner.Classification
import JavaLex.Proofs.Scanner.Tiling

/-! # Words as they are handed out

No other lexeme starts with a character that starts an identifier. So a call that stands before one
hands out the run of characters that continue identifiers, or the one spelling that goes on over a
hyphen, and the kind is that of the members that are spelled so. A word that stands alone is read
the same.
-/
namespace JavaLex.Scan
open Lexicon Lexeme

namespace Lexeme
variable {c : Char} {s r text text' : List Char}

/-! ## The word at the head of a text -/

/-- The runs of characters that continue identifiers. -/
def identifierRuns : Language Char :=
  {w | ∀ c ∈ w, isIdentifierPart c}

def nonStem : List Char := "non".toList

/-- The longest run at the head of the text, or that run and the tail that goes on from it. -/
inductive HeadWord (s : List Char) : List Char → Prop where
  | run {w : List Char} : Longest identifierRuns s w → ¬ (w = nonStem ∧
      nonStem ++ nonSealedTail <+: s) → HeadWord s w
  | nonSealed : Longest identifierRuns s nonStem → nonStem ++ nonSealedTail <+: s →
      HeadWord s (nonStem ++ nonSealedTail)

theorem longest_stem (s : List Char) : Longest identifierRuns s (stem s) where
  mem _ hc := List.mem_takeWhile_imp hc
  isPrefix := List.takeWhile_prefix isIdentifierPart
  length_le := by
    rintro other hother ⟨rest, rfl⟩
    rw [stem, List.takeWhile_append_of_pos hother, List.length_append]
    exact Nat.le_add_right _ _

theorem headWord_leadingWord (s : List Char) : HeadWord s (leadingWord s) := by
  have hstem : stem s ++ s.drop (stem s).length = s :=
    List.prefix_iff_eq_append.mp (List.takeWhile_prefix isIdentifierPart)
  have htail : HasTail s ↔ stem s = nonStem ∧ nonStem ++ nonSealedTail <+: s := by
    apply and_congr_right
    intro hnon
    generalize s.drop (stem s).length = rest at hstem ⊢
    rw [← hstem, hnon]
    exact (List.prefix_append_right_inj nonStem).symm
  rw [leadingWord_eq]
  split
  case isTrue h =>
    obtain ⟨hnon, hprefix⟩ := htail.mp h
    rw [hnon]
    exact .nonSealed (hnon ▸ longest_stem s) hprefix
  case isFalse h => exact .run (longest_stem s) (mt htail.mpr h)

/-- A text has one word at its head. -/
theorem HeadWord.unique (h : HeadWord s text) (h' : HeadWord s text') : text = text' := by
  cases h with
  | run hlongest hnot =>
    cases h' with
    | run hlongest' => exact hlongest.unique hlongest'
    | nonSealed hlongest' hprefix => exact absurd ⟨hlongest.unique hlongest', hprefix⟩ hnot
  | nonSealed hlongest hprefix =>
    cases h' with
    | run hlongest' hnot => exact absurd ⟨hlongest'.unique hlongest, hprefix⟩ hnot
    | nonSealed => rfl

theorem HeadWord.lineFeed_not_mem (h : HeadWord s text) : '\n' ∉ text := by
  cases h with
  | run hlongest =>
    intro hmem
    have hpart := hlongest.mem '\n' hmem
    rw [not_isIdentifierPart_of_isWhitespace (by decide)] at hpart
    cases hpart
  | nonSealed => decide

theorem not_isWhitespace_of_isIdentifierStart (h : isIdentifierStart c) :
    isWhitespace c = false := by
  by_contra hwhite
  have hpart := not_isIdentifierPart_of_isWhitespace (eq_true_of_ne_false hwhite)
  simp [isIdentifierPart, h] at hpart

/-- The four recognizers that are asked first all decline. -/
theorem read_word (h : isIdentifierStart c) (r : List Char) : read c r =
    .token (.ofWord (String.ofList (leadingWord (c :: r)))) (leadingWord (c :: r))
      (leadingWord (c :: r)).length := by
  apply read_of_recognize
  rw [recognize?_of_word h, word?_cons, if_pos h]

theorem reads_word (h : isIdentifierStart c) (r : List Char) : ∃ rest,
    c :: r = leadingWord (c :: r) ++ rest ∧
      Reads (.ofWord (String.ofList (leadingWord (c :: r)))) (leadingWord (c :: r))
        (leadingWord (c :: r)) rest := by
  obtain ⟨slice, rest, hs, hlength, hreads⟩ :=
    reads_of_read (not_isWhitespace_of_isIdentifierStart h) (read_word h r)
  obtain ⟨rest', hs'⟩ := leadingWord_prefix (c :: r)
  obtain ⟨hslice, -⟩ := List.append_inj (hs'.trans hs) hlength
  rw [← hslice] at hs hreads
  exact ⟨rest, hs, hreads⟩

/-! ## A word alone -/

/-- The tokens of a text that is one word. -/
def aloneTokens (kind : TokenKind) (word : String) : List Token :=
  [⟨kind, word, 1, 1⟩, .endOfInput 1 (word.length + 1)]

theorem tokenize_of_reads {kind : TokenKind} (hreads : Reads kind text text [])
    (hfeed : '\n' ∉ text) :
    tokenize (String.ofList text) = .ok (aloneTokens kind (String.ofList text)) := by
  have hend : Cursor.start.passAll text = ⟨1, text.length + 1⟩ := by
    rw [Cursor.passAll_of_not_mem hfeed, Cursor.start, Nat.add_comm]
  have hdone : Tiles (Cursor.start.passAll text) []
      [⟨[], [], tokenAt .endOfInput [] (Cursor.start.passAll text)⟩] := .done (by decide)
  have htiles : Tiles .start text [⟨[], text, tokenAt kind text .start⟩,
      ⟨[], [], tokenAt .endOfInput [] (Cursor.start.passAll text)⟩] := by
    have hmore := Tiles.more (by decide : Blank []) hreads hdone
    rwa [List.append_nil, List.nil_append] at hmore
  rw [tokenize_eq_ok_iff, String.toList_ofList]
  refine ⟨_, htiles, by simp [maxTokens], ?_⟩
  rw [hend]
  simp [aloneTokens, tokenAt, Cursor.start, Token.endOfInput]

theorem tokenize_headWord (hc : isIdentifierStart c) (h : HeadWord (c :: r) text) :
    tokenize (String.ofList text) =
      .ok (aloneTokens (.ofWord (String.ofList text)) (String.ofList text)) := by
  obtain rfl := (headWord_leadingWord (c :: r)).unique h
  obtain ⟨rest, -, hreads⟩ := reads_word hc r
  exact tokenize_of_reads hreads.cut h.lineFeed_not_mem

/-- Every spelling is the word at its own head. -/
theorem headWord_spelling {word : String} (h : word ∈ reservedWords ++ contextualWords) :
    ∃ c r, word.toList = c :: r ∧ isIdentifierStart c ∧ HeadWord (c :: r) word.toList := by
  have hall : (reservedWords ++ contextualWords).all fun w =>
      w.toList.head?.any isIdentifierStart && leadingWord w.toList == w.toList := by decide +kernel
  have hword := List.all_eq_true.mp hall word h
  rw [Bool.and_eq_true, beq_iff_eq] at hword
  obtain ⟨hstart, hlead⟩ := hword
  cases hchars : word.toList with
  | nil =>
    rw [hchars] at hstart
    cases hstart
  | cons c r =>
    rw [hchars] at hstart hlead
    have hc : isIdentifierStart c := by simpa using hstart
    have hhead := headWord_leadingWord (c :: r)
    rw [hlead] at hhead
    exact ⟨c, r, rfl, hc, hhead⟩

theorem tokenize_spelling {word : String} (h : word ∈ reservedWords ++ contextualWords) :
    tokenize word = .ok (aloneTokens (.ofWord word) word) := by
  obtain ⟨c, r, hchars, hstart, hword⟩ := headWord_spelling h
  have htokens := tokenize_headWord hstart hword
  rwa [String.ofList_toList] at htokens

end Lexeme

namespace Scanner

/-- How words are read, wherever they stand. -/
structure ReadsWords : Prop where
  answers : ∀ (s : Scanner) (gap : List Char) (c : Char) (r : List Char),
    s.rest = gap ++ c :: r → Blank gap → isIdentifierStart c → ∃ kind text,
      HeadWord (c :: r) text ∧ WordKind (String.ofList text) kind ∧
        s.next = (.ok (tokenAt kind text (s.position.passAll gap)),
          s.skip (gap.length + text.length))
  disjoint : ∀ k ∈ Keyword.all, ∀ k' ∈ ContextualKeyword.all, k.spelling ≠ k'.spelling
  alone : ∀ c r text, isIdentifierStart c → HeadWord (c :: r) text → ∃ kind,
    WordKind (String.ofList text) kind ∧
      tokenize (String.ofList text) = .ok (aloneTokens kind (String.ofList text))
  keyword_alone : ∀ k ∈ Keyword.all,
    tokenize k.spelling = .ok (aloneTokens .keyword k.spelling)
  contextual_alone : ∀ k ∈ ContextualKeyword.all,
    tokenize k.spelling = .ok (aloneTokens .contextualKeyword k.spelling)

/-- Before a character that starts an identifier a call never fails: it hands out the longest run,
or `non-sealed`, and its kind goes by the members of the two sets. -/
theorem next_reads_words : ReadsWords where
  answers s gap c r hs hgap hc := by
    refine ⟨_, leadingWord (c :: r), headWord_leadingWord (c :: r), wordKind_ofWord _, ?_⟩
    rw [next_of_read hs hgap (not_isWhitespace_of_isIdentifierStart hc), read_word hc,
      Lexeme.itemAt, Lexeme.length]
  disjoint := spelling_ne
  alone c r text hc h := ⟨_, wordKind_ofWord _, tokenize_headWord hc h⟩
  keyword_alone k hk := by
    have hreserved : isReserved k.spelling := isReserved_iff.mpr ⟨k, hk, rfl⟩
    have hkind := (wordKind_ofWord k.spelling).keyword_iff.mpr ⟨k, hk, rfl⟩
    rw [tokenize_spelling (List.mem_append_left _ (List.contains_iff_mem.mp hreserved)), hkind]
  contextual_alone k hk := by
    have hcontextual : isContextual k.spelling := isContextual_iff.mpr ⟨k, hk, rfl⟩
    have hkind := (wordKind_ofWord k.spelling).contextual_iff.mpr ⟨k, hk, rfl⟩
    rw [tokenize_spelling (List.mem_append_right _ (List.contains_iff_mem.mp hcontextual)), hkind]

/-- A digit behind the tail is no longer taken in, and an underscore alone is a keyword. -/
theorem next_reads_words_hyphen : ∃ s : Scanner,
    s.rest = [' '] ++ 'n' :: "on-sealed2".toList ∧
    s.next.1 = .ok ⟨.contextualKeyword, "non-sealed", 1, 2⟩ ∧
    (∃ kind text, HeadWord ('n' :: "on-sealed2".toList) text ∧
      WordKind (String.ofList text) kind ∧
        s.next = (.ok (tokenAt kind text (s.position.passAll [' '])), s.skip (1 + text.length))) ∧
    tokenize "_" = .ok (aloneTokens .keyword "_") := by
  refine ⟨ofSource " non-sealed2".toList, by decide, by decide +kernel, ?_, ?_⟩
  · exact next_reads_words.answers _ [' '] 'n' _ rfl (by decide) (by decide +kernel)
  · exact next_reads_words.keyword_alone .underscore (by decide)

end Scanner
end JavaLex.Scan
