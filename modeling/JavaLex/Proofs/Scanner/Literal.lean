import JavaLex.Proofs.Lexeme.LineEnd
import JavaLex.Proofs.Scanner.Classification

/-! # Literals between delimiters

A call that stands before a quote answers to a grammar: the literal is read unit by unit up to the
first closer that stands at a unit, and so a run of backslashes or of quotes is taken apart from its
left. A text can be taken apart so in one way at most. If it can, the call hands out the literal and
goes past exactly that; if it cannot, the literal has no end, and the fault is told at its opener.
-/
namespace JavaLex.Scan
open Lexicon

namespace Lexeme
variable {quote : Char} {kind : TokenKind} {text rest r blank body tail : List Char}

/-! ## Strings and characters -/

/-- A backslash with any character after it, or a character that is neither the quote nor a
backslash. -/
def IsLiteralUnit (quote : Char) (u : List Char) : Prop :=
  (∃ c, u = ['\\', c]) ∨ ∃ c, c ≠ quote ∧ c ≠ '\\' ∧ u = [c]

def Quotable (quote : Char) (text : List Char) : Prop :=
  ∃ units : List (List Char), text = units.flatten ∧ ∀ u ∈ units, IsLiteralUnit quote u

theorem units_iff_quotable : Units [quote] text ↔ Quotable quote text := by
  constructor
  · intro h
    induction h with
    | nil => exact ⟨[], rfl, by simp⟩
    | @escape c _ _ ih =>
      obtain ⟨units, rfl, hunits⟩ := ih
      exact ⟨['\\', c] :: units, rfl, List.forall_mem_cons.mpr ⟨.inl ⟨c, rfl⟩, hunits⟩⟩
    | @plain c _ hslash hclose _ ih =>
      obtain ⟨units, rfl, hunits⟩ := ih
      have hquote : c ≠ quote := by
        rintro rfl
        exact hclose (by simp)
      exact ⟨[c] :: units, rfl,
        List.forall_mem_cons.mpr ⟨.inr ⟨c, hquote, hslash, rfl⟩, hunits⟩⟩
  · rintro ⟨units, rfl, hunits⟩
    induction units with
    | nil => exact .nil
    | cons u units ih =>
      obtain ⟨⟨c, rfl⟩ | ⟨c, hquote, hslash, rfl⟩, htail⟩ := List.forall_mem_cons.mp hunits
      · exact .escape (ih htail)
      · refine .plain hslash ?_ (ih htail)
        rw [List.singleton_prefix_cons_iff]
        exact hquote.symm

/-- The quote that a string or a character opens with, before `r`. Three double quotes open a text
block. -/
inductive OpensQuoted (r : List Char) : Char → TokenKind → Prop where
  | string : ¬ ['"', '"'] <+: r → OpensQuoted r '"' .string
  | character : OpensQuoted r '\'' .character

/-- After the opening quote there is the text, a closing quote and the rest. -/
structure Encloses (quote : Char) (text rest r : List Char) : Prop where
  split : r = text ++ quote :: rest
  quotable : Quotable quote text

theorem Encloses.unique (hquote : quote ≠ '\\') {text' rest' : List Char}
    (h : Encloses quote text rest r) (h' : Encloses quote text' rest' r) :
    text = text' ∧ rest = rest' :=
  (finds_quoted hquote).unique (units_iff_quotable.mpr h.quotable)
    (units_iff_quotable.mpr h'.quotable) (h.split.symm.trans h'.split)

theorem quoted_of_encloses (hquote : quote ≠ '\\') (h : Encloses quote text rest r) :
    quoted quote kind r = .token kind text (text.length + 2) := by
  have hlength := quotedLength?_of_units hquote (units_iff_quotable.mpr h.quotable) 0 rest
  rw [Nat.zero_add, ← h.split] at hlength
  simp only [quoted, hlength]
  rw [h.split, List.take_left]

theorem quoted_of_unclosed (h : ¬ ∃ text rest, Encloses quote text rest r) :
    quoted quote kind r = .failure .unexpectedEndOfInput (r.length + 1) := by
  unfold quoted
  cases hlength : quotedLength? quote 0 r with
  | none => rfl
  | some n =>
    obtain ⟨text, rest, hsplit, hunits, -⟩ := units_of_quotedLength? hlength
    exact absurd ⟨text, rest, hsplit, units_iff_quotable.mp hunits⟩ h

theorem Encloses.not_prefix (h : Encloses quote text rest r) (hne : text ≠ [])
    (hquote : quote ≠ '\\') : ¬ [quote] <+: r := by
  obtain ⟨c, text, rfl⟩ := List.exists_cons_of_ne_nil hne
  rw [h.split, List.cons_append, List.singleton_prefix_cons_iff]
  exact ((units_iff_quotable.mpr h.quotable).head_ne hquote).symm

namespace OpensQuoted
variable (h : OpensQuoted r quote kind)
include h

theorem ne_backslash : quote ≠ '\\' := by
  cases h <;> decide

theorem not_isWhitespace : isWhitespace quote = false := by
  cases h <;> decide

/-- Only an empty character is not read as far as its second quote. -/
theorem read_eq (hempty : kind = .character → ¬ [quote] <+: r) :
    read quote r = quoted quote kind r := by
  cases h with
  | string hopener =>
    exact read_of_recognize ((recognize?_doubleQuote r).trans (string?_quoted hopener))
  | character =>
    exact read_of_recognize ((recognize?_quote r).trans (character?_quoted (hempty rfl)))

end OpensQuoted

/-! ## Text blocks -/

/-- After the opening delimiter there is whitespace and a line feed, the body, a closing delimiter
and the rest. -/
structure IsBlock (blank body rest r : List Char) : Prop where
  split : r = blank ++ '\n' :: (body ++ (blockDelimiter ++ rest))
  blank : Opening blank
  units : Units blockDelimiter body

theorem Opening.unique {blank' tail' : List Char} (h : Opening blank) (h' : Opening blank')
    (heq : blank ++ '\n' :: tail = blank' ++ '\n' :: tail') : blank = blank' ∧ tail = tail' := by
  have hrun := takeWhile_opening h ('\n' :: tail) (by simp)
  rw [heq, takeWhile_opening h' ('\n' :: tail') (by simp)] at hrun
  subst hrun
  exact ⟨rfl, (List.cons.inj (List.append_cancel_left heq)).2⟩

theorem IsBlock.unique {blank' body' rest' : List Char} (h : IsBlock blank body rest r)
    (h' : IsBlock blank' body' rest' r) : blank = blank' ∧ body = body' ∧ rest = rest' := by
  obtain ⟨hblank, htail⟩ := h.blank.unique h'.blank (h.split.symm.trans h'.split)
  exact ⟨hblank, finds_block.unique h.units h'.units htail⟩

theorem read_textBlock (r : List Char) : read '"' ('"' :: '"' :: r) = textBlock r :=
  read_of_recognize (recognize?_doubleQuote _)

theorem textBlock_of_isBlock (h : IsBlock blank body rest r) :
    textBlock r = .token .textBlock (stripIndent body) (blank.length + body.length + 7) :=
  textBlock_eq_token_iff.mpr ⟨blank, body, rest, h.split, h.blank, h.units, rfl, rfl, rfl⟩

theorem blockLength?_eq_none (hblank : Opening blank)
    (h : ¬ ∃ body rest, IsBlock blank body rest (blank ++ '\n' :: tail)) :
    blockLength? 0 tail = none := by
  cases hlength : blockLength? 0 tail with
  | none => rfl
  | some n =>
    obtain ⟨body, rest, rfl, hunits, -⟩ := units_of_blockLength? hlength
    exact absurd ⟨body, rest, rfl, hblank, hunits⟩ h

end Lexeme

namespace Scanner
open Lexeme
variable {s : Scanner} {gap r : List Char} {quote : Char} {kind : TokenKind}

/-- How a call comes out that stands before `quote :: r` past a gap. -/
structure AnswersQuote (s : Scanner) (gap : List Char) (quote : Char) (kind : TokenKind)
    (r : List Char) : Prop where
  token_iff : ∀ text, (∃ t, s.next.1 = .ok t ∧ t.kind = kind ∧ t.text = String.ofList text) ↔
    ∃ rest, Encloses quote text rest r ∧ (kind = .character → text ≠ [])
  /-- The call goes past the gap, both quotes and the text between them. -/
  taken : ∀ text rest, Encloses quote text rest r → (kind = .character → text ≠ []) →
    s.next = (.ok (tokenAt kind text (s.position.passAll gap)),
      s.skip (gap ++ quote :: (text ++ [quote])).length) ∧ s.next.2.rest = rest
  unique : ∀ text rest text' rest', Encloses quote text rest r → Encloses quote text' rest' r →
    text = text' ∧ rest = rest'
  empty : kind = .character → [quote] <+: r → s.next.1 = .error (.atToken .emptyCharacterLiteral
    (s.position.passAll gap).line (s.position.passAll gap).column)
  unclosed : (¬ ∃ text rest, Encloses quote text rest r) →
    s.next.1 = .error (.atToken .unexpectedEndOfInput
      (s.position.passAll gap).line (s.position.passAll gap).column)

/-- How a call comes out that stands before three double quotes and `r` past a gap. -/
structure AnswersBlock (s : Scanner) (gap r : List Char) : Prop where
  token_iff : ∀ text,
    (∃ t, s.next.1 = .ok t ∧ t.kind = .textBlock ∧ t.text = String.ofList text) ↔
      ∃ blank body rest, IsBlock blank body rest r ∧ text = stripIndent body
  /-- The call goes past the gap, the opener with its line, the body and the closer. -/
  taken : ∀ blank body rest, IsBlock blank body rest r →
    s.next = (.ok (tokenAt .textBlock (stripIndent body) (s.position.passAll gap)),
      s.skip (gap ++ (blockDelimiter ++ (blank ++ '\n' :: (body ++ blockDelimiter)))).length) ∧
        s.next.2.rest = rest
  unique : ∀ blank body rest blank' body' rest', IsBlock blank body rest r →
    IsBlock blank' body' rest' r → blank = blank' ∧ body = body' ∧ rest = rest'
  unclosed : ∀ blank tail, Opening blank → r = blank ++ '\n' :: tail →
    (¬ ∃ body rest, IsBlock blank body rest r) →
      s.next.1 = .error (.atToken .unexpectedEndOfInput
        (s.position.passAll gap).line (s.position.passAll gap).column)

section Quote
variable (hs : s.rest = gap ++ quote :: r) (hgap : Blank gap) (hquote : OpensQuoted r quote kind)
include hs hgap hquote

theorem next_of_encloses {text rest : List Char} (h : Encloses quote text rest r)
    (hempty : kind = .character → text ≠ []) :
    s.next = (.ok (tokenAt kind text (s.position.passAll gap)),
      s.skip (gap ++ quote :: (text ++ [quote])).length) := by
  have hread : read quote r = .token kind text (text.length + 2) := by
    rw [hquote.read_eq fun hkind => h.not_prefix (hempty hkind) hquote.ne_backslash,
      quoted_of_encloses hquote.ne_backslash h]
  rw [next_of_read hs hgap hquote.not_isWhitespace, hread]
  simp [Lexeme.itemAt, Lexeme.length]

theorem next_of_empty (hkind : kind = .character) (h : [quote] <+: r) :
    s.next.1 = .error (.atToken .emptyCharacterLiteral
      (s.position.passAll gap).line (s.position.passAll gap).column) := by
  cases hquote with
  | string => cases hkind
  | character =>
    obtain ⟨rest, rfl⟩ := h
    have hread : read '\'' ('\'' :: rest) = .failure .emptyCharacterLiteral 2 :=
      read_of_recognize (recognize?_quote _)
    rw [next_of_read hs hgap (by decide), List.singleton_append, hread, Lexeme.itemAt]

theorem next_of_unclosed (h : ¬ ∃ text rest, Encloses quote text rest r) :
    s.next.1 = .error (.atToken .unexpectedEndOfInput
      (s.position.passAll gap).line (s.position.passAll gap).column) := by
  have hopen : ¬ [quote] <+: r := fun ⟨rest, hrest⟩ => h ⟨[], rest, hrest.symm, [], rfl, by simp⟩
  rw [next_of_read hs hgap hquote.not_isWhitespace, hquote.read_eq fun _ => hopen,
    quoted_of_unclosed h, Lexeme.itemAt]

/-- The text of a token of this kind is enclosed. -/
theorem exists_encloses {t : Token} (h : s.next.1 = .ok t) : ∃ text rest,
    t = tokenAt kind text (s.position.passAll gap) ∧ Encloses quote text rest r ∧
      (kind = .character → text ≠ []) := by
  by_cases hclosed : ∃ text rest, Encloses quote text rest r
  · obtain ⟨text, rest, hencloses⟩ := hclosed
    have hempty : kind = .character → text ≠ [] := by
      rintro hkind rfl
      rw [next_of_empty hs hgap hquote hkind ⟨rest, hencloses.split.symm⟩] at h
      cases h
    rw [next_of_encloses hs hgap hquote hencloses hempty] at h
    cases h
    exact ⟨text, rest, rfl, hencloses, hempty⟩
  · rw [next_of_unclosed hs hgap hquote hclosed] at h
    cases h

/-- A string or a character is handed out exactly if its quotes enclose units, and no two texts can
be enclosed. -/
theorem next_answers_quote : AnswersQuote s gap quote kind r where
  token_iff text := by
    constructor
    · rintro ⟨t, ht, -, htext⟩
      obtain ⟨text', rest, rfl, hencloses, hempty⟩ := exists_encloses hs hgap hquote ht
      obtain rfl : text' = text := String.ofList_injective htext
      exact ⟨rest, hencloses, hempty⟩
    · rintro ⟨rest, hencloses, hempty⟩
      exact ⟨_, by rw [next_of_encloses hs hgap hquote hencloses hempty], rfl, rfl⟩
  taken text rest h hempty := by
    have hnext := next_of_encloses hs hgap hquote h hempty
    refine ⟨hnext, ?_⟩
    rw [hnext, skip_rest, hs, h.split]
    simp
  unique _ _ _ _ h h' := h.unique hquote.ne_backslash h'
  empty := next_of_empty hs hgap hquote
  unclosed := next_of_unclosed hs hgap hquote

end Quote

/-- A string whose text ends in an escaped backslash, and a character that has no closing quote. -/
theorem next_answers_quote_escapes : ∃ s t : Scanner,
    s.rest = " ".toList ++ '"' :: "\\\\\"x".toList ∧ (∃ token, s.next.1 = .ok token ∧
      token.kind = .string ∧ token.text = "\\\\") ∧ s.next.2.rest = ['x'] ∧
    t.rest = [] ++ '\'' :: "\\'".toList ∧
      t.next.1 = .error (.atToken .unexpectedEndOfInput 1 1) := by
  have hs : (ofSource " \"\\\\\"x".toList).rest = " ".toList ++ '"' :: "\\\\\"x".toList := by decide
  have ht : (ofSource "'\\'".toList).rest = [] ++ '\'' :: "\\'".toList := by decide
  have hstring := next_answers_quote hs (by decide) (.string (by decide))
  have hcharacter := next_answers_quote ht (by decide) .character
  have hencloses : Encloses '"' "\\\\".toList ['x'] "\\\\\"x".toList :=
    ⟨by decide, [['\\', '\\']], by decide, by simp [IsLiteralUnit]⟩
  refine ⟨_, _, hs, (hstring.token_iff _).mpr ⟨_, hencloses, by simp⟩,
    (hstring.taken _ _ hencloses (by simp)).2, ht, hcharacter.unclosed ?_⟩
  rintro ⟨text, rest, hsplit, hquotable⟩
  have hlength := quotedLength?_of_units (by decide) (units_iff_quotable.mpr hquotable) 0 rest
  rw [← hsplit] at hlength
  cases hlength

section Block
variable (hs : s.rest = gap ++ (blockDelimiter ++ r)) (hgap : Blank gap)
include hs hgap

theorem next_of_textBlock : s.next = ((textBlock r).itemAt (s.position.passAll gap),
    s.skip (gap.length + (textBlock r).length)) := by
  rw [← read_textBlock]
  exact next_of_read hs hgap (by decide)

theorem next_of_isBlock {blank body rest : List Char} (h : IsBlock blank body rest r) :
    s.next = (.ok (tokenAt .textBlock (stripIndent body) (s.position.passAll gap)),
      s.skip (gap ++ (blockDelimiter ++ (blank ++ '\n' :: (body ++ blockDelimiter)))).length) := by
  have hlength : (gap ++ (blockDelimiter ++ (blank ++ '\n' :: (body ++ blockDelimiter)))).length =
      gap.length + (blank.length + body.length + 7) := by
    simp only [List.length_append, List.length_cons, blockDelimiter, List.length_nil]
    omega
  rw [hlength, next_of_textBlock hs hgap, textBlock_of_isBlock h, Lexeme.itemAt, Lexeme.length]

theorem next_of_unclosed_block {blank tail : List Char} (hblank : Opening blank)
    (hr : r = blank ++ '\n' :: tail) (h : ¬ ∃ body rest, IsBlock blank body rest r) :
    s.next.1 = .error (.atToken .unexpectedEndOfInput
      (s.position.passAll gap).line (s.position.passAll gap).column) := by
  subst hr
  rw [next_of_textBlock hs hgap, textBlock_of_unclosed hblank (blockLength?_eq_none hblank h),
    Lexeme.itemAt]

theorem exists_isBlock {t : Token} (h : s.next.1 = .ok t) : ∃ blank body rest,
    t = tokenAt .textBlock (stripIndent body) (s.position.passAll gap) ∧
      IsBlock blank body rest r := by
  obtain ⟨kind, text, n, hread, rfl⟩ := (next_eq_ok_iff hs hgap (by decide)).mp h
  obtain ⟨blank, body, rest, hsplit, hblank, hunits, rfl, rfl, -⟩ :=
    textBlock_eq_token_iff.mp ((read_textBlock r).symm.trans hread)
  exact ⟨blank, body, rest, rfl, hsplit, hblank, hunits⟩

/-- A text block is handed out exactly if there is a body of units between a well-formed opener and
a closer, and no two bodies can be there. -/
theorem next_answers_block : AnswersBlock s gap r where
  token_iff text := by
    constructor
    · rintro ⟨t, ht, -, htext⟩
      obtain ⟨blank, body, rest, rfl, hblock⟩ := exists_isBlock hs hgap ht
      exact ⟨blank, body, rest, hblock, (String.ofList_injective htext).symm⟩
    · rintro ⟨blank, body, rest, hblock, rfl⟩
      exact ⟨_, by rw [next_of_isBlock hs hgap hblock], rfl, rfl⟩
  taken blank body rest h := by
    have hnext := next_of_isBlock hs hgap h
    refine ⟨hnext, ?_⟩
    rw [hnext, skip_rest, hs, h.split]
    simp
  unique _ _ _ _ _ _ h h' := h.unique h'
  unclosed _ _ := next_of_unclosed_block hs hgap

end Block

/-- A body of two quotes and an escaped one before the closer, and a text that ends in an escaped
quote and two more. -/
theorem next_answers_block_quotes : ∃ s t : Scanner,
    s.rest = [] ++ (blockDelimiter ++ " \n\"\"\\\"\"\"\"x".toList) ∧
      (∃ token, s.next.1 = .ok token ∧ token.kind = .textBlock ∧ token.text = "\"\"\\\"") ∧
      s.next.2.rest = ['x'] ∧
    t.rest = "\n".toList ++ (blockDelimiter ++ "\n\\\"\"\"".toList) ∧
      t.next.1 = .error (.atToken .unexpectedEndOfInput 2 1) := by
  have hs : (ofSource "\"\"\" \n\"\"\\\"\"\"\"x".toList).rest =
      [] ++ (blockDelimiter ++ " \n\"\"\\\"\"\"\"x".toList) := by decide
  have ht : (ofSource "\n\"\"\"\n\\\"\"\"".toList).rest =
      "\n".toList ++ (blockDelimiter ++ "\n\\\"\"\"".toList) := by decide
  have hclosed := next_answers_block hs (by decide)
  have hunclosed := next_answers_block ht (by decide)
  have hblock : IsBlock [' '] "\"\"\\\"".toList ['x'] " \n\"\"\\\"\"\"\"x".toList :=
    ⟨by decide, by simp [Opening]; decide,
      .plain (by decide) (by decide) (.plain (by decide) (by decide) (.escape .nil))⟩
  refine ⟨_, _, hs, (hclosed.token_iff _).mpr ⟨_, _, _, hblock, by decide⟩,
    (hclosed.taken _ _ _ hblock).2, ht, hunclosed.unclosed [] _ (by simp [Opening]) rfl ?_⟩
  rintro ⟨body, rest, hsplit, -, hunits⟩
  have hlength := blockLength?_of_units hunits 0 rest
  rw [← (List.cons.inj hsplit).2] at hlength
  cases hlength

end Scanner
end JavaLex.Scan
