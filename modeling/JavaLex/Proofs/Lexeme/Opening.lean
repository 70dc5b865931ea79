import JavaLex.Proofs.Lexeme.Failing
import JavaLex.Proofs.Lexeme.Reading

/-! # What a lexeme opens with

Some recognizers share first characters: a slash opens comments and operators, a dot numbers and
separators, a colon a separator and an operator. The first three characters settle all the same
which recognizer answers, and no other would have: each opening leads to one kind of token. A
character that opens nothing is one that no word, number, quotation or spelling starts with.
-/
namespace JavaLex.Scan.Lexeme
open Lexicon

/-- A spelling of one of the tables starts with the character. -/
def StartsSymbol (c : Char) : Prop :=
  (∃ z ∈ operators ++ compoundSeparators, z.head? = some c) ∨ c ∈ singleSeparators

/-- No lexeme starts with the character. -/
def StartsNothing (c : Char) : Prop :=
  isIdentifierStart c = false ∧ isDigit c = false ∧ c ≠ '"' ∧ c ≠ '\'' ∧ ¬ StartsSymbol c

/-- A digit, or a dot before one. -/
def OpensNumber (c : Char) (s : List Char) : Prop :=
  isDigit c ∨ c = '.' ∧ ∃ d ∈ s.head?, isDigit d

/-- What `c :: s` opens with, and the kind of token that can start so. -/
inductive Opens (c : Char) (s : List Char) : TokenKind → Prop where
  | lineComment : ['/', '/'] <+: c :: s → Opens c s .singleLineComment
  | blockComment : ['/', '*'] <+: c :: s → Opens c s .multiLineComment
  | textBlock : blockDelimiter <+: c :: s → Opens c s .textBlock
  | string : c = '"' → ¬ blockDelimiter <+: c :: s → Opens c s .string
  | character : c = '\'' → Opens c s .character
  | number : OpensNumber c s → Opens c s .number
  | word : isIdentifierStart c → Opens c s (.ofWord (String.ofList (leadingWord (c :: s))))
  | separator : c ∈ singleSeparators ∨ doubleColon <+: c :: s → ¬ OpensNumber c s →
      Opens c s .separator
  | operator : (∃ op ∈ operators, op.head? = some c) → ¬ ['/', '/'] <+: c :: s →
      ¬ ['/', '*'] <+: c :: s → ¬ doubleColon <+: c :: s → Opens c s .operator

section Recognizer
variable {c : Char} {s : List Char}

/-! ## First characters -/

/-- The first characters of the spellings. -/
def symbolHeads : List Char :=
  singleSeparators ++ operators.filterMap List.head?

def marks : List Char :=
  '"' :: '\'' :: symbolHeads

theorem not_isIdentifierStart_of_mem_marks (h : c ∈ marks) : isIdentifierStart c = false := by
  have hall : marks.all fun m => !isIdentifierStart m := by decide +kernel
  simpa using List.all_eq_true.mp hall c h

theorem not_isDigit_of_mem_marks (h : c ∈ marks) : isDigit c = false := by
  have hall : marks.all fun m => !isDigit m := by decide +kernel
  simpa using List.all_eq_true.mp hall c h

theorem not_isIdentifierStart_of_isDigit (h : isDigit c) : isIdentifierStart c = false :=
  of_isDigit (P := (isIdentifierStart · = false)) h (by decide +kernel)

/-- Whoever starts an operator is one. -/
theorem startsOperator_iff : (∃ op ∈ operators, op.head? = some c) ↔ isOperator [c] := by
  constructor
  · rintro ⟨op, hop, hc⟩
    have hall : ∀ op ∈ operators, op.head?.all fun c => isOperator [c] := by decide +kernel
    simpa [hc] using hall op hop
  · intro h
    exact ⟨[c], isOperator_iff.mp h, rfl⟩

/-- The compound separators start like a single one or like an operator. -/
theorem startsSymbol_iff : StartsSymbol c ↔ isOperator [c] ∨ isSingleSeparator c := by
  have hcompound : ∀ z ∈ compoundSeparators,
      z.head?.all fun c => isOperator [c] || isSingleSeparator c := by decide +kernel
  unfold StartsSymbol
  constructor
  · rintro (⟨z, hz, hc⟩ | hc)
    · rcases List.mem_append.mp hz with hop | hsep
      · exact .inl (startsOperator_iff.mp ⟨z, hop, hc⟩)
      · simpa [hc] using hcompound z hsep
    · exact .inr (isSingleSeparator_iff.mpr hc)
  · rintro (hop | hsep)
    · obtain ⟨op, hmem, hc⟩ := startsOperator_iff.mpr hop
      exact .inl ⟨op, List.mem_append_left _ hmem, hc⟩
    · exact .inr (isSingleSeparator_iff.mp hsep)

/-! ## The recognizer that answers -/

theorem comment?_eq_none (h : c ≠ '/') : comment? (c :: s) = none := by
  rw [comment?_eq_none_iff, List.cons_prefix_cons, List.cons_prefix_cons]
  exact ⟨fun hs => h hs.1.symm, fun hs => h hs.1.symm⟩

theorem number?_eq_none_iff : number? (c :: s) = none ↔ ¬ OpensNumber c s := by
  rw [number?, Option.map_eq_none_iff, radix?_eq_none_iff, OpensNumber, not_or,
    Bool.not_eq_true]

theorem separator?_eq_none_iff :
    separator? (c :: s) = none ↔ c ∉ singleSeparators ∧ ¬ doubleColon <+: c :: s := by
  have hdots : ellipsis <+: c :: s → c ∈ singleSeparators := by
    intro h
    obtain ⟨rfl, -⟩ := List.cons_prefix_cons.mp h
    decide
  rw [separator?_eq, Option.map_eq_none_iff, leadingSeparator?_cons]
  by_cases hsingle : c ∈ singleSeparators
  · by_cases hellipsis : ellipsis <+: c :: s <;> by_cases hcolons : doubleColon <+: c :: s <;>
      simp [hellipsis, hcolons, hsingle, isSingleSeparator_iff]
  · by_cases hcolons : doubleColon <+: c :: s <;>
      simp [mt hdots hsingle, hcolons, hsingle, isSingleSeparator_iff]

theorem operator?_eq_none_iff : operator? (c :: s) = none ↔ isOperator [c] = false := by
  rw [operator?_eq, Option.map_eq_none_iff, leadingOperator?_eq_none_iff, extendOperator,
    List.nil_append]
  split
  case isTrue hop =>
    obtain ⟨run, hrun, -⟩ := extendOperator_prefix [c] s
    simp [hrun, hop]
  case isFalse hop => simpa using hop

theorem recognize?_eq (s : List Char) : recognize? s =
    (comment? s).or ((string? s).or ((character? s).or ((number? s).or ((word? s).or
      ((separator? s).or (operator? s)))))) := by
  simp only [recognize?, Option.orElse_eq_orElse, Option.orElse_eq_or]

theorem recognize?_eq_none_iff : recognize? (c :: s) = none ↔ StartsNothing c := by
  have hdot : c = '.' → c ∈ singleSeparators := by
    rintro rfl
    decide
  have hcolon : doubleColon <+: c :: s → isOperator [c] := by
    intro h
    obtain ⟨rfl, -⟩ := List.cons_prefix_cons.mp h
    decide
  have hslash : isOperator [c] = false → c ≠ '/' := by
    rintro h rfl
    revert h
    decide
  simp only [recognize?_eq, Option.or_eq_none_iff, string?_eq_none_iff, character?_eq_none_iff,
    number?_eq_none_iff, word?_eq_none_iff, separator?_eq_none_iff, operator?_eq_none_iff,
    StartsNothing, startsSymbol_iff, isSingleSeparator_iff, OpensNumber]
  constructor
  · rintro ⟨-, hstring, hquote, hnumber, hword, ⟨hseparator, -⟩, hoperator⟩
    refine ⟨hword, ?_, hstring, hquote, ?_⟩
    · simpa using mt Or.inl hnumber
    · simp [hoperator, hseparator]
  · rintro ⟨hword, hdigit, hstring, hquote, hsymbol⟩
    rw [not_or, Bool.not_eq_true] at hsymbol
    refine ⟨comment?_eq_none (hslash hsymbol.1), hstring, hquote, ?_, hword, ⟨hsymbol.2, ?_⟩,
      hsymbol.1⟩
    · rintro (hc | ⟨hc, -⟩)
      · simp [hdigit] at hc
      · exact hsymbol.2 (hdot hc)
    · intro h
      simp [hcolon h] at hsymbol

/-- A recognizer that applies is asked no further. -/
theorem or_of_ne_none {o o' : Option Lexeme} (h : o ≠ none) : o.or o' = o :=
  Option.or_of_isSome (Option.isSome_iff_ne_none.mpr h)

theorem recognize?_doubleQuote (s : List Char) : recognize? ('"' :: s) = string? ('"' :: s) := by
  rw [recognize?_eq, comment?_eq_none (by decide), Option.none_or,
    or_of_ne_none (mt string?_eq_none_iff.mp (not_not.mpr rfl))]

theorem recognize?_quote (s : List Char) : recognize? ('\'' :: s) = character? ('\'' :: s) := by
  rw [recognize?_eq, comment?_eq_none (by decide), string?_eq_none_iff.mpr (by decide),
    Option.none_or, Option.none_or,
    or_of_ne_none (mt character?_eq_none_iff.mp (not_not.mpr rfl))]

/-! ## The kind that an opening leads to -/

/-- Some recognizer answers, and if that is a token it is of this kind. -/
def Decides (c : Char) (s : List Char) (kind : TokenKind) : Prop :=
  recognize? (c :: s) ≠ none ∧
    ∀ k text n, recognize? (c :: s) = some (.token k text n) → k = kind

/-- The recognizer that answers makes tokens of one kind. -/
theorem Decides.of_eq {lexeme? : Option Lexeme} {kind : TokenKind}
    (heq : recognize? (c :: s) = lexeme?) (hne : lexeme? ≠ none)
    (hkind : ∀ k text n, lexeme? = some (.token k text n) → k = kind) : Decides c s kind := by
  rw [Decides, heq]
  exact ⟨hne, hkind⟩

theorem decides_lineComment (h : ['/', '/'] <+: c :: s) : Decides c s .singleLineComment := by
  have hne : comment? (c :: s) ≠ none := fun hnone => (comment?_eq_none_iff.mp hnone).1 h
  refine .of_eq ((recognize?_eq _).trans (or_of_ne_none hne)) hne fun k text n hk => ?_
  obtain ⟨r, hr⟩ := h
  rw [← hr] at hk
  cases hk
  rfl

theorem decides_blockComment (h : ['/', '*'] <+: c :: s) : Decides c s .multiLineComment := by
  have hne : comment? (c :: s) ≠ none := fun hnone => (comment?_eq_none_iff.mp hnone).2 h
  refine .of_eq ((recognize?_eq _).trans (or_of_ne_none hne)) hne fun k text n hk => ?_
  obtain ⟨r, hr⟩ := h
  obtain ⟨slice, rest, hs, -, hstands⟩ := (comment?_recognizes _ _ _ _).mp hk
  rw [← hr] at hs
  cases hstands with
  | line => simp at hs
  | block => rfl

theorem decides_textBlock (h : blockDelimiter <+: c :: s) : Decides c s .textBlock := by
  obtain ⟨r, hr⟩ := h
  obtain ⟨rfl, rfl⟩ := List.cons.inj hr
  refine .of_eq (recognize?_doubleQuote _) (Option.some_ne_none (textBlock r)) fun k text n hk => ?_
  obtain ⟨-, -, -, -, -, -, hkind, -⟩ := textBlock_eq_token_iff.mp (Option.some.inj hk)
  exact hkind

theorem decides_string (h : ¬ blockDelimiter <+: '"' :: s) : Decides '"' s .string := by
  refine .of_eq (recognize?_doubleQuote s) (mt string?_eq_none_iff.mp (not_not.mpr rfl))
    fun k text n hk => ?_
  obtain ⟨slice, rest, hs, -, hstands⟩ := (string?_recognizes _ _ _ _).mp hk
  cases hstands with
  | quoted => rfl
  | block =>
    rw [hs, List.append_assoc] at h
    exact absurd (List.prefix_append _ _) h

theorem decides_character (s : List Char) : Decides '\'' s .character := by
  refine .of_eq (recognize?_quote s) (mt character?_eq_none_iff.mp (not_not.mpr rfl))
    fun k text n hk => ?_
  obtain ⟨slice, rest, -, -, hstands⟩ := (character?_recognizes _ _ _ _).mp hk
  cases hstands
  rfl

/-- Neither a comment nor a quotation starts with the character. -/
theorem recognize?_of_unquoted (hslash : comment? (c :: s) = none) (hstring : c ≠ '"')
    (hquote : c ≠ '\'') :
    recognize? (c :: s) = (number? (c :: s)).or
      ((word? (c :: s)).or ((separator? (c :: s)).or (operator? (c :: s)))) := by
  rw [recognize?_eq, hslash, string?_eq_none_iff.mpr hstring, character?_eq_none_iff.mpr hquote]
  simp only [Option.none_or]

theorem recognize?_of_number (h : OpensNumber c s) : recognize? (c :: s) = number? (c :: s) := by
  have hfirst : c ≠ '/' ∧ c ≠ '"' ∧ c ≠ '\'' := by
    refine ⟨?_, ?_, ?_⟩ <;> rintro rfl <;> exact absurd h (by simp [OpensNumber, isDigit])
  have hne : number? (c :: s) ≠ none := mt number?_eq_none_iff.mp (not_not.mpr h)
  rw [recognize?_of_unquoted (comment?_eq_none hfirst.1) hfirst.2.1 hfirst.2.2,
    or_of_ne_none hne]

theorem decides_number (h : OpensNumber c s) : Decides c s .number := by
  refine .of_eq (recognize?_of_number h) (mt number?_eq_none_iff.mp (not_not.mpr h))
    fun k text n hk => ?_
  simp only [number?, Option.map_eq_some_iff, token.injEq] at hk
  obtain ⟨r, -, hkind, -⟩ := hk
  exact hkind.symm

theorem ne_of_mem_marks {m : Char} (hm : m ∈ marks) (h : isIdentifierStart c) : c ≠ m := by
  rintro rfl
  rw [not_isIdentifierStart_of_mem_marks hm] at h
  cases h

theorem recognize?_of_word (h : isIdentifierStart c) : recognize? (c :: s) = word? (c :: s) := by
  have hnumber : ¬ OpensNumber c s := by
    rintro (hdigit | ⟨hdot, -⟩)
    · rw [not_isIdentifierStart_of_isDigit hdigit] at h
      cases h
    · exact ne_of_mem_marks (by decide) h hdot
  have hne : word? (c :: s) ≠ none := by simp [word?_eq_none_iff, h]
  rw [recognize?_of_unquoted (comment?_eq_none (ne_of_mem_marks (by decide) h))
    (ne_of_mem_marks (by decide) h) (ne_of_mem_marks (by decide) h),
    number?_eq_none_iff.mpr hnumber, Option.none_or, or_of_ne_none hne]

theorem decides_word (h : isIdentifierStart c) :
    Decides c s (.ofWord (String.ofList (leadingWord (c :: s)))) := by
  refine .of_eq (recognize?_of_word h) (by simp [word?_eq_none_iff, h]) fun k text n hk => ?_
  rw [word?_cons, if_pos h, Option.some.injEq, token.injEq] at hk
  exact hk.1.symm

/-- A spelling starts with no letter, digit or quote. -/
theorem recognize?_of_symbol (hc : c ∈ symbolHeads) (hcomment : comment? (c :: s) = none)
    (hnumber : ¬ OpensNumber c s) :
    recognize? (c :: s) = (separator? (c :: s)).or (operator? (c :: s)) := by
  have hquotes : '"' ∉ symbolHeads ∧ '\'' ∉ symbolHeads := by decide
  have hword : isIdentifierStart c = false :=
    not_isIdentifierStart_of_mem_marks (List.mem_cons_of_mem _ (List.mem_cons_of_mem _ hc))
  rw [recognize?_of_unquoted hcomment (ne_of_mem_of_not_mem hc hquotes.1)
    (ne_of_mem_of_not_mem hc hquotes.2), number?_eq_none_iff.mpr hnumber,
    word?_eq_none_iff.mpr hword]
  rfl

theorem decides_separator (h : c ∈ singleSeparators ∨ doubleColon <+: c :: s)
    (hnumber : ¬ OpensNumber c s) : Decides c s .separator := by
  have hmem : c ∈ ':' :: singleSeparators := by
    rcases h with hc | hcolons
    · exact List.mem_cons_of_mem _ hc
    · exact (List.cons_prefix_cons.mp hcolons).1 ▸ List.mem_cons_self
  have hslash : '/' ∉ ':' :: singleSeparators := by decide
  have hheads : (':' :: singleSeparators).all symbolHeads.contains := by decide +kernel
  have hne : separator? (c :: s) ≠ none := by
    rw [Ne, separator?_eq_none_iff, not_and_or, not_not, not_not]
    exact h
  refine .of_eq ((recognize?_of_symbol (by simpa using List.all_eq_true.mp hheads c hmem)
    (comment?_eq_none (ne_of_mem_of_not_mem hmem hslash)) hnumber).trans (or_of_ne_none hne)) hne
    fun k text n hk => ?_
  simp only [separator?, Option.map_eq_some_iff, token.injEq] at hk
  obtain ⟨z, -, hkind, -⟩ := hk
  exact hkind.symm

theorem decides_operator (h : ∃ op ∈ operators, op.head? = some c)
    (hline : ¬ ['/', '/'] <+: c :: s) (hblock : ¬ ['/', '*'] <+: c :: s)
    (hcolons : ¬ doubleColon <+: c :: s) : Decides c s .operator := by
  obtain ⟨op, hop, hc⟩ := h
  have hmem : c ∈ operators.filterMap List.head? := List.mem_filterMap.mpr ⟨op, hop, hc⟩
  have hsingle : (operators.filterMap List.head?).all fun m => !singleSeparators.contains m := by
    decide +kernel
  have hnotSingle : c ∉ singleSeparators := by simpa using List.all_eq_true.mp hsingle c hmem
  have hmark : c ∈ symbolHeads := List.mem_append_right _ hmem
  have hnumber : ¬ OpensNumber c s := by
    rintro (hdigit | ⟨hdot, -⟩)
    · rw [not_isDigit_of_mem_marks (List.mem_cons_of_mem _ (List.mem_cons_of_mem _ hmark))]
        at hdigit
      cases hdigit
    · subst hdot
      exact hnotSingle (by decide)
  have hne : operator? (c :: s) ≠ none := by
    simp [operator?_eq_none_iff, startsOperator_iff.mp ⟨op, hop, hc⟩]
  have hseparator : separator? (c :: s) = none := separator?_eq_none_iff.mpr ⟨hnotSingle, hcolons⟩
  have heq : recognize? (c :: s) = operator? (c :: s) := by
    rw [recognize?_of_symbol hmark (comment?_eq_none_iff.mpr ⟨hline, hblock⟩) hnumber, hseparator,
      Option.none_or]
  refine .of_eq heq hne fun k text n hk => ?_
  simp only [operator?, Option.map_eq_some_iff, token.injEq] at hk
  obtain ⟨z, -, hkind, -⟩ := hk
  exact hkind.symm

theorem Opens.decides {kind : TokenKind} (h : Opens c s kind) : Decides c s kind := by
  cases h with
  | lineComment hs => exact decides_lineComment hs
  | blockComment hs => exact decides_blockComment hs
  | textBlock hs => exact decides_textBlock hs
  | string hc hs =>
    subst hc
    exact decides_string hs
  | character hc =>
    subst hc
    exact decides_character s
  | number hs => exact decides_number hs
  | word hc => exact decides_word hc
  | separator hs hnumber => exact decides_separator hs hnumber
  | operator hc hline hblock hcolons => exact decides_operator hc hline hblock hcolons

/-- What does not open a lexeme is one of the characters that nothing starts with. -/
theorem exists_opens (h : ¬ StartsNothing c) : ∃ kind, Opens c s kind := by
  by_cases hline : ['/', '/'] <+: c :: s
  · exact ⟨_, .lineComment hline⟩
  by_cases hblock : ['/', '*'] <+: c :: s
  · exact ⟨_, .blockComment hblock⟩
  by_cases hdelimiter : blockDelimiter <+: c :: s
  · exact ⟨_, .textBlock hdelimiter⟩
  by_cases hstring : c = '"'
  · exact ⟨_, .string hstring hdelimiter⟩
  by_cases hquote : c = '\''
  · exact ⟨_, .character hquote⟩
  by_cases hnumber : OpensNumber c s
  · exact ⟨_, .number hnumber⟩
  by_cases hword : isIdentifierStart c
  · exact ⟨_, .word hword⟩
  by_cases hseparator : c ∈ singleSeparators ∨ doubleColon <+: c :: s
  · exact ⟨_, .separator hseparator hnumber⟩
  rw [not_or] at hseparator
  refine ⟨_, .operator ?_ hline hblock hseparator.2⟩
  by_contra hoperator
  have hsymbol : ¬ StartsSymbol c := by
    rw [startsSymbol_iff, ← startsOperator_iff, isSingleSeparator_iff, not_or]
    exact ⟨hoperator, hseparator.1⟩
  have hdigit : isDigit c = false := by
    rw [OpensNumber, not_or] at hnumber
    simpa using hnumber.1
  exact h ⟨by simpa using hword, hdigit, hstring, hquote, hsymbol⟩

/-- The opening decides on the kind of the token that is read. -/
theorem kind_eq_iff {kind kind' : TokenKind} {text : List Char} {n : Nat}
    (h : read c s = .token kind text n) : kind = kind' ↔ Opens c s kind' := by
  have hrecognize := read_eq_token_iff.mp h
  have hsome : recognize? (c :: s) ≠ none := by simp [hrecognize]
  obtain ⟨opening, hopens⟩ := exists_opens (s := s) (mt recognize?_eq_none_iff.mpr hsome)
  constructor
  · rintro rfl
    rwa [hopens.decides.2 kind text n hrecognize]
  · intro hopens'
    exact hopens'.decides.2 kind text n hrecognize

end Recognizer
end JavaLex.Scan.Lexeme
