import JavaLex.Proofs.Lexicon.Longest
import JavaLex.Proofs.Scanner.Classification

/-! # Operators and separators as they are handed out

The separators are asked first, then an operator is made longer for as long as it stays one. Nothing
is lost by either: whatever an operator starts with is an operator, so the one that cannot be made
longer is the longest, and no separator starts an operator. What is handed out is the longest
spelling of both tables that the whole text starts with.
-/
namespace JavaLex.Scan
open Lexicon Lexeme

namespace Lexeme
variable {c : Char} {s r w op z taken : List Char}

/-- All separators, the single ones among them. -/
def separators : List (List Char) :=
  compoundSeparators ++ singleSeparators.map ([·])

/-- The words of a table. -/
def listed (table : List (List Char)) : Language Char :=
  {w | w ∈ table}

theorem mem_separators_iff :
    z ∈ separators ↔ z = ellipsis ∨ z = doubleColon ∨ ∃ c ∈ singleSeparators, z = [c] := by
  have hcompound : compoundSeparators = [ellipsis, doubleColon] := rfl
  simp [separators, hcompound, eq_comm]

/-! ## The longest operator -/

theorem mem_operators_of_isPrefix (hop : op ∈ operators) (hw : w <+: op) (hne : w ≠ []) :
    w ∈ operators := by
  have hclosed : ∀ op ∈ operators, ∀ w ∈ op.inits, w = [] ∨ w ∈ operators := by decide +kernel
  exact (hclosed op hop w ((List.mem_inits w op).mpr hw)).resolve_left hne

/-- No operator at the head of the text is missed by going on one character at a time. -/
theorem length_le_extendOperator (hop : op ∈ operators) (htaken : taken <+: op)
    (hs : op <+: taken ++ s) : op.length ≤ (extendOperator taken s).length := by
  fun_induction extendOperator taken s with
  | case1 taken => simpa using hs.length_le
  | case2 taken c s _ ih =>
    rw [← List.singleton_append, ← List.append_assoc] at hs
    rcases List.prefix_or_prefix_of_prefix hs (List.prefix_append (taken ++ [c]) s) with
      hends | hgoes
    · obtain ⟨run, hrun, -⟩ := extendOperator_prefix (taken ++ [c]) s
      rw [hrun]
      exact (hends.trans (List.prefix_append _ _)).length_le
    · exact ih hgoes hs
  | case3 taken c s hstop =>
    by_contra hlonger
    -- The operator would go on through a prefix that is none.
    have hgoes : taken ++ [c] <+: op := by
      refine List.prefix_of_prefix_length_le ?_ hs (by simp; omega)
      exact (List.prefix_append_right_inj taken).mpr ⟨s, rfl⟩
    have hmem : taken ++ [c] ∈ operators := mem_operators_of_isPrefix hop hgoes (by simp)
    exact hstop (isOperator_iff.mpr hmem)

theorem longest_operator (h : leadingOperator? s = some op) : Longest (listed operators) s op := by
  obtain ⟨hne, rfl⟩ := leadingOperator?_eq_some_iff.mp h
  obtain ⟨run, hrun, hprefix⟩ := extendOperator_prefix [] s
  refine ⟨(extendOperator_mem (.inl rfl) s).resolve_left hne, ?_, ?_⟩
  · rwa [hrun, List.nil_append]
  · exact fun other hother hs => length_le_extendOperator hother List.nil_prefix hs

/-! ## The longest separator -/

theorem longest_separator (h : leadingSeparator? s = some z) :
    Longest (listed separators) s z := by
  cases s with
  | nil => simp [leadingSeparator?, compoundSeparators] at h
  | cons c s =>
    rw [leadingSeparator?_cons] at h
    split at h
    case isTrue hdots =>
      cases h
      refine ⟨mem_separators_iff.mpr (.inl rfl), hdots, fun other hother _ => ?_⟩
      rcases mem_separators_iff.mp hother with rfl | rfl | ⟨d, -, rfl⟩ <;> simp [ellipsis, doubleColon]
    split at h
    case isTrue hdots hcolons =>
      cases h
      refine ⟨mem_separators_iff.mpr (.inr (.inl rfl)), hcolons, fun other hother hs => ?_⟩
      rcases mem_separators_iff.mp hother with rfl | rfl | ⟨d, -, rfl⟩
      · exact absurd hs hdots
      · rfl
      · exact Nat.le_succ 1
    split at h
    case isTrue hdots hcolons hsingle =>
      cases h
      have hmem : [c] ∈ separators :=
        mem_separators_iff.mpr (.inr (.inr ⟨c, isSingleSeparator_iff.mp hsingle, rfl⟩))
      refine ⟨hmem, ⟨s, rfl⟩, fun other hother hs => ?_⟩
      rcases mem_separators_iff.mp hother with rfl | rfl | ⟨d, -, rfl⟩
      · exact absurd hs hdots
      · exact absurd hs hcolons
      · rfl
    case isFalse => cases h

theorem not_separator_of_none (h : separator? (c :: r) = none) (hz : z ∈ separators) :
    ¬ z <+: c :: r := by
  obtain ⟨hsingle, hcolons⟩ := separator?_eq_none_iff.mp h
  intro hs
  rcases mem_separators_iff.mp hz with rfl | rfl | ⟨d, hd, rfl⟩
  · obtain ⟨rfl, -⟩ := List.cons_prefix_cons.mp hs
    exact hsingle (by decide)
  · exact hcolons hs
  · obtain ⟨rfl, -⟩ := List.cons_prefix_cons.mp hs
    exact hsingle hd

/-! ## Both tables -/

theorem not_mem_operators_of_separator (hz : z ∈ separators) : z ∉ operators := by
  have hall : ∀ z ∈ separators, z ∉ operators := by decide +kernel
  exact hall z hz

/-- A separator that started an operator would be one. -/
theorem operator_prefix_separator (hop : op ∈ operators) (hz : z ∈ separators) (hops : op <+: s)
    (hzs : z <+: s) : op <+: z := by
  have hne : z ≠ [] := by
    rintro rfl
    exact absurd hz (by decide)
  rcases List.prefix_or_prefix_of_prefix hops hzs with h | h
  · exact h
  · exact absurd (mem_operators_of_isPrefix hop h hne) (not_mem_operators_of_separator hz)

/-- No spelling at the head of the text is longer, and the kind is that of the table that has it. -/
structure SpellsLongest (s : List Char) (kind : TokenKind) (text : List Char) : Prop where
  longest : Longest (listed (operators ++ separators)) s text
  separator_iff : kind = .separator ↔ text ∈ separators
  operator_iff : kind = .operator ↔ text ∈ operators

theorem spellsLongest_separator (h : leadingSeparator? s = some z) :
    SpellsLongest s .separator z := by
  have hlongest := longest_separator h
  have hz : z ∈ separators := hlongest.mem
  refine ⟨hlongest.widen (fun w hw => List.mem_append_right _ hw) ?_, by simp [hz],
    by simp [not_mem_operators_of_separator hz]⟩
  intro w hw hnot hs
  have hop : w ∈ operators := (List.mem_append.mp hw).resolve_right hnot
  exact (operator_prefix_separator hop hz hs hlongest.isPrefix).length_le

theorem spellsLongest_operator (hnone : separator? (c :: r) = none)
    (h : leadingOperator? (c :: r) = some op) : SpellsLongest (c :: r) .operator op := by
  have hlongest := longest_operator h
  have hop : op ∈ operators := hlongest.mem
  refine ⟨hlongest.widen (fun w hw => List.mem_append_left _ hw) ?_,
    by simp [mt not_mem_operators_of_separator (not_not.mpr hop)], by simp [hop]⟩
  intro w hw hnot hs
  exact absurd hs (not_separator_of_none hnone ((List.mem_append.mp hw).resolve_left hnot))

theorem mem_symbolHeads_iff : c ∈ symbolHeads ↔ StartsSymbol c := by
  rw [startsSymbol_iff, ← startsOperator_iff, symbolHeads, List.mem_append, List.mem_filterMap,
    or_comm, isSingleSeparator_iff]

theorem read_spellsLongest (hc : StartsSymbol c) (hline : ¬ ['/', '/'] <+: c :: r)
    (hblock : ¬ ['/', '*'] <+: c :: r) (hnumber : ¬ OpensNumber c r) :
    ∃ kind text, SpellsLongest (c :: r) kind text ∧ read c r = .token kind text text.length := by
  have hrecognize := recognize?_of_symbol (mem_symbolHeads_iff.mpr hc)
    (comment?_eq_none_iff.mpr ⟨hline, hblock⟩) hnumber
  cases hseparator : separator? (c :: r) with
  | some lexeme =>
    rw [hseparator, Option.some_or] at hrecognize
    rw [separator?_eq, Option.map_eq_some_iff] at hseparator
    obtain ⟨z, hz, rfl⟩ := hseparator
    exact ⟨.separator, z, spellsLongest_separator hz, read_of_recognize hrecognize⟩
  | none =>
    rw [hseparator, Option.none_or] at hrecognize
    have hoperator : operator? (c :: r) ≠ none := by
      rcases startsSymbol_iff.mp hc with hop | hsingle
      · simp [operator?_eq_none_iff, hop]
      · exact absurd (isSingleSeparator_iff.mp hsingle) (separator?_eq_none_iff.mp hseparator).1
    obtain ⟨lexeme, hlexeme⟩ := Option.ne_none_iff_exists'.mp hoperator
    rw [hlexeme] at hrecognize
    rw [operator?_eq, Option.map_eq_some_iff] at hlexeme
    obtain ⟨op, hop, rfl⟩ := hlexeme
    exact ⟨.operator, op, spellsLongest_operator hseparator hop, read_of_recognize hrecognize⟩

theorem StartsSymbol.not_isWhitespace (h : StartsSymbol c) : isWhitespace c = false := by
  have hall : symbolHeads.all fun m => !isWhitespace m := by decide +kernel
  simpa using List.all_eq_true.mp hall c (mem_symbolHeads_iff.mpr h)

end Lexeme

namespace Scanner
variable {s : Scanner} {gap r : List Char} {c : Char}

/-- A call that stands before a spelling hands out the longest and goes past it. -/
theorem next_spells_longest (hs : s.rest = gap ++ c :: r) (hgap : Blank gap) (hc : StartsSymbol c)
    (hline : ¬ ['/', '/'] <+: c :: r) (hblock : ¬ ['/', '*'] <+: c :: r)
    (hnumber : ¬ OpensNumber c r) : ∃ kind text, SpellsLongest (c :: r) kind text ∧
      s.next = (.ok (tokenAt kind text (s.position.passAll gap)),
        s.skip (gap.length + text.length)) := by
  obtain ⟨kind, text, hlongest, hread⟩ := read_spellsLongest hc hline hblock hnumber
  refine ⟨kind, text, hlongest, ?_⟩
  rw [next_of_read hs hgap hc.not_isWhitespace, hread]
  rfl

/-- Two colons are one separator, and a shift that assigns is one operator. -/
theorem next_spells_longest_colons : ∃ s t : Scanner,
    s.rest = [' '] ++ ':' :: [':', '='] ∧ s.next.1 = .ok ⟨.separator, "::", 1, 2⟩ ∧
    t.rest = [] ++ '>' :: ['>', '>', '=', '>'] ∧ t.next.1 = .ok ⟨.operator, ">>>=", 1, 1⟩ ∧
      (∃ kind text, SpellsLongest (':' :: [':', '=']) kind text ∧
        s.next = (.ok (tokenAt kind text (s.position.passAll [' '])), s.skip (1 + text.length))) ∧
      ∃ kind text, SpellsLongest ('>' :: ['>', '>', '=', '>']) kind text ∧
        t.next = (.ok (tokenAt kind text (t.position.passAll [])), t.skip (0 + text.length)) := by
  refine ⟨ofSource [' ', ':', ':', '='], ofSource ['>', '>', '>', '=', '>'], rfl,
    by decide +kernel, rfl, by decide +kernel, ?_, ?_⟩
  · exact next_spells_longest rfl (by decide) (startsSymbol_iff.mpr (by decide)) (by decide)
      (by decide) (by simp [OpensNumber, isDigit])
  · exact next_spells_longest rfl (by decide) (startsSymbol_iff.mpr (by decide)) (by decide)
      (by decide) (by simp [OpensNumber, isDigit])

end Scanner
end JavaLex.Scan
