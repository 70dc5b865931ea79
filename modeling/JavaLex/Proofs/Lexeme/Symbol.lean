import JavaLex.Proofs.Lexeme.Context

/-! # Separators and operators

Both are spellings of a table that stand at the head of a text. None is longer than what is looked
at, so looking at the whole text would find the same. No spelling holds whitespace, so the longest
operator before a gap is the longest operator.
-/
namespace JavaLex.Scan.Lexeme
open Lexicon

section Separator
variable {c : Char} {s t z : List Char}

def ellipsis : List Char := ['.', '.', '.']

def doubleColon : List Char := [':', ':']

theorem leadingSeparator?_cons (c : Char) (s : List Char) : leadingSeparator? (c :: s) =
    if ellipsis <+: c :: s then some ellipsis
    else if doubleColon <+: c :: s then some doubleColon
    else if isSingleSeparator c then some [c] else none := by
  have hcompound : compoundSeparators = [ellipsis, doubleColon] := rfl
  rw [leadingSeparator?, hcompound]
  by_cases hdots : ellipsis <+: c :: s
  · rw [if_pos hdots, List.find?_cons_of_pos (by simpa using hdots)]
  rw [if_neg hdots, List.find?_cons_of_neg (by simpa using hdots)]
  by_cases hcolons : doubleColon <+: c :: s
  · rw [if_pos hcolons, List.find?_cons_of_pos (by simpa using hcolons)]
  rw [if_neg hcolons, List.find?_cons_of_neg (by simpa using hcolons)]
  rfl

theorem leadingSeparator?_take (s : List Char) :
    leadingSeparator? (s.take longestSeparator) = leadingSeparator? s := by
  cases s with
  | nil => rfl
  | cons c s =>
    have hwindow : (c :: s).take longestSeparator = c :: s.take 2 := rfl
    have hseen (z : List Char) (hz : z.length ≤ longestSeparator) :
        z <+: c :: s.take 2 ↔ z <+: c :: s := by
      rw [← hwindow, List.prefix_take_iff, and_iff_left hz]
    simp only [hwindow, leadingSeparator?_cons, hseen ellipsis (by decide),
      hseen doubleColon (by decide)]

theorem separator?_eq (s : List Char) : separator? s =
    (leadingSeparator? s).map fun separator => .token .separator separator separator.length := by
  rw [separator?, leadingSeparator?_take]

theorem leadingSeparator?_prefix (h : leadingSeparator? s = some z) : z ≠ [] ∧ z <+: s := by
  cases s with
  | nil => simp [leadingSeparator?, compoundSeparators] at h
  | cons c s =>
    rw [leadingSeparator?_cons] at h
    split at h
    case isTrue hdots =>
      cases h
      exact ⟨by decide, hdots⟩
    split at h
    case isTrue hcolons =>
      cases h
      exact ⟨by decide, hcolons⟩
    split at h
    case isTrue =>
      cases h
      exact ⟨by simp, s, rfl⟩
    case isFalse => simp at h

theorem leadingSeparator?_append (ht : Apart t) :
    leadingSeparator? (c :: (s ++ t)) = leadingSeparator? (c :: s) := by
  have hsame (z : List Char) (hz : Solid z) :
      z <+: c :: (s ++ t) ↔ z <+: c :: s :=
    ⟨prefix_of_append_apart (s := c :: s) hz ht, fun h => h.trans ⟨t, rfl⟩⟩
  simp only [leadingSeparator?_cons, hsame ellipsis (by decide), hsame doubleColon (by decide)]

theorem leadingSeparator?_of_append (hz : z.length ≤ (c :: s).length)
    (h : leadingSeparator? (c :: (s ++ t)) = some z) : leadingSeparator? (c :: s) = some z := by
  have hgrow (z : List Char) (h : z <+: c :: s) : z <+: c :: (s ++ t) := h.trans ⟨t, rfl⟩
  have hshort (z : List Char) (hz : z.length ≤ (c :: s).length) (h : z <+: c :: (s ++ t)) :
      z <+: c :: s := List.prefix_of_prefix_length_le h ⟨t, rfl⟩ hz
  rw [leadingSeparator?_cons] at h ⊢
  split at h
  case isTrue hdots =>
    cases h
    rw [if_pos (hshort _ hz hdots)]
  case isFalse hdots =>
    rw [if_neg (mt (hgrow _) hdots)]
    split at h
    case isTrue hcolons =>
      cases h
      rw [if_pos (hshort _ hz hcolons)]
    case isFalse hcolons => rwa [if_neg (mt (hgrow _) hcolons)]

theorem leadingSeparator?_none_of_append (h : leadingSeparator? (c :: (s ++ t)) = none) :
    leadingSeparator? (c :: s) = none := by
  have hgrow (z : List Char) (h : z <+: c :: s) : z <+: c :: (s ++ t) := h.trans ⟨t, rfl⟩
  rw [leadingSeparator?_cons] at h ⊢
  split at h
  case isTrue => simp at h
  case isFalse hdots =>
    split at h
    case isTrue => simp at h
    case isFalse hcolons => rwa [if_neg (mt (hgrow _) hdots), if_neg (mt (hgrow _) hcolons)]

theorem separator?_contextual : Contextual separator? where
  none_of_append h := by
    simp only [separator?_eq, Option.map_eq_none_iff] at h ⊢
    exact leadingSeparator?_none_of_append h
  none_append ht h := by
    rw [separator?_eq] at h ⊢
    rwa [leadingSeparator?_append ht]
  token_of_append hn h := by
    simp only [separator?_eq, Option.map_eq_some_iff, token.injEq] at h ⊢
    obtain ⟨z, hz, rfl, rfl, rfl⟩ := h
    exact ⟨z, leadingSeparator?_of_append hn hz, rfl, rfl, rfl⟩
  token_append ht h := by
    rw [separator?_eq] at h ⊢
    rwa [leadingSeparator?_append ht.1]

end Separator

section Operator
variable {taken s t : List Char} {c : Char}

theorem extendOperator_prefix (taken s : List Char) :
    ∃ run, extendOperator taken s = taken ++ run ∧ run <+: s := by
  fun_induction extendOperator taken s with
  | case1 taken => exact ⟨[], by simp⟩
  | case2 taken c s hop ih =>
    obtain ⟨run, hrun, hprefix⟩ := ih
    exact ⟨c :: run, by simp [hrun], List.cons_prefix_cons.mpr ⟨rfl, hprefix⟩⟩
  | case3 taken c s hop => exact ⟨[], by simp⟩

theorem extendOperator_mem (h : taken = [] ∨ taken ∈ operators) (s : List Char) :
    extendOperator taken s = [] ∨ extendOperator taken s ∈ operators := by
  fun_induction extendOperator taken s with
  | case1 taken => exact h
  | case2 taken c s hop ih => exact ih (.inr (isOperator_iff.mp hop))
  | case3 taken c s hop => exact h

theorem length_extendOperator_le (s : List Char) :
    (extendOperator [] s).length ≤ longestOperator := by
  have hall : ∀ op ∈ operators, op.length ≤ longestOperator := by decide +kernel
  rcases extendOperator_mem (.inl rfl) s with hnil | hop
  · rw [hnil]
    exact Nat.zero_le _
  · exact hall _ hop

theorem not_isOperator_of_isWhitespace (hc : isWhitespace c) :
    isOperator (taken ++ [c]) = false := by
  have hsolid : ∀ op ∈ operators, Solid op := by decide +kernel
  by_contra hop
  rw [Bool.not_eq_false, isOperator_iff] at hop
  simp [hsolid _ hop c (by simp)] at hc

theorem extendOperator_append (ht : Apart t) (taken s : List Char) :
    extendOperator taken (s ++ t) = extendOperator taken s := by
  induction s generalizing taken with
  | nil =>
    cases t with
    | nil => rfl
    | cons c t => simp [extendOperator, not_isOperator_of_isWhitespace (ht c (by simp))]
  | cons c s ih => simp only [List.cons_append, extendOperator, ih]

theorem extendOperator_of_append
    (h : (extendOperator taken (s ++ t)).length ≤ taken.length + s.length) :
    extendOperator taken (s ++ t) = extendOperator taken s := by
  induction s generalizing taken with
  | nil =>
    obtain ⟨run, hrun, -⟩ := extendOperator_prefix taken t
    rw [List.nil_append, hrun] at h ⊢
    have hnil : run = [] := by
      apply List.eq_nil_of_length_eq_zero
      simp only [List.length_append, List.length_nil] at h
      omega
    rw [hnil, List.append_nil, extendOperator]
  | cons c s ih =>
    simp only [List.cons_append, extendOperator] at h ⊢
    split at h
    case isTrue hop =>
      rw [if_pos hop, if_pos hop]
      exact ih (by simp at h ⊢; omega)
    case isFalse hop => rw [if_neg hop, if_neg hop]

theorem leadingOperator?_take (s : List Char) :
    leadingOperator? (s.take longestOperator) = leadingOperator? s := by
  have hprefix : (extendOperator [] s).length ≤ s.length := by
    obtain ⟨run, hrun, hle⟩ := extendOperator_prefix [] s
    rw [hrun]
    exact hle.length_le
  have hshort : (extendOperator [] (s.take longestOperator ++ s.drop longestOperator)).length ≤
      ([] : List Char).length + (s.take longestOperator).length := by
    have hle := length_extendOperator_le s
    rw [List.take_append_drop, List.length_take, List.length_nil]
    omega
  have hseen := extendOperator_of_append hshort
  rw [List.take_append_drop] at hseen
  rw [leadingOperator?, leadingOperator?, hseen]

theorem operator?_eq (s : List Char) : operator? s =
    (leadingOperator? s).map fun operator => .token .operator operator operator.length := by
  rw [operator?, leadingOperator?_take]

theorem leadingOperator?_eq_none_iff : leadingOperator? s = none ↔ extendOperator [] s = [] := by
  unfold leadingOperator?
  split <;> simp_all

theorem leadingOperator?_eq_some_iff {op : List Char} :
    leadingOperator? s = some op ↔ op ≠ [] ∧ extendOperator [] s = op := by
  unfold leadingOperator?
  split
  case h_1 hnil =>
    simp only [reduceCtorEq, hnil, false_iff, not_and]
    exact fun hop hempty => hop hempty.symm
  case h_2 op' hne =>
    simp only [Option.some.injEq, iff_and_self]
    rintro rfl
    exact hne

theorem operator?_contextual : Contextual operator? where
  none_of_append {c s t} h := by
    simp only [operator?_eq, Option.map_eq_none_iff, leadingOperator?_eq_none_iff] at h ⊢
    rw [← extendOperator_of_append (s := c :: s) (t := t) (by simp [h])]
    exact h
  none_append {c s t} ht h := by
    simp only [operator?_eq, Option.map_eq_none_iff, leadingOperator?_eq_none_iff] at h ⊢
    exact (extendOperator_append ht [] (c :: s)).trans h
  token_of_append {c s t kind text n} hn h := by
    simp only [operator?_eq, Option.map_eq_some_iff, leadingOperator?_eq_some_iff, token.injEq] at h ⊢
    obtain ⟨op, ⟨hne, hop⟩, rfl, rfl, rfl⟩ := h
    refine ⟨op, ⟨hne, ?_⟩, rfl, rfl, rfl⟩
    rw [← extendOperator_of_append (s := c :: s) (t := t) (by simpa [hop] using hn)]
    exact hop
  token_append {c s t kind text n} ht h := by
    simp only [operator?_eq, Option.map_eq_some_iff, leadingOperator?_eq_some_iff, token.injEq] at h ⊢
    obtain ⟨op, ⟨hne, hop⟩, rfl, rfl, rfl⟩ := h
    exact ⟨op, ⟨hne, (extendOperator_append ht.1 [] (c :: s)).trans hop⟩, rfl, rfl, rfl⟩

end Operator

end JavaLex.Scan.Lexeme
