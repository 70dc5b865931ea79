import JavaLex.Proofs.Lexeme.Context
import Mathlib.Data.List.Basic

/-! # Numbers

The first two characters settle what a number is made of. From there on it is a run of digits
and at most one suffix, none of them whitespace.
-/
namespace JavaLex.Scan.Lexeme
open Lexicon

section Number
variable {r : Radix} {c d : Char} {s t : List Char}

/-- No character of a number is whitespace. -/
def Radix.Solid (r : Radix) : Prop :=
  Lexicon.Solid r.digits ∧ Lexicon.Solid r.suffixes

def Radix.all : List Radix := [.binary, .hexadecimal, .octal, .decimal]

theorem radix?_mem_all (h : radix? s = some r) : r ∈ Radix.all := by
  fun_cases radix? s <;> simp_all [radix?, Radix.all]

theorem radix?_solid (h : radix? s = some r) : r.Solid := by
  have hall : ∀ r ∈ Radix.all, r.Solid := by
    simp only [Radix.all, List.forall_mem_cons, Radix.Solid]
    decide
  exact hall r (radix?_mem_all h)

theorem radix?_lead_le (h : radix? s = some r) : r.lead ≤ s.length := by
  fun_cases radix? s <;> simp_all [radix?] <;> subst h <;>
    simp [Radix.binary, Radix.decimal, Radix.hexadecimal, Radix.octal]

/-- The end of the run of digits. -/
def Radix.runLength (r : Radix) (s : List Char) : Nat :=
  r.lead + ((s.drop r.lead).takeWhile r.digits.contains).length

theorem Radix.length_eq (r : Radix) (s : List Char) : r.length s =
    if (s.drop (r.runLength s)).head?.any r.suffixes.contains then r.runLength s + 1
    else r.runLength s := rfl

theorem Radix.runLength_le_length (r : Radix) (s : List Char) : r.runLength s ≤ r.length s := by
  rw [Radix.length_eq]
  split <;> omega

theorem Radix.runLength_le (hlead : r.lead ≤ s.length) : r.runLength s ≤ s.length := by
  have hrun := (List.takeWhile_prefix r.digits.contains (l := s.drop r.lead)).length_le
  rw [List.length_drop] at hrun
  unfold Radix.runLength
  omega

theorem Radix.length_le (hlead : r.lead ≤ s.length) : r.length s ≤ s.length := by
  have hrun := Radix.runLength_le hlead
  rw [Radix.length_eq]
  split
  case isTrue hsuffix =>
    rcases hrun.lt_or_eq with hlt | heq
    · exact hlt
    · simp [heq] at hsuffix
  case isFalse => exact hrun

theorem Radix.length_append (hr : r.Solid) (hlead : r.lead ≤ s.length) (ht : Apart t) :
    r.length (s ++ t) = r.length s := by
  have hrun : r.runLength (s ++ t) = r.runLength s := by
    unfold Radix.runLength
    rw [List.drop_append_of_le_length hlead, takeWhile_append_stop]
    intro c hc
    simpa using hr.1.not_mem (ht c hc)
  have hsuffix : ((s ++ t).drop (r.runLength s)).head?.any r.suffixes.contains =
      (s.drop (r.runLength s)).head?.any r.suffixes.contains := by
    rw [List.drop_append_of_le_length (Radix.runLength_le hlead)]
    cases s.drop (r.runLength s) with
    | cons c s => simp
    | nil =>
      cases t with
      | nil => simp
      | cons c t => simpa using hr.2.not_mem (ht c (by simp))
  rw [Radix.length_eq, Radix.length_eq, hrun, hsuffix]

theorem Radix.length_of_append (hlead : r.lead ≤ s.length) (h : r.length (s ++ t) ≤ s.length) :
    r.length (s ++ t) = r.length s := by
  have hle := (r.runLength_le_length (s ++ t)).trans h
  have hrun : r.runLength (s ++ t) = r.runLength s := by
    unfold Radix.runLength at hle ⊢
    rw [List.drop_append_of_le_length hlead] at hle ⊢
    rw [takeWhile_of_append]
    rw [List.length_drop]
    omega
  rw [Radix.length_eq] at h
  rw [Radix.length_eq, Radix.length_eq, hrun]
  rw [hrun] at h hle
  rw [List.drop_append_of_le_length hle] at h ⊢
  cases hs : s.drop (r.runLength s) with
  | cons c s => simp
  | nil =>
    have : s.length ≤ r.runLength s := List.drop_eq_nil_iff.mp hs
    rw [hs, List.nil_append] at h
    split at h
    · omega
    · simp_all

theorem radix?_of_ne (hzero : c ≠ '0') (hdot : c ≠ '.') :
    radix? (c :: s) = if isDigit c then some .decimal else none := by
  rw [radix?.eq_3] <;> simp [hzero, hdot]

theorem radix?_single (c : Char) : radix? [c] = if isDigit c then some .decimal else none := by
  rw [radix?.eq_3] <;> simp

theorem radix?_dot (d : Char) (s : List Char) :
    radix? ('.' :: d :: s) = if isDigit d then some .decimal else none := rfl

/-- Two characters decide. -/
theorem radix?_cons_cons (c d : Char) (s : List Char) : radix? (c :: d :: s) = radix? [c, d] := by
  by_cases hzero : c = '0'
  · subst hzero
    rfl
  by_cases hdot : c = '.'
  · subst hdot
    rfl
  rw [radix?_of_ne hzero hdot, radix?_of_ne hzero hdot]

/-- What holds of ten code points holds of every digit. -/
theorem of_isDigit {P : Char → Prop} (hd : isDigit d)
    (h : ∀ n ∈ List.range' 48 10, P (Char.ofNat n)) : P d := by
  simp only [isDigit, Bool.and_eq_true, decide_eq_true_eq, Char.le_def,
    UInt32.le_iff_toNat_le] at hd
  have hpoint : d.toNat ∈ List.range' 48 10 :=
    List.mem_range'_1.mpr ⟨hd.1, Nat.lt_succ_of_le hd.2⟩
  simpa using h d.toNat hpoint

theorem mem_decimal_of_isDigit (hd : isDigit d) : d ∈ Radix.decimal.digits :=
  of_isDigit (P := (· ∈ Radix.decimal.digits)) hd (by decide)

theorem radix?_eq_decimal (hzero : c ≠ '0') (h : radix? (c :: s) = some r) :
    r = .decimal ∧ c ∈ Radix.decimal.digits := by
  by_cases hdot : c = '.'
  · subst hdot
    cases s with
    | nil => simp [radix?_single, isDigit] at h
    | cons d s =>
      rw [radix?_dot] at h
      split at h
      case isTrue => exact ⟨(Option.some.inj h).symm, by decide⟩
      case isFalse => simp at h
  · rw [radix?_of_ne hzero hdot] at h
    split at h
    case isTrue hc => exact ⟨(Option.some.inj h).symm, mem_decimal_of_isDigit hc⟩
    case isFalse => simp at h

theorem not_isDigit_of_isWhitespace (hd : isWhitespace d) : isDigit d = false := by
  have hsolid : Solid Radix.decimal.digits := by decide
  by_contra hdigit
  exact hsolid.not_mem hd (mem_decimal_of_isDigit (by simpa using hdigit))

theorem radix?_of_isWhitespace (hd : isWhitespace d) : radix? (c :: d :: s) = radix? [c] := by
  by_cases hzero : c = '0'
  · subst hzero
    have hsolid : Solid (['b', 'B', 'x', 'X'] ++ Radix.octal.digits) := by decide
    have hb := hsolid.not_mem hd
    simp only [List.mem_append, List.mem_cons, List.not_mem_nil, or_false, not_or] at hb
    simp [radix?, isDigit, hb]
  by_cases hdot : c = '.'
  · subst hdot
    rw [radix?_dot, radix?_single, not_isDigit_of_isWhitespace hd]
    rfl
  rw [radix?_of_ne hzero hdot, radix?_of_ne hzero hdot]

theorem radix?_eq_none_iff : radix? (c :: s) = none ↔
    isDigit c = false ∧ ¬ (c = '.' ∧ ∃ d ∈ s.head?, isDigit d) := by
  cases s with
  | nil => simp [radix?_single]
  | cons d s =>
    by_cases hzero : c = '0'
    · subst hzero
      simp [radix?, isDigit, ite_eq_iff]
    by_cases hdot : c = '.'
    · subst hdot
      simp [radix?_dot, isDigit]
    simp [radix?_of_ne hzero hdot, hdot]

/-- A number has a character at least: one of its leading ones or its first digit. -/
theorem radix?_length_pos (h : radix? s = some r) : 0 < r.length s := by
  have hfirst : 0 < r.lead ∨ ∃ c ∈ s.head?, c ∈ r.digits := by
    cases s with
    | nil => simp [radix?] at h
    | cons c s =>
      by_cases hzero : c = '0'
      · subst hzero
        have hall : ∀ r ∈ Radix.all, 0 < r.lead ∨ '0' ∈ r.digits := by
          simp only [Radix.all, List.forall_mem_cons]
          decide
        exact (hall r (radix?_mem_all h)).imp_right fun hc => ⟨'0', rfl, hc⟩
      · obtain ⟨rfl, hc⟩ := radix?_eq_decimal hzero h
        exact .inr ⟨c, rfl, hc⟩
  have hrun : 0 < r.runLength s := by
    unfold Radix.runLength
    rcases hfirst with hlead | ⟨c, hc, hdigit⟩
    · omega
    · obtain ⟨s, rfl⟩ := List.head?_eq_some_iff.mp hc
      cases hlead : r.lead with
      | zero => simp [hdigit]
      | succ n => omega
  exact hrun.trans_le (r.runLength_le_length s)

/-- The run of digits goes on over the second character if that is one of them. -/
theorem Radix.two_le_runLength (hlead : r.lead = 0) (hc : c ∈ r.digits) (hd : d ∈ r.digits) :
    2 ≤ r.runLength (c :: d :: s) := by
  simp [Radix.runLength, hlead, hc, hd]

/-- A number of one character is one without the characters after it. -/
theorem radix?_lone (h : radix? (c :: d :: s) = some r) (hlen : r.length (c :: d :: s) ≤ 1) :
    radix? [c] = some r := by
  have hrun : r.runLength (c :: d :: s) ≤ 1 := (r.runLength_le_length _).trans hlen
  have hlead : r.lead ≤ 1 := (Nat.le_add_right _ _).trans hrun
  by_cases hzero : c = '0'
  · subst hzero
    simp only [radix?] at h
    split at h
    case isTrue =>
      cases h
      exact absurd hlead (by decide)
    split at h
    case isTrue =>
      cases h
      exact absurd hlead (by decide)
    split at h
    case isTrue hd =>
      cases h
      have := Radix.two_le_runLength (s := s) (r := .octal) rfl (c := '0') (by decide)
        (by simpa using hd)
      omega
    exact h
  by_cases hdot : c = '.'
  · subst hdot
    rw [radix?_dot] at h
    split at h
    case isTrue hd =>
      cases h
      have := Radix.two_le_runLength (s := s) (r := .decimal) rfl (c := '.') (by decide)
        (mem_decimal_of_isDigit hd)
      omega
    case isFalse => simp at h
  rwa [radix?_of_ne hzero hdot] at h ⊢

theorem number?_contextual : Contextual number? where
  none_of_append h := by
    simp only [number?, Option.map_eq_none_iff, radix?_eq_none_iff] at h ⊢
    refine ⟨h.1, ?_⟩
    rintro ⟨hdot, d, hd, hdigit⟩
    exact h.2 ⟨hdot, d, List.mem_head?_append_of_mem_head? hd, hdigit⟩
  none_append {c s t} ht h := by
    simp only [number?, Option.map_eq_none_iff, radix?_eq_none_iff] at h ⊢
    refine ⟨h.1, ?_⟩
    rintro ⟨hdot, d, hd, hdigit⟩
    cases s with
    | nil => simp [not_isDigit_of_isWhitespace (ht d hd)] at hdigit
    | cons e s => exact h.2 ⟨hdot, d, hd, hdigit⟩
  token_of_append {c s t kind text n} hn h := by
    simp only [number?, Option.map_eq_some_iff, token.injEq] at h ⊢
    obtain ⟨r, hr, rfl, rfl, rfl⟩ := h
    have hr' : radix? (c :: s) = some r := by
      cases s with
      | cons d s => rwa [radix?_cons_cons, ← radix?_cons_cons c d (s ++ t)]
      | nil =>
        cases t with
        | nil => exact hr
        | cons d t => exact radix?_lone hr (by simpa using hn)
    have hlen : r.length (c :: (s ++ t)) = r.length (c :: s) :=
      Radix.length_of_append (radix?_lead_le hr') hn
    rw [hlen] at hn ⊢
    exact ⟨r, hr', rfl, (List.take_append_of_le_length hn).symm, rfl⟩
  token_append {c s t kind text n} ht h := by
    simp only [number?, Option.map_eq_some_iff, token.injEq] at h ⊢
    obtain ⟨r, hr, rfl, rfl, rfl⟩ := h
    have hr' : radix? (c :: (s ++ t)) = some r := by
      cases s with
      | cons d s => rwa [List.cons_append, radix?_cons_cons, ← radix?_cons_cons c d s]
      | nil =>
        cases t with
        | nil => exact hr
        | cons d t => rwa [List.nil_append, radix?_of_isWhitespace (ht.1 d (by simp))]
    have hlen : r.length (c :: (s ++ t)) = r.length (c :: s) :=
      Radix.length_append (radix?_solid hr) (radix?_lead_le hr) ht.1
    refine ⟨r, hr', rfl, ?_, hlen⟩
    rw [hlen]
    exact List.take_append_of_le_length (Radix.length_le (radix?_lead_le hr))

end Number
end JavaLex.Scan.Lexeme
