import JavaLex.Lexicon.Character
import Mathlib.Data.List.TakeWhile

/-! # Whitespace between lexemes

Whitespace continues no word, and no other lexeme that is open at its end holds any. What
stands after a lexeme is apart from it if it starts with whitespace or is empty: a run of
characters that hold no whitespace does not grow into it.
-/
namespace JavaLex.Lexicon

def Blank (s : List Char) : Prop :=
  ∀ c ∈ s, isWhitespace c

instance (s : List Char) : Decidable (Blank s) :=
  decidable_of_iff (s.all isWhitespace) List.all_eq_true

/-- Without whitespace. -/
def Solid (s : List Char) : Prop :=
  ∀ c ∈ s, isWhitespace c = false

instance (s : List Char) : Decidable (Solid s) :=
  decidable_of_iff (s.all fun c => !isWhitespace c) (by simp [Solid])

/-- Nothing, or whitespace first. -/
def Apart (s : List Char) : Prop :=
  ∀ c ∈ s.head?, isWhitespace c

theorem Blank.apart {s : List Char} (h : Blank s) : Apart s :=
  fun c hc => h c (List.mem_of_mem_head? hc)

/-- The code points of whitespace. -/
def blankPoints : List Nat :=
  List.range' 0x09 5 ++ List.range' 0x1C 5 ++ [0x1680] ++ List.range' 0x2000 7 ++
    List.range' 0x2008 3 ++ [0x2028, 0x2029, 0x205F, 0x3000]

theorem isWhitespace_iff {c : Char} : isWhitespace c ↔ c.toNat ∈ blankPoints := by
  simp [isWhitespace, within, blankPoints, List.mem_range'_1]
  omega

/-! ## What the property XID_Continue leaves out

The table is that of Unicode 17. The proofs about words rely on two things only that it says, and
that every version says: neither whitespace nor the hyphen continues an identifier.
-/

theorem not_xidContinue_of_isWhitespace {c : Char} (h : isWhitespace c) :
    Unicode.xidContinue.contains c = false := by
  have outside : ∀ n ∈ blankPoints, Unicode.xidContinue.contains (Char.ofNat n) = false := by
    decide +kernel
  simpa using outside c.toNat (isWhitespace_iff.mp h)

theorem not_xidContinue_hyphen : Unicode.xidContinue.contains '-' = false := by
  decide +kernel

theorem not_isIdentifierPart_of_isWhitespace {c : Char} (h : isWhitespace c) :
    isIdentifierPart c = false := by
  have outside : ∀ n ∈ blankPoints, (isIdentifierStart (Char.ofNat n) ||
      Unicode.numeric.contains (Char.ofNat n) || isIgnorable (Char.ofNat n)) = false := by
    decide +kernel
  have hother := outside c.toNat (isWhitespace_iff.mp h)
  rw [Char.ofNat_toNat] at hother
  rw [isIdentifierPart, hother, not_xidContinue_of_isWhitespace h, Bool.or_false]

theorem not_isIdentifierPart_hyphen : isIdentifierPart '-' = false := by
  have hother : (isIdentifierStart '-' || Unicode.numeric.contains '-' || isIgnorable '-') = false := by
    decide +kernel
  rw [isIdentifierPart, hother, not_xidContinue_hyphen, Bool.or_false]

theorem Solid.not_mem {s : List Char} (hs : Solid s) {c : Char} (h : isWhitespace c) : c ∉ s := by
  intro hmem
  simp [hs c hmem] at h

theorem takeWhile_eq_iff {p : Char → Bool} {s run : List Char} :
    s.takeWhile p = run ↔
      ∃ rest, s = run ++ rest ∧ (∀ c ∈ run, p c) ∧ ∀ c ∈ rest.head?, p c = false := by
  constructor
  · rintro rfl
    refine ⟨s.dropWhile p, by simp, fun c hc => List.mem_takeWhile_imp hc, ?_⟩
    intro c hc
    have hstop := List.head?_dropWhile_not p s
    rw [Option.mem_def.mp hc] at hstop
    exact hstop
  · rintro ⟨rest, rfl, hrun, hrest⟩
    have hstop : rest.takeWhile p = [] := by
      cases rest with
      | nil => rfl
      | cons c rest => simp [hrest c (by simp)]
    rw [List.takeWhile_append_of_pos hrun, hstop, List.append_nil]

/-- Every text is a gap and what comes after it. -/
theorem exists_gap (s : List Char) :
    ∃ gap tail, s = gap ++ tail ∧ Blank gap ∧ ∀ c ∈ tail.head?, isWhitespace c = false := by
  obtain ⟨tail, hs, hgap, htail⟩ :=
    takeWhile_eq_iff.mp (rfl : s.takeWhile isWhitespace = s.takeWhile isWhitespace)
  exact ⟨_, tail, hs, hgap, htail⟩

/-- A run stops where the next character does not belong to it. -/
theorem takeWhile_append_stop {p : Char → Bool} {s t : List Char} (h : ∀ c ∈ t.head?, p c = false) :
    (s ++ t).takeWhile p = s.takeWhile p := by
  obtain ⟨rest, hs, hrun, hrest⟩ := takeWhile_eq_iff.mp (rfl : s.takeWhile p = s.takeWhile p)
  rw [takeWhile_eq_iff]
  refine ⟨rest ++ t, by rw [← List.append_assoc, ← hs], hrun, ?_⟩
  cases rest with
  | nil => exact h
  | cons c rest => simpa using hrest

/-- A run that ends within a text is the run of that text. -/
theorem takeWhile_of_append {p : Char → Bool} {s t : List Char}
    (h : ((s ++ t).takeWhile p).length ≤ s.length) : (s ++ t).takeWhile p = s.takeWhile p := by
  rw [List.takeWhile_append] at h ⊢
  split
  case isFalse => rfl
  case isTrue hall =>
    rw [if_pos hall, List.length_append] at h
    have hnil : t.takeWhile p = [] := List.eq_nil_of_length_eq_zero (by omega)
    rw [hnil, List.append_nil]
    exact ((List.takeWhile_prefix p).eq_of_length hall).symm

theorem prefix_of_append_apart {z s t : List Char} (hz : Solid z) (ht : Apart t)
    (h : z <+: s ++ t) : z <+: s := by
  rcases List.prefix_or_prefix_of_prefix h (List.prefix_append s t) with hzs | ⟨u, rfl⟩
  · exact hzs
  · cases u with
    | nil => simp
    | cons c u =>
      -- The prefix would go on with the first character after `s`, which is whitespace.
      obtain ⟨rest, hrest⟩ := (List.prefix_append_right_inj s).mp h
      have hc : isWhitespace c := ht c (by simp [← hrest])
      simp [hz c (by simp)] at hc

end JavaLex.Lexicon
