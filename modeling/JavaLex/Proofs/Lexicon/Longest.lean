import JavaLex.Proofs.Lexicon.Blank
import Mathlib.Computability.Language

/-! # The longest prefix

A language need not have all prefixes of its words, so the longest prefix of a text that it has is
said without telling how it is found. A run of characters with one more from another set is found
by taking as many as there are, whatever the sets have in common.
-/
namespace JavaLex.Lexicon
open scoped Computability

/-- The words of one character, which is one of these. -/
def oneOf (cs : List Char) : Language Char :=
  {w | ∃ c ∈ cs, w = [c]}

/-- No prefix of `s` that is in the language is longer than the text. -/
structure Longest (L : Language Char) (s text : List Char) : Prop where
  mem : text ∈ L
  isPrefix : text <+: s
  length_le : ∀ other ∈ L, other <+: s → other.length ≤ text.length

variable {L M : Language Char} {s t w lead text text' digits suffixes : List Char} {c : Char}

theorem mem_kstar_oneOf : w ∈ (oneOf digits)∗ ↔ ∀ c ∈ w, c ∈ digits := by
  rw [Language.mem_kstar]
  constructor
  · rintro ⟨words, rfl, hwords⟩ c hc
    obtain ⟨word, hword, hmem⟩ := List.mem_flatten.mp hc
    obtain ⟨d, hd, rfl⟩ := hwords word hword
    rwa [List.mem_singleton.mp hmem]
  · intro h
    refine ⟨w.map ([·]), ?_, ?_⟩
    · induction w with
      | nil => rfl
      | cons c w ih => simpa using ih fun d hd => h d (List.mem_cons_of_mem c hd)
    · intro word hword
      obtain ⟨c, hc, rfl⟩ := List.mem_map.mp hword
      exact ⟨c, h c hc, rfl⟩

/-- With at most one suffix. -/
theorem mem_mul_suffix : w ∈ L * (1 + oneOf suffixes) ↔
    w ∈ L ∨ ∃ v ∈ L, ∃ c ∈ suffixes, w = v ++ [c] := by
  rw [mul_add, mul_one, Language.mem_add, Language.mem_mul]
  apply or_congr_right
  constructor
  · rintro ⟨v, hv, -, ⟨c, hc, rfl⟩, rfl⟩
    exact ⟨v, hv, c, hc, rfl⟩
  · rintro ⟨v, hv, c, hc, rfl⟩
    exact ⟨v, hv, [c], ⟨c, hc, rfl⟩, rfl⟩

namespace Longest

theorem prefix_of_mem (h : Longest L s text) (hw : w ∈ L) (hs : w <+: s) : w <+: text :=
  List.prefix_of_prefix_length_le hs h.isPrefix (h.length_le w hw hs)

theorem unique (h : Longest L s text) (h' : Longest L s text') : text = text' :=
  (h'.prefix_of_mem h.mem h.isPrefix).eq_of_length_le (h.length_le text' h'.mem h'.isPrefix)

/-- Words of another kind, if none of them at the head is longer. -/
theorem widen (hLM : ∀ w ∈ L, w ∈ M) (h : Longest L s text)
    (hle : ∀ w ∈ M, w ∉ L → w <+: s → w.length ≤ text.length) : Longest M s text where
  mem := hLM text h.mem
  isPrefix := h.isPrefix
  length_le w hw hs := by
    by_cases hL : w ∈ L
    · exact h.length_le w hL hs
    · exact hle w hw hL hs

/-- A word in front, if all words that can stand there are as long. -/
theorem append (hL : ∀ w ∈ L, w.length = lead.length) (hlead : lead ∈ L) (h : Longest M s text) :
    Longest (L * M) (lead ++ s) (lead ++ text) where
  mem := Language.append_mem_mul hlead h.mem
  isPrefix := (List.prefix_append_right_inj lead).mpr h.isPrefix
  length_le := by
    rintro _ ⟨v, hv, w, hw, rfl⟩ hprefix
    obtain ⟨rest, hrest⟩ := hprefix
    dsimp only at hrest ⊢
    rw [List.append_assoc] at hrest
    obtain ⟨rfl, rfl⟩ := List.append_inj hrest (hL v hv)
    have hle := h.length_le w hw (List.prefix_append w rest)
    simp only [List.length_append]
    omega

end Longest

/-! ## Greedy runs -/

/-- As many of the digits as there are, and a suffix if one follows. -/
def greedy (digits suffixes s : List Char) : List Char :=
  s.takeWhile digits.contains ++
    ((s.dropWhile digits.contains).take 1).filter suffixes.contains

theorem greedy_cons (hc : c ∈ digits) (suffixes s : List Char) :
    greedy digits suffixes (c :: s) = c :: greedy digits suffixes s := by
  simp [greedy, hc]

/-- A run of digits and what comes after it. -/
theorem exists_run (digits s : List Char) : ∃ run rest, s = run ++ rest ∧ run ∈ (oneOf digits)∗ ∧
    (∀ c ∈ rest.head?, c ∉ digits) ∧ ∀ suffixes,
      greedy digits suffixes s = run ++ (rest.take 1).filter suffixes.contains := by
  obtain ⟨rest, hs, hrun, hrest⟩ := takeWhile_eq_iff.mp
    (rfl : s.takeWhile digits.contains = s.takeWhile digits.contains)
  have hdrop : s.dropWhile digits.contains = rest :=
    List.append_cancel_left ((List.takeWhile_append_dropWhile).trans hs)
  refine ⟨_, rest, hs, mem_kstar_oneOf.mpr ?_, ?_, fun suffixes => by rw [greedy, hdrop]⟩
  · simpa using hrun
  · simpa using hrest

/-- Only which characters the sets hold matters, and of the suffixes only those that are no
digits. -/
theorem greedy_congr {digits' suffixes' : List Char} (hdigits : ∀ c, c ∈ digits ↔ c ∈ digits')
    (hsuffixes : ∀ c ∉ digits, c ∈ suffixes ↔ c ∈ suffixes') (s : List Char) :
    greedy digits suffixes s = greedy digits' suffixes' s := by
  have hcontains : digits.contains = digits'.contains := by
    funext c
    simp [hdigits]
  obtain ⟨run, rest, -, -, hrest, hgreedy⟩ := exists_run digits s
  calc greedy digits suffixes s
      = run ++ (rest.take 1).filter suffixes.contains := hgreedy suffixes
    _ = run ++ (rest.take 1).filter suffixes'.contains := by
        congr 1
        apply List.filter_congr
        intro c hc
        have hhead : c ∈ rest.head? := by
          cases rest <;> simp_all
        simp [hsuffixes c (hrest c hhead)]
    _ = greedy digits suffixes' s := (hgreedy suffixes').symm
    _ = greedy digits' suffixes' s := by rw [greedy, greedy, hcontains]

/-- No word of digits reaches past the run. -/
theorem prefix_run {run rest : List Char} (hw : w ∈ (oneOf digits)∗)
    (hrest : ∀ c ∈ rest.head?, c ∉ digits) (h : w <+: run ++ rest) : w <+: run := by
  rcases List.prefix_or_prefix_of_prefix h (List.prefix_append run rest) with hshort | ⟨u, rfl⟩
  · exact hshort
  · cases u with
    | nil => simp
    | cons c u =>
      obtain ⟨t, ht⟩ := (List.prefix_append_right_inj run).mp h
      exact absurd (mem_kstar_oneOf.mp hw c (by simp)) (hrest c (by simp [← ht]))

/-- Greedy is longest: no word of the language has more digits than the run, and one that has all
of them has no suffix that is not taken. -/
theorem longest_greedy (digits suffixes s : List Char) :
    Longest ((oneOf digits)∗ * (1 + oneOf suffixes)) s (greedy digits suffixes s) := by
  obtain ⟨run, rest, rfl, hrun, hrest, hgreedy⟩ := exists_run digits s
  rw [hgreedy]
  by_cases hsuffix : ∃ c r, rest = c :: r ∧ c ∈ suffixes
  · obtain ⟨c, r, rfl, hc⟩ := hsuffix
    have htext : ((c :: r).take 1).filter suffixes.contains = [c] := by simp [hc]
    rw [htext]
    refine ⟨mem_mul_suffix.mpr (.inr ⟨run, hrun, c, hc, rfl⟩), by simp, ?_⟩
    intro other hother hprefix
    rw [List.length_append, List.length_singleton]
    rcases mem_mul_suffix.mp hother with hword | ⟨v, hv, d, -, rfl⟩
    · have hle := (prefix_run hword hrest hprefix).length_le
      omega
    · have hle := (prefix_run hv hrest ((List.prefix_append v [d]).trans hprefix)).length_le
      rw [List.length_append, List.length_singleton]
      omega
  · have htext : (rest.take 1).filter suffixes.contains = [] := by
      cases rest with
      | nil => rfl
      | cons c r =>
        have hc : c ∉ suffixes := fun hc => hsuffix ⟨c, r, rfl, hc⟩
        simp [hc]
    rw [htext, List.append_nil]
    refine ⟨mem_mul_suffix.mpr (.inl hrun), List.prefix_append run rest, ?_⟩
    intro other hother hprefix
    rcases mem_mul_suffix.mp hother with hword | ⟨v, hv, d, hd, rfl⟩
    · exact (prefix_run hword hrest hprefix).length_le
    · have hvrun := prefix_run hv hrest ((List.prefix_append v [d]).trans hprefix)
      rcases hvrun.length_le.lt_or_eq with hlt | heq
      · rw [List.length_append, List.length_singleton]
        exact hlt
      · -- What follows the run would be the suffix.
        obtain rfl := hvrun.eq_of_length heq
        obtain ⟨r, rfl⟩ := (List.prefix_append_right_inj v).mp hprefix
        exact absurd ⟨d, r, rfl, hd⟩ hsuffix

end JavaLex.Lexicon
