import JavaLex.Proofs.Lexeme.Body
import JavaLex.Proofs.Lexeme.Context

/-! # Comments

A line comment is its slashes and the rest of the line, a block comment its opener, a body and
the first closer after it.
-/
namespace JavaLex.Scan.Lexeme
open Lexicon

/-- A comment, by its kind, its text, the slice of the source that it covers and what is left of
the source after it. -/
inductive Comment : TokenKind → List Char → List Char → List Char → Prop where
  | line {body rest : List Char} : '\n' ∉ body → (∀ c ∈ rest.head?, c = '\n') →
      Comment .singleLineComment ('/' :: '/' :: body) ('/' :: '/' :: body) rest
  | block {body rest : List Char} : ¬ commentCloser <:+: body ++ ['*'] →
      Comment .multiLineComment ('/' :: '*' :: (body ++ commentCloser))
        ('/' :: '*' :: (body ++ commentCloser)) rest

theorem closedComment?_eq_some_iff {s text : List Char} :
    closedComment? ['*', '/'] s = some text ↔ ∃ body rest, s = body ++ (commentCloser ++ rest) ∧
      ¬ commentCloser <:+: body ++ ['*'] ∧ text = '/' :: '*' :: (body ++ commentCloser) := by
  rw [closedComment?_opener, Option.map_eq_some_iff]
  constructor
  · rintro ⟨n, hn, rfl⟩
    obtain ⟨body, rest, rfl, hbody, rfl⟩ := (finds_comment s n).mp hn
    exact ⟨body, rest, rfl, hbody, by rw [take_closed]⟩
  · rintro ⟨body, rest, rfl, hbody, rfl⟩
    exact ⟨_, (finds_comment _ _).mpr ⟨body, rest, rfl, hbody, rfl⟩, by rw [take_closed]⟩

theorem comment?_recognizes : Recognizes comment? Comment := by
  intro s kind text n
  constructor
  · intro h
    fun_cases comment? s with
    | case1 r =>
      simp only [comment?] at h
      cases h
      obtain ⟨rest, hr, hbody, hrest⟩ :=
        takeWhile_eq_iff.mp (rfl : r.takeWhile (· ≠ '\n') = r.takeWhile (· ≠ '\n'))
      refine ⟨_, rest, by rw [List.cons_append, List.cons_append, ← hr], rfl, ?_⟩
      refine .line ?_ (by simpa using hrest)
      intro hmem
      simpa using hbody _ hmem
    | case2 r closed hclosed =>
      simp only [comment?, hclosed] at h
      cases h
      obtain ⟨body, rest, rfl, hbody, rfl⟩ := closedComment?_eq_some_iff.mp hclosed
      exact ⟨_, rest, by simp, rfl, .block hbody⟩
    | case3 r hclosed => simp [comment?, hclosed] at h
    | case4 r hline hblock => simp [comment?] at h
  · rintro ⟨slice, rest, rfl, rfl, h⟩
    cases h with
    | @line body _ hbody hrest =>
      have hrun : (body ++ rest).takeWhile (· ≠ '\n') = body := by
        refine takeWhile_eq_iff.mpr ⟨rest, rfl, ?_, by simpa using hrest⟩
        intro c hc
        simpa using ne_of_mem_of_not_mem hc hbody
      simp only [List.cons_append, comment?, hrun, List.length_cons]
    | @block body _ hbody =>
      have hclosed := closedComment?_eq_some_iff.mpr
        ⟨body, rest, List.append_assoc _ _ _, hbody, rfl⟩
      simp only [List.cons_append, comment?, hclosed]

theorem comment?_eq_none_iff {s : List Char} :
    comment? s = none ↔ ¬ ['/', '/'] <+: s ∧ ¬ ['/', '*'] <+: s := by
  fun_cases comment? s with
  | case1 s => simp
  | case2 s n h => simp
  | case3 s h => simp
  | case4 s hline hblock =>
    simp only [true_iff]
    constructor
    · rintro ⟨t, rfl⟩
      exact hline t rfl
    · rintro ⟨t, rfl⟩
      exact hblock t rfl

section Standing
variable {kind : TokenKind} {text slice rest t : List Char}

theorem Comment.of_append (h : Comment kind text slice (rest ++ t)) :
    Comment kind text slice rest := by
  cases h with
  | line hbody hrest =>
    exact .line hbody fun c hc => hrest c (List.mem_head?_append_of_mem_head? hc)
  | block hbody => exact .block hbody

theorem Comment.append (ht : Follows kind slice.length (slice ++ rest).length t)
    (h : Comment kind text slice rest) : Comment kind text slice (rest ++ t) := by
  cases h with
  | line hbody hrest =>
    refine .line hbody ?_
    cases rest with
    | nil => exact ht.2 rfl (by simp)
    | cons c rest => exact hrest
  | block hbody => exact .block hbody

end Standing

theorem comment?_contextual : Contextual comment? where
  none_of_append {c s t} h := by
    rw [comment?_eq_none_iff] at h ⊢
    have hgrow (z : List Char) (hz : z <+: c :: s) : z <+: c :: (s ++ t) := hz.trans ⟨t, rfl⟩
    exact ⟨fun hz => h.1 (hgrow _ hz), fun hz => h.2 (hgrow _ hz)⟩
  none_append ht h := by
    rw [comment?_eq_none_iff] at h ⊢
    exact ⟨fun hz => h.1 (prefix_of_append_apart (by decide) ht hz),
      fun hz => h.2 (prefix_of_append_apart (by decide) ht hz)⟩
  token_of_append hn h := comment?_recognizes.token_of_append Comment.of_append hn h
  token_append ht h := comment?_recognizes.token_append Comment.append ht h

end JavaLex.Scan.Lexeme
