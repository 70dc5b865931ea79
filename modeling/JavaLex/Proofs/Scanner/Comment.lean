import JavaLex.Proofs.Lexicon.LineEnd
import JavaLex.Proofs.Scanner.Classification

/-! # Comments as they are handed out

A call that stands before two slashes hands out the rest of the line and leaves the line feed. A
call that stands before a slash and a star hands out all that comes up to the end of the first
closer behind the star, and where no closer comes it fails at the opener and goes on to the end.
-/
namespace JavaLex.Scan
open Lexicon

namespace Lexeme
variable {body rest body' rest' r text slice : List Char} {kind : TokenKind}

/-- The body goes up to the first line feed, or to the end where there is none. -/
structure EndsLine (body rest r : List Char) : Prop where
  split : r = body ++ rest
  lineFeed_not_mem : '\n' ∉ body
  head_eq : ∀ c ∈ rest.head?, c = '\n'

/-- The body goes up to the first closer. -/
structure ClosesFirst (body rest r : List Char) : Prop where
  split : r = body ++ (commentCloser ++ rest)
  length_le : ∀ other rest', r = other ++ (commentCloser ++ rest') → body.length ≤ other.length

theorem ClosesFirst.unique (h : ClosesFirst body rest r) (h' : ClosesFirst body' rest' r) :
    body = body' ∧ rest = rest' := by
  have hlength : body.length = body'.length :=
    Nat.le_antisymm (h.length_le _ _ h'.split) (h'.length_le _ _ h.split)
  obtain ⟨hbody, htail⟩ := List.append_inj (h.split.symm.trans h'.split) hlength
  exact ⟨hbody, List.append_cancel_left htail⟩

/-- A closer that came earlier would end before the slash of this one, and so show in the body and
the star. -/
theorem closesFirst_of_not_infix (h : ¬ commentCloser <:+: body ++ ['*']) (rest : List Char) :
    ClosesFirst body rest (body ++ (commentCloser ++ rest)) where
  split := rfl
  length_le other rest' hother := by
    by_contra hlt
    have hstar : body ++ ['*'] <+: body ++ (commentCloser ++ rest) :=
      ⟨'/' :: rest, by simp [commentCloser]⟩
    have hearlier : other ++ commentCloser <+: body ++ (commentCloser ++ rest) := by
      rw [hother, ← List.append_assoc]
      exact List.prefix_append _ _
    have hlength : (other ++ commentCloser).length ≤ (body ++ ['*']).length := by
      simp only [List.length_append, commentCloser, List.length_cons, List.length_nil]
      omega
    have hcloser := List.prefix_of_prefix_length_le hearlier hstar hlength
    exact h ((List.suffix_append other commentCloser).isInfix.trans hcloser.isInfix)

theorem exists_closesFirst (h : commentCloser <:+: r) : ∃ body rest,
    r = body ++ (commentCloser ++ rest) ∧ ¬ commentCloser <:+: body ++ ['*'] := by
  have hsome : commentLength? 0 r ≠ none := mt commentLength?_eq_none_iff.mp (not_not.mpr h)
  obtain ⟨n, hn⟩ := Option.ne_none_iff_exists'.mp hsome
  obtain ⟨body, rest, hr, hbody, -⟩ := (finds_comment r n).mp hn
  exact ⟨body, rest, hr, hbody⟩

theorem read_of_comment? {c : Char} {lexeme : Lexeme} (h : comment? (c :: r) = some lexeme) :
    read c r = lexeme := by
  apply read_of_recognize
  rw [recognize?_eq, h, Option.some_or]

theorem Comment.reads (h : Comment kind text slice rest) : Reads kind text slice rest := by
  have hrecognize := (comment?_recognizes _ _ _ _).mpr ⟨slice, rest, rfl, rfl, h⟩
  cases h with
  | line => exact ⟨_, _, rfl, by decide, read_of_comment? hrecognize⟩
  | block => exact ⟨_, _, rfl, by decide, read_of_comment? hrecognize⟩

theorem read_unclosed_comment (h : ¬ commentCloser <:+: r) :
    read '/' ('*' :: r) = .failure .invalidComment (r.length + 2) := by
  apply read_of_comment?
  rw [comment?, closedComment?_opener, commentLength?_eq_none_iff.mpr h, Option.map_none]

end Lexeme

namespace Scanner
open Lexeme
variable {s : Scanner} {gap r : List Char}

/-- The call hands out the comment that stands past the gap and goes past exactly that. -/
structure HandsOutComment (s : Scanner) (gap : List Char) (kind : TokenKind)
    (comment rest : List Char) : Prop where
  next_eq : s.next = (.ok (tokenAt kind comment (s.position.passAll gap)),
    s.skip (gap.length + comment.length))
  rest_eq : s.next.2.rest = rest

/-- How a call comes out that stands before a comment past a gap. -/
structure DelimitsComments (s : Scanner) (gap : List Char) : Prop where
  line : ∀ r, s.rest = gap ++ '/' :: '/' :: r → ∃ body rest, EndsLine body rest r ∧
    HandsOutComment s gap .singleLineComment ('/' :: '/' :: body) rest
  block : ∀ r, s.rest = gap ++ '/' :: '*' :: r → commentCloser <:+: r → ∃ body rest,
    ClosesFirst body rest r ∧
      HandsOutComment s gap .multiLineComment ('/' :: '*' :: (body ++ commentCloser)) rest
  /-- The fault is told at the opener, and the call goes on to the end. -/
  unclosed : ∀ r, s.rest = gap ++ '/' :: '*' :: r → ¬ commentCloser <:+: r →
    s.next = (.error (.atToken .invalidComment (s.position.passAll gap).line
      (s.position.passAll gap).column), s.skip s.rest.length) ∧ s.next.2.rest = []
  unclosed_iff : ∀ r, s.rest = gap ++ '/' :: '*' :: r →
    (s.next.1.FailsWith .invalidComment ↔ ¬ commentCloser <:+: r)

section Comment
variable (hgap : Blank gap)
include hgap

theorem handsOut_of_comment {kind : TokenKind} {comment rest : List Char}
    (hs : s.rest = gap ++ (comment ++ rest)) (h : Comment kind comment comment rest) :
    HandsOutComment s gap kind comment rest where
  next_eq := next_of_reads hs hgap h.reads
  rest_eq := by
    rw [next_of_reads hs hgap h.reads]
    exact (skip_gap_slice hs).1

theorem handsOut_of_closed (hs : s.rest = gap ++ '/' :: '*' :: r) (h : commentCloser <:+: r) :
    ∃ body rest, ClosesFirst body rest r ∧
      HandsOutComment s gap .multiLineComment ('/' :: '*' :: (body ++ commentCloser)) rest := by
  obtain ⟨body, rest, rfl, hbody⟩ := exists_closesFirst h
  refine ⟨body, rest, closesFirst_of_not_infix hbody rest, ?_⟩
  exact handsOut_of_comment hgap (by simpa using hs) (.block hbody)

theorem next_of_unclosed_comment (hs : s.rest = gap ++ '/' :: '*' :: r)
    (h : ¬ commentCloser <:+: r) :
    s.next = (.error (.atToken .invalidComment (s.position.passAll gap).line
      (s.position.passAll gap).column), s.skip s.rest.length) := by
  have hlength : s.rest.length = gap.length + (r.length + 2) := by
    rw [hs, List.length_append, List.length_cons, List.length_cons]
  rw [hlength]
  exact next_of_failure hs hgap (by decide) (read_unclosed_comment h)

/-- Every comment is delimited by its line, or by the first closer behind its opener. -/
theorem next_delimits_comments : DelimitsComments s gap where
  line r hs := by
    obtain ⟨body, rest, rfl, hbody, hrest⟩ := Text.exists_line r
    exact ⟨body, rest, ⟨rfl, hbody, hrest⟩, handsOut_of_comment hgap hs (.line hbody hrest)⟩
  block r := handsOut_of_closed hgap
  unclosed r hs h := by
    have hnext := next_of_unclosed_comment hgap hs h
    refine ⟨hnext, ?_⟩
    rw [hnext, skip_rest, List.drop_length]
  unclosed_iff r hs := by
    by_cases h : commentCloser <:+: r
    · obtain ⟨body, rest, -, hout⟩ := handsOut_of_closed hgap hs h
      simp [hout.next_eq, h, Item.FailsWith]
    · simp [next_of_unclosed_comment hgap hs h, h, Item.FailsWith]

end Comment

/-- The star of the opener closes nothing, and of several stars the last one belongs to the
closer. -/
theorem next_delimits_comments_stars : ∃ s t : Scanner,
    s.rest = [' '] ++ '/' :: '*' :: "/é**/*/".toList ∧
      s.next.1 = .ok ⟨.multiLineComment, "/*/é**/", 1, 2⟩ ∧ s.next.2.rest = "*/".toList ∧
    t.rest = [] ++ '/' :: '*' :: ['/'] ∧
      t.next.1 = .error (.atToken .invalidComment 1 1) ∧ t.next.2.rest = [] := by
  have hs : (ofSource " /*/é**/*/".toList).rest = [' '] ++ '/' :: '*' :: "/é**/*/".toList := by
    decide
  have ht : (ofSource "/*/".toList).rest = [] ++ '/' :: '*' :: ['/'] := by decide
  have hfirst : ClosesFirst "/é*".toList "*/".toList "/é**/*/".toList :=
    closesFirst_of_not_infix (by decide) _
  obtain ⟨body, rest, hcloses, hout⟩ :=
    (next_delimits_comments (by decide)).block _ hs (by decide)
  obtain ⟨rfl, rfl⟩ := hcloses.unique hfirst
  obtain ⟨hfails, hend⟩ := (next_delimits_comments (by decide)).unclosed _ ht (by decide)
  refine ⟨_, _, hs, ?_, hout.rest_eq, ht, ?_, hend⟩
  · rw [hout.next_eq]
    decide
  · rw [hfails]
    decide

end Scanner
end JavaLex.Scan
