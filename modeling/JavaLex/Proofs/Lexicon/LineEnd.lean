import JavaLex.Lexicon.TextBlock
import JavaLex.Proofs.Lexicon.Blank
import Mathlib.Data.List.Induction

/-! # Line ends

A text with a carriage return before each of its line feeds has the same lines, and the body of a
text block keeps the same of them. What holds no line feed is left alone.
-/
namespace JavaLex

namespace Text

/-- The text with a carriage return before each line feed. -/
def crlf (s : List Char) : List Char :=
  s.flatMap fun c => if c = '\n' then ['\r', '\n'] else [c]

@[simp] theorem crlf_nil : crlf [] = [] := rfl

@[simp] theorem crlf_lineFeed (s : List Char) : crlf ('\n' :: s) = '\r' :: '\n' :: crlf s := rfl

theorem crlf_cons {c : Char} (hc : c ≠ '\n') (s : List Char) : crlf (c :: s) = c :: crlf s := by
  simp [crlf, hc]

@[simp] theorem crlf_append (s t : List Char) : crlf (s ++ t) = crlf s ++ crlf t :=
  List.flatMap_append

theorem crlf_of_not_mem {s : List Char} (h : '\n' ∉ s) : crlf s = s := by
  induction s with
  | nil => rfl
  | cons c s ih =>
    rw [List.mem_cons, not_or] at h
    rw [crlf_cons (Ne.symm h.1), ih h.2]

theorem mem_crlf {c : Char} {s : List Char} (h : c ∈ crlf s) : c = '\r' ∨ c ∈ s := by
  obtain ⟨d, hd, hc⟩ := List.mem_flatMap.mp h
  by_cases hfeed : d = '\n'
  · subst hfeed
    rw [if_pos rfl, List.mem_cons, List.mem_singleton] at hc
    rcases hc with rfl | rfl
    · exact .inl rfl
    · exact .inr hd
  · rw [if_neg hfeed, List.mem_singleton] at hc
    exact .inr (hc ▸ hd)

/-- Every text is a line and what comes after it, which is nothing or starts with a line feed. -/
theorem exists_line (s : List Char) :
    ∃ line rest, s = line ++ rest ∧ '\n' ∉ line ∧ ∀ c ∈ rest.head?, c = '\n' := by
  by_cases h : '\n' ∈ s
  · obtain ⟨line, rest, hs, hline⟩ := List.eq_append_cons_of_mem h
    exact ⟨line, '\n' :: rest, hs, hline, by simp⟩
  · exact ⟨s, [], by simp, h, by simp⟩

/-- What holds no end of a line starts the one text if it starts the other. -/
theorem prefix_crlf_iff {z s : List Char} (hfeed : '\n' ∉ z) (hreturn : '\r' ∉ z) :
    z <+: crlf s ↔ z <+: s := by
  induction z generalizing s with
  | nil => simp
  | cons d z ih =>
    rw [List.mem_cons, not_or] at hfeed hreturn
    cases s with
    | nil => rfl
    | cons c s =>
      by_cases hc : c = '\n'
      · subst hc
        rw [crlf_lineFeed, List.cons_prefix_cons, List.cons_prefix_cons]
        simp [Ne.symm hfeed.1, Ne.symm hreturn.1]
      · rw [crlf_cons hc, List.cons_prefix_cons, List.cons_prefix_cons, ih hfeed.2 hreturn.2]

theorem prefix_cons_crlf_iff {c : Char} (hc : c ≠ '\n') {z s : List Char} (hfeed : '\n' ∉ z)
    (hreturn : '\r' ∉ z) : z <+: c :: crlf s ↔ z <+: c :: s := by
  rw [← crlf_cons hc]
  exact prefix_crlf_iff hfeed hreturn

theorem linesFrom_crlf {s : List Char} (h : '\r' ∉ s) (line : List Char)
    (done : Array (List Char)) : linesFrom line done (crlf s) = linesFrom line done s := by
  induction s generalizing line done with
  | nil => rfl
  | cons c s ih =>
    rw [List.mem_cons, not_or] at h
    by_cases hc : c = '\n'
    · subst hc
      exact ih h.2 [] (done.push line.reverse)
    · have hend : isTerminator c = false := by simp [isTerminator, hc, Ne.symm h.1]
      have hopen : c = '\r' → False := Ne.symm h.1
      rw [crlf_cons hc, linesFrom.eq_3 _ _ _ _ (fun _ hr _ => hopen hr),
        linesFrom.eq_3 _ _ _ _ (fun _ hr _ => hopen hr), hend]
      exact ih h.2 (c :: line) done

theorem lines_crlf {s : List Char} (h : '\r' ∉ s) : lines (crlf s) = lines s :=
  congrArg Array.toList (linesFrom_crlf h [] #[])

theorem getLast?_crlf (s : List Char) : (crlf s).getLast? = s.getLast? := by
  cases s using List.reverseRecOn with
  | nil => rfl
  | append_singleton s c =>
    by_cases hc : c = '\n'
    · subst hc
      simp
    · simp [crlf_cons hc]

end Text

namespace Lexicon
open Text

theorem stripIndent_crlf {body : List Char} (h : '\r' ∉ body) :
    stripIndent (crlf body) = stripIndent body := by
  have hend : endsInTerminator (crlf body) = endsInTerminator body := by
    rw [endsInTerminator, getLast?_crlf, endsInTerminator]
  rw [stripIndent, lines_crlf h, hend, stripIndent]

theorem Blank.crlf {s : List Char} (h : Blank s) : Blank (Text.crlf s) := by
  intro c hc
  rcases mem_crlf hc with rfl | hs
  · decide
  · exact h c hs

theorem ne_of_not_isWhitespace {c : Char} (h : isWhitespace c = false) : c ≠ '\n' ∧ c ≠ '\r' := by
  constructor
  · rintro rfl
    exact absurd h (by decide)
  · rintro rfl
    exact absurd h (by decide)

end Lexicon
end JavaLex
