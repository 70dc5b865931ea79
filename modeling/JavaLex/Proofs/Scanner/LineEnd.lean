import JavaLex.Proofs.Lexeme.LineEnd
import JavaLex.Proofs.Scanner.Composition

/-! # Scanning and line ends

A source with carriage returns before its line feeds gives the stream of the source without them.
The column that a carriage return takes is lost again at the line feed after it, so every token
stands where it stood, and a carriage return that a line comment takes along is whitespace for the
next call.
-/
namespace JavaLex

/-- The same token, but for the line ends in its text. -/
structure Token.Corresponds (t t' : Token) : Prop where
  kind_eq : t'.kind = t.kind
  line_eq : t'.line = t.line
  column_eq : t'.column = t.column
  text : Scan.Lexeme.SameText t.kind t.text.toList t'.text.toList

namespace Scan
open Lexicon Lexeme Text

/-- Corresponding tokens, or the same error. -/
inductive Item.Corresponds : Item → Item → Prop where
  | ok {t t' : Token} : t.Corresponds t' → Corresponds (.ok t) (.ok t')
  | error (e : LexicalError) : Corresponds (.error e) (.error e)

theorem Cursor.passAll_crlf (p : Cursor) (s : List Char) : p.passAll (crlf s) = p.passAll s := by
  induction s generalizing p with
  | nil => rfl
  | cons c s ih =>
    by_cases hc : c = '\n'
    · subst hc
      exact ih ⟨p.line + 1, 1⟩
    · rw [crlf_cons hc]
      exact ih (p.pass c)

theorem corresponds_tokenAt {kind : TokenKind} {text text' : List Char}
    (h : SameText kind text text') (p : Cursor) :
    Item.Corresponds (.ok (tokenAt kind text p)) (.ok (tokenAt kind text' p)) :=
  .ok ⟨rfl, rfl, rfl, by simpa [tokenAt] using h⟩

namespace Scanner

/-- The streams of two scanners at one cursor, of which the other stands before carriage returns. -/
theorem stream_corresponds {s s' : Scanner} (hrest : s'.rest = crlf s.rest)
    (hposition : s'.position = s.position) (hreturn : '\r' ∉ s.rest) :
    List.Forall₂ Item.Corresponds s.stream s'.stream := by
  induction hlen : s.rest.length using Nat.strong_induction_on generalizing s s' with
  | _ len ih =>
    subst hlen
    rcases rest_cases s.rest with hblank | ⟨gap, slice, rest, kind, text, hs, hgap, hreads⟩ |
      ⟨gap, c, r, fault, k, hs, hgap, hc, hread⟩
    · have hblank' : Blank s'.rest := hrest ▸ hblank.crlf
      have htext : SameText .endOfInput [] [] := by rfl
      rw [stream_of_blank hblank, stream_of_blank hblank', hposition, hrest, Cursor.passAll_crlf]
      exact .cons (corresponds_tokenAt htext _) .nil
    · rw [hs] at hreturn
      have hrest' : s'.rest = crlf gap ++ (crlf slice ++ crlf rest) := by
        rw [hrest, hs, crlf_append, crlf_append]
      obtain ⟨text', cut, left, htext, hcut, hleft, hreads'⟩ :=
        hreads.crlf fun hmem => hreturn (List.mem_append_right _ hmem)
      have hs' : s'.rest = crlf gap ++ (crlf slice ++ cut ++ left) := by
        rw [hrest', hleft, List.append_assoc]
      obtain ⟨hskip, hskipped⟩ := skip_gap_slice hs
      obtain ⟨hskip', hskipped'⟩ := skip_gap_slice hrest'
      -- What the longer lexeme takes along is whitespace that the next call would pass over.
      have hnext := stream_skip_blank (hskip'.trans hleft) hcut
      rw [stream_of_reads hs hgap hreads, stream_of_reads hs' hgap.crlf hreads',
        List.length_append, ← Nat.add_assoc, skip_add _ (_ + _), ← hnext, hposition,
        Cursor.passAll_crlf]
      refine .cons (corresponds_tokenAt htext _) (ih _ ?_ ?_ ?_ ?_ rfl)
      · have hpos := List.length_pos_of_ne_nil hreads.ne_nil
        rw [hskip, hs]
        simp
        omega
      · rw [hskip', hskip]
      · rw [hskipped', hskipped, hposition, ← crlf_append, Cursor.passAll_crlf]
      · rw [hskip]
        exact fun hmem => hreturn (by simp [hmem])
    · have hfeed := (ne_of_not_isWhitespace hc).1
      rw [hs] at hreturn
      obtain ⟨k', hread'⟩ := read_crlf_failure hfeed (fun hmem => hreturn (by simp [hmem])) hread
      have hs' : s'.rest = crlf gap ++ c :: crlf r := by
        rw [hrest, hs, crlf_append, crlf_cons hfeed]
      rw [stream_of_failure hs hgap hc hread, stream_of_failure hs' hgap.crlf hc hread', hposition,
        Cursor.passAll_crlf]
      exact .cons (.error _) .nil

/-- The line ends of a source do not show in its stream but for the texts that hold them: with a
carriage return before each line feed it gives as many items, the same kinds at the same places, and
the same error. -/
theorem stream_crlf {source : List Char} (h : '\r' ∉ source) :
    List.Forall₂ Item.Corresponds (ofSource source).stream (ofSource (crlf source)).stream :=
  stream_corresponds rfl rfl h

/-- A line comment, a text block, a string with an escaped line end and an error. -/
theorem stream_crlf_literals :
    ∃ source : List Char, source = "// c\n\"\"\"\n a\n\"\"\" \"x\\\ny\" #".toList ∧ '\r' ∉ source ∧
      List.Forall₂ Item.Corresponds (ofSource source).stream (ofSource (crlf source)).stream ∧
      (ofSource source).stream =
        [.ok ⟨.singleLineComment, "// c", 1, 1⟩, .ok ⟨.textBlock, " a\n", 2, 1⟩,
          .ok ⟨.string, "x\\\ny", 4, 5⟩, .error (.atToken (.unexpectedCharacter '#') 5 4)] ∧
      (ofSource (crlf source)).stream =
        [.ok ⟨.singleLineComment, "// c\r", 1, 1⟩, .ok ⟨.textBlock, " a\n", 2, 1⟩,
          .ok ⟨.string, "x\\\r\ny", 4, 5⟩, .error (.atToken (.unexpectedCharacter '#') 5 4)] := by
  refine ⟨_, rfl, by decide, stream_crlf (by decide), ?_, ?_⟩
  · decide +kernel
  · decide +kernel

end Scanner
end Scan
end JavaLex
