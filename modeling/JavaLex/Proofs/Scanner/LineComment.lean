import JavaLex.Proofs.Scanner.Comment
import JavaLex.Proofs.Scanner.Failure
import JavaLex.Proofs.Scanner.LineEnd
import JavaLex.Proofs.Source.Lookup
import Mathlib.Data.List.Forall2

/-! # Line comments and their lines

A line comment is what its line has from the two slashes on. Nothing but a line feed ends a line, so
the text keeps a carriage return that stands before it. With carriage returns added to a source,
each line comment has one more character, but for one in the last line.
-/
namespace JavaLex

/-- The token, with a text that goes on. -/
def Token.addText (t : Token) (more : List Char) : Token :=
  { t with text := t.text ++ String.ofList more }

namespace Text
open Source LineIndex
variable {source line : List Char} {i : Nat}

theorem count_crlf (s : List Char) : (crlf s).count '\n' = s.count '\n' := by
  induction s with
  | nil => rfl
  | cons c s ih =>
    by_cases hc : c = '\n'
    · subst hc
      simp [ih]
    · rw [crlf_cons hc, List.count_cons_of_ne hc, List.count_cons_of_ne hc, ih]

/-- The carriage return that a line gets. The last line has no line feed for it to stand before. -/
def addedReturn (source : List Char) (i : Nat) : List Char :=
  if i + 1 < (pieces '\n' source).length then ['\r'] else []

theorem getElem?_pieces_crlf (h : (pieces '\n' source)[i]? = some line) :
    (pieces '\n' (crlf source))[i]? = some (line ++ addedReturn source i) := by
  obtain ⟨done, tail, rfl, hdone, rfl, hline, htail⟩ := exists_whole_of_piece h
  have hwhole : Whole (crlf done) := by rwa [Whole, getLast?_crlf]
  have hlength : (pieces '\n' (done ++ (line ++ tail))).length =
      done.count '\n' + tail.count '\n' + 1 := by
    rw [length_pieces, List.count_append, List.count_append, List.count_eq_zero_of_not_mem hline,
      Nat.zero_add]
  rw [addedReturn, hlength, crlf_append, crlf_append, crlf_of_not_mem hline, ← count_crlf done]
  cases tail with
  | nil =>
    rw [if_neg (by simp), List.append_nil]
    exact getElem?_pieces hwhole hline (by simp)
  | cons c tail =>
    obtain rfl : c = '\n' := htail c rfl
    have hreturn : '\n' ∉ line ++ ['\r'] := by simp [hline]
    rw [if_pos (by simp), crlf_lineFeed, List.append_cons]
    exact getElem?_pieces hwhole hreturn (by simp)

end Text

namespace Scan
open Lexicon Lexeme Source LineIndex Text

/-- The text of the token is what its line has behind so many characters. -/
structure EndsLineOf (source : List Char) (t : Token) (i : Nat) (before : List Char) : Prop where
  line_eq : t.line = i + 1
  column_eq : t.column = before.length + 1
  piece : (pieces '\n' source)[i]? = some (before ++ t.text.toList)

/-- Where a text without a line feed goes up to a line feed or to the end, it ends its line. -/
theorem endsLineOf_of_split {source before text rest : List Char} {t : Token}
    (hs : source = before ++ (text ++ rest)) (htext : '\n' ∉ text)
    (hrest : ∀ c ∈ rest.head?, c = '\n') (hchars : t.text.toList = text)
    (hplace : Cursor.Agrees ⟨t.line, t.column⟩ (Position.start.advanceAll before)) :
    ∃ i current, EndsLineOf source t i current := by
  obtain ⟨done, current, rfl, hdone, hcurrent⟩ := exists_whole_append before
  rw [Position.advanceAll_whole hdone hcurrent] at hplace
  refine ⟨done.count '\n', current, hplace.1, hplace.2, ?_⟩
  have hline : '\n' ∉ current ++ text := by simp [hcurrent, htext]
  rw [hs, hchars, List.append_assoc, ← List.append_assoc current]
  exact getElem?_pieces hdone hline hrest

namespace Scanner
variable {source : List Char} {s : Scanner} {t : Token}

theorem next_after_of_stream {item : Item} {n : Nat} (h : s.stream[n]? = some item) :
    (s.after n).next.1 = item := by
  induction n generalizing s with
  | zero =>
    rw [stream_eq, List.getElem?_cons_zero] at h
    exact Option.some.inj h
  | succ n ih =>
    rw [stream_eq, List.getElem?_cons_succ] at h
    split at h
    case isTrue => simp at h
    case isFalse =>
      rw [← after_next]
      exact ih h

/-- Only before two slashes is a line comment handed out. -/
theorem exists_slashes_of_next (h : s.next.1 = .ok t) (hkind : t.kind = .singleLineComment) :
    ∃ gap r, s.rest = gap ++ '/' :: '/' :: r ∧ Blank gap := by
  obtain ⟨gap, c, r, hs, hgap, hopens⟩ := exists_opens_of_next h (by simp [hkind])
  generalize t.kind = kind at hopens hkind
  cases hopens with
  | lineComment hslashes =>
    obtain ⟨rest, hrest⟩ := hslashes
    exact ⟨gap, rest, by rw [hs, ← hrest]; rfl, hgap⟩
  | word =>
    rcases TokenKind.ofWord_cases (String.ofList (leadingWord (c :: r))) with hk | hk | hk <;>
      simp [hk] at hkind
  | _ => cases hkind

theorem InStep.endsLineOf (hstep : s.InStep source) (h : s.next.1 = .ok t)
    (hkind : t.kind = .singleLineComment) :
    ['/', '/'] <+: t.text.toList ∧ ∃ i before, EndsLineOf source t i before := by
  obtain ⟨gap, r, hs, hgap⟩ := exists_slashes_of_next h hkind
  obtain ⟨body, rest, hends, hout⟩ := (next_delimits_comments hgap).line r hs
  rw [hout.next_eq] at h
  obtain rfl := Except.ok.inj h
  have hchars : (tokenAt .singleLineComment ('/' :: '/' :: body)
      (s.position.passAll gap)).text.toList = '/' :: '/' :: body := by simp [tokenAt]
  obtain ⟨before, hsource, hplace⟩ := hstep.split hs
  have hsplit : source = before ++ (('/' :: '/' :: body) ++ rest) := by
    rw [hsource, hends.split]
    rfl
  refine ⟨by simp [hchars], endsLineOf_of_split hsplit ?_ hends.head_eq hchars hplace⟩
  simp [hends.lineFeed_not_mem]

/-- A token of the source and the one that corresponds to it stand in the same place of their
lines. -/
theorem endsLineOf_added {t' : Token} {i i' : Nat} {before before' : List Char}
    (h : EndsLineOf source t i before) (h' : EndsLineOf (crlf source) t' i' before')
    (hline : t'.line = t.line) (hcolumn : t'.column = t.column) :
    t'.text.toList = t.text.toList ++ addedReturn source i := by
  obtain rfl : i' = i := by
    have hnumber := h.line_eq
    rw [← hline, h'.line_eq] at hnumber
    omega
  have hlength : before'.length = before.length := by
    have hnumber := h.column_eq
    rw [← hcolumn, h'.column_eq] at hnumber
    omega
  have hpiece := getElem?_pieces_crlf h.piece
  rw [h'.piece, List.append_assoc] at hpiece
  exact (List.append_inj (Option.some.inj hpiece) hlength).2

theorem stream_crlf_comment (hreturn : '\r' ∉ source) {n : Nat}
    (h : (ofSource source).stream[n]? = some (.ok t)) (hkind : t.kind = .singleLineComment) :
    ∃ i, t.line = i + 1 ∧ (ofSource (crlf source)).stream[n]? =
      some (.ok (t.addText (addedReturn source i))) := by
  have hstreams := stream_crlf hreturn
  obtain ⟨hn, hitem⟩ := List.getElem?_eq_some_iff.mp h
  have hn' : n < (ofSource (crlf source)).stream.length := hstreams.length_eq ▸ hn
  have hitems := hstreams.get hn hn'
  rw [List.get_eq_getElem, List.get_eq_getElem, hitem] at hitems
  have h' := List.getElem?_eq_getElem hn'
  generalize (ofSource (crlf source)).stream[n] = item' at hitems h'
  cases hitems with
  | @ok _ t' ht =>
    have hstep := (ofSource_inStep source).after n
    have hstep' := (ofSource_inStep (crlf source)).after n
    obtain ⟨-, i, before, hends⟩ := hstep.endsLineOf (next_after_of_stream h) hkind
    obtain ⟨-, i', before', hends'⟩ :=
      hstep'.endsLineOf (next_after_of_stream h') (ht.kind_eq.trans hkind)
    have htext := endsLineOf_added hends hends' ht.line_eq ht.column_eq
    have ht' : t' = t.addText (addedReturn source i) := by
      cases t'
      simp only [Token.addText, Token.mk.injEq]
      exact ⟨ht.kind_eq, String.toList_inj.mp (by simpa using htext), ht.line_eq, ht.column_eq⟩
    exact ⟨i, hends.line_eq, by rw [h', ht']⟩

/-- How the line comments of a source end. -/
structure EndsLineComments (source : List Char) : Prop where
  /-- The text has the last character of its line, also if that is a carriage return. -/
  text : ∀ (n : Nat) (t : Token), ((ofSource source).after n).next.1 = .ok t →
    t.kind = .singleLineComment → ['/', '/'] <+: t.text.toList ∧ ∃ i before,
      EndsLineOf source t i before ∧
        t.text.toList.getLast? = (before ++ t.text.toList).getLast?
  added : '\r' ∉ source → ∀ (n : Nat) (t : Token), (ofSource source).stream[n]? = some (.ok t) →
    t.kind = .singleLineComment → ∃ i, t.line = i + 1 ∧
      (ofSource (crlf source)).stream[n]? = some (.ok (t.addText (addedReturn source i)))

/-- Every line comment ends with its line, whatever that ends with. So in a source with carriage
returns added its text has one more, unless no other line comes after it. -/
theorem endsLineComments (source : List Char) : EndsLineComments source where
  text n t h hkind := by
    obtain ⟨hslashes, i, before, hends⟩ := ((ofSource_inStep source).after n).endsLineOf h hkind
    have hne : t.text.toList ≠ [] := hslashes.ne_nil (List.cons_ne_nil _ _)
    exact ⟨hslashes, i, before, hends, (List.getLast?_append_of_ne_nil before hne).symm⟩
  added hreturn n t := stream_crlf_comment hreturn

/-- The carriage return before the line feed is part of the text. -/
theorem lineComment_keeps_return :
    tokenize "// a\r\nb" = .ok [⟨.singleLineComment, "// a\r", 1, 1⟩, ⟨.identifier, "b", 2, 1⟩,
        ⟨.endOfInput, "", 2, 2⟩] ∧
      tokenize "// a\nb" = .ok [⟨.singleLineComment, "// a", 1, 1⟩, ⟨.identifier, "b", 2, 1⟩,
        ⟨.endOfInput, "", 2, 2⟩] ∧
      String.ofList (crlf "// a\nb".toList) = "// a\r\nb" := by
  decide +kernel

end Scanner
end Scan
end JavaLex
