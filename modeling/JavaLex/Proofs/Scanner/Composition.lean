import JavaLex.Proofs.Scanner.Tiling

/-! # Scanning one text after another

A line feed cuts a source in two. No lexeme looks past it, so what comes before it reads as it
does alone, and a scanner that has come to it knows nothing of the past but its cursor: what
comes after reads as it does alone, only so many lines further down.
-/
namespace JavaLex

/-- The same token, `n` lines further down. -/
def Token.down (n : Nat) (t : Token) : Token :=
  { t with line := t.line + n }

namespace Scan
open Lexicon Lexeme

/-- The same cursor, `n` lines further down. -/
def Cursor.down (n : Nat) (p : Cursor) : Cursor :=
  ⟨p.line + n, p.column⟩

theorem Cursor.pass_down (n : Nat) (p : Cursor) (c : Char) :
    (p.down n).pass c = (p.pass c).down n := by
  unfold Cursor.pass Cursor.down
  split
  · exact congrArg (Cursor.mk · 1) (Nat.add_right_comm _ _ _)
  · rfl

theorem Cursor.passAll_down (n : Nat) (p : Cursor) (s : List Char) :
    (p.down n).passAll s = (p.passAll s).down n := by
  induction s generalizing p with
  | nil => rfl
  | cons c s ih =>
    change ((p.down n).pass c).passAll s = _
    rw [Cursor.pass_down, ih]
    rfl

def LexicalError.down (n : Nat) : LexicalError → LexicalError
  | .atToken fault line column => .atToken fault (line + n) column
  | .unreadable path reason => .unreadable path reason

/-- The same item, `n` lines further down. -/
def Item.down (n : Nat) : Item → Item
  | .ok t => .ok (t.down n)
  | .error e => .error (e.down n)

namespace Scanner

/-- A stream depends on what is left and on the cursor alone. -/
theorem stream_down {s s' : Scanner} {n : Nat} (hrest : s.rest = s'.rest)
    (hposition : s.position = s'.position.down n) : s.stream = s'.stream.map (Item.down n) := by
  induction hlen : s'.rest.length using Nat.strong_induction_on generalizing s s' with
  | _ len ih =>
    subst hlen
    rcases rest_cases s'.rest with hblank | ⟨gap, slice, rest, kind, text, hs, hgap, hreads⟩ |
      ⟨gap, c, r, fault, k, hs, hgap, hc, hread⟩
    · rw [stream_of_blank hblank, stream_of_blank (hrest ▸ hblank), hrest, hposition,
        Cursor.passAll_down]
      rfl
    · obtain ⟨hrest', hposition'⟩ := skip_gap_slice hs
      obtain ⟨hrest'', hposition''⟩ := skip_gap_slice (hrest.trans hs)
      rw [stream_of_reads hs hgap hreads, stream_of_reads (hrest.trans hs) hgap hreads,
        List.map_cons, ih _ _ (hrest''.trans hrest'.symm) _ rfl]
      · rw [hposition, Cursor.passAll_down]
        rfl
      · have hpos := List.length_pos_of_ne_nil hreads.ne_nil
        rw [hrest', hs]
        simp
        omega
      · rw [hposition', hposition'', hposition, Cursor.passAll_down]
    · rw [stream_of_failure hs hgap hc hread, stream_of_failure (hrest.trans hs) hgap hc hread,
        hposition, Cursor.passAll_down]
      rfl

/-- A scanner that only whitespace parts from another hands out the same. -/
theorem stream_skip_blank {s : Scanner} {gap rest : List Char} (hs : s.rest = gap ++ rest)
    (hgap : Blank gap) : s.stream = (s.skip gap.length).stream := by
  have hnext : s.next = (s.skip gap.length).next := by
    have hskip : s.skipWhitespace = (s.skip gap.length).skipWhitespace := by
      rw [skipWhitespace, skipWhitespace, ← skip_add, skip_rest, hs, List.drop_left,
        List.takeWhile_append_of_pos hgap, List.length_append]
    rw [next, next, hskip]
  rw [stream_eq s, stream_eq (s.skip _), hnext]

/-- The tiles of what stands before a line feed give their tokens, and what stands after it gives
its own stream below them. -/
theorem stream_of_tiles_append {p : Cursor} {a : List Char} {tiles : List Tile}
    (h : Tiles p a tiles) (b : List Char) {s : Scanner} (hposition : s.position = p)
    (hs : s.rest = a ++ '\n' :: b) :
    ∃ init last, tiles = init ++ [last] ∧
      s.stream = init.map (.ok ·.token) ++
        (ofSource b).stream.map (Item.down last.token.line) := by
  induction h generalizing s with
  | @done p gap hgap =>
    refine ⟨[], _, rfl, ?_⟩
    have hs' : s.rest = (gap ++ ['\n']) ++ b := by simp [hs]
    have hblank : Blank (gap ++ ['\n']) := by
      rw [Blank, List.forall_mem_append]
      exact ⟨hgap, by simpa using (by decide : isWhitespace '\n')⟩
    rw [stream_skip_blank hs' hblank, List.map_nil, List.nil_append]
    apply stream_down
    · rw [skip_rest, hs', List.drop_left]
      rfl
    · rw [skip_position, hs', List.take_left, Cursor.passAll_append, hposition]
      simp [Cursor.passAll, Cursor.pass, Cursor.down, tokenAt, ofSource, Cursor.start, Nat.add_comm]
  | @more p gap slice rest text kind tiles hgap hreads htiles ih =>
    have hs' : s.rest = gap ++ (slice ++ (rest ++ '\n' :: b)) := by simp [hs]
    have hreads' : Reads kind text slice (rest ++ '\n' :: b) :=
      hreads.append (by simpa [Apart] using (by decide : isWhitespace '\n')) fun _ _ => by simp
    obtain ⟨hrest, hposition'⟩ := skip_gap_slice hs'
    obtain ⟨init, last, rfl, hstream⟩ := ih (by rw [hposition', hposition]) hrest
    refine ⟨_ :: init, last, rfl, ?_⟩
    rw [stream_of_reads hs' hgap hreads', hstream, hposition]
    rfl

/-- Scanning is compositional: if a text scans without error, the last token is its end and stands
in some line, and the stream of the text, a line feed and another text is the tokens before the
end, followed by the stream of the other text so many lines further down. -/
theorem stream_append_lineFeed {a : List Char} {ts : List Token} {e : Token}
    (h : (ofSource a).stream = (ts ++ [e]).map .ok) (b : List Char) :
    e.isEnd ∧ (ofSource (a ++ '\n' :: b)).stream =
      ts.map .ok ++ (ofSource b).stream.map (Item.down e.line) := by
  obtain ⟨tiles, htiles, htokens⟩ := tiles_of_stream h
  obtain ⟨init, last, rfl, hend, -⟩ := htiles.exists_last
  obtain ⟨init', last', hsplit, hstream⟩ :=
    stream_of_tiles_append htiles b (s := ofSource (a ++ '\n' :: b)) rfl rfl
  obtain ⟨rfl, hlast⟩ := List.append_inj' hsplit rfl
  obtain rfl := (List.cons.inj hlast).1
  rw [List.map_append, List.map_singleton] at htokens
  obtain ⟨rfl, hlast⟩ := List.append_inj' htokens rfl
  obtain rfl := (List.cons.inj hlast).1
  refine ⟨hend, ?_⟩
  rw [hstream, List.map_map]
  rfl

/-- An empty string before a line comment that the line feed ends, and a string over two lines
before an error. -/
theorem stream_append_lineFeed_error :
    ∃ (ts : List Token) (e : Token),
      ts = [⟨.string, "", 1, 1⟩, ⟨.singleLineComment, "// c ", 1, 4⟩] ∧
      e = ⟨.endOfInput, "", 1, 9⟩ ∧
      (ofSource "\"\" // c ".toList).stream = (ts ++ [e]).map .ok ∧
      (ofSource ("\"\" // c ".toList ++ '\n' :: "\"x\n\" #".toList)).stream = ts.map .ok ++
        [.ok ⟨.string, "x\n", 2, 1⟩, .error (.atToken (.unexpectedCharacter '#') 3 3)] := by
  let ts : List Token := [⟨.string, "", 1, 1⟩, ⟨.singleLineComment, "// c ", 1, 4⟩]
  let e : Token := ⟨.endOfInput, "", 1, 9⟩
  have ha : (ofSource "\"\" // c ".toList).stream = (ts ++ [e]).map .ok := by decide +kernel
  have hb : (ofSource "\"x\n\" #".toList).stream =
      [.ok ⟨.string, "x\n", 1, 1⟩, .error (.atToken (.unexpectedCharacter '#') 2 3)] := by
    decide +kernel
  refine ⟨ts, e, rfl, rfl, ha, ?_⟩
  rw [(stream_append_lineFeed ha _).2, hb]
  rfl

end Scanner
end Scan
end JavaLex
