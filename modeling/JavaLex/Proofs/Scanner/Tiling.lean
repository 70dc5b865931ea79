import JavaLex.Proofs.Scanner.Stream

/-! # Tilings

The tokens of a source tile it: gap, slice, gap, slice and so on up to the end, with nothing
left out and nothing covered twice. A scan succeeds exactly if there is such a tiling, and then
hands out its tokens.
-/
namespace JavaLex.Scan
open Lexicon Lexeme Source

/-- A token with the whitespace before it and the slice that it covers. -/
structure Tile where
  gap : List Char
  slice : List Char
  token : Token

namespace Tile

/-- All that the tile takes of the source. -/
def cover (tile : Tile) : List Char :=
  tile.gap ++ tile.slice

/-- The gap is whitespace and the token keeps of the slice what its kind says. -/
def Fits (tile : Tile) : Prop :=
  Blank tile.gap ∧ Spelling tile.token.kind tile.token.text.toList tile.slice

end Tile

/-- The tiles of a text. The last one is the end of input, which has no slice, and no other is. -/
structure Tiling (source : List Char) (tiles : List Tile) : Prop where
  cover_eq : source = tiles.flatMap Tile.cover
  fits : ∀ tile ∈ tiles, tile.Fits
  ends : ∃ init last, tiles = init ++ [last] ∧ last.token.isEnd ∧ last.slice = [] ∧
    ∀ tile ∈ init, tile.token.isEnd = false ∧ tile.slice ≠ []
  located : ∀ before tile after, tiles = before ++ tile :: after →
    Cursor.Agrees ⟨tile.token.line, tile.token.column⟩
      (Position.start.advanceAll (before.flatMap Tile.cover ++ tile.gap))

/-- The text after a cursor, read into tiles one lexeme after the other. -/
inductive Tiles : Cursor → List Char → List Tile → Prop where
  | done {p : Cursor} {gap : List Char} : Blank gap →
      Tiles p gap [⟨gap, [], tokenAt .endOfInput [] (p.passAll gap)⟩]
  | more {p : Cursor} {gap slice rest text : List Char} {kind : TokenKind} {tiles : List Tile} :
      Blank gap → Reads kind text slice rest → Tiles (p.passAll (gap ++ slice)) rest tiles →
      Tiles p (gap ++ (slice ++ rest)) (⟨gap, slice, tokenAt kind text (p.passAll gap)⟩ :: tiles)

namespace Tiles
variable {p : Cursor} {s : List Char} {tiles : List Tile}

theorem flatMap_cover (h : Tiles p s tiles) : s = tiles.flatMap Tile.cover := by
  induction h with
  | done => simp [Tile.cover]
  | more _ _ _ ih =>
    conv_lhs => rw [ih]
    simp [Tile.cover]

theorem fits (h : Tiles p s tiles) : ∀ tile ∈ tiles, tile.Fits := by
  induction h with
  | done hgap =>
    simp only [List.mem_singleton, forall_eq]
    exact ⟨hgap, by simpa [tokenAt] using Spelling.endOfInput⟩
  | more hgap hreads _ ih =>
    rw [List.forall_mem_cons]
    exact ⟨⟨hgap, by simpa [tokenAt] using hreads.spelling⟩, ih⟩

/-- The end of input is the last tile and no other. -/
theorem exists_last (h : Tiles p s tiles) :
    ∃ init last, tiles = init ++ [last] ∧ last.token.isEnd ∧ last.slice = [] ∧
      ∀ tile ∈ init, tile.token.isEnd = false ∧ tile.slice ≠ [] := by
  induction h with
  | done => exact ⟨[], _, rfl, rfl, rfl, by simp⟩
  | more _ hreads _ ih =>
    obtain ⟨init, last, rfl, hend, hnil, hinit⟩ := ih
    refine ⟨_ :: init, last, rfl, hend, hnil, ?_⟩
    rw [List.forall_mem_cons]
    exact ⟨⟨by simpa [isEnd_tokenAt] using hreads.kind_ne, hreads.ne_nil⟩, hinit⟩

/-- Each token stands where everything before its slice leads to. -/
theorem cursor_eq (h : Tiles p s tiles) {before after : List Tile} {tile : Tile}
    (hsplit : tiles = before ++ tile :: after) :
    ⟨tile.token.line, tile.token.column⟩ =
      p.passAll (before.flatMap Tile.cover ++ tile.gap) := by
  induction h generalizing before with
  | done =>
    cases before with
    | nil =>
      cases hsplit
      rfl
    | cons first before => simp at hsplit
  | more _ _ _ ih =>
    cases before with
    | nil =>
      cases hsplit
      rfl
    | cons first before =>
      cases hsplit
      rw [ih rfl, ← Cursor.passAll_append]
      simp [Tile.cover]

theorem tiling (h : Tiles .start s tiles) : Tiling s tiles where
  cover_eq := h.flatMap_cover
  fits := h.fits
  ends := h.exists_last
  located before tile after hsplit := by
    rw [h.cursor_eq hsplit]
    exact Cursor.agrees_start.passAll _

end Tiles

namespace Scanner
variable {found : Array Token} {limit room : Nat} {s : Scanner}

theorem run_zero (found : Array Token) (limit : Nat) (s : Scanner) :
    (s.run found limit 0).error?.isSome := by
  unfold run
  split <;> rfl

theorem run_of_blank (hs : Blank s.rest) : s.run found limit (room + 1) =
    ⟨found.push (tokenAt .endOfInput [] (s.position.passAll s.rest)), none⟩ := by
  rw [run, next_of_blank hs]
  rfl

theorem run_of_reads {gap slice rest text : List Char} {kind : TokenKind}
    (hs : s.rest = gap ++ (slice ++ rest)) (hgap : Blank gap)
    (hreads : Reads kind text slice rest) : s.run found limit (room + 1) =
      (s.skip (gap.length + slice.length)).run
        (found.push (tokenAt kind text (s.position.passAll gap))) limit room := by
  rw [run, next_of_reads hs hgap hreads]
  simp [isEnd_tokenAt, hreads.kind_ne]

theorem run_of_failure {gap r : List Char} {c : Char} {fault : Fault} {n : Nat}
    (hs : s.rest = gap ++ c :: r) (hgap : Blank gap) (hc : isWhitespace c = false)
    (hread : read c r = .failure fault n) :
    (s.run found limit (room + 1)).error?.isSome := by
  rw [run, next_of_failure hs hgap hc hread]
  rfl

theorem run_of_tiles {tiles : List Tile} (h : Tiles s.position s.rest tiles)
    (hroom : tiles.length ≤ room) :
    s.run found limit room = ⟨found ++ (tiles.map Tile.token).toArray, none⟩ := by
  generalize hp : s.position = p at h
  generalize hr : s.rest = r at h
  induction h generalizing s found room with
  | done hgap =>
    obtain ⟨room, rfl⟩ := Nat.exists_eq_add_of_le' hroom
    rw [List.length_singleton, run_of_blank (hr ▸ hgap)]
    simp [hp, hr]
  | more hgap hreads _ ih =>
    obtain ⟨room, rfl⟩ := Nat.exists_eq_add_of_le' hroom
    obtain ⟨hrest, hposition⟩ := skip_gap_slice hr
    rw [List.length_cons, ← Nat.add_assoc, run_of_reads hr hgap hreads,
      ih (Nat.le_add_left _ _) (by rw [hposition, hp]) hrest]
    simp [hp]

theorem tiles_cons {gap slice rest text : List Char} {kind : TokenKind} {tiles : List Tile}
    (hs : s.rest = gap ++ (slice ++ rest)) (hgap : Blank gap) (hreads : Reads kind text slice rest)
    (htiles : Tiles (s.skip (gap.length + slice.length)).position
      (s.skip (gap.length + slice.length)).rest tiles) :
    Tiles s.position s.rest
      (⟨gap, slice, tokenAt kind text (s.position.passAll gap)⟩ :: tiles) := by
  obtain ⟨hrest, hposition⟩ := skip_gap_slice hs
  rw [hrest, hposition] at htiles
  rw [hs]
  exact .more hgap hreads htiles

theorem tiles_of_run {toks : Array Token} (h : s.run found limit room = ⟨toks, none⟩) :
    ∃ tiles, Tiles s.position s.rest tiles ∧ tiles.length ≤ room ∧
      toks = found ++ (tiles.map Tile.token).toArray := by
  induction room generalizing s found with
  | zero => simpa [h] using run_zero found limit s
  | succ room ih =>
    rcases rest_cases s.rest with hblank | ⟨gap, slice, rest, kind, text, hs, hgap, hreads⟩ |
      ⟨gap, c, r, fault, n, hs, hgap, hc, hread⟩
    · rw [run_of_blank hblank, Outcome.mk.injEq] at h
      exact ⟨_, .done hblank, by simp, by simp [← h.1]⟩
    · rw [run_of_reads hs hgap hreads] at h
      obtain ⟨tiles, htiles, hroom, htoks⟩ := ih h
      exact ⟨_, tiles_cons hs hgap hreads htiles, by simpa, by simp [htoks]⟩
    · have hfail : (s.run found limit (room + 1)).error?.isSome :=
        run_of_failure hs hgap hc hread
      simp [h] at hfail

/-- A stream without an error is that of a tiling. -/
theorem tiles_of_stream {ts : List Token} (h : s.stream = ts.map .ok) :
    ∃ tiles, Tiles s.position s.rest tiles ∧ ts = tiles.map Tile.token := by
  induction ts generalizing s with
  | nil =>
    rw [stream_eq] at h
    simp at h
  | cons t ts ih =>
    rcases rest_cases s.rest with hblank | ⟨gap, slice, rest, kind, text, hs, hgap, hreads⟩ |
      ⟨gap, c, r, fault, n, hs, hgap, hc, hread⟩
    · rw [stream_of_blank hblank] at h
      simp only [List.map_cons, List.cons.injEq, Except.ok.injEq, List.nil_eq, List.map_eq_nil_iff]
        at h
      obtain ⟨rfl, rfl⟩ := h
      exact ⟨_, .done hblank, rfl⟩
    · rw [stream_of_reads hs hgap hreads] at h
      simp only [List.map_cons, List.cons.injEq, Except.ok.injEq] at h
      obtain ⟨rfl, htail⟩ := h
      obtain ⟨tiles, htiles, rfl⟩ := ih htail
      exact ⟨_, tiles_cons hs hgap hreads htiles, rfl⟩
    · simp [stream_of_failure hs hgap hc hread] at h

end Scanner

theorem tokenize_eq_ok_iff {text : String} {ts : List Token} :
    tokenize text = .ok ts ↔
      ∃ tiles, Tiles .start text.toList tiles ∧ tiles.length ≤ maxTokens ∧
        ts = tiles.map Tile.token := by
  unfold tokenize scan
  constructor
  · intro h
    split at h
    case h_1 toks hrun =>
      obtain ⟨tiles, htiles, hroom, rfl⟩ := Scanner.tiles_of_run hrun
      exact ⟨tiles, htiles, hroom, by simpa using h.symm⟩
    case h_2 => simp at h
  · rintro ⟨tiles, htiles, hroom, rfl⟩
    rw [Scanner.run_of_tiles (s := .ofSource text.toList) htiles hroom]
    simp

/-- The tokens of a text tile it: each has a gap and a slice of the text, one after the other with
nothing between them, and stands at the position after all that comes before its slice. -/
theorem tokenize_tiles {text : String} {ts : List Token} (h : tokenize text = .ok ts) :
    ∃ tiles, Tiling text.toList tiles ∧ tiles.map Tile.token = ts := by
  obtain ⟨tiles, htiles, -, rfl⟩ := tokenize_eq_ok_iff.mp h
  exact ⟨tiles, htiles.tiling, rfl⟩

/-- A word with a hyphen, escaped quotes, a star and a slash that close nothing, a number without
a digit before its dot, and an opener of a text block with whitespace after it. -/
theorem tokenize_tiles_mixed :
    ∃ text ts, text = "non-sealed\t\"a\\\"b\" '\\''\n/*/**/.5f \"\"\" \n  x\n  y\"\"\"// z" ∧
      ts = [⟨.contextualKeyword, "non-sealed", 1, 1⟩, ⟨.string, "a\\\"b", 1, 12⟩,
        ⟨.character, "\\'", 1, 19⟩, ⟨.multiLineComment, "/*/**/", 2, 1⟩, ⟨.number, ".5f", 2, 7⟩,
        ⟨.textBlock, "x\ny", 2, 11⟩, ⟨.singleLineComment, "// z", 4, 7⟩,
        ⟨.endOfInput, "", 4, 11⟩] ∧
      tokenize text = .ok ts ∧ ∃ tiles, Tiling text.toList tiles ∧ tiles.map Tile.token = ts := by
  refine ⟨_, _, rfl, rfl, ?_, tokenize_tiles ?_⟩
  all_goals decide +kernel

end JavaLex.Scan
