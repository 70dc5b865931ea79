import JavaLex.Proofs.Scanner.Tiling

/-! # Laying a source out again

The whitespace between lexemes carries nothing but their positions. The slices of a source, put
one after the other with other gaps between them, are the slices of the source that this makes,
and its tokens differ in their places alone.
-/
namespace JavaLex

/-- A token without its place. -/
def Token.content (t : Token) : TokenKind × String :=
  (t.kind, t.text)

namespace Scan
open Lexicon Lexeme

theorem content_tokenAt (kind : TokenKind) (text : List Char) (p : Cursor) :
    (tokenAt kind text p).content = (kind, String.ofList text) := rfl

/-- Slices with a gap after each. -/
def layOut : List (List Char) → List (List Char) → List Char
  | slice :: slices, gap :: gaps => slice ++ (gap ++ layOut slices gaps)
  | _, _ => []

/-- Gaps that may stand after the slices of the tokens. Only the last may be empty, and a line
comment has a line feed first after it. -/
inductive Gaps : List Token → List (List Char) → Prop where
  | nil : Gaps [] []
  | cons {t : Token} {ts : List Token} {gap : List Char} {gaps : List (List Char)} :
      Blank gap → (ts ≠ [] → gap ≠ []) →
      (t.kind = .singleLineComment → ∀ c ∈ gap.head?, c = '\n') → Gaps ts gaps →
      Gaps (t :: ts) (gap :: gaps)

namespace Scanner

/-- The slice that the next call covers after whitespace. -/
def slice (s : Scanner) : List Char :=
  s.skipWhitespace.rest.take (s.next.2.consumed - s.skipWhitespace.consumed)

/-- The slices that so many calls cover. -/
def slices (s : Scanner) : Nat → List (List Char)
  | 0 => []
  | n + 1 => s.slice :: s.next.2.slices n

theorem slice_of_reads {s : Scanner} {gap slice rest text : List Char} {kind : TokenKind}
    (hs : s.rest = gap ++ (slice ++ rest)) (hgap : Blank gap)
    (hreads : Reads kind text slice rest) : s.slice = slice := by
  have hskip : s.skipWhitespace = s.skip gap.length := by
    obtain ⟨c, r, rfl, hc, -⟩ := hreads
    exact skipWhitespace_eq hs hgap (by simpa using hc)
  have hconsumed : (s.skip (gap.length + slice.length)).consumed - (s.skip gap.length).consumed =
      slice.length := by
    rw [skip_consumed, skip_consumed, Nat.add_sub_add_left, hs]
    simp
  rw [Scanner.slice, next_of_reads hs hgap hreads, hskip, hconsumed, skip_rest, hs, List.drop_left,
    List.take_left]

theorem slices_of_tiles {p : Cursor} {a : List Char} {tiles : List Tile} (h : Tiles p a tiles)
    {s : Scanner} (hs : s.rest = a) {init : List Tile} {last : Tile}
    (hsplit : tiles = init ++ [last]) : s.slices init.length = init.map Tile.slice := by
  induction h generalizing s init with
  | done =>
    cases init with
    | nil => rfl
    | cons first init => simp at hsplit
  | more hgap hreads _ ih =>
    cases init with
    | nil => rfl
    | cons first init =>
      cases hsplit
      rw [List.length_cons, slices, slice_of_reads hs hgap hreads, next_of_reads hs hgap hreads,
        ih (skip_gap_slice hs).1 rfl]
      rfl

end Scanner

/-- Tiles with other gaps. -/
theorem Tiles.layOut {p : Cursor} {a : List Char} {tiles : List Tile} (h : Tiles p a tiles)
    {init : List Tile} {last : Tile} (hsplit : tiles = init ++ [last])
    {gaps : List (List Char)} (hgaps : Gaps (init.map Tile.token) gaps) {lead : List Char}
    (hlead : Blank lead) (p' : Cursor) :
    ∃ tiles', Tiles p' (lead ++ Scan.layOut (init.map Tile.slice) gaps) tiles' ∧
      tiles'.map (·.token.content) = tiles.map (·.token.content) := by
  induction h generalizing init gaps lead p' with
  | done =>
    cases init with
    | cons first init => simp at hsplit
    | nil =>
      cases hgaps
      exact ⟨_, .done (by simpa [Scan.layOut] using hlead), rfl⟩
  | @more p gap slice rest text kind tiles hgap hreads htiles ih =>
    cases init with
    | nil =>
      cases hsplit
      cases htiles
    | cons first init =>
      obtain ⟨rfl, hrest⟩ := List.cons.inj hsplit
      cases hgaps with
      | @cons _ _ gap' gaps hblank hsome hfeed hgaps =>
        -- Where the gap is empty nothing follows it, so the gap alone is what the lexeme meets.
        have hhead : (gap' ++ Scan.layOut (init.map Tile.slice) gaps).head? = gap'.head? := by
          cases gap' with
          | cons c gap' => rfl
          | nil =>
            have hnil : init = [] := by simpa using mt hsome (by simp)
            simp [hnil, Scan.layOut]
        have hreads' : Reads kind text slice (gap' ++ Scan.layOut (init.map Tile.slice) gaps) := by
          refine hreads.exchange ?_ fun hkind => ?_
          · rw [Apart, hhead]
            exact hblank.apart
          · rw [hhead]
            exact hfeed hkind
        obtain ⟨tiles', htiles', hsame⟩ := ih hrest hgaps hblank (p'.passAll (lead ++ slice))
        exact ⟨_, .more hlead hreads' htiles', by simp [hsame, content_tokenAt]⟩

/-- Layout does not matter: the slices of a text that scans, with any whitespace first, last and
between them, scan to tokens of the same kinds and texts. -/
theorem tokenize_layOut {text : String} {ts : List Token} {e : Token}
    (h : tokenize text = .ok (ts ++ [e])) {lead : List Char} (hlead : Blank lead)
    {gaps : List (List Char)} (hgaps : Gaps ts gaps) :
    ∃ ts', tokenize (String.ofList
        (lead ++ layOut ((Scanner.ofSource text.toList).slices ts.length) gaps)) = .ok ts' ∧
      ts'.map Token.content = (ts ++ [e]).map Token.content := by
  obtain ⟨tiles, htiles, hroom, htokens⟩ := tokenize_eq_ok_iff.mp h
  obtain ⟨init, last, rfl, -⟩ := htiles.exists_last
  rw [List.map_append, List.map_singleton] at htokens
  obtain ⟨rfl, hlast⟩ := List.append_inj' htokens rfl
  obtain ⟨tiles', htiles', hsame⟩ := htiles.layOut rfl hgaps hlead .start
  have hlength : tiles'.length = (init ++ [last]).length := by
    simpa using congrArg List.length hsame
  rw [List.length_map, Scanner.slices_of_tiles htiles rfl rfl]
  refine ⟨tiles'.map Tile.token, ?_, ?_⟩
  · rw [tokenize_eq_ok_iff, String.toList_ofList]
    exact ⟨tiles', htiles', hlength ▸ hroom, rfl⟩
  · rw [htokens, ← List.map_singleton, ← List.map_append, List.map_map, List.map_map]
    exact hsame

/-- An octal number that ends before an eight, a number without a digit before its dot, and a line
comment before a line feed. -/
theorem tokenize_layOut_touching :
    ∃ (ts : List Token) (e : Token) (gaps : List (List Char)),
      ts = [⟨.number, "01", 1, 1⟩, ⟨.number, "8", 1, 3⟩, ⟨.operator, "=", 1, 4⟩,
        ⟨.number, ".5", 1, 5⟩, ⟨.singleLineComment, "//c", 1, 7⟩] ∧
      e = ⟨.endOfInput, "", 1, 10⟩ ∧ gaps = [[' '], ['\n'], ['\t', ' '], [' '], ['\n', ' ']] ∧
      tokenize "018=.5//c" = .ok (ts ++ [e]) ∧ Blank ['\n'] ∧ Gaps ts gaps ∧
      ∃ ts', tokenize "\n01 8\n=\t .5 //c\n " = .ok ts' ∧
        ts'.map Token.content = (ts ++ [e]).map Token.content := by
  let ts : List Token := [⟨.number, "01", 1, 1⟩, ⟨.number, "8", 1, 3⟩, ⟨.operator, "=", 1, 4⟩,
    ⟨.number, ".5", 1, 5⟩, ⟨.singleLineComment, "//c", 1, 7⟩]
  let e : Token := ⟨.endOfInput, "", 1, 10⟩
  let gaps := [[' '], ['\n'], ['\t', ' '], [' '], ['\n', ' ']]
  have h : tokenize "018=.5//c" = .ok (ts ++ [e]) := by decide +kernel
  have hlead : Blank ['\n'] := by decide
  have hgaps : Gaps ts gaps :=
    .cons (by decide) (by simp) (by simp) <| .cons (by decide) (by simp) (by simp) <|
      .cons (by decide) (by simp) (by simp) <| .cons (by decide) (by simp) (by simp) <|
        .cons (by decide) (by simp) (by simp) .nil
  have hlayout : ['\n'] ++ layOut ((Scanner.ofSource "018=.5//c".toList).slices ts.length) gaps =
      "\n01 8\n=\t .5 //c\n ".toList := by decide +kernel
  obtain ⟨ts', hts', hsame⟩ := tokenize_layOut h hlead hgaps
  rw [hlayout, String.ofList_toList] at hts'
  exact ⟨ts, e, gaps, rfl, rfl, rfl, h, hlead, hgaps, ts', hts', hsame⟩

end Scan
end JavaLex
