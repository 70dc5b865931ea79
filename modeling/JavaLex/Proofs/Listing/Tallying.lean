import JavaLex.Proofs.Listing.Agreement
import JavaLex.Proofs.Scanner.Tiling
import JavaLex.Proofs.Source.Lookup

/-! # What a tally comes to

A tally is kept token by token, but what it comes to is told by the tokens as a whole: how many
there are of each sort and the longest of some. So their order does not matter. Of a source that
scans, the tally agrees with what is counted in other ways: with the number of tokens in the
listing, and with the lines of the line index.
-/
namespace JavaLex
open Files Scan Source

/-- Comments count as tokens only if the options say so. -/
def ScanOptions.counts (options : ScanOptions) (token : Token) : Bool :=
  options.countComments || !token.kind.isComment

namespace Tally
variable {options : ScanOptions} {tokens : List Token} {t : Tally}

def counted (options : ScanOptions) (tokens : List Token) : List Token :=
  tokens.filter options.counts

/-- The texts whose length is taken. -/
def isText (token : Token) : Bool :=
  token.kind == .string || token.kind == .textBlock

/-! ## Greatest numbers -/

/-- The greatest of some numbers, or zero if there are none. -/
structure Greatest (values : List Nat) (n : Nat) : Prop where
  le : ∀ v ∈ values, v ≤ n
  mem : n ∈ values ∨ values = [] ∧ n = 0

namespace Greatest
variable {values : List Nat} {n : Nat}

theorem nil : Greatest [] 0 :=
  ⟨by simp, .inr ⟨rfl, rfl⟩⟩

theorem concat (h : Greatest values n) (v : Nat) : Greatest (values ++ [v]) (max n v) where
  le := by
    intro w hw
    rcases List.mem_append.mp hw with hw | hw
    · exact Nat.le_trans (h.le w hw) (Nat.le_max_left n v)
    · rw [List.mem_singleton.mp hw]
      exact Nat.le_max_right n v
  mem := by
    refine .inl (List.mem_append.mpr ?_)
    rcases h.mem with hn | ⟨-, rfl⟩
    · rcases Nat.le_total v n with hle | hle
      · exact .inl (by rwa [Nat.max_eq_left hle])
      · exact .inr (by simp [Nat.max_eq_right hle])
    · exact .inr (by simp)

/-- One more token, which is looked at or not. -/
theorem filter_concat {p : Token → Bool} {f : Token → Nat}
    (h : Greatest ((tokens.filter p).map f) n) (token : Token) :
    Greatest (((tokens ++ [token]).filter p).map f) (if p token then max n (f token) else n) := by
  rw [List.filter_append, List.map_append]
  cases hp : p token with
  | false => simpa [hp] using h
  | true => simpa [hp] using h.concat (f token)

theorem unique {m : Nat} (h : Greatest values n) (h' : Greatest values m) : n = m := by
  rcases h.mem with hn | ⟨hnil, rfl⟩
  · rcases h'.mem with hm | ⟨hnil', -⟩
    · exact Nat.le_antisymm (h'.le n hn) (h.le m hm)
    · simp [hnil'] at hn
  · rcases h'.mem with hm | ⟨-, rfl⟩
    · simp [hnil] at hm
    · rfl

theorem perm {values' : List Nat} (h : Greatest values n) (hperm : values.Perm values') :
    Greatest values' n where
  le v hv := h.le v (hperm.mem_iff.mpr hv)
  mem := by
    rcases h.mem with hn | ⟨rfl, hn⟩
    · exact .inl (hperm.mem_iff.mp hn)
    · exact .inr ⟨hperm.nil_eq.symm, hn⟩

end Greatest

/-! ## One token -/

theorem record_eq (options : ScanOptions) (t : Tally) (token : Token) : t.record options token =
    { total := t.total + if options.counts token && !token.isEnd then 1 else 0
      comments := t.comments + if token.kind.isComment then 1 else 0
      longestString :=
        if isText token && options.counts token then max t.longestString token.text.length
        else t.longestString
      longestComment :=
        if token.kind.isComment then max t.longestComment token.text.length
        else t.longestComment
      lastLine := if options.counts token then max t.lastLine token.line else t.lastLine
      kinds :=
        if options.counts token && options.countKinds then (t.countKind token.kind).kinds
        else t.kinds } := by
  unfold record recordComment recordCounted countKind isText ScanOptions.counts
  cases token.kind.isComment <;> cases options.countComments <;> cases options.countKinds <;>
    cases token.isEnd <;> simp

theorem getElem?_index (kind : TokenKind) : TokenKind.all[kind.index.val]? = some kind := by
  cases kind <;> rfl

theorem index_inj {kind kind' : TokenKind} : kind.index = kind'.index ↔ kind = kind' := by
  constructor
  · intro h
    have hkind := getElem?_index kind
    rw [h, getElem?_index] at hkind
    exact (Option.some.inj hkind).symm
  · rintro rfl
    rfl

theorem exists_index : ∀ i : Fin 12, ∃ kind ∈ TokenKind.all, kind.index = i := by
  decide

/-- The counts by kind are all that a tally keeps of the kinds. -/
theorem kinds_ext {t t' : Tally} (h : ∀ kind, t.count kind = t'.count kind) :
    t.kinds = t'.kinds := by
  apply Vector.ext
  intro i hi
  obtain ⟨kind, -, hkind⟩ := exists_index ⟨i, hi⟩
  have hcount : t.kinds.get kind.index = t'.kinds.get kind.index := h kind
  rw [hkind] at hcount
  exact hcount

theorem count_countKind (t : Tally) (kind kind' : TokenKind) :
    (t.countKind kind).count kind' = t.count kind' + if kind == kind' then 1 else 0 := by
  change (t.kinds.set kind.index (t.kinds[kind.index] + 1))[kind'.index] = t.kinds[kind'.index] + _
  by_cases h : kind = kind'
  · subst h
    simp
  · have hne : kind.index.val ≠ kind'.index.val := fun he => h (index_inj.mp (Fin.ext he))
    rw [beq_false_of_ne h]
    simp [hne]

theorem count_record (options : ScanOptions) (t : Tally) (token : Token) (kind : TokenKind) :
    (t.record options token).count kind = t.count kind +
      if options.counts token && options.countKinds && token.kind == kind then 1 else 0 := by
  rw [record_eq, count]
  cases options.counts token && options.countKinds with
  | false => rfl
  | true => exact t.count_countKind token.kind kind

/-- A kind that occurs has its count. -/
theorem mem_occurring {kind : TokenKind} {n : Nat} :
    (kind, n) ∈ t.occurring ↔ n ≠ 0 ∧ n = t.count kind := by
  have hall : kind ∈ TokenKind.all := List.mem_of_getElem? (getElem?_index kind)
  rw [occurring, List.mem_filter, List.mem_map]
  simp only [decide_eq_true_eq]
  constructor
  · rintro ⟨⟨kind', -, heq⟩, hn⟩
    cases heq
    exact ⟨hn, rfl⟩
  · rintro ⟨hn, rfl⟩
    exact ⟨⟨kind, hall, rfl⟩, hn⟩

/-! ## All tokens -/

/-- What some tokens come to. -/
structure Aggregates (options : ScanOptions) (tokens : List Token) (t : Tally) : Prop where
  comments_eq : t.comments = tokens.countP (·.kind.isComment)
  longestComment : Greatest ((tokens.filter (·.kind.isComment)).map (·.text.length)) t.longestComment
  total_eq : t.total = (counted options tokens).countP (!·.isEnd)
  lastLine : Greatest ((counted options tokens).map (·.line)) t.lastLine
  longestString :
    Greatest (((counted options tokens).filter isText).map (·.text.length)) t.longestString
  count_eq : ∀ kind, t.count kind =
    if options.countKinds then (counted options tokens).countP (·.kind == kind) else 0

namespace Aggregates

theorem empty (options : ScanOptions) : Aggregates options [] {} where
  comments_eq := rfl
  longestComment := .nil
  total_eq := rfl
  lastLine := .nil
  longestString := .nil
  count_eq kind := by
    have hcount : count {} kind = 0 := by cases kind <;> rfl
    simp [hcount, counted]

/-- One more token. -/
theorem record (h : Aggregates options tokens t) (token : Token) :
    Aggregates options (tokens ++ [token]) (t.record options token) where
  comments_eq := by
    rw [record_eq, List.countP_append, List.countP_singleton, ← h.comments_eq]
  longestComment := by
    rw [record_eq]
    exact h.longestComment.filter_concat token
  total_eq := by
    rw [record_eq, counted, List.countP_filter, List.countP_append, List.countP_singleton,
      ← List.countP_filter, ← counted, ← h.total_eq, Bool.and_comm]
  lastLine := by
    rw [record_eq]
    exact h.lastLine.filter_concat token
  longestString := by
    rw [record_eq, counted, List.filter_filter]
    refine Greatest.filter_concat (p := fun token => isText token && options.counts token) ?_ token
    rw [← List.filter_filter]
    exact h.longestString
  count_eq kind := by
    rw [count_record, h.count_eq, counted, counted, List.filter_append, List.countP_append]
    cases options.countKinds <;> cases hcounts : options.counts token <;>
      simp [hcounts, List.countP_singleton]

theorem ofTokens (options : ScanOptions) (tokens : List Token) :
    Aggregates options tokens (Tally.ofTokens options tokens) := by
  induction tokens using List.reverseRecOn with
  | nil => exact empty options
  | append_singleton tokens token ih =>
    rw [Tally.ofTokens, List.foldl_append]
    exact ih.record token

/-- The tally is told by what the tokens come to. -/
theorem unique {t' : Tally} (h : Aggregates options tokens t) (h' : Aggregates options tokens t') :
    t = t' := by
  have hkinds := kinds_ext fun kind => (h.count_eq kind).trans (h'.count_eq kind).symm
  have htotal := h.total_eq.trans h'.total_eq.symm
  have hcomments := h.comments_eq.trans h'.comments_eq.symm
  have hstring := h.longestString.unique h'.longestString
  have hcomment := h.longestComment.unique h'.longestComment
  have hline := h.lastLine.unique h'.lastLine
  cases t
  cases t'
  simp_all

theorem perm {tokens' : List Token} (h : Aggregates options tokens t)
    (hperm : tokens.Perm tokens') : Aggregates options tokens' t where
  comments_eq := h.comments_eq.trans (hperm.countP_eq _)
  longestComment := h.longestComment.perm ((hperm.filter _).map _)
  total_eq := h.total_eq.trans ((hperm.filter _).countP_eq _)
  lastLine := h.lastLine.perm ((hperm.filter _).map _)
  longestString := h.longestString.perm (((hperm.filter _).filter _).map _)
  count_eq kind := by
    rw [h.count_eq, counted, (hperm.filter _).countP_eq, counted]

/-- The kinds that occur are those of tokens that count, and there are none without the option. -/
theorem mem_occurring_iff (h : Aggregates options tokens t) (kind : TokenKind) (n : Nat) :
    (kind, n) ∈ t.occurring ↔ options.countKinds ∧ n ≠ 0 ∧
      n = (counted options tokens).countP (·.kind == kind) := by
  rw [mem_occurring, h.count_eq]
  cases options.countKinds with
  | false => simp
  | true => simp

end Aggregates

/-! ## The kinds together -/

/-- Each token is of one kind. -/
theorem sum_countP_kind (tokens : List Token) :
    (TokenKind.all.map fun kind => tokens.countP (·.kind == kind)).foldr (· + ·) 0 =
      tokens.length := by
  have hcons : ∀ (kinds : List TokenKind) (token : Token) (tokens : List Token),
      (kinds.map fun kind => (token :: tokens).countP (·.kind == kind)).foldr (· + ·) 0 =
        (kinds.map fun kind => tokens.countP (·.kind == kind)).foldr (· + ·) 0 +
          kinds.countP (token.kind == ·) := by
    intro kinds token tokens
    induction kinds with
    | nil => rfl
    | cons kind kinds ih =>
      rw [List.map_cons, List.foldr_cons, ih, List.map_cons, List.foldr_cons, List.countP_cons,
        List.countP_cons]
      omega
  induction tokens with
  | nil => decide
  | cons token tokens ih =>
    have hone : TokenKind.all.countP (token.kind == ·) = 1 := by cases token.kind <;> rfl
    rw [hcons, ih, hone, List.length_cons]

end Tally

/-! ## Sources that scan -/

namespace Scan.Tiling
variable {source : List Char} {tiles : List Tile}

/-- A token stands on the line that the line feeds before its slice lead to. -/
theorem line_eq (h : Tiling source tiles) {before after : List Tile} {tile : Tile}
    (hsplit : tiles = before ++ tile :: after) :
    tile.token.line = (before.flatMap Tile.cover ++ tile.gap).count '\n' + 1 := by
  have hline := (h.located before tile after hsplit).1
  rw [Position.line_advanceAll, Nat.add_comm] at hline
  exact hline

/-- The last token ends the source, and stands on its last line; no other token does the one or
stands further down. -/
theorem exists_last (h : Tiling source tiles) :
    ∃ init last, tiles.map Tile.token = init ++ [last] ∧ last.isEnd ∧
      (∀ token ∈ init, token.isEnd = false) ∧
      last.line = (LineIndex.ofSource source).lineCount ∧
      ∀ token ∈ init, token.line ≤ (LineIndex.ofSource source).lineCount := by
  obtain ⟨init, last, htiles, hend, hslice, hinit⟩ := h.ends
  refine ⟨init.map Tile.token, last.token, by rw [htiles]; simp, hend, ?_, ?_, ?_⟩
  · intro token htoken
    obtain ⟨tile, htile, rfl⟩ := List.mem_map.mp htoken
    exact (hinit tile htile).1
  · have hcover := h.cover_eq
    rw [htiles, List.flatMap_append, List.flatMap_singleton, Tile.cover, hslice,
      List.append_nil] at hcover
    rw [h.line_eq htiles, ← hcover, LineIndex.lineCount_ofSource]
  · intro token htoken
    obtain ⟨tile, htile, rfl⟩ := List.mem_map.mp htoken
    obtain ⟨before, after, hsplit⟩ := List.append_of_mem (a := tile) (l := tiles)
      (htiles ▸ List.mem_append_left [last] htile)
    have hcover := h.cover_eq
    rw [hsplit, List.flatMap_append, List.flatMap_cons, Tile.cover, List.append_assoc tile.gap,
      ← List.append_assoc] at hcover
    have hfront : before.flatMap Tile.cover ++ tile.gap <+: source := ⟨_, hcover.symm⟩
    rw [h.line_eq hsplit, LineIndex.lineCount_ofSource]
    exact Nat.succ_le_succ (hfront.sublist.count_le '\n')

end Scan.Tiling

namespace Tally.Aggregates
variable {options : ScanOptions} {tokens : List Token} {t : Tally}

theorem not_isEnd_of_isComment {token : Token} (h : token.kind.isComment) :
    token.isEnd = false := by
  unfold Token.isEnd
  cases hkind : token.kind <;> simp_all [TokenKind.isComment]

theorem counts_of_isEnd {token : Token} (h : token.isEnd) : options.counts token := by
  unfold ScanOptions.counts
  cases hcomment : token.kind.isComment with
  | false => simp
  | true => simp [not_isEnd_of_isComment hcomment] at h

/-- The comments are what is left out of the total. -/
theorem total_add_comments (h : Aggregates options tokens t) :
    t.total + (if options.countComments then 0 else t.comments) = tokens.countP (!·.isEnd) := by
  rw [h.total_eq, counted]
  cases hcomments : options.countComments with
  | true =>
    have hcounts : options.counts = fun _ => true := by
      funext token
      simp [ScanOptions.counts, hcomments]
    rw [hcounts, List.filter_true]
    rfl
  | false =>
    have hcounts : options.counts = fun token => !token.kind.isComment := by
      funext token
      simp [ScanOptions.counts, hcomments]
    have hleft : (tokens.filter fun token => !!token.kind.isComment).countP (!·.isEnd) =
        tokens.countP (·.kind.isComment) := by
      rw [List.countP_filter]
      apply List.countP_congr
      intro token _
      cases hkind : token.kind.isComment with
      | false => simp
      | true => simp [not_isEnd_of_isComment hkind]
    rw [hcounts, List.countP_eq_countP_filter_add tokens _ (fun token => !token.kind.isComment),
      hleft, h.comments_eq]
    rfl

section Ending
variable {init : List Token} {last : Token}

/-- The end of input counts as a token of its kind. -/
theorem counted_concat (hlast : last.isEnd) :
    counted options (init ++ [last]) = counted options init ++ [last] := by
  rw [counted, List.filter_append, List.filter_singleton, counts_of_isEnd hlast]
  rfl

/-- Of the tokens that count only the end of input is not in the total. -/
theorem length_counted (h : Aggregates options (init ++ [last]) t) (hlast : last.isEnd)
    (hinit : ∀ token ∈ init, token.isEnd = false) :
    (counted options (init ++ [last])).length = t.total + 1 := by
  have hall : (counted options init).countP (!·.isEnd) = (counted options init).length := by
    rw [List.countP_eq_length]
    intro token htoken
    rw [hinit token (List.mem_of_mem_filter htoken)]
    rfl
  rw [h.total_eq, counted_concat hlast, List.countP_append, hall, List.length_append,
    List.countP_singleton, hlast]
  rfl

theorem lastLine_eq (h : Aggregates options (init ++ [last]) t) (hlast : last.isEnd)
    (hinit : ∀ token ∈ init, token.line ≤ last.line) : t.lastLine = last.line := by
  have hlines := h.lastLine
  rw [counted_concat hlast] at hlines
  refine hlines.unique ⟨?_, .inl (by simp)⟩
  intro line hline
  obtain ⟨token, htoken, rfl⟩ := List.mem_map.mp hline
  rcases List.mem_append.mp htoken with htoken | htoken
  · exact hinit token (List.mem_of_mem_filter htoken)
  · rw [List.mem_singleton.mp htoken]

end Ending

/-- The kinds together come to all tokens that count. -/
theorem sum_count (h : Aggregates options tokens t) (hon : options.countKinds) :
    (TokenKind.all.map t.count).foldr (· + ·) 0 = (counted options tokens).length := by
  have hcount : t.count = fun kind => (counted options tokens).countP (·.kind == kind) := by
    funext kind
    rw [h.count_eq, if_pos hon]
  rw [hcount, sum_countP_kind]

end Tally.Aggregates

namespace Listing
open Diagnostics

/-- The tally agrees with the tokens of the listing and with the lines of the text. -/
structure Reconciles (options : ScanOptions) (text : String) (l : Listing) : Prop where
  tally_eq : l.tally = Tally.ofTokens options l.tokens.toList
  total_eq : l.tally.total + (if options.countComments then 0 else l.tally.comments) = l.size
  sum_eq : options.countKinds →
    (TokenKind.all.map l.tally.count).foldr (· + ·) 0 = l.tally.total + 1
  lastLine_eq : l.tally.lastLine = (LineIndex.ofSource text.toList).lineCount

/-- The time has no part in this. -/
theorem reconciles_untimed {options : ScanOptions} {text : String} {l : Listing}
    (h : Reconciles options text l.untimed) : Reconciles options text l :=
  ⟨h.tally_eq, h.total_eq, h.sum_eq, h.lastLine_eq⟩

theorem exists_ok_of_untimed {result outcome : Except ListingError Listing}
    (h : result.map untimed = outcome) (hok : outcome.isOk) : ∃ l, result = .ok l := by
  cases result with
  | error e =>
    rw [← h] at hok
    cases hok
  | ok l => exact ⟨l, rfl⟩

theorem reconciles_of_textOutcome {options : ScanOptions} {name text : String}
    {facts? : Option FileFacts} {l : Listing} (h : textOutcome options name facts? text = .ok l) :
    Reconciles options text l := by
  have hok : tokenize text = .ok l.tokens.toList := by
    have htokens := tokens_textOutcome options name facts? text
    rw [h] at htokens
    exact (exists_ok_iff_of_map_eq htokens _).mp ⟨l, rfl, rfl⟩
  have htally : l.tally = Tally.ofTokens options l.tokens.toList := by
    unfold textOutcome at h
    split at h
    · cases h
    · cases h
      rw [Tally.ofTokens, Array.foldl_toList]
  obtain ⟨tiles, htiles, -, htokens⟩ := tokenize_eq_ok_iff.mp hok
  obtain ⟨init, last, hsplit, hlast, hinit, hline, hlines⟩ := htiles.tiling.exists_last
  rw [hsplit] at htokens
  have haggregates := Tally.Aggregates.ofTokens options l.tokens.toList
  rw [← htally] at haggregates
  refine ⟨htally, haggregates.total_add_comments, fun hon => ?_, ?_⟩
  · rw [haggregates.sum_count hon]
    rw [htokens] at haggregates ⊢
    exact haggregates.length_counted hlast hinit
  · rw [htokens] at haggregates
    rw [← hline] at hlines ⊢
    exact haggregates.lastLine_eq hlast hlines

/-- Whatever the tokens, the tally is what they come to, and their order does not matter. The tally
of a listing of a text or a file agrees with the number of its tokens, and with the lines of what
was read. -/
theorem tally_aggregates :
    (∀ (options : ScanOptions) (tokens : List Token),
      (Tally.ofTokens options tokens).Aggregates options tokens ∧
      (∀ kind n, (kind, n) ∈ (Tally.ofTokens options tokens).occurring ↔
        options.countKinds ∧ n ≠ 0 ∧ n = (Tally.counted options tokens).countP (·.kind == kind)) ∧
      ∀ tokens', tokens.Perm tokens' →
        Tally.ofTokens options tokens = Tally.ofTokens options tokens') ∧
    (∀ options name text s l, (ofText options name text s).1 = .ok l →
      Reconciles options text l) ∧
    ∀ settings t p id s l, (ofFile settings t p id s).1 = .ok l →
      ∃ text facts, (settings.files.read t p).2 = .ok (text, facts) ∧
        Reconciles settings.scan text l := by
  refine ⟨fun options tokens => ?_, fun options name text s l h => ?_,
    fun settings t p id s l h => ?_⟩
  · have haggregates := Tally.Aggregates.ofTokens options tokens
    refine ⟨haggregates, haggregates.mem_occurring_iff, fun tokens' hperm => ?_⟩
    exact (haggregates.perm hperm).unique (.ofTokens options tokens')
  · have houtcome := untimed_ofText options name text s
    rw [h] at houtcome
    exact reconciles_untimed (reconciles_of_textOutcome houtcome.symm)
  · have houtcome := untimed_ofFile settings t p id s
    rw [h, fileOutcome] at houtcome
    cases hread : (settings.files.read t p).2 with
    | error e =>
      rw [hread] at houtcome
      cases houtcome
    | ok found =>
      rw [hread] at houtcome
      exact ⟨found.1, found.2, rfl, reconciles_untimed (reconciles_of_textOutcome houtcome.symm)⟩

/-- One source with a comment, which does not count. -/
def remarked : FileTree where
  root := .directory [("A.java", .file "int a; // b\n".toUTF8)]
  working := []

/-- Tokens in two orders, and a listing of a text and of a file. -/
theorem tally_aggregates_remarked :
    (let options : ScanOptions := { countComments := false }
     let tokens : List Token := [⟨.textBlock, "a\nb", 2, 1⟩, ⟨.singleLineComment, "// c", 3, 1⟩]
     Tally.ofTokens options tokens = Tally.ofTokens options tokens.reverse) ∧
    (∃ l, (ofText { countComments := false } "A.java" "int a; // b\n" {}).1 = .ok l ∧
      Reconciles { countComments := false } "int a; // b\n" l) ∧
    ∃ l text, (ofFile { scan := { countComments := false } } remarked ⟨"/A.java"⟩ 0 {}).1 = .ok l ∧
      Reconciles { countComments := false } text l := by
  obtain ⟨haggregates, htext, hfile⟩ := tally_aggregates
  refine ⟨(haggregates _ _).2.2 _ (List.reverse_perm _).symm, ?_, ?_⟩
  · obtain ⟨l, hlisting⟩ := exists_ok_of_untimed
      (untimed_ofText { countComments := false } "A.java" "int a; // b\n" {}) (by decide +kernel)
    exact ⟨l, hlisting, htext _ _ _ _ l hlisting⟩
  · obtain ⟨l, hlisting⟩ := exists_ok_of_untimed
      (untimed_ofFile { scan := { countComments := false } } remarked ⟨"/A.java"⟩ 0 {})
      (by decide +kernel)
    obtain ⟨text, -, -, hreconciles⟩ := hfile _ _ _ _ _ l hlisting
    exact ⟨l, text, hlisting, hreconciles⟩

end Listing
end JavaLex
