import JavaLex.Proofs.Lexeme.Failing
import JavaLex.Proofs.Lexeme.Reading
import JavaLex.Proofs.Lexicon.LineEnd

/-! # Lexemes and line ends

Each recognizer makes the same of a text and of the text with a carriage return before each line
feed: nothing of both, or tokens of one kind that cover corresponding slices, or the same fault. The
searches for a closer come to corresponding places, since no closer holds an end of a line and an
escape that takes the carriage return leaves the line feed to stand for itself. What has no closer
ends with its line at the latest.
-/
namespace JavaLex.Scan.Lexeme
open Lexicon Text

/-! ## Searches -/

/-- Two searches, one of the text and one of its other form, come to corresponding places before the
closer, or both to none. They started with these counts. -/
inductive SamePlace (closer s : List Char) (n m : Nat) : Option Nat → Option Nat → Prop where
  | nowhere : SamePlace closer s n m none none
  | after (taken rest : List Char) : s = taken ++ (closer ++ rest) →
      SamePlace closer s n m (some (n + taken.length)) (some (m + (crlf taken).length))

section Search
variable {closer s : List Char} {n m : Nat} {found found' : Option Nat}

theorem SamePlace.append (w : List Char)
    (h : SamePlace closer s (n + w.length) (m + (crlf w).length) found found') :
    SamePlace closer (w ++ s) n m found found' := by
  cases h with
  | nowhere => exact .nowhere
  | after taken rest hs =>
    have hplace : SamePlace closer (w ++ s) n m (some (n + (w ++ taken).length))
        (some (m + (crlf (w ++ taken)).length)) :=
      .after (w ++ taken) rest (by rw [hs, List.append_assoc])
    simpa [Nat.add_assoc] using hplace

theorem SamePlace.cons {c : Char} (hc : c ≠ '\n')
    (h : SamePlace closer s (n + 1) (m + 1) found found') :
    SamePlace closer (c :: s) n m found found' :=
  SamePlace.append [c] (by simpa [crlf_cons hc] using h)

theorem SamePlace.lineFeed (h : SamePlace closer s (n + 1) (m + 2) found found') :
    SamePlace closer ('\n' :: s) n m found found' :=
  SamePlace.append ['\n'] h

theorem SamePlace.here (h : closer <+: s) : SamePlace closer s n m (some n) (some m) := by
  obtain ⟨rest, rfl⟩ := h
  exact .after [] rest rfl

theorem SamePlace.cases (h : SamePlace closer s 0 0 found found') :
    found = none ∧ found' = none ∨ ∃ taken rest, s = taken ++ (closer ++ rest) ∧
      found = some taken.length ∧ found' = some (crlf taken).length := by
  cases h with
  | nowhere => exact .inl ⟨rfl, rfl⟩
  | after taken rest hs => exact .inr ⟨taken, rest, hs, by simp, by simp⟩

theorem commentLength?_cons (n : Nat) (c : Char) (s : List Char) : commentLength? n (c :: s) =
    if commentCloser <+: c :: s then some (n + 2) else commentLength? (n + 1) s := by
  by_cases h : commentCloser <+: c :: s
  · obtain ⟨rest, hrest⟩ := h
    rw [← hrest, if_pos (List.prefix_append _ _)]
    rfl
  · rw [if_neg h, commentLength?.eq_3]
    rintro rest rfl rfl
    exact h ⟨rest, rfl⟩

/-- The count of a comment takes its closer along, so nothing comes after the place. -/
theorem samePlace_comment (s : List Char) (n m : Nat) :
    SamePlace [] s n m (commentLength? n s) (commentLength? m (crlf s)) := by
  induction s generalizing n m with
  | nil => exact .nowhere
  | cons c s ih =>
    by_cases hc : c = '\n'
    · subst hc
      rw [crlf_lineFeed, commentLength?_cons, commentLength?_cons, commentLength?_cons]
      simp only [commentCloser, List.cons_prefix_cons]
      exact (ih (n + 1) (m + 2)).lineFeed
    · have hcloser : commentCloser <+: c :: crlf s ↔ commentCloser <+: c :: s :=
        prefix_cons_crlf_iff hc (by decide) (by decide)
      rw [crlf_cons hc, commentLength?_cons, commentLength?_cons]
      by_cases hs : commentCloser <+: c :: s
      · obtain ⟨rest, hrest⟩ := hs
        rw [if_pos (hcloser.mpr ⟨rest, hrest⟩), if_pos ⟨rest, hrest⟩, ← hrest]
        exact .after commentCloser rest rfl
      · rw [if_neg (mt hcloser.mp hs), if_neg hs]
        exact (ih (n + 1) (m + 1)).cons hc

/-- A search that passes over escapes, for a closer that holds no end of a line. -/
structure Search (closer : List Char) (find : Nat → List Char → Option Nat) : Prop where
  closer_ne_nil : closer ≠ []
  lineFeed_not_mem : '\n' ∉ closer
  return_not_mem : '\r' ∉ closer
  nil : ∀ n, find n [] = none
  cut : ∀ n, find n ['\\'] = none
  escape : ∀ n c s, find n ('\\' :: c :: s) = find (n + 2) s
  cons : ∀ n c s, c ≠ '\\' →
    find n (c :: s) = if closer <+: c :: s then some n else find (n + 1) s

theorem quotedLength?_search {quote : Char} (hfeed : quote ≠ '\n') (hreturn : quote ≠ '\r') :
    Search [quote] (quotedLength? quote) where
  closer_ne_nil := by simp
  lineFeed_not_mem := by simpa using hfeed.symm
  return_not_mem := by simpa using hreturn.symm
  nil _ := rfl
  cut _ := by rw [quotedLength?]
  escape _ _ _ := by rw [quotedLength?]
  cons n c s hc := by
    rw [quotedLength?.eq_4 _ _ _ _ (by simp [hc]) (by simp [hc])]
    simp [eq_comm]

theorem blockLength?_search : Search blockDelimiter blockLength? where
  closer_ne_nil := by decide
  lineFeed_not_mem := by decide
  return_not_mem := by decide
  nil _ := rfl
  cut _ := by rw [blockLength?]
  escape _ _ _ := by rw [blockLength?]
  cons n c s hc := by
    by_cases h : blockDelimiter <+: c :: s
    · obtain ⟨rest, hrest⟩ := h
      rw [← hrest, if_pos (List.prefix_append _ _)]
      rfl
    · rw [if_neg h, blockLength?.eq_5 _ _ _ (by simp [hc]) (by simp [hc])]
      rintro rest rfl rfl
      exact h ⟨rest, rfl⟩

section Places
variable {find : Nat → List Char → Option Nat} (hfind : Search closer find)
include hfind

theorem Search.pass {c : Char} (hc : c ∉ closer) (hslash : c ≠ '\\') (n : Nat) (s : List Char) :
    find n (c :: s) = find (n + 1) s := by
  rw [hfind.cons n c s hslash, if_neg]
  intro hcloser
  obtain ⟨q, tail, rfl⟩ := List.exists_cons_of_ne_nil hfind.closer_ne_nil
  obtain rfl : q = c := (List.cons_prefix_cons.mp hcloser).1
  exact hc List.mem_cons_self

theorem Search.lineFeed (n : Nat) (s : List Char) : find n ('\n' :: s) = find (n + 1) s :=
  hfind.pass hfind.lineFeed_not_mem (by decide) n s

theorem Search.carriageReturn (n : Nat) (s : List Char) : find n ('\r' :: s) = find (n + 1) s :=
  hfind.pass hfind.return_not_mem (by decide) n s

/-- An escape may take the carriage return, and then the line feed is passed over alone. -/
theorem Search.samePlace (s : List Char) (n m : Nat) :
    SamePlace closer s n m (find n s) (find m (crlf s)) := by
  induction hlen : s.length using Nat.strong_induction_on generalizing s n m with
  | _ len ih =>
    subst hlen
    cases s with
    | nil =>
      rw [crlf_nil, hfind.nil, hfind.nil]
      exact .nowhere
    | cons c s =>
      by_cases hslash : c = '\\'
      · subst hslash
        rw [crlf_cons (by decide)]
        cases s with
        | nil =>
          rw [crlf_nil, hfind.cut, hfind.cut]
          exact .nowhere
        | cons d s =>
          have hless : s.length < s.length + 1 + 1 := by omega
          by_cases hd : d = '\n'
          · subst hd
            rw [crlf_lineFeed, hfind.escape, hfind.escape, hfind.lineFeed]
            exact .append ['\\', '\n'] (ih _ hless s _ _ rfl)
          · rw [crlf_cons hd, hfind.escape, hfind.escape]
            exact .cons (by decide) (.cons hd (ih _ hless s _ _ rfl))
      · by_cases hc : c = '\n'
        · subst hc
          rw [crlf_lineFeed, hfind.carriageReturn, hfind.lineFeed, hfind.lineFeed]
          exact (ih _ (by simp) s _ _ rfl).lineFeed
        · have hcloser : closer <+: c :: crlf s ↔ closer <+: c :: s :=
            prefix_cons_crlf_iff hc hfind.lineFeed_not_mem hfind.return_not_mem
          rw [crlf_cons hc, hfind.cons n c s hslash, hfind.cons m c _ hslash]
          by_cases hs : closer <+: c :: s
          · rw [if_pos hs, if_pos (hcloser.mpr hs)]
            exact .here hs
          · rw [if_neg hs, if_neg (mt hcloser.mp hs)]
            exact (ih _ (by simp) s _ _ rfl).cons hc

end Places
end Search

/-! ## Recognizers -/

/-- The texts of corresponding tokens. A string, a character and a block comment hold the line ends
of their source, and a line comment the carriage return at the end of its line. -/
def SameText : TokenKind → List Char → List Char → Prop
  | .string, text, text' => text' = crlf text
  | .character, text, text' => text' = crlf text
  | .multiLineComment, text, text' => text' = crlf text
  | .singleLineComment, text, text' => text' = text ∨ text' = text ++ ['\r']
  | _, text, text' => text' = text

theorem SameText.of_plain {kind : TokenKind} (h : kind ∈ plainKinds) (text : List Char) :
    SameText kind text text := by
  cases kind <;> first | rfl | exact absurd h (by decide)

/-- What is read at the head of a text and at the head of its other form. The second token may take
some whitespace more. -/
inductive Matches (s : List Char) : Lexeme → Lexeme → Prop where
  | token (slice rest cut : List Char) {kind : TokenKind} {text text' : List Char} {n n' : Nat} :
      s = slice ++ rest → cut <+: crlf rest → Blank cut → SameText kind text text' →
      n = slice.length → n' = (crlf slice ++ cut).length →
      Matches s (.token kind text n) (.token kind text' n')
  | failure (fault : Fault) (n n' : Nat) : Matches s (.failure fault n) (.failure fault n')

/-- A recognizer does not tell the two forms of a text apart. -/
def Insensitive (f : List Char → Option Lexeme) : Prop :=
  ∀ c s, c ≠ '\n' → '\r' ∉ s → Option.Rel (Matches (c :: s)) (f (c :: s)) (f (c :: crlf s))

theorem Insensitive.orElse {f g : List Char → Option Lexeme} (hf : Insensitive f)
    (hg : Insensitive g) : Insensitive fun s => f s <|> g s := by
  intro c s hc hs
  have hfirst := hf c s hc hs
  change Option.Rel _ (f (c :: s) <|> g (c :: s)) (f (c :: crlf s) <|> g (c :: crlf s))
  generalize f (c :: s) = lexeme, f (c :: crlf s) = lexeme' at hfirst
  cases hfirst with
  | none => exact hg c s hc hs
  | some hmatches => exact .some hmatches

/-- A lexeme that takes exactly the slice in both forms. -/
theorem Matches.of_slice (slice rest : List Char) {s text text' : List Char} {kind : TokenKind}
    {n n' : Nat} (hs : s = slice ++ rest) (htext : SameText kind text text') (hn : n = slice.length)
    (hn' : n' = (crlf slice).length) : Matches s (.token kind text n) (.token kind text' n') :=
  .token slice rest [] hs List.nil_prefix (by simp [Blank]) htext hn (by simpa using hn')

/-- A line comment goes on up to the line feed and so takes the carriage return before it. -/
theorem comment?_line (r : List Char) :
    Option.Rel (Matches ('/' :: '/' :: r)) (comment? ('/' :: '/' :: r))
      (comment? ('/' :: '/' :: crlf r)) := by
  have hread {body rest : List Char} (hbody : '\n' ∉ body) (hrest : ∀ c ∈ rest.head?, c = '\n') :
      comment? ('/' :: '/' :: (body ++ rest)) =
        some (.token .singleLineComment ('/' :: '/' :: body) (body.length + 2)) :=
    (comment?_recognizes _ _ _ _).mpr
      ⟨'/' :: '/' :: body, rest, rfl, rfl, .line hbody hrest⟩
  obtain ⟨line, rest, rfl, hline, hrest⟩ := exists_line r
  have hslice : crlf ('/' :: '/' :: line) = '/' :: '/' :: line :=
    crlf_of_not_mem (by simpa using hline)
  rw [crlf_append, crlf_of_not_mem hline, hread hline hrest]
  cases rest with
  | nil =>
    rw [crlf_nil, hread hline (by simp)]
    exact .some (.of_slice ('/' :: '/' :: line) [] rfl (.inl rfl) rfl (by rw [hslice]; rfl))
  | cons d rest =>
    obtain rfl : d = '\n' := hrest d rfl
    have hreturn : '\n' ∉ line ++ ['\r'] := by simpa using hline
    rw [crlf_lineFeed, List.append_cons line '\r', hread hreturn (by simp)]
    refine .some (.token ('/' :: '/' :: line) ('\n' :: rest) ['\r'] rfl
      (by simp) (by decide) (.inr rfl) rfl ?_)
    rw [hslice]
    rfl

theorem comment?_block (r : List Char) :
    Option.Rel (Matches ('/' :: '*' :: r)) (comment? ('/' :: '*' :: r))
      (comment? ('/' :: '*' :: crlf r)) := by
  obtain ⟨hnone, hnone'⟩ | ⟨taken, rest, rfl, hsome, hsome'⟩ := (samePlace_comment r 0 0).cases
  · simp only [comment?, closedComment?_opener, hnone, hnone', Option.map_none]
    exact .some (.failure _ _ _)
  · rw [List.nil_append, crlf_append] at *
    simp only [comment?, closedComment?_opener, hsome, hsome', Option.map_some, List.take_left]
    exact .some (.of_slice ('/' :: '*' :: taken) rest rfl rfl rfl rfl)

theorem comment?_insensitive : Insensitive comment? := by
  intro c s hc _
  by_cases hline : ['/', '/'] <+: c :: s
  · obtain ⟨r, hr⟩ := hline
    obtain ⟨rfl, rfl⟩ := List.cons.inj hr
    exact comment?_line r
  · by_cases hblock : ['/', '*'] <+: c :: s
    · obtain ⟨r, hr⟩ := hblock
      obtain ⟨rfl, rfl⟩ := List.cons.inj hr
      exact comment?_block r
    · rw [comment?_eq_none_iff.mpr ⟨hline, hblock⟩, comment?_eq_none_iff.mpr ⟨_, _⟩]
      · exact .none
      · rwa [prefix_cons_crlf_iff hc (by decide) (by decide)]
      · rwa [prefix_cons_crlf_iff hc (by decide) (by decide)]

/-- What is read after an opening quote. -/
def quoted (quote : Char) (kind : TokenKind) (s : List Char) : Lexeme :=
  match quotedLength? quote 0 s with
  | some n => .token kind (s.take n) (n + 2)
  | none => .failure .unexpectedEndOfInput (s.length + 1)

theorem string?_quoted {s : List Char} (h : ¬ ['"', '"'] <+: s) :
    string? ('"' :: s) = some (quoted '"' .string s) := by
  rw [string?.eq_2]
  · unfold quoted
    cases quotedLength? '"' 0 s <;> rfl
  · rintro t rfl
    exact h ⟨t, rfl⟩

theorem character?_quoted {s : List Char} (h : ¬ ['\''] <+: s) :
    character? ('\'' :: s) = some (quoted '\'' .character s) := by
  rw [character?.eq_2]
  · unfold quoted
    cases quotedLength? '\'' 0 s <;> rfl
  · rintro t rfl
    exact h ⟨t, rfl⟩

theorem quoted_matches {quote : Char} (hfeed : quote ≠ '\n') (hreturn : quote ≠ '\r')
    {kind : TokenKind} (htext : ∀ text, SameText kind text (crlf text)) (s : List Char) :
    Matches (quote :: s) (quoted quote kind s) (quoted quote kind (crlf s)) := by
  obtain ⟨hnone, hnone'⟩ | ⟨taken, rest, rfl, hsome, hsome'⟩ :=
    ((quotedLength?_search hfeed hreturn).samePlace s 0 0).cases
  · rw [quoted, quoted, hnone, hnone']
    exact .failure _ _ _
  · rw [crlf_append] at *
    simp only [quoted, hsome, hsome', List.take_left]
    exact .of_slice (quote :: (taken ++ [quote])) rest (by simp) (htext _)
      (by simp) (by simp [crlf_cons hfeed])

theorem textBlock_matches {s : List Char} (h : '\r' ∉ s) :
    Matches (blockDelimiter ++ s) (textBlock s) (textBlock (crlf s)) := by
  obtain ⟨blank, hblank, hs⟩ := exists_opening s
  have hfeed : '\n' ∉ blank := fun hmem => (hblank _ hmem).2 rfl
  obtain rfl | ⟨body, rfl⟩ | ⟨c, rest, hc, rfl⟩ := hs
  · rw [crlf_of_not_mem hfeed, textBlock_of_opening hblank]
    exact .failure _ _ _
  · have hblank' : Opening (blank ++ ['\r']) := by
      rw [Opening, List.forall_mem_append]
      exact ⟨hblank, by simpa using (by decide : isWhitespace '\r')⟩
    rw [crlf_append, crlf_of_not_mem hfeed, crlf_lineFeed, List.append_cons blank '\r']
    obtain ⟨hnone, hnone'⟩ | ⟨taken, rest, rfl, hsome, hsome'⟩ :=
      (blockLength?_search.samePlace body 0 0).cases
    · rw [textBlock_of_unclosed hblank hnone, textBlock_of_unclosed hblank' hnone']
      exact .failure _ _ _
    · have hreturn : '\r' ∉ taken := fun hmem => h (by simp [hmem])
      rw [textBlock_of_closed hblank hsome, textBlock_of_closed hblank' hsome', crlf_append,
        List.take_left, List.take_left, stripIndent_crlf hreturn]
      refine .of_slice (blockDelimiter ++ (blank ++ '\n' :: (taken ++ blockDelimiter))) rest
        (by simp) rfl ?_ ?_
      · simp [blockDelimiter]
        omega
      · simp [blockDelimiter, crlf_cons, crlf_of_not_mem hfeed]
        omega
  · rw [crlf_append, crlf_of_not_mem hfeed, crlf_cons (ne_of_not_isWhitespace hc).1,
      textBlock_other hblank hc, textBlock_other hblank hc]
    exact .failure _ _ _

theorem string?_insensitive : Insensitive string? := by
  intro c s _ hs
  by_cases hquote : c = '"'
  · subst hquote
    have hopener : ['"', '"'] <+: crlf s ↔ ['"', '"'] <+: s :=
      prefix_crlf_iff (by decide) (by decide)
    by_cases hblock : ['"', '"'] <+: s
    · obtain ⟨r, rfl⟩ := hblock
      exact .some (textBlock_matches (by simpa using hs))
    · rw [string?_quoted hblock, string?_quoted (mt hopener.mp hblock)]
      exact .some (quoted_matches (by decide) (by decide) (fun _ => by rfl) s)
  · rw [string?_eq_none_iff.mpr hquote, string?_eq_none_iff.mpr hquote]
    exact .none

theorem character?_insensitive : Insensitive character? := by
  intro c s _ _
  by_cases hquote : c = '\''
  · subst hquote
    have hempty : ['\''] <+: crlf s ↔ ['\''] <+: s := prefix_crlf_iff (by decide) (by decide)
    by_cases hs : ['\''] <+: s
    · obtain ⟨r, rfl⟩ := hs
      exact .some (.failure _ _ _)
    · rw [character?_quoted hs, character?_quoted (mt hempty.mp hs)]
      exact .some (quoted_matches (by decide) (by decide) (fun _ => by rfl) s)
  · rw [character?_eq_none_iff.mpr hquote, character?_eq_none_iff.mpr hquote]
    exact .none

/-- What has no closer is read within its line. -/
theorem Plain.insensitive {f : List Char → Option Lexeme} (hplain : Plain f)
    (hcontext : Contextual f) (hspells : Spells f) : Insensitive f := by
  intro c s hc _
  obtain ⟨line, rest, rfl, hline, hrest⟩ := exists_line s
  have hread {t : List Char} (ht : Apart t) : f (c :: (line ++ t)) = f (c :: line) := by
    cases hf : f (c :: line) with
    | none => exact hcontext.none_append ht hf
    | some lexeme =>
      obtain ⟨kind, hkind, text, n, rfl⟩ := hplain _ _ hf
      refine hcontext.token_append ⟨ht, ?_⟩ hf
      rintro rfl
      exact absurd hkind (by decide)
  have hrest' : Apart rest := by
    intro d hd
    rw [hrest d hd]
    decide
  have hcrlf : Apart (crlf rest) := by
    cases rest with
    | nil => exact hrest'
    | cons d rest =>
      obtain rfl : d = '\n' := hrest d rfl
      simpa [Apart] using (by decide : isWhitespace '\r')
  rw [crlf_append, crlf_of_not_mem hline, hread hrest', hread hcrlf]
  cases hf : f (c :: line) with
  | none => exact .none
  | some lexeme =>
    obtain ⟨kind, hkind, text, n, rfl⟩ := hplain _ _ hf
    obtain ⟨slice, left, hslice, rfl, -⟩ := hspells hf
    have hfeed : '\n' ∉ slice := by
      have hall : '\n' ∉ slice ++ left := by
        rw [← hslice]
        simpa using ⟨hc.symm, hline⟩
      exact fun hmem => hall (List.mem_append_left _ hmem)
    exact .some (.of_slice slice (left ++ rest)
      (by rw [← List.append_assoc, ← hslice, List.cons_append]) (.of_plain hkind text) rfl
      (by rw [crlf_of_not_mem hfeed]))

theorem recognize?_insensitive : Insensitive recognize? :=
  comment?_insensitive.orElse <| string?_insensitive.orElse <| character?_insensitive.orElse <|
    (number?_plain.insensitive number?_contextual number?_spells).orElse <|
      (word?_plain.insensitive word?_contextual word?_spells).orElse <|
        (separator?_plain.insensitive separator?_contextual separator?_spells).orElse
          (operator?_plain.insensitive operator?_contextual operator?_spells)

/-- Lexemes at corresponding places match. -/
theorem read_matches {c : Char} {s : List Char} (hc : c ≠ '\n') (hs : '\r' ∉ s) :
    Matches (c :: s) (read c s) (read c (crlf s)) := by
  have hrecognize := recognize?_insensitive c s hc hs
  unfold read
  generalize recognize? (c :: s) = lexeme, recognize? (c :: crlf s) = lexeme' at hrecognize
  cases hrecognize with
  | none => exact .failure _ _ _
  | some hmatches => exact hmatches

theorem Reads.crlf {kind : TokenKind} {text slice rest : List Char}
    (h : Reads kind text slice rest) (hreturn : '\r' ∉ slice ++ rest) :
    ∃ text' cut rest', SameText kind text text' ∧ Blank cut ∧ Text.crlf rest = cut ++ rest' ∧
      Reads kind text' (Text.crlf slice ++ cut) rest' := by
  obtain ⟨c, s, rfl, hc, hread⟩ := h
  have hfeed := (ne_of_not_isWhitespace hc).1
  have hmatches := read_matches (s := s ++ rest) hfeed (fun hmem => hreturn (.tail c hmem))
  rw [hread] at hmatches
  generalize hother : read c (Text.crlf (s ++ rest)) = lexeme at hmatches
  cases hmatches with
  | @token slice' rest' cut _ _ text' _ n' hs hcut hblank htext hlength hn' =>
    obtain ⟨rfl, rfl⟩ := List.append_inj (hs : c :: s ++ rest = slice' ++ rest') hlength
    obtain ⟨left, hleft⟩ := hcut
    refine ⟨text', cut, left, htext, hblank, hleft.symm, c, Text.crlf s ++ cut, ?_, hc, ?_⟩
    · rw [crlf_cons hfeed, List.cons_append]
    · rw [List.append_assoc, hleft, ← crlf_append, hother, hn']

theorem read_crlf_failure {c : Char} {s : List Char} {fault : Fault} {n : Nat} (hc : c ≠ '\n')
    (hs : '\r' ∉ s) (h : read c s = .failure fault n) :
    ∃ n', read c (Text.crlf s) = .failure fault n' := by
  have hmatches := read_matches hc hs
  rw [h] at hmatches
  generalize read c (Text.crlf s) = lexeme at hmatches ⊢
  cases hmatches with
  | failure => exact ⟨_, rfl⟩

end JavaLex.Scan.Lexeme
