import JavaLex.Proofs.Listing.Pointing
import JavaLex.Proofs.Text.Pieces

/-! # The tokens before a failure

The report on a scan that fails may come after one that lists the tokens found up to there. They are
the tokens that the stream hands out before the error. Each is shown on a line of its own, since the
line feeds of its text are spelled out, so the lines of the list are the tokens.
-/
namespace JavaLex
open Diagnostics Scan Session

/-! ## A token on one line -/

namespace Text

theorem lineFeed_ne_digitChar {n : Nat} (h : n < 16) : '\n' ≠ n.digitChar := by
  have hdigits : ∀ d : Fin 16, '\n' ≠ Nat.digitChar d := by decide
  exact hdigits ⟨n, h⟩

theorem lineFeed_not_mem_hexDigits (n : Nat) : '\n' ∉ hexDigits n := by
  induction n using Nat.strong_induction_on with
  | _ n ih =>
    rw [hexDigits, Nat.toDigits_eq_if (by decide)]
    split
    case isTrue hlt => exact mt List.mem_singleton.mp (lineFeed_ne_digitChar hlt)
    case isFalse hge =>
      have hless : n / 16 < n := by omega
      have hdigit : n % 16 < 16 := Nat.mod_lt n (by decide)
      rw [List.mem_append, List.mem_singleton, not_or]
      exact ⟨ih _ hless, lineFeed_ne_digitChar hdigit⟩

theorem lineFeed_not_mem_codePoint (c : Char) : '\n' ∉ codePoint c := by
  simp [codePoint, lineFeed_not_mem_hexDigits]

/-- A line feed is spelled out, whatever else is. -/
theorem lineFeed_not_mem_escapeChar (quotes : List Char) (marks : Bool) (c : Char) :
    '\n' ∉ escapeChar quotes marks c := by
  by_cases hfeed : c = '\n'
  · subst hfeed
    simp [escapeChar]
  · unfold escapeChar
    split_ifs <;> simp [lineFeed_not_mem_codePoint, Ne.symm hfeed]

theorem lineFeed_not_mem_escaped (text : String) : '\n' ∉ (escaped text).toList := by
  unfold escaped
  split
  case h_1 => simp
  case h_2 c s _ =>
    rw [String.toList_ofList, List.mem_append, List.mem_flatMap, not_or]
    refine ⟨lineFeed_not_mem_escapeChar _ _ c, ?_⟩
    rintro ⟨d, -, hd⟩
    exact lineFeed_not_mem_escapeChar _ _ d hd

end Text

theorem TokenKind.lineFeed_not_mem_label (k : TokenKind) : '\n' ∉ k.label.toList := by
  cases k <;> decide

theorem Token.lineFeed_not_mem_toString (t : Token) : '\n' ∉ (toString t).toList := by
  have hline := Source.LineIndex.lineFeed_not_mem_toString t.line
  have hcolumn := Source.LineIndex.lineFeed_not_mem_toString t.column
  have hshown : toString t = t.kind.label ++ " '" ++ Text.escaped t.text ++
      ("' at " ++ toString t.line ++ ":" ++ toString t.column) := rfl
  rw [hshown]
  simp only [String.toList_append, List.mem_append, not_or]
  exact ⟨⟨⟨t.kind.lineFeed_not_mem_label, by decide⟩, Text.lineFeed_not_mem_escaped t.text⟩,
    ⟨⟨by decide, hline⟩, by decide⟩, hcolumn⟩

/-! ## The tokens up to a failure -/

namespace Scan

/-- The stream hands out these tokens and then the error, or one token more than there is room
for. -/
inductive Scanner.BreaksOff (s : Scanner) (limit room : Nat) (tokens : List Token) :
    LexicalError → Prop where
  | error {e : LexicalError} : tokens.length ≤ room → s.stream = tokens.map .ok ++ [.error e] →
      BreaksOff s limit room tokens e
  | full {t : Token} {more : List Item} : tokens.length = room →
      s.stream = tokens.map .ok ++ .ok t :: more →
      BreaksOff s limit room tokens (.atToken (.tooManyTokens limit) t.line t.column)

theorem Scanner.BreaksOff.cons {s : Scanner} {limit room : Nat} {tokens : List Token} {t : Token}
    {e : LexicalError} (hnext : s.next.1 = .ok t) (hend : t.isEnd = false)
    (h : s.next.2.BreaksOff limit room tokens e) :
    s.BreaksOff limit (room + 1) (t :: tokens) e := by
  have hstream : s.stream = .ok t :: s.next.2.stream := by
    rw [stream_eq, hnext, Item.isFinal, if_neg (by simp [hend])]
  cases h with
  | error hlength hrest =>
    exact .error (Nat.succ_le_succ hlength)
      (by rw [hstream, hrest, List.map_cons, List.cons_append])
  | full hlength hrest =>
    exact .full (congrArg (· + 1) hlength)
      (by rw [hstream, hrest, List.map_cons, List.cons_append])

/-- A run that fails has found what its stream hands out up to there. -/
theorem Scanner.breaksOff_of_run {s : Scanner} {found toks : Array Token} {limit room : Nat}
    {e : LexicalError} (h : s.run found limit room = ⟨toks, some e⟩) :
    ∃ tokens, toks.toList = found.toList ++ tokens ∧ s.BreaksOff limit room tokens e := by
  induction room generalizing s found with
  | zero =>
    cases hnext : s.next.1 with
    | error e' =>
      rw [run_of_error hnext] at h
      cases h
      exact ⟨[], (List.append_nil _).symm, .error (Nat.zero_le _) (by rw [stream_eq, hnext]; rfl)⟩
    | ok t =>
      rw [run_of_token_zero hnext] at h
      cases h
      exact ⟨[], (List.append_nil _).symm, .full rfl (by rw [stream_eq, hnext]; rfl)⟩
  | succ room ih =>
    cases hnext : s.next.1 with
    | error e' =>
      rw [run_of_error hnext] at h
      cases h
      exact ⟨[], (List.append_nil _).symm, .error (Nat.zero_le _) (by rw [stream_eq, hnext]; rfl)⟩
    | ok t =>
      rw [run_of_token hnext] at h
      split at h
      case isTrue => cases h
      case isFalse hend =>
        obtain ⟨tokens, htoks, hbreaks⟩ := ih h
        refine ⟨t :: tokens, ?_, hbreaks.cons hnext (eq_false_of_ne_true hend)⟩
        rw [htoks, Array.toList_push, List.append_assoc, List.singleton_append]

end Scan

/-! ## The report -/

namespace Diagnostics.Session

/-- The path and the number of a file leave the other details as they are. -/
theorem lookup_attachFile {key : String} (hpath : key ≠ "file") (hnumber : key ≠ "file_id")
    (s : Session) (e : Event) : (s.attachFile e).details.lookup key = e.details.lookup key := by
  unfold attachFile attachPath
  cases s.context with
  | none => rfl
  | some context =>
    exact (Details.lookup_insert_other hnumber _ _).trans (Details.lookup_insert_other hpath _ _)

end Diagnostics.Session

namespace Listing

theorem pieces_dump {tokens : List Token} (h : tokens ≠ []) :
    Text.pieces '\n' (dump tokens).toList = tokens.map fun t => (toString t).toList := by
  have hlines : (dump tokens).toList =
      ['\n'].intercalate (tokens.map fun t => (toString t).toList) := by
    rw [dump, String.toList_intercalate, List.map_map]
    rfl
  rw [hlines]
  refine Text.pieces_intercalate (by simpa using h) ?_
  intro line hline
  obtain ⟨t, -, rfl⟩ := List.mem_map.mp hline
  exact t.lineFeed_not_mem_toString

/-- The event is the warning that lists the tokens: it says how many there are, and each line of
the list shows one of them. -/
structure ListsTokens (tokens : List Token) (e : Event) : Prop where
  isWarning : e.isWarning
  code_eq : e.code = Code.tokenDump
  collected_eq : e.details.lookup "collected" = some (toString tokens.length)
  lines_eq : ∃ value, e.details.lookup "tokens" = some value ∧
    (tokens ≠ [] → Text.pieces '\n' value.toList = tokens.map fun t => (toString t).toList)

theorem listsTokens_told (s : Session) (tokens : Array Token) : ∃ dump,
    s.told (dumpReport tokens) = [dump] ∧ ListsTokens tokens.toList dump := by
  let event := eventAt s.now.1 (dumpReport tokens)
  have hbare : (s.attachFile event).bare = event.bare := s.bare_attachFile event
  have hdetails : event.details = Details.insert "tokens" (dump tokens.toList)
      (Details.insert "collected" (toString tokens.size) []) := rfl
  refine ⟨s.attachFile event, rfl, ?_, ?_, ?_, dump tokens.toList, ?_, pieces_dump⟩
  · rw [Event.isWarning, beq_iff_eq]
    exact (congrArg Event.level hbare).trans (congrArg Event.level (bare_eventAt _ _))
  · exact (congrArg Event.code hbare).trans (congrArg Event.code (bare_eventAt _ _))
  · rw [lookup_attachFile (by decide) (by decide), hdetails,
      Details.lookup_insert_other (by decide), Details.lookup_insert_self, Array.length_toList]
  · rw [lookup_attachFile (by decide) (by decide), hdetails, Details.lookup_insert_self]

theorem error_told (s : Session) (text : String) (error : LexicalError) : ∃ e,
    s.told (errorReport text error) = [e] ∧ e.isError ∧ e.code = error.code := by
  rcases s.told_cases (errorReport text error) with ⟨e, htold, hlevel, hcode, -⟩ | ⟨-, hlevel, -⟩
  · refine ⟨e, htold, ?_, hcode⟩
    rw [Event.isError, hlevel]
    rfl
  · cases hlevel

/-- What is told of a scan that fails behind these tokens: the list of them and then the error, or
no list where none is asked for. -/
structure TellsFailure (options : ScanOptions) (tokens : List Token) (error : LexicalError)
    (events : List Event) : Prop where
  listed : options.dumpOnFailure → ∃ dump e, events = [dump, e] ∧ ListsTokens tokens dump ∧
    e.isError ∧ e.code = error.code
  unlisted : options.dumpOnFailure = false → ∀ e ∈ events, e.code ≠ Code.tokenDump

theorem tellsFailure_toldAll (options : ScanOptions) (text : String) (tokens : Array Token)
    (error : LexicalError) (s : Session) :
    TellsFailure options tokens.toList error
      (s.toldAll (failureReports options text tokens error)) where
  listed hdump := by
    obtain ⟨dump, hlist, hlists⟩ := listsTokens_told s tokens
    obtain ⟨e, herror, hfails⟩ := error_told (s.post (dumpReport tokens)) text error
    refine ⟨dump, e, ?_, hlists, hfails⟩
    rw [failureReports, if_pos hdump, List.singleton_append, toldAll, toldAll, toldAll, hlist,
      herror]
    rfl
  unlisted hdump := by
    obtain ⟨e, herror, -, hcode⟩ := error_told s text error
    rw [failureReports, if_neg (by simp [hdump]), List.nil_append, toldAll, toldAll, herror,
      List.append_nil, List.forall_mem_singleton, hcode]
    exact fun h => absurd (h ▸ error.code_mem) (by decide)

/-- What is listed of a scan that fails are the tokens that its stream hands out before the error,
one a line, and the list comes before the error. -/
theorem failure_lists_tokens {options : ScanOptions} {text : String} {s : Session}
    {error : LexicalError} (h : (scanText options text s).1 = .error (.lexical error)) :
    ∃ tokens events, (Scanner.ofSource text.toList).BreaksOff maxTokens maxTokens tokens error ∧
      Tells (scanText options text) s events ∧ TellsFailure options tokens error events := by
  obtain ⟨found, hscan⟩ := scan_of_scanText h
  obtain ⟨tokens, htokens, hbreaks⟩ := Scanner.breaksOff_of_run hscan
  have hfailure := tellsFailure_toldAll options text found error s
  rw [htokens, Array.toList_empty, List.nil_append] at hfailure
  exact ⟨tokens, _, hbreaks, tells_scanText options hscan s, hfailure⟩

/-- A block comment over two lines, a string with a line feed, a backslash and a quote in it, and a
text block of two lines, before a character that is not closed. -/
theorem failure_lists_tokens_lineFeeds : ∃ text s,
    text = "/*\n*/ \"a\n\\\"\" \"\"\"\n b\n c\"\"\" '" ∧
      s = ({ ledger := some {}, context := some ⟨⟨"A.java"⟩, 3⟩ } : Session) ∧
      (Scanner.ofSource text.toList).stream =
        [.ok ⟨.multiLineComment, "/*\n*/", 1, 1⟩, .ok ⟨.string, "a\n\\\"", 2, 4⟩,
          .ok ⟨.textBlock, "b\nc", 3, 5⟩, .error (.atToken .unexpectedEndOfInput 5 7)] ∧
      (scanText {} text s).1 = .error (.lexical (.atToken .unexpectedEndOfInput 5 7)) ∧
      ∃ tokens events, (Scanner.ofSource text.toList).BreaksOff maxTokens maxTokens tokens
          (.atToken .unexpectedEndOfInput 5 7) ∧
        Tells (scanText {} text) s events ∧
        TellsFailure {} tokens (.atToken .unexpectedEndOfInput 5 7) events := by
  have hresult : (scanText {} "/*\n*/ \"a\n\\\"\" \"\"\"\n b\n c\"\"\" '"
      { ledger := some {}, context := some ⟨⟨"A.java"⟩, 3⟩ }).1 =
        .error (.lexical (.atToken .unexpectedEndOfInput 5 7)) := by
    decide +kernel
  exact ⟨_, _, rfl, rfl, by decide +kernel, hresult, failure_lists_tokens hresult⟩

end Listing
end JavaLex
