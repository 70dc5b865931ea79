import JavaLex.Proofs.Listing.Untimed

/-! # Listing a text and scanning it

A listing has the tokens of its text, and there is none exactly if the text does not scan, for the
same error. The options, the name and the session have no part in it. There are too many tokens
exactly if the stream hands out another one past the limit.
-/
namespace JavaLex
open Diagnostics Scan Session

section Except
variable {ε ε' α β : Type} {x : Except ε' α} {y : Except ε β} {f : α → β} {g : ε → ε'}

theorem exists_ok_iff_of_map_eq (h : x.map f = y.mapError g) (b : β) :
    (∃ a, x = .ok a ∧ f a = b) ↔ y = .ok b := by
  cases x with
  | error e => cases y <;> simp_all [Except.map, Except.mapError]
  | ok a => cases y <;> simp_all [Except.map, Except.mapError]

theorem error_iff_of_map_eq (h : x.map f = y.mapError g) (hg : ∀ e e', g e = g e' → e = e')
    (e : ε) : x = .error (g e) ↔ y = .error e := by
  cases x with
  | ok a => cases y <;> simp_all [Except.map, Except.mapError]
  | error e' =>
    cases y with
    | ok b => simp [Except.map, Except.mapError] at h
    | error e'' =>
      simp only [Except.map, Except.mapError, Except.error.injEq] at h ⊢
      rw [h]
      exact ⟨hg e'' e, congrArg g⟩

end Except

/-- What comes of an act does not depend on what is left of its file afterwards. -/
theorem Diagnostics.Session.fst_within {α : Type} (s : Session) (path : Files.FilePath) (id : Nat)
    (act : Session → α × Session) : (s.within path id act).1 = (act (s.enter path id)).1 := rfl

namespace Scan

/-- A call does not count. -/
theorem Scanner.next_ne_tooManyTokens (s : Scanner) (limit line column : Nat) :
    s.next.1 ≠ .error (.atToken (.tooManyTokens limit) line column) := by
  intro h
  obtain ⟨gap, c, r, _, n, hs, hgap, hc, hread, -, he⟩ := exists_failure_of_next h
  cases he
  exact Lexeme.read_ne_tooManyTokens hread

/-- A run fails at its limit exactly if the stream has a token for which there is no room. -/
theorem Scanner.run_tooManyTokens_iff {s : Scanner} {found : Array Token} {limit room : Nat}
    {limit' line column : Nat} :
    (s.run found limit room).error? = some (.atToken (.tooManyTokens limit') line column) ↔
      limit' = limit ∧ ∃ t, s.stream[room]? = some (.ok t) ∧ t.line = line ∧ t.column = column := by
  induction room generalizing s found with
  | zero =>
    rw [stream_eq, List.getElem?_cons_zero]
    cases hitem : s.next.1 with
    | error e =>
      have hne := s.next_ne_tooManyTokens limit' line column
      rw [hitem] at hne
      simpa [run_of_error hitem] using hne
    | ok t =>
      rw [run_of_token_zero hitem]
      simp [eq_comm]
  | succ room ih =>
    rw [stream_eq, List.getElem?_cons_succ]
    cases hitem : s.next.1 with
    | error e =>
      have hne := s.next_ne_tooManyTokens limit' line column
      rw [hitem] at hne
      simpa [run_of_error hitem, Item.isFinal] using hne
    | ok t =>
      rw [run_of_token hitem]
      cases hend : t.isEnd with
      | true => simp [Item.isFinal, hend]
      | false =>
        have hfinal : Item.isFinal (.ok t) = false := hend
        rw [hfinal]
        exact ih

theorem tokenize_eq_error_iff {text : String} {e : LexicalError} :
    tokenize text = .error e ↔ (scan text.toList).error? = some e := by
  unfold tokenize
  rcases scan text.toList with ⟨tokens, _ | e'⟩ <;> simp

/-- The stream of the text hands out a token past the limit, and it stands there. -/
def PassesLimit (text : String) (limit line column : Nat) : Prop :=
  limit = maxTokens ∧ ∃ t, (Scanner.ofSource text.toList).stream[maxTokens]? = some (.ok t) ∧
    t.line = line ∧ t.column = column

theorem tokenize_tooManyTokens_iff {text : String} {limit line column : Nat} :
    tokenize text = .error (.atToken (.tooManyTokens limit) line column) ↔
      PassesLimit text limit line column := by
  rw [tokenize_eq_error_iff]
  exact Scanner.run_tooManyTokens_iff

end Scan

namespace Listing

theorem tokens_textOutcome (options : ScanOptions) (name : String) (facts? : Option Files.FileFacts)
    (text : String) : (textOutcome options name facts? text).map (·.tokens.toList) =
      (tokenize text).mapError .lexical := by
  unfold textOutcome tokenize
  rcases scan text.toList with ⟨tokens, _ | e⟩ <;> rfl

theorem tokens_untimed (result : Except ListingError Listing) :
    (result.map untimed).map (·.tokens.toList) = result.map (·.tokens.toList) := by
  cases result <;> rfl

/-- Nor does what comes of a text depend on the session. -/
theorem untimed_ofText (options : ScanOptions) (name text : String) (s : Session) :
    (ofText options name text s).1.map untimed = textOutcome options name none text := by
  rw [ofText_eq, fst_within, untimed_listText]

theorem tokens_ofText (options : ScanOptions) (name text : String) (s : Session) :
    (ofText options name text s).1.map (·.tokens.toList) = (tokenize text).mapError .lexical := by
  rw [← tokens_untimed, untimed_ofText, tokens_textOutcome]

/-- The listing of a text and its scan come to the same tokens or to the same error, whatever the
options, the name and the session; and both find too many tokens exactly if the stream passes the
limit, at the token that does. -/
theorem ofText_agrees (options : ScanOptions) (name text : String) (s : Session) :
    (∀ ts, (∃ l, (ofText options name text s).1 = .ok l ∧ l.tokens.toList = ts) ↔
      tokenize text = .ok ts) ∧
    (∀ e, (ofText options name text s).1 = .error (.lexical e) ↔ tokenize text = .error e) ∧
    ∀ limit line column,
      (tokenize text = .error (.atToken (.tooManyTokens limit) line column) ↔
        PassesLimit text limit line column) ∧
      ((ofText options name text s).1 =
          .error (.lexical (.atToken (.tooManyTokens limit) line column)) ↔
        PassesLimit text limit line column) := by
  have htokens := tokens_ofText options name text s
  have herror := error_iff_of_map_eq htokens fun e e' he => ListingError.lexical.inj he
  refine ⟨exists_ok_iff_of_map_eq htokens, herror, fun limit line column => ?_⟩
  rw [herror, and_self]
  exact tokenize_tooManyTokens_iff

end Listing
end JavaLex
