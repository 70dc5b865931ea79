import JavaLex.Proofs.Lexeme.NumberForm
import JavaLex.Proofs.Scanner.Classification

/-! # Numbers as they are handed out

Nothing but the form that the text opens decides how far a number goes: it is the longest prefix in
the language of the form, and a call goes past exactly that. The languages do not look at the order
of the characters, so a sign belongs to a decimal or a hexadecimal number wherever it stands, and
not only behind an exponent marker.
-/
namespace JavaLex.Scan
open Lexicon Lexeme NumberForm

namespace Lexeme
variable {c : Char} {r text : List Char} {n : Nat}

theorem not_isWhitespace_of_opensNumber (h : OpensNumber c r) : isWhitespace c = false := by
  rcases h with hdigit | ⟨rfl, -⟩
  · cases hblank : isWhitespace c with
    | false => rfl
    | true => rw [not_isDigit_of_isWhitespace hblank] at hdigit; cases hdigit
  · decide

/-- The openings of the other kinds are none of a number. -/
theorem opensNumber_of_read (h : read c r = .token .number text n) : OpensNumber c r := by
  have hopens := (kind_eq_iff h).mp rfl
  generalize hkind : TokenKind.number = kind at hopens
  cases hopens with
  | number hnumber => exact hnumber
  | word =>
    rcases TokenKind.ofWord_cases (String.ofList (leadingWord (c :: r))) with hw | hw | hw <;>
      · rw [hw] at hkind
        cases hkind
  | _ => cases hkind

end Lexeme

namespace Scanner
variable {s : Scanner} {gap rest text : List Char} {t : Token}

theorem next_of_number (hs : s.rest = gap ++ rest) (hgap : Blank gap)
    (hnumber : number? rest = some (.token .number text text.length)) :
    s.next = (.ok (tokenAt .number text (s.position.passAll gap)),
      s.skip (gap.length + text.length)) := by
  have hstarts : StartsNumber rest := by
    by_contra hnone
    rw [number?_none_iff.mpr hnone] at hnumber
    cases hnumber
  obtain ⟨c, r, rfl, hopens⟩ := hstarts
  have hread : read c r = .token .number text text.length :=
    read_of_recognize ((recognize?_of_number hopens).trans hnumber)
  rw [next_of_read hs hgap (not_isWhitespace_of_opensNumber hopens), hread]
  rfl

/-- How far a number goes at the head of a text. -/
structure DelimitsNumber (rest : List Char) : Prop where
  never_fails : ∀ fault n, number? rest ≠ some (.failure fault n)
  declined_iff : number? rest = none ↔ ¬ StartsNumber rest
  existsUnique_form : StartsNumber rest → ∃! form : NumberForm, form.Opens rest
  longest : ∀ form : NumberForm, form.Opens rest → ∃ text, Longest form.language rest text ∧
    number? rest = some (.token .number text text.length) ∧
    ∀ (s : Scanner) (gap : List Char), s.rest = gap ++ rest → Blank gap →
      s.next = (.ok (tokenAt .number text (s.position.passAll gap)),
        s.skip (gap.length + text.length)) ∧ s.next.2.rest = rest.drop text.length

/-- A number is the longest prefix in the language that its opening chooses. -/
theorem number?_delimits (rest : List Char) : DelimitsNumber rest where
  never_fails fault n h := by
    rw [number?, Option.map_eq_some_iff] at h
    obtain ⟨r, -, hlexeme⟩ := h
    cases hlexeme
  declined_iff := number?_none_iff
  existsUnique_form := existsUnique_opens
  longest form hopens := by
    obtain ⟨text, hlongest, hnumber⟩ := hopens.readsLongest
    refine ⟨text, hlongest, hnumber, fun s gap hs hgap => ?_⟩
    have hnext := next_of_number hs hgap hnumber
    refine ⟨hnext, ?_⟩
    rw [hnext, skip_rest, hs, List.drop_append]
    simp

/-- An octal number stops before a digit that is not octal. -/
example : number? "0138".toList = some (.token .number "013".toList 3) := by decide

/-- The number that a call hands out past a gap. -/
structure HandsOutNumber (s : Scanner) (t : Token) (gap rest : List Char) (form : NumberForm) :
    Prop where
  split : s.rest = gap ++ (t.text.toList ++ rest)
  blank : Blank gap
  opens : form.Opens (t.text.toList ++ rest)
  longest : Longest form.language (t.text.toList ++ rest) t.text.toList

theorem exists_handsOutNumber (h : s.next.1 = .ok t) (hkind : t.kind = .number) :
    ∃ gap rest form, HandsOutNumber s t gap rest form := by
  rcases rest_cases s.rest with hblank | ⟨gap, slice, rest, kind, text, hs, hgap, hreads⟩ |
    ⟨gap, c, r, fault, n, hs, hgap, hc, hread⟩
  · rw [next_of_blank hblank] at h
    cases h
    cases hkind
  · rw [next_of_reads hs hgap hreads] at h
    cases h
    cases hkind
    obtain rfl : text = slice := by
      cases hreads.spelling
      rfl
    obtain ⟨c, r, rfl, -, hread⟩ := hreads
    have hopensNumber := opensNumber_of_read hread
    have hstarts : StartsNumber (c :: r ++ rest) := ⟨c, r ++ rest, rfl, hopensNumber⟩
    obtain ⟨form, hopens, -⟩ := existsUnique_opens hstarts
    obtain ⟨longest, hlongest, hnumber⟩ := hopens.readsLongest
    have hsame : number? (c :: r ++ rest) = some (.token .number (c :: r) (c :: r).length) :=
      (recognize?_of_number hopensNumber).symm.trans (read_eq_token_iff.mp hread)
    rw [hsame, Option.some.injEq, token.injEq] at hnumber
    obtain ⟨-, rfl, -⟩ := hnumber
    refine ⟨gap, rest, form, ?_⟩
    have htext (p : Cursor) : (tokenAt .number (c :: r) p).text.toList = c :: r :=
      String.toList_ofList
    exact ⟨by rw [htext, hs], hgap, by rwa [htext], by rwa [htext]⟩
  · rw [next_of_failure hs hgap hc hread] at h
    cases h

/-- A sign belongs to the number exactly if the number is decimal or hexadecimal and what stands
before the sign is one without a suffix. -/
structure SignsByForm (s : Scanner) (t : Token) (gap rest : List Char) (form : NumberForm) :
    Prop where
  handsOut : HandsOutNumber s t gap rest form
  sign_iff : ∀ before sign after, t.text.toList ++ rest = before ++ sign :: after → sign ∈ signs →
    (before.length < t.text.toList.length ↔
      (form = .decimal ∨ form = .hexadecimal) ∧ before ∈ form.stem)

/-- The form of a number settles which signs it takes in, whatever stands next to them. -/
theorem next_number_signs (h : s.next.1 = .ok t) (hkind : t.kind = .number) :
    ∃ gap rest form, SignsByForm s t gap rest form := by
  obtain ⟨gap, rest, form, hhandsOut⟩ := exists_handsOutNumber h hkind
  refine ⟨gap, rest, form, hhandsOut, ?_⟩
  intro before sign after hsplit hsign
  have hopens := hhandsOut.opens
  have hlongest := hhandsOut.longest
  rw [hsplit] at hopens hlongest
  exact length_lt_iff_of_sign hopens hlongest hsign

/-- Of two signs in a sum the number takes in the one that no suffix keeps away. -/
theorem next_number_signs_sum : ∃ (s : Scanner) (t : Token), s.rest = "1+2L-3".toList ∧
    s.next.1 = .ok t ∧ t.kind = .number ∧ t.text = "1+2L" ∧
      ∃ gap rest form, SignsByForm s t gap rest form := by
  have hnext : (ofSource "1+2L-3".toList).next.1 = .ok ⟨.number, "1+2L", 1, 1⟩ := by decide
  exact ⟨_, _, rfl, hnext, rfl, rfl, next_number_signs hnext rfl⟩

/-- The characters that begin an exponent. -/
def exponentMarkers : NumberForm → List Char
  | .decimal => ['e', 'E']
  | .hexadecimal => ['p', 'P']
  | _ => []

/-- A sign stands right behind an exponent marker. -/
def SignsFollowMarkers (form : NumberForm) (text : List Char) : Prop :=
  ∀ before sign after, text = before ++ sign :: after → sign ∈ signs →
    ∃ marker ∈ exponentMarkers form, before.getLast? = some marker

/-- A sum of two literals is one number. -/
theorem sign_without_marker : ∃ t : Token, (ofSource "1+2".toList).next.1 = .ok t ∧
    t.kind = .number ∧ t.text = "1+2" ∧ NumberForm.decimal.Opens t.text.toList ∧
      ¬ SignsFollowMarkers .decimal t.text.toList := by
  refine ⟨⟨.number, "1+2", 1, 1⟩, by decide, rfl, rfl, ?_, ?_⟩
  · refine .inr ⟨rfl, ⟨'1', "+2".toList, by decide, .inl (by decide)⟩, ?_⟩
    rintro form ⟨d, -, h⟩
    exact absurd (List.cons_prefix_cons.mp h).1 (by decide)
  · intro h
    obtain ⟨marker, hmarker, hlast⟩ := h ['1'] '+' ['2'] (by decide) (by decide)
    rw [List.getLast?_singleton, Option.some.injEq] at hlast
    subst hlast
    exact absurd hmarker (by decide)

end Scanner
end JavaLex.Scan
