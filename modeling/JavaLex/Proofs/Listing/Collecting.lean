import JavaLex.Listing.Basic
import JavaLex.Proofs.Scanner.Failure

/-! # Tokens taken with their tally

A listing takes its tokens from a supply and tallies each as it comes. What it ends with is what a
scan without a tally ends with, and the tally of the tokens up to there.
-/
namespace JavaLex.Listing
open Scan

variable {options : ScanOptions} {tokens : Array Token} {tally : Tally} {room : Nat}
  {supply left : Supply}

theorem collect_of_none (h : supply.next = (none, left)) :
    collect options tokens tally room supply = (⟨tokens, none⟩, tally) := by
  rw [collect.eq_def]
  simp only [h]

theorem collect_of_error {e : LexicalError} (h : supply.next = (some (.error e), left)) :
    collect options tokens tally room supply = (⟨tokens, some e⟩, tally) := by
  rw [collect.eq_def]
  simp only [h]

theorem collect_of_token_zero {t : Token} (h : supply.next = (some (.ok t), left)) :
    collect options tokens tally 0 supply =
      (⟨tokens, some (.atToken (.tooManyTokens maxTokens) t.line t.column)⟩, tally) := by
  rw [collect.eq_def]
  simp only [h]

theorem collect_of_token {t : Token} (h : supply.next = (some (.ok t), left)) :
    collect options tokens tally (room + 1) supply =
      collect options (tokens.push t) (tally.record options t) room left := by
  rw [collect.eq_def]
  simp only [h]

/-- The two ways to take tokens end with the same, at the limit too. -/
theorem collect_supply (options : ScanOptions) (tokens : Array Token) (room : Nat) (s : Scanner) :
    collect options tokens (tokens.foldl (Tally.record options) {}) room s.supply =
      (s.run tokens maxTokens room,
        (s.run tokens maxTokens room).tokens.foldl (Tally.record options) {}) := by
  induction room generalizing tokens s with
  | zero =>
    have hnext := Supply.next_supply s
    cases hitem : s.next.1 with
    | error e =>
      rw [hitem] at hnext
      rw [collect_of_error hnext, Scanner.run_of_error hitem]
    | ok t =>
      rw [hitem] at hnext
      rw [collect_of_token_zero hnext, Scanner.run_of_token_zero hitem]
  | succ room ih =>
    have hnext := Supply.next_supply s
    cases hitem : s.next.1 with
    | error e =>
      rw [hitem] at hnext
      rw [collect_of_error hnext, Scanner.run_of_error hitem]
    | ok t =>
      have htally : (tokens.push t).foldl (Tally.record options) {} =
          (tokens.foldl (Tally.record options) {}).record options t := Array.foldl_push
      rw [hitem] at hnext
      rw [collect_of_token hnext, Scanner.run_of_token hitem, ← htally]
      cases hend : t.isEnd with
      | true => exact collect_of_none (Supply.next_of_exhausted hend)
      | false =>
        have hgoes : (⟨s.next.2, Item.isFinal (.ok t)⟩ : Supply) = s.next.2.supply :=
          congrArg (Supply.mk s.next.2) hend
        rw [hgoes]
        exact ih (tokens.push t) s.next.2

theorem collect_scan (options : ScanOptions) (source : List Char) :
    collect options #[] {} maxTokens (Scanner.ofSource source).supply =
      (scan source, (scan source).tokens.foldl (Tally.record options) {}) :=
  collect_supply options #[] maxTokens (.ofSource source)

end JavaLex.Listing
