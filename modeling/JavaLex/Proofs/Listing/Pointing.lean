import JavaLex.Proofs.Listing.Outcome
import JavaLex.Proofs.Scanner.Failure
import JavaLex.Proofs.Source.Excerpt

/-! # Where a diagnostic points

The error of a scan names a line and a column. From there the line index leads to the character at
which the scan failed: it stands in that column of that line, has the offset of the position, and is
the one above the caret, in a message on its own and in the report of the ledger alike.
-/
namespace JavaLex
open Diagnostics Files Scan Source Session

/-- The line index leads from a line and a column to the character `c` with `before` in front of it,
and from its offset to the same position. -/
structure PointsAt (source : List Char) (line column : Nat) (before : List Char) (c : Char)
    (shown : List Char) : Prop where
  line?_eq : (LineIndex.ofSource source).line? line = some shown
  column_pos : 1 ≤ column
  getElem?_eq : shown[column - 1]? = some c
  positionOf_eq : (LineIndex.ofSource source).positionOf line column =
    ⟨byteLength before, line, column⟩
  positionAt?_eq : (LineIndex.ofSource source).positionAt? (byteLength before) =
    some ((LineIndex.ofSource source).positionOf line column)

namespace Scan

/-- Neither a line feed nor a carriage return is taken for a character of a lexeme. -/
theorem FailsAt.pointsAt {source before after : List Char} {calls : Nat} {fault : Fault} {c : Char}
    (h : FailsAt source calls fault before c after) :
    ∃ shown, '\n' ∉ shown ∧ PointsAt source (Position.start.advanceAll before).line
      (Position.start.advanceAll before).column before c shown := by
  have hfeed : c ≠ '\n' := by
    rintro rfl
    exact absurd h.solid (by decide)
  have hreturn : c ≠ '\r' := by
    rintro rfl
    exact absurd h.solid (by decide)
  obtain ⟨shown, hline, hshown, hpos, hcolumn⟩ := LineIndex.line?_next hfeed hreturn before after
  have hof := LineIndex.positionOf_advanceAll before (c :: after)
  have hat := LineIndex.positionAt?_byteLength before (c :: after)
  have hoffset := Position.offset_advanceAll Position.start before
  rw [← h.source_eq] at hline hof hat
  refine ⟨shown, hshown, hline, hpos, hcolumn, ?_, hat.trans (congrArg some hof.symm)⟩
  cases hplace : Position.start.advanceAll before with
  | mk offset line column =>
    rw [hplace] at hof hoffset
    rw [hof]
    simpa [Position.start] using hoffset

end Scan

namespace Listing
variable {options : ScanOptions} {text : String} {s : Session}

theorem scan_of_scanText {e : LexicalError} (h : (scanText options text s).1 = .error (.lexical e)) :
    ∃ tokens, scan text.toList = ⟨tokens, some e⟩ := by
  cases hscan : scan text.toList with
  | mk tokens error? =>
    cases error? with
    | none =>
      rw [scanText_of_ok options hscan] at h
      cases h
    | some e' =>
      rw [scanText_of_error options hscan] at h
      cases h
      exact ⟨tokens, rfl⟩

/-- What is told of a scan that fails is what is reported of it. -/
theorem tells_scanText (options : ScanOptions) {tokens : Array Token} {error : LexicalError}
    (h : scan text.toList = ⟨tokens, some error⟩) (s : Session) :
    Tells (scanText options text) s (s.toldAll (failureReports options text tokens error)) := by
  rw [scanText_of_error options h, ← List.append_nil (s.toldAll _)]
  exact (tells_postAll s _).bind (fun _ s => (_, s.keepSource text.toList))
    (.keepSource _ _ text.toList)

/-- One error is told of a scan that fails, with the span that is reported. -/
theorem exists_told_error (options : ScanOptions) (text : String) (tokens : Array Token)
    (error : LexicalError) (s : Session) :
    ∃ e, (s.toldAll (failureReports options text tokens error)).filter Event.isError = [e] ∧
      e.span? = (errorReport text error).span? := by
  have hspans := s.errorSpans_toldAll (failureReports options text tokens error)
  have hreported : ((failureReports options text tokens error).filter
      (·.level == .error)).map (·.span?) = [(errorReport text error).span?] := by
    unfold failureReports
    split <;> rfl
  rw [hreported] at hspans
  obtain ⟨e, herrors, hspan⟩ := List.map_eq_singleton_iff.mp hspans
  exact ⟨e, herrors, hspan⟩

/-- The error that is logged for a scan that fails. -/
theorem exists_error_told (options : ScanOptions) (text : String) (tokens : Array Token)
    (fault : Fault) (line column : Nat) (s : Session) :
    ∃ e, (s.toldAll (failureReports options text tokens (.atToken fault line column))).filter
        Event.isError = [e] ∧
      e.span? = some (Span.single ((LineIndex.ofSource text.toList).positionOf line column)) :=
  exists_told_error options text tokens (.atToken fault line column) s

/-- The ledger after a scan that failed finds the text of the file at hand. -/
theorem exists_source_kept {context : FileContext} {ledger : Ledger}
    (hcontext : s.context = some context) (hledger : s.ledger = some ledger) (reports : List Report)
    (source : List Char) : ∃ ledger', ((s.postAll reports).keepSource source).ledger = some ledger' ∧
      ledger'.sources.find? context.path = some (LineIndex.ofSource source) := by
  have htells := tells_postAll s reports
  obtain ⟨ledger', hledger', -⟩ := htells.filed context ledger hcontext hledger
  have hcontext' : (s.postAll reports).context = some context := htells.context_eq.trans hcontext
  refine ⟨ledger'.keepSource context.path source, ?_, ?_⟩
  · simp only [keepSource, hcontext', show (s.postAll reports).ledger = some ledger' from hledger']
  · rw [Ledger.keepSource, PathMap.find?_insert, FilePath.same_refl]
    rfl

/-- The error of a scan that fails points at the character at which it failed, which is the first of
the lexeme that cannot be read, and both renderings show it with the caret below it. -/
theorem failure_points {context : FileContext} {ledger : Ledger} {fault : Fault} {line column : Nat}
    (hcontext : s.context = some context) (hledger : s.ledger = some ledger)
    (h : (scanText options text s).1 = .error (.lexical (.atToken fault line column)))
    (hfault : ∀ limit, fault ≠ .tooManyTokens limit) :
    ∃ calls before c after shown, FailsAt text.toList calls fault before c after ∧
      (∀ x, fault = .unexpectedCharacter x → x = c) ∧
      PointsAt text.toList line column before c shown ∧
      LineIndex.CaretBelow (LineIndex.underlined line column 1 shown) line column shown c ∧
      (∀ message, (LineIndex.ofSource text.toList).render
          (Span.single ((LineIndex.ofSource text.toList).positionOf line column)) message =
        s!"Error: {message}\n  --> {line}:{column}\n" ++ LineIndex.underlined line column 1 shown) ∧
      ∃ events e ledger', Tells (scanText options text) s events ∧
        events.filter Event.isError = [e] ∧
        (scanText options text s).2.ledger = some ledger' ∧
        ledger'.excerpt? context.path e = some (LineIndex.underlined line column 1 shown) := by
  obtain ⟨tokens, hscan⟩ := scan_of_scanText h
  obtain ⟨before, c, after, hfails, hline, hcolumn⟩ := scan_failsAt hscan (hfault maxTokens)
  obtain ⟨shown, hshown, hpoints⟩ := hfails.pointsAt
  rw [← hline, ← hcolumn] at hpoints
  have hposition := hpoints.positionOf_eq
  have hfound : (LineIndex.ofSource text.toList).line?
      ((LineIndex.ofSource text.toList).positionOf line column).line = some shown := by
    rw [hposition]
    exact hpoints.line?_eq
  refine ⟨tokens.size, before, c, after, shown, hfails, ?_, hpoints, ?_, ?_, ?_⟩
  · rintro x rfl
    exact hfails.eq_of_unexpectedCharacter
  · exact LineIndex.caretBelow_underlined hshown hpoints.getElem?_eq
  · intro message
    have hplace : toString (⟨byteLength before, line, column⟩ : Position) =
        toString line ++ toString ":" ++ toString column := rfl
    rw [LineIndex.render_single hfound, hposition, hplace]
    simp only [String.append_assoc]
  · let reports := failureReports options text tokens (.atToken fault line column)
    obtain ⟨e, herror, hspan⟩ := exists_error_told options text tokens fault line column s
    obtain ⟨ledger', hledger', hsource⟩ := exists_source_kept hcontext hledger reports text.toList
    rw [scanText_of_error options hscan]
    refine ⟨s.toldAll reports ++ [], e, ledger', ?_, ?_, hledger', ?_⟩
    · exact (tells_postAll s reports).bind (fun _ s => (_, s.keepSource text.toList))
        (.keepSource _ _ text.toList)
    · rw [List.append_nil, herror]
    · rw [Ledger.excerpt?, hspan, hsource]
      change LineIndex.excerpt? _ _ = _
      rw [LineIndex.excerpt?_single hfound, hposition]

/-- A comment over two lines comes before the failure, with a tab, characters of several bytes, and
carriage returns at the ends of the lines. -/
theorem failure_points_mixed :
    ∃ text s, text = "/* \u00eb\r\n*/\r\n\tint \u00e9 = # 7\r\n" ∧
      s = ({ ledger := some {}, context := some ⟨⟨"A.java"⟩, 3⟩ } : Session) ∧
      (scanText {} text s).1 = .error (.lexical (.atToken (.unexpectedCharacter '#') 3 10)) ∧
      ∃ before shown, PointsAt text.toList 3 10 before '#' shown ∧
        LineIndex.CaretBelow (LineIndex.underlined 3 10 1 shown) 3 10 shown '#' := by
  have hresult : (scanText {} "/* \u00eb\r\n*/\r\n\tint \u00e9 = # 7\r\n"
      { ledger := some {}, context := some ⟨⟨"A.java"⟩, 3⟩ }).1 =
        .error (.lexical (.atToken (.unexpectedCharacter '#') 3 10)) := by
    decide +kernel
  obtain ⟨-, before, c, -, shown, -, hunexpected, hpoints, hcaret, -⟩ :=
    failure_points rfl rfl hresult (by simp)
  obtain rfl := hunexpected '#' rfl
  exact ⟨_, _, rfl, rfl, hresult, before, shown, hpoints, hcaret⟩

end Listing
end JavaLex
