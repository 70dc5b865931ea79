import JavaLex.Proofs.Listing.Pointing

/-! # What a diagnostic marks

The span of an error starts at the character that was not expected and goes one byte and one column
on. So it ends in the right line and column whatever the character is, and behind the character
exactly if that takes one byte.
-/
namespace JavaLex
open Diagnostics Scan Source Session

namespace Source

/-- One byte and one column on is where a character of one byte ends, unless it ends the line. -/
theorem Span.last_single_eq_iff {p : Position} {c : Char} (hfeed : c ≠ '\n') :
    (single p).last = p.advance c ↔ c.utf8Size = 1 := by
  simp [single, Position.advance, hfeed, eq_comm]

/-- How a span marks the character `c` that has `before` in front of it. -/
structure Span.Marks (span : Span) (before : List Char) (c : Char) : Prop where
  first_eq : span.first = Position.start.advanceAll before
  offset_eq : span.first.offset = byteLength before
  line_eq : span.last.line = (span.first.advance c).line
  column_eq : span.last.column = (span.first.advance c).column
  /-- The end goes by one byte, and so is short of the end of a character of several bytes. -/
  last_offset_eq : span.last.offset = span.first.offset + 1
  covers_iff : span.last = span.first.advance c ↔ c.utf8Size = 1

theorem Span.marks_single {c : Char} (hfeed : c ≠ '\n') (before : List Char) :
    (single (Position.start.advanceAll before)).Marks before c where
  first_eq := rfl
  offset_eq := (Position.offset_advanceAll _ _).trans (Nat.zero_add _)
  line_eq := by simp [single, Position.advance, hfeed]
  column_eq := by simp [single, Position.advance, hfeed]
  last_offset_eq := rfl
  covers_iff := last_single_eq_iff hfeed

end Source

namespace Listing
variable {options : ScanOptions} {text : String} {s : Session}

/-- The error that is logged for an unexpected character has a span that starts at the character
and is one byte long. -/
theorem failure_marks_character {c : Char} {line column : Nat}
    (h : (scanText options text s).1 =
      .error (.lexical (.atToken (.unexpectedCharacter c) line column))) :
    ∃ calls before after events e span,
      FailsAt text.toList calls (.unexpectedCharacter c) before c after ∧
      Tells (scanText options text) s events ∧ events.filter Event.isError = [e] ∧
      e.span? = some span ∧ span.Marks before c := by
  obtain ⟨tokens, hscan⟩ := scan_of_scanText h
  obtain ⟨before, x, after, hfails, hline, hcolumn⟩ := scan_failsAt hscan (by simp)
  obtain rfl := hfails.eq_of_unexpectedCharacter
  obtain ⟨e, herror, hspan⟩ :=
    exists_error_told options text tokens (.unexpectedCharacter c) line column s
  have hfeed : c ≠ '\n' := by
    rintro rfl
    exact absurd hfails.solid (by decide)
  have hplace : (LineIndex.ofSource text.toList).positionOf line column =
      Position.start.advanceAll before := by
    rw [hline, hcolumn, hfails.source_eq, LineIndex.positionOf_advanceAll]
  rw [hplace] at hspan
  exact ⟨tokens.size, before, after, _, e, _, hfails, tells_scanText options hscan s, herror, hspan,
    Span.marks_single hfeed before⟩

/-- Letters of two bytes come before a character of one byte. -/
theorem failure_marks_character_narrow : ∃ text s, text = "/* \u00eb */ int \u00e9 = #" ∧
    s = ({ ledger := some {} } : Session) ∧
    (scanText {} text s).1 = .error (.lexical (.atToken (.unexpectedCharacter '#') 1 17)) ∧
    ∃ calls before after events e span,
      FailsAt text.toList calls (.unexpectedCharacter '#') before '#' after ∧
      Tells (scanText {} text) s events ∧ events.filter Event.isError = [e] ∧
      e.span? = some span ∧ span.Marks before '#' ∧ span.last = span.first.advance '#' := by
  have hresult : (scanText {} "/* \u00eb */ int \u00e9 = #" { ledger := some {} }).1 =
      .error (.lexical (.atToken (.unexpectedCharacter '#') 1 17)) := by
    decide +kernel
  obtain ⟨calls, before, after, events, e, span, hfails, htells, herror, hspan, hmarks⟩ :=
    failure_marks_character hresult
  exact ⟨_, _, rfl, rfl, hresult, calls, before, after, events, e, span, hfails, htells, herror,
    hspan, hmarks, hmarks.covers_iff.mpr (by decide)⟩

/-- The events that a window over the whole of a failing scan holds. -/
def logged (text : String) : List Event :=
  let s : Session := { log := some ⟨.debug, .window {}⟩ }
  (((scanText {} text s).2.log.bind Log.window?).map Window.toList).getD []

/-- The span logged for a character of two bytes ends inside it. -/
theorem marks_short_of_character :
    (logged "int a = \u00d7;").map (fun e => (e.code, e.span?)) =
      [(Code.tokenDump, none), (Code.unexpectedCharacter, some ⟨⟨8, 1, 9⟩, ⟨9, 1, 10⟩⟩)] ∧
    (⟨8, 1, 9⟩ : Position).advance '\u00d7' = ⟨10, 1, 10⟩ := by
  refine ⟨?_, ?_⟩
  all_goals decide +kernel

end Listing
end JavaLex
