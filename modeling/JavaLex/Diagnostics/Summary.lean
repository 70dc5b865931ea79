import JavaLex.Diagnostics.Ledger

/-! # The summary of a ledger

How many files failed, were warned about or went well, and the report that lists file by file
the errors, each with the line that it points to, and the warnings.
-/
namespace JavaLex.Diagnostics
open Files

structure Summary where
  files : Nat := 0
  succeeded : Nat := 0
  failed : Nat := 0
  warned : Nat := 0
  errors : Nat := 0
  warnings : Nat := 0
  deriving DecidableEq, Repr, Inhabited

namespace Summary

/-- A file with an error has failed; one with warnings only was warned about. -/
def add (s : Summary) (events : List Event) : Summary :=
  let errors := events.countP Event.isError
  let warnings := events.countP Event.isWarning
  { files := s.files + 1
    succeeded := if errors = 0 ∧ warnings = 0 then s.succeeded + 1 else s.succeeded
    failed := if 0 < errors then s.failed + 1 else s.failed
    warned := if errors = 0 ∧ 0 < warnings then s.warned + 1 else s.warned
    errors := s.errors + errors
    warnings := s.warnings + warnings }

def hasErrors (s : Summary) : Bool :=
  0 < s.errors

def hasWarnings (s : Summary) : Bool :=
  0 < s.warnings

end Summary

namespace Ledger

def summary (l : Ledger) : Summary :=
  l.toList.foldl (fun s (_, events) => s.add events) {}

/-- The details of an event, without the file under which it is filed anyway. -/
def detailLines (e : Event) : String :=
  String.join ((e.details.filter fun (key, _) => key ≠ "file" && key ≠ "file_id").map
    fun (key, value) => s!"  = {key}: {value}\n")

/-- The line that an event points to, if the text of its file is known. -/
def excerpt? (l : Ledger) (p : FilePath) (e : Event) : Option String := do
  let span ← e.span?
  let source ← l.sources.find? p
  source.excerpt? span

def errorBlock (l : Ledger) (p : FilePath) (e : Event) : String :=
  s!"error[{e.code}]: {e.message}" ++ (e.span?.elim "" fun span => s!"\n  --> {p}:{span.first}") ++
    "\n" ++ (l.excerpt? p e).getD "" ++
    s!"  = severity: {e.code.severity.name}, category: {e.code.category}\n" ++ detailLines e ++
    e.code.action?.elim "" fun text => s!"  = help: {text}\n"

def warningBlock (e : Event) : String :=
  s!"warning[{e.code}]: {e.message}\n" ++ detailLines e

/-- The part of a report on one file. -/
def fileBlock (l : Ledger) (p : FilePath) (events : List Event) : String :=
  let errors := events.filter Event.isError
  let warnings := events.filter Event.isWarning
  if errors.isEmpty && warnings.isEmpty then ""
  else
    s!"Checking {p}...\n" ++ String.join (errors.map (l.errorBlock p)) ++
      String.join (warnings.map warningBlock) ++ "\n"

def report (l : Ledger) : String :=
  let s := l.summary
  String.join (l.toList.map fun (p, events) => l.fileBlock p events) ++
    (if s.hasErrors then s!"Total errors: {s.errors}\n" else "") ++
    (if s.hasWarnings then s!"Total warnings: {s.warnings}\n" else "")

/-- The report, unless there is neither an error nor a warning. -/
def report? (l : Ledger) : Option String :=
  if l.summary.hasErrors || l.summary.hasWarnings then some l.report else none

end Ledger
end JavaLex.Diagnostics
