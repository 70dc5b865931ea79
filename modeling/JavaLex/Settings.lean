import JavaLex.Diagnostics.Level

/-! # Settings

What a run can be told: which files to refuse, what to count while scanning, and how to log.
-/
namespace JavaLex
open Diagnostics

structure FileRules where
  /-- Refuse files whose name has not the extension of Java sources. -/
  requireExtension : Bool := false
  rejectEmpty : Bool := false
  /-- Log how long reading a file took. -/
  timing : Bool := true
  deriving DecidableEq, Repr, Inhabited

structure ScanOptions where
  /-- Count the tokens of each kind. -/
  countKinds : Bool := true
  countComments : Bool := true
  /-- List the tokens found when a scan fails. -/
  dumpOnFailure : Bool := true
  deriving DecidableEq, Repr, Inhabited

structure LogOptions where
  /-- One JSON object a line in place of plain text. -/
  structured : Bool := false
  console : Bool := false
  level : Level := .info
  /-- Print the summary of errors and warnings. -/
  summary : Bool := true
  deriving DecidableEq, Repr, Inhabited

structure Settings where
  files : FileRules := {}
  scan : ScanOptions := {}
  log : LogOptions := {}
  deriving DecidableEq, Repr, Inhabited

end JavaLex
