import JavaLex.Diagnostics.Session

/-! # Checks at the start

Every code that files and scans fail with has to be registered. The check is logged like any
other work.
-/
namespace JavaLex.Diagnostics

namespace Code

def ofFiles : List Code :=
  [fileNotFound, invalidExtension, fileTooLarge, emptyFile, permissionDenied, invalidEncoding,
    unreadableFile, invalidPath, tooManyLines]

def ofScans : List Code :=
  [unexpectedCharacter, unexpectedEndOfInput, invalidComment, emptyCharacterLiteral,
    expectedCharacter, unreadableSource, tooManyTokens]

/-- Whether all these codes are registered. -/
def allRegistered (codes : List Code) : Bool :=
  codes.all isRegistered

theorem ofFiles_registered : allRegistered ofFiles = true := by
  decide

theorem ofScans_registered : allRegistered ofScans = true := by
  decide

end Code

/-- Check the codes in a session. -/
def Session.validate (s : Session) : Bool × Session :=
  let s := s.post (.debug "Validating pipeline configuration")
  if Code.allRegistered Code.ofFiles && Code.allRegistered Code.ofScans then
    (true, s.post (.success Code.initializationCompleted "Pipeline validation succeeded"
      [("file_processing", "true"), ("lexical_analysis", "true")]))
  else (false, s)

end JavaLex.Diagnostics
