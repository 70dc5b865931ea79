import JavaLex.Diagnostics.Code
import JavaLex.Files.AccessFault
import JavaLex.Files.FilePath
import JavaLex.Text.Escaped

/-! # Why a file is refused

A file is refused because it cannot be had or because it breaks a rule or a limit.
-/
namespace JavaLex.Files
open Diagnostics

inductive FileError where
  | notFound (path : String)
  | wrongExtension (found? : Option String)
  | tooLarge (size limit : Nat)
  | empty
  | forbidden (path : String)
  | notText (path : String)
  | unreadable (reason : String)
  | notFile (path : String)
  | tooManyLines (lines limit : Nat)
  deriving DecidableEq, Repr, Inhabited

namespace FileError

private def quotedExtension : Option String → String
  | some extension => "Some(" ++ Text.quoted extension ++ ")"
  | none => "None"

def message : FileError → String
  | .notFound path => s!"File not found: {path}"
  | .wrongExtension found? =>
    "Invalid file extension: expected .java, found " ++ quotedExtension found?
  | .tooLarge size limit => s!"File too large: {size} bytes (max: {limit})"
  | .empty => "File is empty"
  | .forbidden path => s!"Permission denied: {path}"
  | .notText path => s!"Invalid UTF-8 encoding in file: {path}"
  | .unreadable reason => s!"I/O error reading file: {reason}"
  | .notFile path => s!"Invalid file path: {path}"
  | .tooManyLines lines limit => s!"File exceeds maximum line count: {lines} (max: {limit})"

def code : FileError → Code
  | .notFound _ => Code.fileNotFound
  | .wrongExtension _ => Code.invalidExtension
  | .tooLarge _ _ => Code.fileTooLarge
  | .empty => Code.emptyFile
  | .forbidden _ => Code.permissionDenied
  | .notText _ => Code.invalidEncoding
  | .unreadable _ => Code.unreadableFile
  | .notFile _ => Code.invalidPath
  | .tooManyLines _ _ => Code.tooManyLines

/-- The error that a fault in getting at a file amounts to, by the kind of the fault. -/
def ofFault (path : FilePath) (fault : AccessFault) : FileError :=
  match fault.kind with
  | "NotFound" => .notFound path.spelling
  | "PermissionDenied" => .forbidden path.spelling
  | "InvalidData" => .notText path.spelling
  | _ => .unreadable s!"'{path}': {fault.message}"

end FileError
end JavaLex.Files
