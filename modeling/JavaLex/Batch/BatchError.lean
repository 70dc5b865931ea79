import JavaLex.Diagnostics.Code

/-! # Why a batch comes to nothing

The directory is missing or holds no sources, or too many; or walking it or working on its files
breaks down.
-/
namespace JavaLex
open Diagnostics

inductive BatchError where
  | directoryNotFound (path : String)
  | noSources (path : String)
  | tooManyFiles (count limit : Nat)
  | unreadable (reason : String)
  | workerFailed (reason : String)
  deriving DecidableEq, Repr, Inhabited

namespace BatchError

def message : BatchError → String
  | .directoryNotFound path => s!"Directory not found: {path}"
  | .noSources path => s!"No .java files found in directory: {path}"
  | .tooManyFiles count limit => s!"Too many files found: {count} (max: {limit})"
  | .unreadable reason => s!"IO error during directory traversal: {reason}"
  | .workerFailed reason => s!"Worker thread error: {reason}"

def code : BatchError → Code
  | .directoryNotFound _ => Code.directoryNotFound
  | .noSources _ => Code.noSourceFiles
  | .tooManyFiles _ _ => Code.tooManyFiles
  | .unreadable _ => Code.discoveryFailure
  | .workerFailed _ => Code.workerFailure

end BatchError
end JavaLex
