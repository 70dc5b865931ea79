import JavaLex.Files.FileError
import JavaLex.Scan.Fault

/-! # Why a source has no listing

Either its file was refused or its text does not scan.
-/
namespace JavaLex
open Diagnostics Files Scan

inductive ListingError where
  | file (error : FileError)
  | lexical (error : LexicalError)
  deriving DecidableEq, Repr, Inhabited

namespace ListingError

def message : ListingError → String
  | .file error => "File processing failed: " ++ error.message
  | .lexical error => "Lexical analysis failed: " ++ error.message

def code : ListingError → Code
  | .file error => error.code
  | .lexical error => error.code

def location? : ListingError → Option (Nat × Nat)
  | .file _ => none
  | .lexical error => error.location?

/-- The kind of error, its code and its place in a few words. -/
def brief : ListingError → String
  | .file error => s!"file error [{error.code}]"
  | .lexical error =>
    s!"lexical error [{error.code}]" ++
      match error.location? with
      | some (line, column) => s!" at {line}:{column}"
      | none => ""

end ListingError
end JavaLex
