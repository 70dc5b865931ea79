/-! # Why a file cannot be had

The ways in which looking up or reading a file fails, with the words and numbers that the
operating system has for them.
-/
namespace JavaLex.Files

inductive AccessFault where
  | notFound
  | denied
  | notDirectory
  | isDirectory
  | nameTooLong
  | tooManyLinks
  /-- The name holds the character that ends names. -/
  | unnameable
  /-- The content is not UTF-8. -/
  | notText
  /-- Any other fault that the operating system has a number for. -/
  | other (number : Nat) (kind text : String)
  deriving DecidableEq, Repr, Inhabited

namespace AccessFault

/-- The number of a fault that the operating system knows. -/
def number? : AccessFault → Option Nat
  | .notFound => some 2
  | .denied => some 13
  | .notDirectory => some 20
  | .isDirectory => some 21
  | .nameTooLong => some 36
  | .tooManyLinks => some 40
  | .unnameable | .notText => none
  | .other number _ _ => some number

def text : AccessFault → String
  | .notFound => "No such file or directory"
  | .denied => "Permission denied"
  | .notDirectory => "Not a directory"
  | .isDirectory => "Is a directory"
  | .nameTooLong => "File name too long"
  | .tooManyLinks => "Too many levels of symbolic links"
  | .unnameable => "file name contained an unexpected NUL byte"
  | .notText => "stream did not contain valid UTF-8"
  | .other _ _ text => text

def kind : AccessFault → String
  | .notFound => "NotFound"
  | .denied => "PermissionDenied"
  | .notDirectory => "NotADirectory"
  | .isDirectory => "IsADirectory"
  | .nameTooLong => "InvalidFilename"
  | .tooManyLinks => "FilesystemLoop"
  | .unnameable => "InvalidInput"
  | .notText => "InvalidData"
  | .other _ kind _ => kind

def message (f : AccessFault) : String :=
  match f.number? with
  | some n => s!"{f.text} (os error {n})"
  | none => f.text

/-- The fault with all that is known about it. -/
def details (f : AccessFault) : String :=
  match f.number? with
  | some n => "Os \x7b code: " ++ s!"{n}, kind: {f.kind}, message: \"{f.text}\"" ++ " \x7d"
  | none => "Error \x7b kind: " ++ s!"{f.kind}, message: \"{f.text}\"" ++ " \x7d"

end AccessFault
end JavaLex.Files
