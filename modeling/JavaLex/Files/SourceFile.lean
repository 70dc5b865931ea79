import JavaLex.Diagnostics.Session
import JavaLex.Files.FileError
import JavaLex.Files.FileTree
import JavaLex.Unicode.LowerCase

/-! # Source files

A file is read only if it keeps the limits on its size and lines and the rules of the settings.
What is known about it is found out first, then the rules are checked in a fixed order, and the
first one broken is the error. So is a request about the file that is refused, with what the
operating system gives as the reason. Files with another extension, if they are let through, and
large ones are warned about.
-/
namespace JavaLex.Files
open Diagnostics

/-- The most bytes of a file. -/
def maxFileSize : Nat := 10 * 1024 * 1024

/-- Files of more bytes than this count as large. -/
def largeFileSize : Nat := 1024 * 1024

/-- The most lines of a file. -/
def maxLineCount : Nat := 200000

def sourceExtension : String := "java"

/-- Bytes in the largest unit of at most a gigabyte that they fill. -/
def sizeText (size : Nat) : String :=
  let bytes := Duration.ofCount size
  let scaled (unit : Float) (name : String) : String := Text.fixedPoint (bytes / unit) 2 ++ name
  if size < 1024 then s!"{size} B"
  else if bytes / 1024.0 < 1024.0 then scaled 1024.0 " KB"
  else if bytes / 1048576.0 < 1024.0 then scaled 1048576.0 " MB"
  else scaled 1073741824.0 " GB"

/-- What is known about a file: where it is, with all links followed, and what it is like. -/
structure FileFacts where
  path : FilePath
  size : Nat
  /-- The extension in lower case. -/
  extension? : Option String
  lines : Nat
  deriving DecidableEq, Repr, Inhabited

namespace FileFacts

def isSource (f : FileFacts) : Bool :=
  f.extension? == some sourceExtension

def isLarge (f : FileFacts) : Bool :=
  largeFileSize < f.size

def extensionText (f : FileFacts) : String :=
  f.extension?.getD "none"

def ofPlace (place : Place) : FileFacts :=
  { path := place.path
    size := place.entry.size
    extension? := place.path.extension?.map Unicode.lower
    lines := 0 }

def report (f : FileFacts) : Report :=
  .debug "File metadata collected"
    [("size_bytes", toString f.size), ("extension", f.extensionText),
      ("is_java", toString f.isSource)]

end FileFacts

/-- A refusal is an error and what to report about it. -/
structure Refusal where
  error : FileError
  message : String
  details : List (String × String) := []
  deriving DecidableEq, Repr, Inhabited

namespace Refusal

def report (r : Refusal) : Report :=
  .error r.error.code r.message r.details

/-- The refusal that a fault in getting at `p` amounts to, under the name that the file is told by. -/
def ofFault (p : FilePath) (message : String) (name : String × String) (fault : AccessFault) :
    Refusal :=
  let error := FileError.ofFault p fault
  ⟨error, message, [name, ("reason", error.message)]⟩

end Refusal
end JavaLex.Files

namespace JavaLex.FileRules
open Diagnostics Files

/-- The place of the file that a path leads to. -/
def locate (t : FileTree) (p : FilePath) : Except Refusal Place :=
  if p.spelling.isEmpty then
    .error ⟨.notFile p.spelling, "Empty file path provided", []⟩
  else if !t.exists? p then
    .error ⟨.notFound p.spelling, "File not found", [("path", p.spelling)]⟩
  else if !t.isFile p then
    .error ⟨.notFile p.spelling, "Path is not a file", [("path", p.spelling)]⟩
  else (t.canonical p).mapError (.ofFault p "Failed to resolve path" ("path", p.spelling))

/-- The facts about the file at a place, but for its lines. -/
def collect (t : FileTree) (place : Place) : Except Refusal FileFacts :=
  match t.sizeAt place with
  | .error fault =>
    .error (.ofFault place.path "Failed to read file metadata" ("path", place.path.spelling) fault)
  | .ok size => .ok { FileFacts.ofPlace place with size }

/-- The place of a file and the facts about it. -/
def find (t : FileTree) (p : FilePath) : Except Refusal (Place × FileFacts) := do
  let place ← locate t p
  return (place, ← collect t place)

/-- The first rule that a file breaks by its size or its name. -/
def refusal? (rules : FileRules) (p : FilePath) (facts : FileFacts) : Option Refusal :=
  if maxFileSize < facts.size then
    some ⟨.tooLarge facts.size maxFileSize, "File exceeds maximum size",
      [("file", p.spelling), ("size_human", sizeText facts.size),
        ("limit_human", sizeText maxFileSize)]⟩
  else if facts.size = 0 ∧ rules.rejectEmpty then
    some ⟨.empty, "File is empty", [("file", p.spelling)]⟩
  else if !facts.isSource ∧ rules.requireExtension then
    some ⟨.wrongExtension facts.extension?, "File does not have the .java extension",
      [("file", p.spelling), ("extension", facts.extensionText)]⟩
  else none

def warnings (p : FilePath) (facts : FileFacts) : List Report :=
  (if facts.isSource then []
  else
    [.warning Code.extensionMismatch "Tokenizing a file without the .java extension"
      [("file", p.spelling), ("extension", facts.extensionText)]]) ++
  if facts.isLarge then
    [.warning Code.largeFile "Large source file"
      [("file", p.spelling), ("size_human", sizeText facts.size)]]
  else []

/-- The text at a place, if it is text and of not too many lines, and the number of lines. -/
def textAt (t : FileTree) (p : FilePath) (place : Place) : Except Refusal (String × Nat) :=
  match t.contentAt place with
  | .error fault =>
    .error (.ofFault place.path "Failed to read file" ("file", p.spelling) fault)
  | .ok text =>
    let lines := Text.lineCount text.toList
    if maxLineCount < lines then
      .error ⟨.tooManyLines lines maxLineCount, "File exceeds maximum line count",
        [("file", p.spelling), ("lines", toString lines),
          ("max_lines", toString maxLineCount)]⟩
    else .ok (text, lines)

/-- The text of a file and the facts about it, with all there is to report on the way. -/
def read (rules : FileRules) (t : FileTree) (p : FilePath) :
    List Report × Except FileError (String × FileFacts) :=
  match find t p with
  | .error refusal => ([refusal.report], .error refusal.error)
  | .ok (place, facts) =>
    match rules.refusal? p facts with
    | some refusal => ([facts.report, refusal.report], .error refusal.error)
    | none =>
      let reports := facts.report :: warnings p facts
      match textAt t p place with
      | .error refusal => (reports ++ [refusal.report], .error refusal.error)
      | .ok (text, lines) => (reports, .ok (text, { facts with lines }))

end JavaLex.FileRules

namespace JavaLex.Files
open Diagnostics

/-- The text of a file, the facts about it, and how long it took to read. -/
structure SourceFile where
  text : String
  facts : FileFacts
  duration : Duration
  deriving Repr, Inhabited

namespace SourceFile

/-- Characters read in a millisecond. -/
def rate (f : SourceFile) : Float :=
  Duration.rate f.text.length f.duration.milliseconds

def report (timing : Bool) (p : FilePath) (f : SourceFile) : Report :=
  let duration := Text.fixedPoint f.duration.milliseconds 2
  if timing then
    .success Code.fileRead "File read with performance metrics"
      [("file", p.spelling), ("size_bytes", toString f.facts.size),
        ("size_human", sizeText f.facts.size), ("lines", toString f.facts.lines),
        ("chars", toString f.text.length), ("duration_ms", duration),
        ("chars_per_ms", Text.fixedPoint f.rate 2)]
  else
    .success Code.fileRead "File read"
      [("file", p.spelling), ("lines", toString f.facts.lines), ("duration_ms", duration)]

/-- Read a file in a session. -/
def read (rules : FileRules) (t : FileTree) (p : FilePath) (s : Session) :
    Except FileError SourceFile × Session :=
  match s.now with
  | (start, s) =>
    let s := s.post (.debug "Starting file processing" [("file", p.spelling)])
    match rules.read t p with
    | (reports, .error e) => (.error e, s.postAll reports)
    | (reports, .ok (text, facts)) =>
      match (s.postAll reports).since start with
      | (duration, s) =>
        let file : SourceFile := { text, facts, duration }
        (.ok file, s.post (file.report rules.timing p))

end SourceFile
end JavaLex.Files
