import JavaLex.Files.SourceFile
import JavaLex.Listing.ListingError
import JavaLex.Scan.Scanner
import JavaLex.Tally

/-! # Listings

The listing of a source is all its tokens with their tally. Making one in a session reports
the outcome under the name of the source: that it is complete, or where the scan failed, after the
tokens up to there if the options ask for them.
-/
namespace JavaLex
open Diagnostics Files Scan Source

/-- A scanner at the start of a file. -/
def Scan.Scanner.ofFile (t : FileTree) (p : FilePath) : Except LexicalError Scanner :=
  match t.readText p with
  | .ok text => .ok (.ofSource text.toList)
  | .error fault => .error (.unreadable p.spelling fault.message)

structure Listing where
  name : String
  tokens : Array Token
  tally : Tally
  /-- What is known about the file, if the source is one. -/
  facts? : Option FileFacts := none
  duration : Duration

namespace Listing

/-- The number of tokens without the end of input. -/
def size (l : Listing) : Nat :=
  l.tokens.toList.countP (!·.isEnd)

/-- Tokens in a second. -/
def rate (l : Listing) : Float :=
  Duration.rate l.size l.duration.seconds

def toJson (l : Listing) : Text.Json :=
  .object
    [("source", .string l.name), ("tokens", .array (l.tokens.toList.map Token.toJson)),
      ("metrics", l.tally.toJson)]

def report (l : Listing) : Report :=
  .success Code.tokenizationComplete "Tokenization complete"
    [("file", l.name), ("tokens", toString l.size), ("comments", toString l.tally.comments),
      ("duration_ms", Text.fixedPoint l.duration.milliseconds 2),
      ("tokens_per_sec", Text.fixedPoint l.rate 0)]

/-- Some tokens, one a line. -/
def dump (tokens : List Token) : String :=
  String.intercalate "\n" (tokens.map toString)

def dumpReport (tokens : Array Token) : Report :=
  .warning Code.tokenDump "Tokens collected before failure"
    [("collected", toString tokens.size), ("tokens", dump tokens.toList)]

/-- An error with the place that it names, found again in the text. -/
def errorReport (text : String) (e : LexicalError) : Report :=
  { topic := .error e.code
    message := e.message
    span? := e.location?.map fun (line, column) =>
      Span.single ((LineIndex.ofSource text.toList).positionOf line column) }

/-- All there is to report on a scan that failed. -/
def failureReports (options : ScanOptions) (text : String) (tokens : Array Token)
    (e : LexicalError) : List Report :=
  (if options.dumpOnFailure then [dumpReport tokens] else []) ++ [errorReport text e]

/-- Take the tokens of a supply, with room for so many more, each into account as it comes. -/
def collect (options : ScanOptions) (tokens : Array Token) (tally : Tally) :
    Nat → Supply → Outcome × Tally
  | room, supply =>
    match supply.next with
    | (none, _) => (⟨tokens, none⟩, tally)
    | (some (.error e), _) => (⟨tokens, some e⟩, tally)
    | (some (.ok t), supply) =>
      match room with
      | 0 => (⟨tokens, some (.atToken (.tooManyTokens maxTokens) t.line t.column)⟩, tally)
      | room + 1 => collect options (tokens.push t) (tally.record options t) room supply

/-- Scan a text in a session, with the tally alongside. -/
def scanText (options : ScanOptions) (text : String) (s : Session) :
    Except ListingError (Array Token × Tally) × Session :=
  match collect options #[] {} maxTokens (Scanner.ofSource text.toList).supply with
  | (⟨tokens, none⟩, tally) => (.ok (tokens, tally), s)
  | (⟨tokens, some e⟩, _) =>
    (.error (.lexical e),
      (s.postAll (failureReports options text tokens e)).keepSource text.toList)

/-- The listing of a text. -/
def ofText (options : ScanOptions) (name text : String) (s : Session) :
    Except ListingError Listing × Session :=
  s.within ⟨name⟩ 0 fun s =>
    match s.now with
    | (start, s) =>
      match scanText options text s with
      | (.error e, s) => (.error e, s)
      | (.ok (tokens, tally), s) =>
        match s.since start with
        | (duration, s) =>
          let listing : Listing := { name, tokens, tally, duration }
          (.ok listing, s.post listing.report)

/-- The listing of a file, which has a number in its batch. -/
def ofFile (settings : Settings) (t : FileTree) (p : FilePath) (id : Nat) (s : Session) :
    Except ListingError Listing × Session :=
  s.within p id fun s =>
    match s.now with
    | (start, s) =>
      let s := s.post (.info "Starting tokenization" [("file", p.spelling)])
      match SourceFile.read settings.files t p s with
      | (.error e, s) => (.error (.file e), s)
      | (.ok file, s) =>
        match scanText settings.scan file.text s with
        | (.error e, s) => (.error e, s)
        | (.ok (tokens, tally), s) =>
          match s.since start with
          | (duration, s) =>
            let listing : Listing :=
              { name := p.spelling, tokens, tally, facts? := some file.facts, duration }
            (.ok listing, s.post listing.report)

end Listing
end JavaLex
