import JavaLex.Batch.Basic
import JavaLex.CommandLine.Options
import JavaLex.CommandLine.Validation
import JavaLex.Settings.SettingsFile

/-! # The command

A run takes a file or a directory, lists its tokens or those of all sources under it, and ends
with a status: zero if everything went well. What it prints is part of its result.
-/
namespace JavaLex.CommandLine
open JavaLex Diagnostics Files Source

/-- What a run of the command can see. -/
structure World where
  program : String
  environment : Environment := []
  files : FileTree
  /-- The number of threads if none is asked for. -/
  threads : Nat
  clock : Nat → Nat
  schedules : Nat → Schedule := fun _ => .inOrder

structure Outcome where
  status : Nat
  output : Output
  /-- How often the clock was read. -/
  readings : Nat := 0
  deriving Repr, Inhabited

namespace Outcome

def standard (o : Outcome) : String :=
  o.output.on .standard

def error (o : Outcome) : String :=
  o.output.on .error

end Outcome

def version : String := "0.1.0"

def usage (program : String) : List String :=
  [s!"Usage: {program} <file.java|directory> [options]", s!"       {program} --help"]

def help (program : String) : List String :=
  [s!"Java Tokenizer v{version}",
    "Splits Java 21 source into positioned tokens",
    "",
    "USAGE:",
    s!"    {program} <file.java>                   # Tokenize one file",
    s!"    {program} <directory> [options]         # Tokenize a source tree",
    "",
    "OPTIONS:",
    "    --help              Show this help message",
    "    --sequential        Force sequential processing (no parallelism)",
    "    --parallel          Force parallel processing (default)",
    "    --threads N         Set maximum number of threads (1-32, default: auto)",
    "    --no-recursive      Don't search subdirectories",
    "    --max-files N       Limit maximum files to process",
    "    --fail-fast         Stop on first failing file",
    "    --quiet             Suppress progress and token listings",
    "    --dump-tokens       Log the tokens collected before a lexical error",
    "    --json              Print a single file's tokens as JSON",
    "",
    "ENVIRONMENT:",
    "    JTOK_CONFIG_FILE    TOML file with [file_processor], [lexical] and [logging] tables",
    "    JTOK_LOGGING_MIN_LEVEL, JTOK_REQUIRE_JAVA_EXTENSION, ... override single preferences",
    "",
    "EXAMPLES:",
    s!"    {program} src/Main.java --json",
    s!"    {program} src/ --threads 4",
    s!"    {program} src/ --sequential --fail-fast"]

/-- Lines on one stream, and nothing else. -/
def Outcome.ofLines (status : Nat) (stream : Stream) (lines : List String) : Outcome :=
  { status, output := (lines.map fun line => (stream, line ++ "\n")).toArray }

namespace World

/-! ## A single file -/

def printListing (o : Options) (l : Listing) (s : Session) : Session :=
  if o.json then s.printLine l.toJson.pretty
  else if o.quiet then s
  else
    let s := l.tokens.foldl (fun s token => s.printLine (toString token)) s
    (s.printLine "").printLine s!"{l.name}: {l.size} tokens in {l.tally.lastLine} lines"

/-- The line of a file that an error points to. -/
def rendered? (w : World) (p : FilePath) (e : ListingError) : Option String := do
  let (line, column) ← e.location?
  let text ← (w.files.readText p).toOption
  let index := LineIndex.ofSource text.toList
  return index.render (Span.single (index.positionOf line column)) s!"[{e.code}] {e.message}"

def runFile (w : World) (settings : Settings) (o : Options) (p : FilePath) (s : Session) :
    Bool × Session :=
  match Listing.ofFile settings w.files p 0 s with
  | (.ok l, s) => (true, printListing o l s)
  | (.error e, s) =>
    let s := s.printErrorLine s!"FAILED: {e.message}"
    (false, (w.rendered? p e).elim s fun text => s.print .error text)

/-! ## A directory -/

def printPlan (o : BatchOptions) (p : FilePath) (s : Session) : Session :=
  if o.progress then
    let s := s.printLine s!"Starting batch tokenization: {p}"
    let s := s.printLine
      (s!"Configuration: {o.threads} threads, recursive={o.recursive}, " ++
        s!"fail_fast={o.failFast}")
    match o.maxFiles? with
    | some n => s.printLine s!"File limit: {n} files maximum"
    | none => s
  else s

def printResult (r : BatchResult) (s : Session) : Session :=
  let s := (s.printLine ("\n" ++ r.summary)).printLine s!"  Files discovered: {r.discovered}"
  let s :=
    if 0.0 < r.duration.seconds then
      let rate := Duration.ofCount r.tokenCount / r.duration.seconds
      s.printLine s!"  Processing rate: {Text.fixedPoint rate 0} tokens/sec"
    else s
  if r.failed.isEmpty then s
  else r.failed.foldl (fun s (p, e) => s.printLine s!"  {p}: {e.brief}")
    (s.printLine "\nFailed Files:")

def runBatch (w : World) (o : BatchOptions) (p : FilePath) (s : Session) : Bool × Session :=
  match o.run w.files w.schedules p (printPlan o p s) with
  | (.ok r, s) => (r.failed.isEmpty, printResult r s)
  | (.error e, s) =>
    (false, s.printErrorLine s!"Batch processing failed [{e.code}]: {e.message}")

/-! ## The whole run -/

def runInput (w : World) (settings : Settings) (o : Options) (p : FilePath) (s : Session) :
    Bool × Session :=
  if w.files.isFile p then w.runFile settings o p s
  else if w.files.isDirectory p then w.runBatch o.batch p s
  else
    (false, (s.printErrorLine "Error: Input must be a .java file or a directory").printErrorLine
      s!"  Path: {p}")

/-- A run that was set up: the input, the report of the ledger, and the time it took. -/
def runReady (w : World) (settings : Settings) (o : Options) (p : FilePath) (s : Session) :
    Outcome :=
  match s.now with
  | (start, s) =>
    match w.runInput settings o p s with
    | (succeeded, s) =>
      let s := s.printReport
      match s.since start with
      | (duration, s) =>
        let s :=
          if o.quiet then s
          else s.printLine s!"Finished in {Text.fixedPoint duration.seconds 2}s"
        ⟨if succeeded then 0 else 1, s.output, s.readings⟩

/-- An error that ends a run before it begins. -/
def fail (s : Session) (details : String) : Outcome :=
  ⟨1, (s.printErrorLine s!"Error: {details}").output, s.readings⟩

/-- Set up a session with the settings, and run in it. -/
def runWith (w : World) (settings : Settings) (input : String) (arguments : List String) :
    Outcome :=
  let settings :=
    if arguments.contains "--dump-tokens" then
      { settings with scan := { settings.scan with dumpOnFailure := true } }
    else settings
  let r := Options.read { batch := { threads := w.threads, settings } } arguments
  let s : Session := { standard := w.environment.logOptions, clock := w.clock }
  let s := r.warnings.foldl (fun s warning => s.printErrorLine warning.message) s
  match (do (← s.installOptions settings.log).setUp : Except SetupError Session) with
  | .error e => fail s (Text.quoted e.message)
  | .ok s =>
    match s.validate with
    | (true, s) => w.runReady settings r.options ⟨input⟩ s
    | (false, s) => fail s "unregistered code"

/-- Run the command with its arguments. -/
def run (w : World) (arguments : List String) : Outcome :=
  match arguments with
  | [] => .ofLines 1 .error (usage w.program)
  | input :: arguments =>
    if input = "--help" then .ofLines 0 .standard (help w.program)
    else
      match Settings.ofEnvironment w.environment w.files with
      | .error e => .ofLines 1 .error [s!"Error: {e.details}"]
      | .ok settings => w.runWith settings input arguments

end World
end JavaLex.CommandLine
