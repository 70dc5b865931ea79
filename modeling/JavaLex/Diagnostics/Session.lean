import JavaLex.Diagnostics.Report
import JavaLex.Diagnostics.Sink
import JavaLex.Diagnostics.Summary
import JavaLex.Duration
import JavaLex.Settings

/-! # Sessions

A session is what a run of the program carries along: the log options, the log and the ledger,
the file at hand, what was printed, and a clock. Options, log and ledger are set up once, and
later attempts change nothing. Time is told by the clock one reading after another, so that a
session is a plain value.
-/
namespace JavaLex.Diagnostics
open Files

/-- The file at hand, and its number in a batch. -/
structure FileContext where
  path : FilePath
  id : Nat
  deriving DecidableEq, Repr, Inhabited

/-- What can be wrong with the limits of the log. -/
inductive LimitFault where
  | windowTooLarge (capacity : Nat)
  | windowTooSmall (capacity : Nat)
  | fileLimitTooLarge
  deriving DecidableEq, Repr, Inhabited

namespace LimitFault

def message : LimitFault → String
  | .windowTooLarge capacity => s!"Log buffer size too large: {capacity}"
  | .windowTooSmall capacity => s!"Log buffer size too small: {capacity}"
  | .fileLimitTooLarge => "Max log events per file exceeds total buffer size"

/-- The first thing that is wrong with a capacity of the window and a limit on the events of one
file. -/
def find? (capacity perFile : Nat) : Option LimitFault :=
  if 100000 < capacity then some (.windowTooLarge capacity)
  else if capacity < 100 then some (.windowTooSmall capacity)
  else if capacity < perFile then some .fileLimitTooLarge
  else none

theorem find?_limits : find? Window.capacity Ledger.fileLimit = none := by
  decide

end LimitFault

/-- Codes without which no log is taken into use. -/
def Code.essential : List Code :=
  [internalError, fileNotFound, unexpectedCharacter, directoryNotFound]

theorem Code.essential_registered : essential.find? (!·.isRegistered) = none := by
  decide

inductive SetupError where
  | limits (fault : LimitFault)
  | unregistered (code : Code)
  | optionsInstalled
  | logInstalled
  | ledgerInstalled
  deriving DecidableEq, Repr, Inhabited

def SetupError.message : SetupError → String
  | .limits fault => s!"Configuration validation failed: {fault.message}"
  | .unregistered code => s!"Missing metadata for error code: {code}"
  | .optionsInstalled => "Runtime preferences already initialized"
  | .logInstalled => "Global logger already initialized"
  | .ledgerInstalled => "Global error collector already initialized"

structure Session where
  /-- The log options as long as none are installed. -/
  standard : LogOptions := {}
  installed : Option LogOptions := none
  log : Option Log := none
  ledger : Option Ledger := none
  context : Option FileContext := none
  output : Output := #[]
  /-- Nanoseconds since the start of 1970, at each reading. -/
  clock : Nat → Nat := id
  readings : Nat := 0

namespace Session

def options (s : Session) : LogOptions :=
  s.installed.getD s.standard

/-- The level asked for, or the floor if that is less severe. -/
def level (s : Session) : Level :=
  max s.options.level Level.floor

/-- The time, and the session with the reading taken. -/
def now (s : Session) : Nat × Session :=
  (s.clock s.readings, { s with readings := s.readings + 1 })

/-- The time since an earlier reading. -/
def since (s : Session) (start : Nat) : Duration × Session :=
  match s.now with
  | (stop, s) => (⟨stop - start⟩, s)

def print (s : Session) (stream : Stream) (text : String) : Session :=
  { s with output := s.output.push (stream, text) }

def printLine (s : Session) (text : String) : Session :=
  s.print .standard (text ++ "\n")

def printErrorLine (s : Session) (text : String) : Session :=
  s.print .error (text ++ "\n")

/-! ## Setup

A step of the setup may fail, and what it did before that is not undone. -/

def putOptions (s : Session) (options : LogOptions) : Except SetupError Unit × Session :=
  match s.installed with
  | some _ => (.error .optionsInstalled, s)
  | none => (.ok (), { s with installed := some options })

/-- Take a log into use, and then a fresh ledger. -/
def putLog (s : Session) (log : Log) : Except SetupError Unit × Session :=
  match s.log with
  | some _ => (.error .logInstalled, s)
  | none =>
    let s := { s with log := some log }
    match s.ledger with
    | some _ => (.error .ledgerInstalled, s)
    | none => (.ok (), { s with ledger := some {} })

/-- The session that a step leaves, if it did not fail. -/
def kept : Except SetupError Unit × Session → Except SetupError Session
  | (.error e, _) => .error e
  | (.ok (), s) => .ok s

def installOptions (s : Session) (options : LogOptions) : Except SetupError Session :=
  kept (s.putOptions options)

def installLog (s : Session) (log : Log) : Except SetupError Session :=
  kept (s.putLog log)

def isReady (s : Session) : Bool :=
  s.log.isSome && s.ledger.isSome

/-- The log that the options ask for. -/
def configuredLog (s : Session) : Log :=
  { level := s.level
    sink :=
      if !s.options.console then .nowhere else if s.options.structured then .json else .text }

/-! ## Posting -/

/-- Hand an event to the log, if there is one. -/
def dispatch (s : Session) (e : Event) : Session :=
  match s.log with
  | none => s
  | some log =>
    match log.post s.output e with
    | (log, output) => { s with log := some log, output }

/-- File an event under the file at hand. -/
def collect (s : Session) (e : Event) : Session :=
  match s.context, s.ledger with
  | some context, some ledger => { s with ledger := some (ledger.record context.path e) }
  | _, _ => s

/-- The event with the path of the file at hand. -/
def attachPath (s : Session) (e : Event) : Event :=
  match s.context with
  | some context => e.withDetail "file" context.path.spelling
  | none => e

/-- The event with the path and the number of the file at hand. -/
def attachFile (s : Session) (e : Event) : Event :=
  match s.context with
  | some context => (s.attachPath e).withDetail "file_id" (toString context.id)
  | none => e

/-- The event that a report becomes, apart from the file at hand. -/
def eventOf (r : Report) : Event :=
  let event :=
    match r.topic with
    | .error code => Event.error code r.message
    | .warning code => Event.warning code r.message
    | .success code => Event.success code r.message
    | .info => Event.info r.message
    | .debug => Event.debug r.message
  { event with span? := r.span? }.withDetails r.details

/-- Errors and warnings are logged and filed, everything else is only logged. Debugging is left
out unless the level asks for it. -/
def post (s : Session) (r : Report) : Session :=
  match s.now with
  | (time, s) =>
    let event := { eventOf r with time := ⟨time⟩ }
    match r.topic with
    | .error _ | .warning _ =>
      let event := s.attachFile event
      (s.dispatch event).collect event
    | .success _ => s.dispatch (s.attachFile event)
    | .info => s.dispatch (s.attachPath event)
    | .debug => if Level.debug ≤ s.level then s.dispatch (s.attachPath event) else s

def postAll (s : Session) (reports : List Report) : Session :=
  reports.foldl post s

/-- An error that is printed if there is no log yet, and not filed. -/
def postAlone (s : Session) (code : Code) (message : String) : Session :=
  match s.log with
  | none => s.printErrorLine s!"[ERROR] FALLBACK: [{code}] {message}"
  | some _ =>
    match s.now with
    | (time, s) => s.dispatch { Event.error code message with time := ⟨time⟩ }

/-- Take the configured log into use and say so in it. -/
def putConfiguredLog (s : Session) : Except SetupError Unit × Session :=
  match LimitFault.find? Window.capacity Ledger.fileLimit,
    Code.essential.find? (!·.isRegistered) with
  | some fault, _ => (.error (.limits fault), s)
  | none, some code => (.error (.unregistered code), s)
  | none, none =>
    match s.putLog s.configuredLog with
    | (.error e, s) => (.error e, s)
    | (.ok (), s) =>
      match s.now with
      | (time, s) =>
        (.ok (), s.dispatch
          { Event.success Code.initializationCompleted "Global logging system initialized" with
            time := ⟨time⟩ })

def setUp (s : Session) : Except SetupError Session :=
  kept s.putConfiguredLog

/-! ## The file at hand -/

def enter (s : Session) (path : FilePath) (id : Nat) : Session :=
  { s with context := some ⟨path, id⟩ }

def leave (s : Session) : Session :=
  { s with context := none }

/-- Do something with a file at hand. -/
def within {α : Type} (s : Session) (path : FilePath) (id : Nat) (act : Session → α × Session) :
    α × Session :=
  match act (s.enter path id) with
  | (a, s) => (a, s.leave)

/-- Keep the text of the file at hand for the excerpts. -/
def keepSource (s : Session) (source : List Char) : Session :=
  match s.context, s.ledger with
  | some context, some ledger => { s with ledger := some (ledger.keepSource context.path source) }
  | _, _ => s

/-! ## Telling about the session -/

def report? (s : Session) : Option String :=
  s.ledger.bind Ledger.report?

def printReport (s : Session) : Session :=
  if s.options.summary then
    match s.report? with
    | some text => s.print .error text
    | none => s
  else s

/-- The limits and options of the log, a line each. -/
def configuration (s : Session) : String :=
  s!"Logging Configuration:\n- Log buffer size: {Window.capacity}\n" ++
    s!"- Max events per file: {Ledger.fileLimit}\n- Max message length: {maxMessageBytes}\n" ++
    s!"- Min log level: {s.options.level.name} (effective {s.level.name})\n" ++
    s!"- Structured logging: {s.options.structured}\n- Console logging: {s.options.console}\n" ++
    s!"- Cargo-style output: {s.options.summary}"

private def ledgerLines (l : Ledger) : String :=
  s!"Capacity: {l.size}/{Ledger.capacity} ({Text.fixedPoint (l.fill * 100.0) 1}%)\n" ++
    s!"Files processed: {l.summary.files}\nTotal errors: {l.summary.errors}\n" ++
    s!"Total warnings: {l.summary.warnings}\n"

def diagnostics (s : Session) : String :=
  s!"=== Logging System Diagnostics ===\nInitialized: {s.isReady}\n" ++
    s.ledger.elim "" ledgerLines ++ "\n" ++ s.configuration

end Session
end JavaLex.Diagnostics
