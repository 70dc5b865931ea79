import JavaLex.Diagnostics.Code
import JavaLex.Diagnostics.Level
import JavaLex.Diagnostics.Timestamp
import JavaLex.Source.Position
import JavaLex.Text.Boundary
import JavaLex.Text.Json

/-! # Events

What a log holds: a level, a code, a message, the place in the source that it is about, and named
details in the order of their names. A message is cut to a bounded number of bytes, at the end of
a character, when the event is made.
-/
namespace JavaLex.Diagnostics
open Source Text

/-- Named details, in increasing order of the names. -/
abbrev Details := List (String × String)

/-- A detail given twice keeps its last value. -/
def Details.insert (key value : String) : Details → Details
  | [] => [(key, value)]
  | (k, v) :: details =>
    if key < k then (key, value) :: (k, v) :: details
    else if key = k then (key, value) :: details
    else (k, v) :: Details.insert key value details

def Details.ofList (details : List (String × String)) : Details :=
  details.foldl (fun d (key, value) => Details.insert key value d) []

/-- The most bytes that a message may have. -/
def maxMessageBytes : Nat := 10000

/-- The message as it is kept: whole, or up to the last character that ends within the bound. There
is none if the place to cut it at is missed. -/
def boundedMessage? (message : String) : Option String := do
  if message.utf8ByteSize ≤ maxMessageBytes then return message
  else
    let cut ← boundary? message maxMessageBytes
    return (← firstBytes? message cut) ++ "... [truncated]"

theorem isSome_boundedMessage? (message : String) : (boundedMessage? message).isSome := by
  unfold boundedMessage?
  split
  · rfl
  · obtain ⟨cut, hcut, hlast⟩ := exists_boundary? message maxMessageBytes
    obtain ⟨first, rest, -, -, hfirst⟩ := hlast.exists_firstBytes?
    simp [hcut, hfirst]

def boundedMessage (message : String) : String :=
  (boundedMessage? message).get (isSome_boundedMessage? message)

structure Event where
  level : Level
  code : Code
  message : String
  span? : Option Span := none
  details : Details := []
  time : Timestamp := ⟨0⟩
  deriving DecidableEq, Repr, Inhabited

namespace Event

private def ofMessage (level : Level) (code : Code) (message : String) : Event :=
  { level, code, message := boundedMessage message }

def error (code : Code) (message : String) : Event :=
  ofMessage .error code message

def warning (code : Code) (message : String) : Event :=
  ofMessage .warning code message

def info (message : String) : Event :=
  ofMessage .info Code.plainInfo message

/-- News of something done, on the level of information. -/
def success (code : Code) (message : String) : Event :=
  ofMessage .info code message

def debug (message : String) : Event :=
  ofMessage .debug Code.plainDebug message

def withSpan (e : Event) (span : Span) : Event :=
  { e with span? := some span }

def withDetail (e : Event) (key value : String) : Event :=
  { e with details := e.details.insert key value }

def withDetails (e : Event) (details : List (String × String)) : Event :=
  details.foldl (fun e (key, value) => e.withDetail key value) e

def isError (e : Event) : Bool :=
  e.level == .error

def isWarning (e : Event) : Bool :=
  e.level == .warning

def isInfo (e : Event) : Bool :=
  e.level == .info

def isDebug (e : Event) : Bool :=
  e.level == .debug

/-- The event on one line. -/
def line (e : Event) : String :=
  s!"[{e.level.label}] {e.code} - {e.message}" ++
    match e.span? with
    | some span => s!" at {span.first}"
    | none => ""

/-- The line of the event and below it what is known about its code and its details. -/
def paragraph (e : Event) : String :=
  e.line ++ s!"\n  Category: {e.code.category}\n  Severity: {e.code.severity.name}" ++
    (if e.isError then
      s!"\n  Recoverable: {e.code.isRecoverable}\n  Requires halt: {e.code.requiresHalt}"
    else "") ++
    (e.code.description?.elim "" fun text => s!"\n  Description: {text}") ++
    (e.code.action?.elim "" fun text => s!"\n  Recommended action: {text}") ++
    (if e.details.isEmpty then ""
    else "\n  Context:" ++
      String.join (e.details.map fun (key, value) => s!"\n    {key}: {value}"))

private def errorMembers (e : Event) : List (String × Json) :=
  if e.isError then
    [("error_metadata", .sorted
      [("recoverable", .bool e.code.isRecoverable), ("requires_halt", .bool e.code.requiresHalt),
        ("description", .string e.code.description),
        ("recommended_action", .string e.code.action)])]
  else []

private def spanMembers (e : Event) : List (String × Json) :=
  match e.span? with
  | some span =>
    [("span", .sorted
      [("start_line", .nat span.first.line), ("start_column", .nat span.first.column),
        ("end_line", .nat span.last.line), ("end_column", .nat span.last.column)])]
  | none => []

private def detailMembers (e : Event) : List (String × Json) :=
  if e.details.isEmpty then []
  else [("context", .sorted (e.details.map fun (key, value) => (key, .string value)))]

def toJson (e : Event) : Json :=
  .sorted
    ([("timestamp", .string (toString e.time)), ("level", .string e.level.label),
      ("code", .string e.code), ("message", .string e.message),
      ("category", .string e.code.category), ("severity", .string e.code.severity.name)] ++
      e.errorMembers ++ e.spanMembers ++ e.detailMembers)

end Event
end JavaLex.Diagnostics
