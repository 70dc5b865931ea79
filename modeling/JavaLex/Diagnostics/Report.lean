import JavaLex.Diagnostics.Code
import JavaLex.Duration
import JavaLex.Source.Position

/-! # Reports

What a part of the program has to say, before a session makes it an event: the session adds the
time and the file at hand, and decides who gets to see it.
-/
namespace JavaLex.Diagnostics
open Source

inductive Topic where
  | error (code : Code)
  | warning (code : Code)
  | success (code : Code)
  | info
  | debug
  deriving DecidableEq, Repr, Inhabited

structure Report where
  topic : Topic
  message : String
  span? : Option Span := none
  details : List (String × String) := []
  deriving DecidableEq, Repr, Inhabited

namespace Report

def error (code : Code) (message : String) (details : List (String × String) := []) : Report :=
  { topic := .error code, message, details }

def warning (code : Code) (message : String) (details : List (String × String) := []) : Report :=
  { topic := .warning code, message, details }

def success (code : Code) (message : String) (details : List (String × String) := []) : Report :=
  { topic := .success code, message, details }

/-- News of something done and how long it took. -/
def timed (code : Code) (message : String) (duration : Duration)
    (details : List (String × String) := []) : Report :=
  .success code message
    (("duration_ms", Text.fixedPoint duration.milliseconds 3) :: details)

def info (message : String) (details : List (String × String) := []) : Report :=
  { topic := .info, message, details }

def debug (message : String) (details : List (String × String) := []) : Report :=
  { topic := .debug, message, details }

end Report
end JavaLex.Diagnostics
