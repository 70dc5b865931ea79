import JavaLex.Diagnostics.Event

/-! # Where events go

A log lets the events through that are severe enough and hands them to its sink: a window over
the last events, lines of text, lines of JSON, or nothing. Errors are printed on the error
stream, and everything else on the standard one.
-/
namespace JavaLex.Diagnostics

inductive Stream where
  | standard
  | error
  deriving DecidableEq, Repr, Inhabited

/-- Text written so far, each piece with its stream. -/
abbrev Output := Array (Stream × String)

/-- What went to one of the streams. -/
def Output.on (output : Output) (stream : Stream) : String :=
  String.join ((output.toList.filter (·.1 == stream)).map (·.2))

/-- The most recent events, in order. -/
structure Window where
  events : Array Event := #[]
  deriving Repr, Inhabited

namespace Window

/-- How many events a window holds. -/
def capacity : Nat := 10000

/-- The oldest events give way to a new one. -/
def push (w : Window) (e : Event) : Window :=
  if w.events.size < capacity then ⟨w.events.push e⟩
  else ⟨(w.events.extract (w.events.size + 1 - capacity) w.events.size).push e⟩

def clear (_ : Window) : Window :=
  {}

def size (w : Window) : Nat :=
  w.events.size

def toList (w : Window) : List Event :=
  w.events.toList

def errors (w : Window) : List Event :=
  w.toList.filter Event.isError

def withCode (w : Window) (code : Code) : List Event :=
  w.toList.filter (·.code == code)

def inCategory (w : Window) (category : String) : List Event :=
  w.toList.filter (·.code.category == category)

def hasError (w : Window) (code : Code) : Bool :=
  w.toList.any fun e => e.isError && e.code == code

def hasSuccess (w : Window) (code : Code) : Bool :=
  w.toList.any fun e => e.isInfo && e.code == code

def countLevel (w : Window) (level : Level) : Nat :=
  w.toList.countP (·.level == level)

/-- How many events there are, in all and of each level. -/
structure Counts where
  total : Nat
  errors : Nat
  warnings : Nat
  infos : Nat
  debugs : Nat
  deriving DecidableEq, Repr, Inhabited

namespace Counts

def hasErrors (c : Counts) : Bool :=
  0 < c.errors

def hasWarnings (c : Counts) : Bool :=
  0 < c.warnings

end Counts

def counts (w : Window) : Counts :=
  { total := w.size
    errors := w.countLevel .error
    warnings := w.countLevel .warning
    infos := w.countLevel .info
    debugs := w.countLevel .debug }

end Window

inductive Sink where
  | window (w : Window)
  | text
  | json
  | nowhere
  deriving Repr, Inhabited

structure Log where
  level : Level
  sink : Sink
  deriving Repr, Inhabited

namespace Log

/-- Whether events of this level are severe enough. -/
def admits (l : Log) (level : Level) : Bool :=
  level ≤ l.level

def window? (l : Log) : Option Window :=
  match l.sink with
  | .window w => some w
  | _ => none

private def streamOf (e : Event) : Stream :=
  if e.isError then .error else .standard

/-- Hand an event on, whatever its level. -/
def record (l : Log) (output : Output) (e : Event) : Log × Output :=
  match l.sink with
  | .window w => ({ l with sink := .window (w.push e) }, output)
  | .text => (l, output.push (streamOf e, e.line ++ "\n"))
  | .json => (l, output.push (streamOf e, e.toJson.compact ++ "\n"))
  | .nowhere => (l, output)

def post (l : Log) (output : Output) (e : Event) : Log × Output :=
  if l.admits e.level then l.record output e else (l, output)

/-- Forget the events in the window, if there is one. -/
def clear (l : Log) : Log :=
  match l.sink with
  | .window w => { l with sink := .window w.clear }
  | _ => l

end Log
end JavaLex.Diagnostics
