import JavaLex.Batch.Discovery

/-! # Command-line options

The arguments after the input are read from left to right, and a later option overrules an
earlier one. The number after an option that takes one belongs to it, whatever it looks like.
Whatever cannot be used is warned about and left out.
-/
namespace JavaLex.CommandLine
open JavaLex

structure Options where
  batch : BatchOptions
  /-- List the tokens of a single file as JSON. -/
  json : Bool := false
  /-- List no tokens at all. -/
  quiet : Bool := false
  deriving DecidableEq, Repr, Inhabited

/-- The options that are followed by a number. -/
inductive NumberOption where
  | threads
  | maxFiles
  deriving DecidableEq, Repr, Inhabited

namespace NumberOption

def spelling : NumberOption → String
  | .threads => "--threads"
  | .maxFiles => "--max-files"

def ofArgument? (argument : String) : Option NumberOption :=
  if argument = "--threads" then some .threads
  else if argument = "--max-files" then some .maxFiles
  else none

end NumberOption

inductive Warning where
  | invalid (option : NumberOption) (text : String)
  | missing (option : NumberOption)
  | unknown (option : String)
  deriving DecidableEq, Repr, Inhabited

def Warning.message : Warning → String
  | .invalid .threads text => s!"Warning: Invalid thread count '{text}', using default"
  | .invalid .maxFiles text => s!"Warning: Invalid max files '{text}', ignoring"
  | .missing option => s!"Warning: {option.spelling} requires a number"
  | .unknown option => s!"Warning: Unknown option '{option}'"

/-- A natural number below 2 to the 64, in decimal digits with or without a plus sign. -/
def count? (text : String) : Option Nat :=
  let digits :=
    match text.toList with
    | '+' :: digits => digits
    | digits => digits
  if digits.isEmpty || !digits.all Char.isDigit then none
  else
    let n := digits.foldl (fun n c => n * 10 + (c.toNat - '0'.toNat)) 0
    if n < Nat.pow 2 64 then some n else none

/-- The most threads that can be asked for. -/
def maxThreads : Nat := 32

namespace Options

/-- The options with one that takes a number. Threads are cut to what can be asked for, and a text
that is no number changes nothing. -/
def withNumber (o : Options) (option : NumberOption) (text : String) : Options × List Warning :=
  match count? text with
  | none => (o, [.invalid option text])
  | some n =>
    match option with
    | .threads => ({ o with batch := { o.batch with threads := max 1 (min maxThreads n) } }, [])
    | .maxFiles => ({ o with batch := { o.batch with maxFiles? := some n } }, [])

/-- The options with one that takes no number. The ones that only name what holds anyway, or that
are seen to elsewhere, change nothing. -/
def withFlag (o : Options) (option : String) : Options × List Warning :=
  match option with
  | "--sequential" => ({ o with batch := { o.batch with threads := 1 } }, [])
  | "--parallel" => (o, [])
  | "--no-recursive" => ({ o with batch := { o.batch with recursive := false } }, [])
  | "--fail-fast" => ({ o with batch := { o.batch with failFast := true } }, [])
  | "--quiet" => ({ o with batch := { o.batch with progress := false }, quiet := true }, [])
  | "--json" => ({ o with json := true }, [])
  | "--dump-tokens" => (o, [])
  | _ => (o, [.unknown option])

end Options

/-- How far arguments are read, and what has come of it. -/
structure Reading where
  options : Options
  /-- The index of the argument that comes next. -/
  next : Nat := 0
  warnings : List Warning := []
  deriving DecidableEq, Repr, Inhabited

namespace Reading

/-- Go on behind so many arguments, with what they changed. -/
def advance (r : Reading) (taken : Nat) (changed : Options × List Warning) : Reading :=
  { options := changed.1, next := r.next + taken, warnings := r.warnings ++ changed.2 }

/-- Read the argument that comes next. The one behind an option with a number is its number. -/
def step (arguments : List String) (r : Reading) (h : r.next < arguments.length) : Reading :=
  match NumberOption.ofArgument? arguments[r.next] with
  | none => r.advance 1 (r.options.withFlag arguments[r.next])
  | some option =>
    match arguments[r.next + 1]? with
    | none => r.advance 1 (r.options, [.missing option])
    | some text => r.advance 2 (r.options.withNumber option text)

theorem next_lt_step (arguments : List String) (r : Reading) (h : r.next < arguments.length) :
    r.next < (r.step arguments h).next := by
  unfold step
  split
  · exact Nat.lt_succ_self _
  · split
    · exact Nat.lt_succ_self _
    · exact Nat.lt_add_of_pos_right Nat.two_pos

/-- Read all arguments that are left. -/
def finish (arguments : List String) (r : Reading) : Reading :=
  if h : r.next < arguments.length then (r.step arguments h).finish arguments else r
termination_by arguments.length - r.next
decreasing_by
  have hlt := r.next_lt_step arguments h
  omega

end Reading

/-- Read arguments on top of the options. -/
def Options.read (o : Options) (arguments : List String) : Reading :=
  Reading.finish arguments { options := o }

end JavaLex.CommandLine
