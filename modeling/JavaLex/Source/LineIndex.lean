import JavaLex.Source.Position
import JavaLex.Text.Line

/-! # The line index of a source text

The byte offset at which each line starts leads from an offset to its line and column, and
back. On top of it stand the excerpts of a diagnostic: the line at fault behind a gutter with
its number, and carets below it.
-/
namespace JavaLex.Source

structure LineIndex where
  source : List Char
  starts : Array Nat

namespace LineIndex

/-- Offsets behind the line feeds of a text that starts at offset `n`. -/
def startsFrom (n : Nat) (found : Array Nat) : List Char → Array Nat
  | [] => found
  | c :: s => startsFrom (n + c.utf8Size) (if c = '\n' then found.push (n + 1) else found) s

def ofSource (source : List Char) : LineIndex :=
  ⟨source, startsFrom 0 #[0] source⟩

def lineCount (m : LineIndex) : Nat :=
  m.starts.size

/-- What is left behind the first `n` bytes, unless they end inside a character. -/
def dropBytes? : Nat → List Char → Option (List Char)
  | 0, s => some s
  | _ + 1, [] => none
  | n + 1, c :: s => if c.utf8Size ≤ n + 1 then dropBytes? (n + 1 - c.utf8Size) s else none

/-- The number of characters in the first `n` bytes on top of `k`, unless they end inside one. -/
def countBytes? (k : Nat) : Nat → List Char → Option Nat
  | 0, _ => some k
  | _ + 1, [] => none
  | n + 1, c :: s =>
    if c.utf8Size ≤ n + 1 then countBytes? (k + 1) (n + 1 - c.utf8Size) s else none

/-- The number of characters from one offset up to another, unless they are out of order or one of
them stands inside a character. -/
def countBetween? (first last : Nat) (s : List Char) : Option Nat := do
  if first ≤ last then countBytes? 0 (last - first) (← dropBytes? first s) else none

/-- The text from one offset up to another, unless they are out of order or one of them stands inside
a character. -/
def slice? (first last : Nat) (s : List Char) : Option (List Char) := do
  if first ≤ last then
    let rest ← dropBytes? first s
    return rest.take (← countBytes? 0 (last - first) rest)
  else none

/-- Where an offset stands among ascending ones: it is the one at an index, or it comes before
that one and behind all earlier ones. -/
inductive Slot where
  | here (index : Nat)
  | before (index : Nat)
  deriving DecidableEq, Repr

/-- Look at the entries from `first` up to, but not including, `last`. The one in the middle tells
in which half to look on. -/
def slotBetween (starts : Array Nat) (offset first last : Nat) (h : last ≤ starts.size) : Slot :=
  if hlt : first < last then
    let middle := first + (last - first) / 2
    if starts[middle] = offset then .here middle
    else if starts[middle] < offset then slotBetween starts offset (middle + 1) last h
    else slotBetween starts offset first middle (by omega)
  else .before first
termination_by last - first

def slot (m : LineIndex) (offset : Nat) : Slot :=
  slotBetween m.starts offset 0 m.starts.size (Nat.le_refl _)

/-- The index of the line that holds an offset. An offset that comes before the start of a line
belongs to the line above, and there is none above the first. -/
def lineIndex? (m : LineIndex) (offset : Nat) : Option Nat :=
  match m.slot offset with
  | .here index => some index
  | .before 0 => none
  | .before (index + 1) => some index

/-- Offsets past the end count as the end; inside a character there is no position. Nor is there
one where a step of the lookup has no answer. -/
def positionAt? (m : LineIndex) (offset : Nat) : Option Position := do
  let offset := min offset (byteLength m.source)
  let line ← m.lineIndex? offset
  let start ← m.starts[line]?
  let before ← countBetween? start offset m.source
  return ⟨offset, line + 1, before + 1⟩

/-- The text from the start of a line on, counted from one. Line zero reads as the first. -/
def fromLine? (m : LineIndex) (line : Nat) : Option (Nat × List Char) := do
  let start ← m.starts[line - 1]?
  return (start, ← dropBytes? start m.source)

/-- The offset of a line and column, cut to the end of the line or of the source. The line and
the column are kept as they were asked for, but a line past the last gives the end. -/
def positionOf (m : LineIndex) (line column : Nat) : Position :=
  match m.fromLine? line with
  | none => Position.start.advanceAll m.source
  | some (start, rest) =>
    let before := (rest.takeWhile (· ≠ '\n')).take (column - 1)
    ⟨start + byteLength before, max line 1, max column 1⟩

/-- Where a line ends, counted from one: one byte before the next line starts, or with the source.
No line starts at zero but the first. -/
def lineEnd? (m : LineIndex) (line : Nat) : Option Nat :=
  match m.starts[line]? with
  | none => some (byteLength m.source)
  | some 0 => none
  | some (next + 1) => some next

/-- A line counted from one, without its terminator. -/
def line? (m : LineIndex) (line : Nat) : Option (List Char) :=
  if line = 0 then none
  else do
    let start ← m.starts[line - 1]?
    return Text.trimEnd (· == '\r') (← slice? start (← m.lineEnd? line) m.source)

def spaces (n : Nat) : String :=
  String.ofList (List.replicate n ' ')

def gutter (line : Nat) : String :=
  spaces (toString line).length

/-- The line at fault and `carets` carets from `column` on. -/
def underlined (line column carets : Nat) (text : List Char) : String :=
  let bar := gutter line
  s!"{bar} |\n{line} | {String.ofList text}\n{bar} | {spaces (column - 1)}" ++
    String.ofList (List.replicate carets '^') ++ "\n"

/-- The line on which a span starts, with one caret under its first column. -/
def excerpt? (m : LineIndex) (span : Span) : Option String :=
  (m.line? span.first.line).map (underlined span.first.line span.first.column 1)

/-- The carets cover the span, or the rest of the line if it goes on to another; at least one. -/
def caretCount (span : Span) (text : List Char) : Nat :=
  if span.first.line = span.last.line then max 1 (span.last.column - span.first.column)
  else max 1 (text.length - (span.first.column - 1))

def render (m : LineIndex) (span : Span) (message : String) : String :=
  s!"Error: {message}\n  --> {span.first}\n" ++
    match m.line? span.first.line with
    | none => ""
    | some text => underlined span.first.line span.first.column (caretCount span text) text

end LineIndex
end JavaLex.Source
