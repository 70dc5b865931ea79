/-! # Positions in a source text

A position counts bytes of the UTF-8 form from zero, and lines and columns from one. A column
is one character, tabs included. Positions are compared by offset, then line, then column.

The counts have no bound. Held in 32 bits they are the same as long as a text has less than 2 to the
32 lines and a line less than as many characters; all texts are taken to be of that kind.
-/
namespace JavaLex.Source

/-- Bytes of the UTF-8 form. -/
def byteLength (s : List Char) : Nat :=
  s.foldl (fun n c => n + c.utf8Size) 0

structure Position where
  offset : Nat
  line : Nat
  column : Nat
  deriving DecidableEq, Repr, Inhabited, Ord

namespace Position

def start : Position := ⟨0, 1, 1⟩

/-- Only a line feed starts a line. -/
def advance (p : Position) (c : Char) : Position :=
  if c = '\n' then ⟨p.offset + 1, p.line + 1, 1⟩
  else ⟨p.offset + c.utf8Size, p.line, p.column + 1⟩

def advanceAll (p : Position) (s : List Char) : Position :=
  s.foldl advance p

instance : ToString Position where
  toString p := s!"{p.line}:{p.column}"

theorem advanceAll_append (p : Position) (s t : List Char) :
    p.advanceAll (s ++ t) = (p.advanceAll s).advanceAll t := by
  simp [advanceAll]

end Position

/-- From `first` up to, but not including, `last`. -/
structure Span where
  first : Position
  last : Position
  deriving DecidableEq, Repr, Inhabited

namespace Span

/-- One byte and one column from `p` on. -/
def single (p : Position) : Span :=
  ⟨p, ⟨p.offset + 1, p.line, p.column + 1⟩⟩

def covering (p : Position) (s : List Char) : Span :=
  ⟨p, p.advanceAll s⟩

def length (s : Span) : Nat :=
  s.last.offset - s.first.offset

def isEmpty (s : Span) : Bool :=
  s.first.offset == s.last.offset

def contains (s : Span) (p : Position) : Bool :=
  s.first.offset ≤ p.offset && p.offset < s.last.offset

instance : ToString Span where
  toString s :=
    if s.first.line = s.last.line then s!"{s.first}-{s.last.column}"
    else s!"{s.first}-{s.last}"

end Span
end JavaLex.Source
