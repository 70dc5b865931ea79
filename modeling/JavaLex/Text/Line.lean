/-! # Lines of a text

Two ways of cutting a text into lines: at line feeds alone, as positions are counted, and at
any of the three terminators LF, CR LF and CR, as the body of a text block is read.
-/
namespace JavaLex.Text

/-- The text without the characters of `p` at its end. -/
def trimEnd (p : Char → Bool) (s : List Char) : List Char :=
  (s.reverse.dropWhile p).reverse

/-- The pieces of a text between the places where `d` stands. -/
def pieces (d : Char) : List Char → List (List Char)
  | [] => [[]]
  | c :: s =>
    if c = d then [] :: pieces d s
    else
      match pieces d s with
      | [] => [[c]]
      | piece :: rest => (c :: piece) :: rest

@[simp] theorem pieces_nil (d : Char) : pieces d [] = [[]] := rfl

theorem pieces_cons (d c : Char) (s : List Char) : pieces d (c :: s) =
    if c = d then [] :: pieces d s
    else
      match pieces d s with
      | [] => [[c]]
      | piece :: rest => (c :: piece) :: rest := rfl

def isTerminator (c : Char) : Bool :=
  c == '\n' || c == '\r'

def linesFrom (line : List Char) (done : Array (List Char)) : List Char → Array (List Char)
  | [] => if line.isEmpty then done else done.push line.reverse
  | '\r' :: '\n' :: s => linesFrom [] (done.push line.reverse) s
  | c :: s =>
    if isTerminator c then linesFrom [] (done.push line.reverse) s
    else linesFrom (c :: line) done s

/-- The lines ended by LF, CR LF or CR. A terminator at the end starts no further line. -/
def lines (s : List Char) : List (List Char) :=
  (linesFrom [] #[] s).toList

/-- The number of lines ended by LF. A line feed at the end starts no further line. -/
def lineCount (s : List Char) : Nat :=
  s.count '\n' + if s.getLast?.all (· == '\n') then 0 else 1

end JavaLex.Text
