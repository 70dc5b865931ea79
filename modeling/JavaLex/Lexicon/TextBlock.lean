import JavaLex.Lexicon.Character
import JavaLex.Text.Line

/-! # The body of a text block

The indentation that all lines of a body share is incidental and is removed, together with
the whitespace at the end of each line. Blank lines do not count, except that the last line,
which holds the closing delimiter, counts even if it is blank. A body that ends in a
terminator has its delimiter in the first column and so keeps its indentation.
-/
namespace JavaLex.Lexicon

def isBlank (line : List Char) : Bool :=
  line.all isWhitespace

def indentation (line : List Char) : Nat :=
  (line.takeWhile isWhitespace).length

/-- The lines that bound the indentation to remove, each by its number of characters. -/
def indentBounds (lines : List (List Char)) : List Nat :=
  ((lines.filter (!isBlank ·)).map indentation) ++
    match lines.getLast? with
    | some line => if isBlank line then [line.length] else []
    | none => []

/-- The indentation that every line shares. -/
def sharedIndent (lines : List (List Char)) : Nat :=
  (indentBounds lines).min?.getD 0

def stripLine (indent : Nat) (line : List Char) : List Char :=
  if isBlank line then []
  else Text.trimEnd isWhitespace (line.drop (min indent (indentation line)))

def endsInTerminator (body : List Char) : Bool :=
  body.getLast?.any Text.isTerminator

def stripIndent (body : List Char) : List Char :=
  let lines := Text.lines body
  let terminated := endsInTerminator body
  let indent := if terminated then 0 else sharedIndent lines
  List.intercalate ['\n'] (lines.map (stripLine indent)) ++ if terminated then ['\n'] else []

end JavaLex.Lexicon
