import JavaLex.Unicode.DefaultIgnorable
import JavaLex.Unicode.GraphemeExtend
import JavaLex.Unicode.Printable

/-! # Text with its unprintable characters spelled out

A diagnostic shows a character as itself, behind a backslash, or by its code point. Four
controls have a letter of their own, a backslash is doubled, and what quotes the text is
escaped in it. A mark would join the character before it, so it is shown by its code point
wherever nothing suitable stands there. What a display may leave out counts as unprintable.
-/
namespace JavaLex.Text

def hexDigits (n : Nat) : List Char :=
  Nat.toDigits 16 n

def codePoint (c : Char) : List Char :=
  ['\\', 'u', '{'] ++ hexDigits c.toNat ++ ['}']

/-- Characters that show as themselves. -/
def isVisible (c : Char) : Bool :=
  Unicode.printable.contains c && !Unicode.defaultIgnorable.contains c

/-- Characters that join the one before them. The halfwidth sound marks extend it as well, but each
takes a cell of its own. -/
def isMark (c : Char) : Bool :=
  Unicode.graphemeExtend.contains c && c ≠ '\uFF9E' && c ≠ '\uFF9F'

/-- One character, where `quotes` are the characters to escape and `marks` says whether a mark
is shown by its code point. -/
def escapeChar (quotes : List Char) (marks : Bool) (c : Char) : List Char :=
  if c = '\x00' then ['\\', '0']
  else if c = '\t' then ['\\', 't']
  else if c = '\r' then ['\\', 'r']
  else if c = '\n' then ['\\', 'n']
  else if c = '\\' || quotes.contains c then ['\\', c]
  else if marks && isMark c then codePoint c
  else if isVisible c then [c]
  else codePoint c

/-- A character between single quotes. -/
def quotedChar (c : Char) : String :=
  String.ofList (['\''] ++ escapeChar ['\''] true c ++ ['\''])

/-- A text between double quotes. -/
def quoted (text : String) : String :=
  String.ofList (['"'] ++ text.toList.flatMap (escapeChar ['"'] true) ++ ['"'])

/-- A text without quotes around it: both kinds are escaped, and a mark only at its head. -/
def escaped (text : String) : String :=
  match text.toList with
  | [] => ""
  | c :: s =>
    String.ofList (escapeChar ['\'', '"'] true c ++ s.flatMap (escapeChar ['\'', '"'] false))

end JavaLex.Text
