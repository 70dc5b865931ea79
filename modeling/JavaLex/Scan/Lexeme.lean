import JavaLex.Lexicon.Symbol
import JavaLex.Lexicon.TextBlock
import JavaLex.Scan.Fault
import JavaLex.Source.Position
import JavaLex.Token

/-! # Lexemes

What stands at the head of a text that does not begin with whitespace. The recognizers are
tried in a fixed order: comment, text block, string, character, number, word, separator,
operator. The first that applies says how many characters it covers and which token they
make, or after how many characters it failed.
-/
namespace JavaLex.Scan
open Lexicon

inductive Lexeme where
  | token (kind : TokenKind) (text : List Char) (length : Nat)
  | failure (fault : Fault) (length : Nat)
  deriving DecidableEq, Repr, Inhabited

namespace Lexeme

/-- Whether a block comment is closed, its last character first. It has four bytes at least, since
its closer cannot share the star of its opener. -/
def isClosedComment (taken : List Char) : Bool :=
  ['/', '*'].isPrefixOf taken && 4 ≤ Source.byteLength taken

/-- The text of a block comment, which takes in one character after the other until it is
closed. -/
def closedComment? (taken : List Char) : List Char → Option (List Char)
  | [] => if isClosedComment taken then some taken.reverse else none
  | c :: s => if isClosedComment taken then some taken.reverse else closedComment? (c :: taken) s

/-- A line comment runs up to the line feed. -/
def comment? : List Char → Option Lexeme
  | '/' :: '/' :: s =>
    let body := s.takeWhile (· ≠ '\n')
    some (.token .singleLineComment ('/' :: '/' :: body) (body.length + 2))
  | '/' :: '*' :: s =>
    match closedComment? ['*', '/'] s with
    | some text => some (.token .multiLineComment text text.length)
    | none => some (.failure .invalidComment (s.length + 2))
  | _ => none

/-- The number of characters before the closing quote, on top of `n`. A backslash takes the
character after it along. -/
def quotedLength? (quote : Char) (n : Nat) : List Char → Option Nat
  | [] => none
  | '\\' :: [] => none
  | '\\' :: _ :: s => quotedLength? quote (n + 2) s
  | c :: s => if c = quote then some n else quotedLength? quote (n + 1) s

/-- The number of characters before the closing delimiter of a text block, on top of `n`. -/
def blockLength? (n : Nat) : List Char → Option Nat
  | [] => none
  | '\\' :: [] => none
  | '\\' :: _ :: s => blockLength? (n + 2) s
  | '"' :: '"' :: '"' :: _ => some n
  | _ :: s => blockLength? (n + 1) s

/-- A text block after its opening delimiter: whitespace, a line feed, the body and the closing
delimiter. -/
def textBlock (s : List Char) : Lexeme :=
  let blank := s.takeWhile fun c => isWhitespace c && c != '\n'
  match s.drop blank.length with
  | [] => .failure .unexpectedEndOfInput (s.length + 3)
  | '\n' :: body =>
    match blockLength? 0 body with
    | some n => .token .textBlock (stripIndent (body.take n)) (blank.length + n + 7)
    | none => .failure .unexpectedEndOfInput (s.length + 3)
  | c :: _ => .failure (.expectedCharacter '\n' c) (blank.length + 3)

def string? : List Char → Option Lexeme
  | '"' :: '"' :: '"' :: s => some (textBlock s)
  | '"' :: s =>
    match quotedLength? '"' 0 s with
    | some n => some (.token .string (s.take n) (n + 2))
    | none => some (.failure .unexpectedEndOfInput (s.length + 1))
  | _ => none

def character? : List Char → Option Lexeme
  | '\'' :: '\'' :: _ => some (.failure .emptyCharacterLiteral 2)
  | '\'' :: s =>
    match quotedLength? '\'' 0 s with
    | some n => some (.token .character (s.take n) (n + 2))
    | none => some (.failure .unexpectedEndOfInput (s.length + 1))
  | _ => none

/-- What a number is made of: so many leading characters, a run of digits and one suffix, if any
follows. -/
structure Radix where
  lead : Nat
  digits : List Char
  suffixes : List Char

namespace Radix

def binary : Radix := ⟨2, "01_".toList, "lL".toList⟩
def hexadecimal : Radix := ⟨2, "1234567890abcdefABCDEF._pP+-".toList, "lLdDfF".toList⟩
def octal : Radix := ⟨0, "01234567_".toList, "lL".toList⟩
def decimal : Radix := ⟨0, "0123456789._eE-+".toList, "lLdDfF".toList⟩

/-- The number of characters of the number at the head of `s`. -/
def length (r : Radix) (s : List Char) : Nat :=
  let n := r.lead + ((s.drop r.lead).takeWhile r.digits.contains).length
  if (s.drop n).head?.any r.suffixes.contains then n + 1 else n

end Radix

/-- The opening of a number decides which characters it may hold; their order is not checked. -/
def radix? : List Char → Option Radix
  | '0' :: c :: _ =>
    if c = 'b' ∨ c = 'B' then some .binary
    else if c = 'x' ∨ c = 'X' then some .hexadecimal
    else if Radix.octal.digits.contains c then some .octal
    else some .decimal
  | '.' :: c :: _ => if isDigit c then some .decimal else none
  | c :: _ => if isDigit c then some .decimal else none
  | [] => none

def number? (s : List Char) : Option Lexeme :=
  (radix? s).map fun r => .token .number (s.take (r.length s)) (r.length s)

def nonSealedTail : List Char := "-sealed".toList

/-- The word at the head of `s`. `non-sealed` is one word although it holds a hyphen. -/
def leadingWord (s : List Char) : List Char :=
  let stem := s.takeWhile isIdentifierPart
  if stem = "non".toList ∧ nonSealedTail.isPrefixOf (s.drop stem.length) then stem ++ nonSealedTail
  else stem

def word? (s : List Char) : Option Lexeme :=
  if s.head?.any isIdentifierStart then
    let word := leadingWord s
    some (.token (.ofWord (String.ofList word)) word word.length)
  else none

/-- No separator goes past the characters that are looked at. -/
def separator? (s : List Char) : Option Lexeme :=
  (leadingSeparator? (s.take longestSeparator)).map fun separator =>
    .token .separator separator separator.length

/-- Nor does any operator. -/
def operator? (s : List Char) : Option Lexeme :=
  (leadingOperator? (s.take longestOperator)).map fun operator =>
    .token .operator operator operator.length

/-- The answer of the first recognizer that applies. -/
def recognize? (s : List Char) : Option Lexeme :=
  comment? s <|> string? s <|> character? s <|> number? s <|> word? s <|> separator? s <|>
    operator? s

/-- The lexeme at the head of `c :: s`. -/
def read (c : Char) (s : List Char) : Lexeme :=
  (recognize? (c :: s)).getD (.failure (.unexpectedCharacter c) 0)

end Lexeme
end JavaLex.Scan
