import JavaLex.Scan.Lexeme

/-! # The scanner

A scanner stands at a place of its source and hands out the token that follows, leaving
whitespace out. After an error it goes on from where the failing lexeme was given up. Past
the end of the source it hands out the same end token again and again.
-/
namespace JavaLex.Scan

/-- A line and a column, both from one and without a bound, like those of a position. The scanner
moves its cursor character by character and counts no bytes. -/
structure Cursor where
  line : Nat
  column : Nat
  deriving DecidableEq, Repr, Inhabited

namespace Cursor

def start : Cursor := ⟨1, 1⟩

/-- Go past one character. -/
def pass (p : Cursor) (c : Char) : Cursor :=
  if c = '\n' then ⟨p.line + 1, 1⟩ else ⟨p.line, p.column + 1⟩

end Cursor

structure Scanner where
  source : List Char
  consumed : Nat
  position : Cursor
  rest : List Char

abbrev Item := Except LexicalError Token

/-- The last item of a stream is an error or the end of input. -/
def Item.isFinal : Item → Bool
  | .ok t => t.isEnd
  | .error _ => true

namespace Scanner

def ofSource (source : List Char) : Scanner :=
  ⟨source, 0, .start, source⟩

def atEnd (s : Scanner) : Bool :=
  s.rest.isEmpty

/-- Go past the next character, if there is one. -/
def bump (s : Scanner) : Scanner :=
  match s.rest with
  | [] => s
  | c :: rest => { s with consumed := s.consumed + 1, position := s.position.pass c, rest }

/-- Go past the next `n` characters, one after the other. -/
def skip : Scanner → Nat → Scanner
  | s, 0 => s
  | s, n + 1 => s.bump.skip n

def skipWhitespace (s : Scanner) : Scanner :=
  s.skip (s.rest.takeWhile Lexicon.isWhitespace).length

/-- The lexeme at which the scanner stands, after whitespace. -/
def readHere (s : Scanner) : Item × Scanner :=
  match s.rest with
  | [] => (.ok (.endOfInput s.position.line s.position.column), s)
  | c :: r =>
    match Lexeme.read c r with
    | .token kind text n =>
      (.ok ⟨kind, String.ofList text, s.position.line, s.position.column⟩, s.skip n)
    | .failure fault n =>
      (.error (.atToken fault s.position.line s.position.column), s.skip n)

def next (s : Scanner) : Item × Scanner :=
  s.skipWhitespace.readHere

/-- At most `n` items of the stream, appended to `found`. -/
def takeItems (found : Array Item) : Nat → Scanner → Array Item × Scanner
  | 0, s => (found, s)
  | n + 1, s =>
    match s.next with
    | (item, s') => if item.isFinal then (found.push item, s') else takeItems (found.push item) n s'

/-- The whole stream. Every token before the last item takes a character at least, so there
are no more items than characters left and one. -/
def items (s : Scanner) : Array Item × Scanner :=
  s.takeItems #[] (s.rest.length + 1)

end Scanner

/-- The items of a scanner handed out one at a time. Nothing comes after the end of input or an
error. -/
structure Supply where
  scanner : Scanner
  exhausted : Bool

namespace Supply

def next (i : Supply) : Option Item × Supply :=
  if i.exhausted then (none, i)
  else
    match i.scanner.next with
    | (item, s) => (some item, ⟨s, item.isFinal⟩)

end Supply

def Scanner.supply (s : Scanner) : Supply :=
  ⟨s, false⟩

/-- The tokens of a source up to the end of input, or those before its first error. -/
structure Outcome where
  tokens : Array Token
  error? : Option LexicalError

/-- Go on with room for `n` more tokens. -/
def Scanner.run (tokens : Array Token) (limit : Nat) : Nat → Scanner → Outcome
  | room, s =>
    match s.next with
    | (.error e, _) => ⟨tokens, some e⟩
    | (.ok t, s') =>
      match room with
      | 0 => ⟨tokens, some (.atToken (.tooManyTokens limit) t.line t.column)⟩
      | room + 1 =>
        if t.isEnd then ⟨tokens.push t, none⟩ else run (tokens.push t) limit room s'

/-- The most tokens that one source may have, its end included. -/
def maxTokens : Nat := 2000000

def scan (source : List Char) : Outcome :=
  (Scanner.ofSource source).run #[] maxTokens maxTokens

/-- All tokens of a text. The last one is the end of input. -/
def tokenize (text : String) : Except LexicalError (List Token) :=
  match scan text.toList with
  | ⟨tokens, none⟩ => .ok tokens.toList
  | ⟨_, some e⟩ => .error e

end JavaLex.Scan
