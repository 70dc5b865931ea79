import JavaLex.Lexicon.Word
import JavaLex.Text.Escaped
import JavaLex.Text.Json

/-! # Tokens

A token is a kind, a text and the line and column of its first character. The text is the
source text itself, except that string and character literals lose their quotes and a text
block holds its body without the incidental indentation.
-/
namespace JavaLex

inductive TokenKind where
  | endOfInput
  | keyword
  | contextualKeyword
  | identifier
  | number
  | character
  | string
  | textBlock
  | singleLineComment
  | multiLineComment
  | operator
  | separator
  deriving DecidableEq, Repr, Inhabited, Ord

namespace TokenKind

def all : List TokenKind :=
  [.endOfInput, .keyword, .contextualKeyword, .identifier, .number, .character, .string,
    .textBlock, .singleLineComment, .multiLineComment, .operator, .separator]

/-- The place of a kind in that list. -/
def index : TokenKind → Fin 12
  | .endOfInput => 0
  | .keyword => 1
  | .contextualKeyword => 2
  | .identifier => 3
  | .number => 4
  | .character => 5
  | .string => 6
  | .textBlock => 7
  | .singleLineComment => 8
  | .multiLineComment => 9
  | .operator => 10
  | .separator => 11

/-- The kind in upper case, as listings show it. -/
def label : TokenKind → String
  | .endOfInput => "EOF"
  | .keyword => "KEYWORD"
  | .contextualKeyword => "CONTEXTUALKEYWORD"
  | .identifier => "IDENTIFIER"
  | .number => "NUMBER"
  | .character => "CHARACTER"
  | .string => "STRING"
  | .textBlock => "TEXTBLOCK"
  | .singleLineComment => "SINGLELINECOMMENT"
  | .multiLineComment => "MULTILINECOMMENT"
  | .operator => "OPERATOR"
  | .separator => "SEPARATOR"

/-- The kind in mixed case, as structured output shows it. -/
def name : TokenKind → String
  | .endOfInput => "EndOfInput"
  | .keyword => "Keyword"
  | .contextualKeyword => "ContextualKeyword"
  | .identifier => "Identifier"
  | .number => "Number"
  | .character => "Character"
  | .string => "String"
  | .textBlock => "TextBlock"
  | .singleLineComment => "SingleLineComment"
  | .multiLineComment => "MultiLineComment"
  | .operator => "Operator"
  | .separator => "Separator"

def isComment (k : TokenKind) : Bool :=
  k == .singleLineComment || k == .multiLineComment

def isLiteral (k : TokenKind) : Bool :=
  k == .number || k == .character || k == .string || k == .textBlock

def isWord (k : TokenKind) : Bool :=
  k == .keyword || k == .contextualKeyword || k == .identifier

/-- Reserved words come first, then the contextual ones; any other word is an identifier. -/
def ofWord (word : String) : TokenKind :=
  if Lexicon.isReserved word then .keyword
  else if Lexicon.isContextual word then .contextualKeyword
  else .identifier

theorem ofWord_cases (word : String) :
    ofWord word = .keyword ∨ ofWord word = .contextualKeyword ∨ ofWord word = .identifier := by
  unfold ofWord
  split
  · exact .inl rfl
  · split
    · exact .inr (.inl rfl)
    · exact .inr (.inr rfl)

theorem mem_all (k : TokenKind) : k ∈ all := by
  cases k <;> decide

end TokenKind

structure Token where
  kind : TokenKind
  text : String
  line : Nat
  column : Nat
  deriving DecidableEq, Repr, Inhabited

namespace Token

def endOfInput (line column : Nat) : Token :=
  ⟨.endOfInput, "", line, column⟩

def isEnd (t : Token) : Bool :=
  t.kind == .endOfInput

/-- Whether the token has this kind and this text. -/
def is (t : Token) (kind : TokenKind) (text : String) : Bool :=
  t.kind == kind && t.text == text

def toJson (t : Token) : Text.Json :=
  .object
    [("kind", .string t.kind.name), ("text", .string t.text), ("line", .nat t.line),
      ("column", .nat t.column)]

instance : ToString Token where
  toString t := t.kind.label ++ " '" ++ Text.escaped t.text ++ s!"' at {t.line}:{t.column}"

end Token
end JavaLex
