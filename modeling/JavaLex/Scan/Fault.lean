import JavaLex.Diagnostics.Code
import JavaLex.Text.Escaped

/-! # Lexical errors

A scan stops at the first character that no token can begin with and at the first literal or
comment that is not well formed. The error names the line and column at which the failing
token starts. A source that cannot be read has no such place.
-/
namespace JavaLex.Scan
open Diagnostics

inductive Fault where
  | unexpectedCharacter (found : Char)
  | invalidComment
  | emptyCharacterLiteral
  | unexpectedEndOfInput
  | expectedCharacter (expected found : Char)
  | tooManyTokens (limit : Nat)
  deriving DecidableEq, Repr, Inhabited

namespace Fault

def message : Fault → String
  | unexpectedCharacter c => "Unexpected character " ++ Text.quotedChar c
  | invalidComment => "Invalid comment"
  | emptyCharacterLiteral => "Empty character literal"
  | unexpectedEndOfInput => "Unexpected end of input"
  | expectedCharacter e f =>
    "Expected char " ++ Text.quotedChar e ++ " but got " ++ Text.quotedChar f
  | tooManyTokens limit => s!"Too many tokens: more than {limit}"

def code : Fault → Code
  | unexpectedCharacter _ => Code.unexpectedCharacter
  | invalidComment => Code.invalidComment
  | emptyCharacterLiteral => Code.emptyCharacterLiteral
  | unexpectedEndOfInput => Code.unexpectedEndOfInput
  | expectedCharacter _ _ => Code.expectedCharacter
  | tooManyTokens _ => Code.tooManyTokens

end Fault

inductive LexicalError where
  | atToken (fault : Fault) (line column : Nat)
  | unreadable (path reason : String)
  deriving DecidableEq, Repr, Inhabited

namespace LexicalError

def message : LexicalError → String
  | atToken fault line column => fault.message ++ s!" at line: {line} column: {column}"
  | unreadable path reason => s!"Failed to read source '{path}': {reason}"

def code : LexicalError → Code
  | atToken fault _ _ => fault.code
  | unreadable _ _ => Code.unreadableSource

def location? : LexicalError → Option (Nat × Nat)
  | atToken _ line column => some (line, column)
  | unreadable _ _ => none

end LexicalError
end JavaLex.Scan
