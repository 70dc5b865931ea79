import JavaLex.Settings
import JavaLex.Text.Json
import JavaLex.Token

/-! # What is counted while scanning

A tally runs along with a scan: how many tokens of each kind there are, how long the longest
string and comment are, and how far the lines go. Comments are counted by themselves, and among
the tokens only if the options say so. The end of input is a token of its kind, but not counted
in the total.
-/
namespace JavaLex
open Text

structure Tally where
  total : Nat := 0
  comments : Nat := 0
  longestString : Nat := 0
  longestComment : Nat := 0
  lastLine : Nat := 0
  kinds : Vector Nat 12 := .replicate 12 0
  deriving DecidableEq, Repr

namespace Tally

/-- How many tokens of a kind were counted. -/
def count (t : Tally) (kind : TokenKind) : Nat :=
  t.kinds.get kind.index

def countKind (t : Tally) (kind : TokenKind) : Tally :=
  { t with kinds := t.kinds.set kind.index (t.kinds.get kind.index + 1) }

/-- Take a comment into account by itself. -/
def recordComment (t : Tally) (token : Token) : Tally :=
  if token.kind.isComment then
    { t with
      comments := t.comments + 1
      longestComment := max t.longestComment token.text.length }
  else t

/-- Take a token into account that counts as one. -/
def recordCounted (options : ScanOptions) (t : Tally) (token : Token) : Tally :=
  let t := { t with
    total := if token.isEnd then t.total else t.total + 1
    lastLine := max t.lastLine token.line
    longestString :=
      if token.kind == .string || token.kind == .textBlock then
        max t.longestString token.text.length
      else t.longestString }
  if options.countKinds then t.countKind token.kind else t

def record (options : ScanOptions) (t : Tally) (token : Token) : Tally :=
  let t := t.recordComment token
  if token.kind.isComment && !options.countComments then t else t.recordCounted options token

def ofTokens (options : ScanOptions) (tokens : List Token) : Tally :=
  tokens.foldl (record options) {}

/-- The kinds that occur, with their counts. -/
def occurring (t : Tally) : List (TokenKind × Nat) :=
  (TokenKind.all.map fun kind => (kind, t.count kind)).filter (·.2 ≠ 0)

def toJson (t : Tally) : Json :=
  .object
    [("total_tokens", .nat t.total),
      ("tokens_by_kind", .object (t.occurring.map fun (kind, n) => (kind.name, .nat n))),
      ("comment_count", .nat t.comments), ("max_string_length", .nat t.longestString),
      ("max_comment_length", .nat t.longestComment), ("last_line", .nat t.lastLine)]

end Tally
end JavaLex
