/-! # JSON text

Values and their two spellings: on one line without spaces, and one member a line with each
level indented by two spaces. An object keeps its members in the order given. Quotes, backslashes
and the controls below space are escaped, and everything else stands for itself.
-/
namespace JavaLex.Text

inductive Json where
  | bool (value : Bool)
  | nat (value : Nat)
  | string (value : String)
  | array (items : List Json)
  | object (members : List (String × Json))

namespace Json

def escapeChar (c : Char) : List Char :=
  if c = '"' ∨ c = '\\' then ['\\', c]
  else if c = '\n' then ['\\', 'n']
  else if c = '\r' then ['\\', 'r']
  else if c = '\t' then ['\\', 't']
  else if c = '\x08' then ['\\', 'b']
  else if c = '\x0c' then ['\\', 'f']
  else if c.toNat < 0x10 then "\\u000".toList ++ Nat.toDigits 16 c.toNat
  else if c.toNat < 0x20 then "\\u00".toList ++ Nat.toDigits 16 c.toNat
  else [c]

def quoted (s : String) : String :=
  String.ofList (['"'] ++ s.toList.flatMap escapeChar ++ ['"'])

/-- A new line indented to `depth`, or nothing where `pretty` is off. -/
def lineBreak (pretty : Bool) (depth : Nat) : String :=
  if pretty then "\n" ++ String.ofList (List.replicate (2 * depth) ' ') else ""

mutual

/-- The value after `out`, its own members at `depth + 1`. -/
def write (pretty : Bool) (depth : Nat) (out : String) : Json → String
  | bool value => out ++ (if value then "true" else "false")
  | nat value => out ++ toString value
  | string value => out ++ quoted value
  | array [] => out ++ "[]"
  | array (item :: items) =>
    writeItems pretty depth
      (write pretty (depth + 1) (out ++ "[" ++ lineBreak pretty (depth + 1)) item) items
  | object [] => out ++ "\x7b\x7d"
  | object ((key, value) :: members) =>
    writeMembers pretty depth
      (write pretty (depth + 1)
        (out ++ "\x7b" ++ lineBreak pretty (depth + 1) ++ quoted key ++
          (if pretty then ": " else ":")) value) members

def writeItems (pretty : Bool) (depth : Nat) (out : String) : List Json → String
  | [] => out ++ lineBreak pretty depth ++ "]"
  | item :: items =>
    writeItems pretty depth
      (write pretty (depth + 1) (out ++ "," ++ lineBreak pretty (depth + 1)) item) items

def writeMembers (pretty : Bool) (depth : Nat) (out : String) : List (String × Json) → String
  | [] => out ++ lineBreak pretty depth ++ "\x7d"
  | (key, value) :: members =>
    writeMembers pretty depth
      (write pretty (depth + 1)
        (out ++ "," ++ lineBreak pretty (depth + 1) ++ quoted key ++
          (if pretty then ": " else ":")) value) members

end

/-- All on one line. -/
def compact (j : Json) : String :=
  j.write false 0 ""

def pretty (j : Json) : String :=
  j.write true 0 ""

/-- An object with its members in the order of their keys. -/
def sorted (members : List (String × Json)) : Json :=
  object (members.mergeSort fun a b => a.1 ≤ b.1)

end Json
end JavaLex.Text
