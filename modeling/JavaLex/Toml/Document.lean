import JavaLex.Toml.Numeral
import JavaLex.Toml.Value

/-! # Reading TOML

A reader takes its part from the head of a text and leaves the rest, or fails. A document is read
line by line: a header opens a table, and each key with its value goes into the table opened
last. Values nest to a bounded depth.
-/
namespace JavaLex.Toml

abbrev Reader := StateT (List Char) Option

namespace Reader

def isBlank (c : Char) : Bool :=
  c == ' ' || c == '\t'

/-- Characters of a comment or a literal text: no controls but the tab. -/
def isPlain (c : Char) : Bool :=
  c == '\t' || (' ' ≤ c && c ≠ '\x7f')

def isKeyChar (c : Char) : Bool :=
  c.isAlphanum || c == '-' || c == '_'

def takeWhile (p : Char → Bool) : Reader (List Char) :=
  fun s => some (s.takeWhile p, s.dropWhile p)

def skipBlanks : Reader Unit := do
  discard (takeWhile isBlank)

/-- The character that comes next, which stays. -/
def peek : Reader (Option Char) :=
  fun s => some (s.head?, s)

/-- Take `text` off the head, if it stands there. -/
def accept (text : String) : Reader Bool :=
  fun s =>
    if text.toList.isPrefixOf s then some (true, s.drop text.length) else some (false, s)

def expect (text : String) : Reader Unit := do
  guard (← accept text)

/-- The rest of a line: blanks, a comment, and the end of the line or of the text. -/
def lineEnd : Reader Unit := do
  skipBlanks
  if ← accept "#" then discard (takeWhile isPlain)
  unless (← peek).isNone do
    unless ← accept "\r\n" do expect "\n"

/-- What is left behind blanks, line ends and comments. -/
def dropGap (inComment : Bool) : List Char → List Char
  | [] => []
  | c :: s =>
    if inComment && isPlain c then dropGap true s
    else if isBlank c || c == '\n' then dropGap false s
    else if c == '#' then dropGap true s
    else if c == '\r' && s.head? == some '\n' then dropGap false s
    else c :: s

def skipGap : Reader Unit :=
  modify (dropGap false)

/-! ## Texts -/

/-- The character of a code point in hexadecimal digits. -/
def scalar? (digits : List Char) : Option Char :=
  let n := valueOf 16 digits
  if digits.all isHexDigit && n.isValidChar then some (Char.ofNat n) else none

/-- The character that a letter behind a backslash stands for. -/
def escaped? : Char → Option Char
  | 'b' => some '\x08'
  | 't' => some '\t'
  | 'n' => some '\n'
  | 'f' => some '\x0c'
  | 'r' => some '\r'
  | '"' => some '"'
  | '\\' => some '\\'
  | _ => none

/-- The text up to the closing quote, after `found` read backwards. -/
def basicFrom (found : List Char) : List Char → Option (String × List Char)
  | [] => none
  | '"' :: s => some (String.ofList found.reverse, s)
  | '\\' :: 'u' :: a :: b :: c :: d :: s => do basicFrom ((← scalar? [a, b, c, d]) :: found) s
  | '\\' :: 'U' :: a :: b :: c :: d :: e :: f :: g :: h :: s => do
    basicFrom ((← scalar? [a, b, c, d, e, f, g, h]) :: found) s
  | '\\' :: c :: s => do basicFrom ((← escaped? c) :: found) s
  | c :: s => if isPlain c then basicFrom (c :: found) s else none

/-- Whether a line ends here, after blanks at most. -/
def endsLine (s : List Char) : Bool :=
  match s.dropWhile isBlank with
  | '\n' :: _ => true
  | '\r' :: '\n' :: _ => true
  | _ => false

/-- Up to two quotes may stand right before the three that close a text of several lines. -/
def closing? : List Char → Option (List Char × List Char)
  | '"' :: '"' :: '"' :: '"' :: '"' :: s => some (['"', '"'], s)
  | '"' :: '"' :: '"' :: '"' :: s => some (['"'], s)
  | '"' :: '"' :: '"' :: s => some ([], s)
  | _ => none

/-- The text of several lines up to its closing quotes. While `skipping`, after a backslash at the
end of a line, white space is left out. -/
def basicLinesFrom (skipping : Bool) (found : List Char) : List Char → Option (String × List Char)
  | [] => none
  | '\r' :: '\n' :: s => basicLinesFrom skipping (if skipping then found else '\n' :: found) s
  | '\\' :: 'u' :: a :: b :: c :: d :: s => do
    basicLinesFrom false ((← scalar? [a, b, c, d]) :: found) s
  | '\\' :: 'U' :: a :: b :: c :: d :: e :: f :: g :: h :: s => do
    basicLinesFrom false ((← scalar? [a, b, c, d, e, f, g, h]) :: found) s
  | '\\' :: c :: s =>
    if endsLine (c :: s) then basicLinesFrom true found (c :: s)
    else do basicLinesFrom false ((← escaped? c) :: found) s
  | c :: s =>
    match closing? (c :: s) with
    | some (quotes, rest) => some (String.ofList (quotes ++ found).reverse, rest)
    | none =>
      if skipping && (isBlank c || c == '\n') then basicLinesFrom true found s
      else if isPlain c || c == '\n' then basicLinesFrom false (c :: found) s
      else none

def literalFrom (found : List Char) : List Char → Option (String × List Char)
  | [] => none
  | '\'' :: s => some (String.ofList found.reverse, s)
  | c :: s => if isPlain c then literalFrom (c :: found) s else none

def literalLinesFrom (found : List Char) : List Char → Option (String × List Char)
  | [] => none
  | '\r' :: '\n' :: s => literalLinesFrom ('\n' :: found) s
  | '\'' :: '\'' :: '\'' :: s =>
    let extra := if s.head? ≠ some '\'' then 0 else if s[1]? ≠ some '\'' then 1 else 2
    some (String.ofList (List.replicate extra '\'' ++ found).reverse, s.drop extra)
  | c :: s => if isPlain c || c == '\n' then literalLinesFrom (c :: found) s else none

/-- A line end right behind the opening quotes does not belong to the text. -/
def skipLineEnd : Reader Unit := do
  unless ← accept "\r\n" do discard (accept "\n")

def text : Reader String := do
  if ← accept "\"\"\"" then
    skipLineEnd
    basicLinesFrom false []
  else if ← accept "'''" then
    skipLineEnd
    literalLinesFrom []
  else if ← accept "\"" then basicFrom []
  else
    expect "'"
    literalFrom []

/-! ## Keys -/

def simpleKey : Reader String := do
  if ← accept "\"" then basicFrom []
  else if ← accept "'" then literalFrom []
  else
    let name ← takeWhile isKeyChar
    guard !name.isEmpty
    return String.ofList name

/-- Values and keys nest less deep than this. -/
def depthLimit : Nat := 80

/-- The rest of a dotted key, of no more than so many parts. -/
def keyTail : Nat → Reader (List String)
  | 0 => failure
  | n + 1 => do
    skipBlanks
    let name ← simpleKey
    skipBlanks
    if ← accept "." then return name :: (← keyTail n) else return [name]

def key : Reader (List String) :=
  keyTail (depthLimit - 1)

/-! ## Values -/

def isWordChar (c : Char) : Bool :=
  c.isAlphanum || c == '_' || c == '+' || c == '-' || c == '.' || c == ':'

/-- The word at the head, together with the time that may follow a date after a space. -/
def word : Reader (List Char) := do
  let first ← takeWhile isWordChar
  let rest ← get
  match rest with
  | ' ' :: c :: _ =>
    if date? first == some [] && c.isDigit then
      discard (accept " ")
      return first ++ ' ' :: (← takeWhile isWordChar)
    else return first
  | _ => return first

def atom : Reader Value := do
  let word ← word
  let spelling := String.ofList word
  if spelling = "true" then return .bool true
  else if spelling = "false" then return .bool false
  else if isInteger word || isFloat word then return .number spelling
  else
    guard (isDate word)
    return .date spelling

mutual

/-- A value that nests at most `depth` deep. Each reading of a part spends some of `fuel`. -/
def value (depth : Nat) : Nat → Reader Value
  | 0 => failure
  | fuel + 1 => do
    match ← peek with
    | some '"' | some '\'' => return .text (← text)
    | some '[' =>
      guard (0 < depth)
      expect "["
      return .array (← items (depth - 1) fuel)
    | some '\x7b' =>
      guard (0 < depth)
      expect "\x7b"
      skipBlanks
      if ← accept "\x7d" then return .table .inline []
      else return .table .inline (← pairs (depth - 1) fuel [])
    | _ => atom

/-- The items of an array after its opening bracket or a comma. -/
def items (depth : Nat) : Nat → Reader (List Value)
  | 0 => failure
  | fuel + 1 => do
    skipGap
    if ← accept "]" then return []
    else
      let item ← value depth fuel
      skipGap
      if ← accept "," then return item :: (← items depth fuel)
      else
        expect "]"
        return [item]

/-- The pairs of a table in braces, put to the entries read before. -/
def pairs (depth : Nat) : Nat → Entries → Reader Entries
  | 0, _ => failure
  | fuel + 1, entries => do
    let path ← key
    expect "="
    skipBlanks
    let value ← value depth fuel
    skipBlanks
    let entries ← entries.assignPath path value
    if ← accept "," then pairs depth fuel entries
    else
      expect "\x7d"
      return entries

end

/-! ## Documents -/

/-- A document read up to here, and the header of the table that keys go into. -/
structure State where
  root : Entries := []
  header : List String := []

/-- A line with a header or with a key and its value. -/
def line (fuel : Nat) (state : State) : Reader State := do
  if ← accept "[[" then
    let path ← key
    expect "]]"
    lineEnd
    return ⟨← state.root.appendTable path, path⟩
  else if ← accept "[" then
    let path ← key
    expect "]"
    lineEnd
    return ⟨← state.root.openTable path, path⟩
  else
    let path ← key
    expect "="
    skipBlanks
    let value ← value (depthLimit - 1) fuel
    lineEnd
    return { state with root := ← state.root.within (Entries.assignPath path value) state.header }

/-- The lines of a document. Each of them takes a character at least. -/
def lines (fuel : Nat) : Nat → State → Reader Entries
  | 0, state => return state.root
  | n + 1, state => do
    skipBlanks
    match ← peek with
    | none => return state.root
    | some '#' | some '\n' | some '\r' =>
      lineEnd
      lines fuel n state
    | some _ => lines fuel n (← line fuel state)

end Reader

/-- The table that a document describes. -/
def read? (text : String) : Option Entries := do
  let s := text.toList
  let s := if s.head? = some '\uFEFF' then s.tail else s
  let (entries, _) ← Reader.lines (s.length + 1) (s.length + 1) {} s
  return entries

end JavaLex.Toml
