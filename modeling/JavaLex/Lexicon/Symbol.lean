/-! # Operators and separators

Every prefix of an operator is an operator, so the longest operator at the head of a text is
found by taking characters while the spelling stays in the table. The separators of more
than one character come before the single ones.
-/
namespace JavaLex.Lexicon

def operators : List (List Char) :=
  ["=", ">", "<", "!", "~", "?", ":", "->", "==", ">=", "<=", "!=", "&&", "||", "++", "--",
    "+", "-", "*", "/", "&", "|", "^", "%", "<<", ">>", ">>>", "+=", "-=", "*=", "/=", "&=",
    "|=", "^=", "%=", "<<=", ">>=", ">>>="].map String.toList

def compoundSeparators : List (List Char) :=
  ["...", "::"].map String.toList

def singleSeparators : List Char :=
  ['(', ')', '{', '}', '[', ']', ';', ',', '@', '.']

/-- The number of characters of `>>>=`. -/
def longestOperator : Nat := 4

/-- The number of characters of `...`. -/
def longestSeparator : Nat := 3

def isOperator (s : List Char) : Bool :=
  operators.contains s

def isSingleSeparator (c : Char) : Bool :=
  singleSeparators.contains c

theorem isOperator_iff {s : List Char} : isOperator s ↔ s ∈ operators :=
  List.contains_iff_mem

theorem isSingleSeparator_iff {c : Char} : isSingleSeparator c ↔ c ∈ singleSeparators :=
  List.contains_iff_mem

/-- The longest operator that starts with `taken`, itself one or empty, and goes on along `s`. -/
def extendOperator (taken : List Char) : List Char → List Char
  | [] => taken
  | c :: s => if isOperator (taken ++ [c]) then extendOperator (taken ++ [c]) s else taken

/-- The longest operator at the head of `s`. -/
def leadingOperator? (s : List Char) : Option (List Char) :=
  match extendOperator [] s with
  | [] => none
  | op => some op

/-- The separator at the head of `s`. -/
def leadingSeparator? (s : List Char) : Option (List Char) :=
  match compoundSeparators.find? (·.isPrefixOf s) with
  | some separator => some separator
  | none =>
    match s with
    | [] => none
    | c :: _ => if isSingleSeparator c then some [c] else none

end JavaLex.Lexicon
