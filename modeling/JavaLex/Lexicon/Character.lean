import JavaLex.Unicode.Alphabetic
import JavaLex.Unicode.Numeric
import JavaLex.Unicode.XidContinue

/-! # The character classes of Java source

Whitespace, the characters that begin an identifier and those that continue one. Letters,
numbers and marks come from the Unicode properties; the currency signs, connectors and
ignorable controls that Java adds to them are listed here.
-/
namespace JavaLex.Lexicon

def within (c : Char) (runs : List (Nat × Nat)) : Bool :=
  runs.any fun (first, last) => first ≤ c.toNat && c.toNat ≤ last

/-- The separators of Unicode without the no-break spaces, the ASCII layout controls and the
information separators. Next line (U+0085) is not among them. -/
def isWhitespace (c : Char) : Bool :=
  within c [(0x09, 0x0D), (0x1C, 0x20), (0x1680, 0x1680), (0x2000, 0x2006), (0x2008, 0x200A),
    (0x2028, 0x2029), (0x205F, 0x205F), (0x3000, 0x3000)]

def isCurrencySymbol (c : Char) : Bool :=
  within c [(0x24, 0x24), (0xA2, 0xA5), (0x58F, 0x58F), (0x60B, 0x60B), (0x7FE, 0x7FF),
    (0x9F2, 0x9F3), (0x9FB, 0x9FB), (0xAF1, 0xAF1), (0xBF9, 0xBF9), (0xE3F, 0xE3F),
    (0x17DB, 0x17DB), (0x20A0, 0x20C0), (0xA838, 0xA838), (0xFDFC, 0xFDFC), (0xFE69, 0xFE69),
    (0xFF04, 0xFF04), (0xFFE0, 0xFFE1), (0xFFE5, 0xFFE6)]

def isConnector (c : Char) : Bool :=
  within c [(0x5F, 0x5F), (0x203F, 0x2040), (0x2054, 0x2054), (0xFE33, 0xFE34),
    (0xFE4D, 0xFE4F), (0xFF3F, 0xFF3F)]

/-- Controls that are not whitespace, and format characters. -/
def isIgnorable (c : Char) : Bool :=
  within c [(0x00, 0x08), (0x0E, 0x1B), (0x7F, 0x9F), (0xAD, 0xAD), (0x200B, 0x200F),
    (0x202A, 0x202E), (0x2060, 0x2064), (0xFEFF, 0xFEFF)]

def isIdentifierStart (c : Char) : Bool :=
  Unicode.alphabetic.contains c || isCurrencySymbol c || isConnector c

/-- Marks continue an identifier, so a letter written with a combining accent stays in one word. -/
def isIdentifierPart (c : Char) : Bool :=
  isIdentifierStart c || Unicode.numeric.contains c || isIgnorable c ||
    Unicode.xidContinue.contains c

def isDigit (c : Char) : Bool :=
  '0' ≤ c && c ≤ '9'

end JavaLex.Lexicon
