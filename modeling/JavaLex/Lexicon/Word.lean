/-! # The words of Java 21

Fifty-one words are reserved; seventeen more are keywords only in certain places, and whether
one of them acts as a keyword is for a parser to say. The two lists are closed and share no
spelling.
-/
namespace JavaLex.Lexicon

def reservedWords : List String :=
  ["_", "abstract", "assert", "boolean", "break", "byte", "case", "catch", "char", "class",
    "const", "continue", "default", "do", "double", "else", "enum", "extends", "final",
    "finally", "float", "for", "goto", "if", "implements", "import", "instanceof", "int",
    "interface", "long", "native", "new", "package", "private", "protected", "public",
    "return", "short", "static", "strictfp", "super", "switch", "synchronized", "this",
    "throw", "throws", "transient", "try", "void", "volatile", "while"]

def contextualWords : List String :=
  ["exports", "module", "non-sealed", "open", "opens", "permits", "provides", "record",
    "requires", "sealed", "to", "transitive", "uses", "var", "when", "with", "yield"]

/-- Reserved words without a meaning in the language. -/
def unusedWords : List String :=
  ["const", "goto"]

/-- Contextual words that only a module declaration gives a meaning. -/
def moduleWords : List String :=
  ["exports", "module", "open", "opens", "provides", "requires", "to", "transitive", "uses",
    "with"]

def isReserved (word : String) : Bool :=
  reservedWords.contains word

def isContextual (word : String) : Bool :=
  contextualWords.contains word

theorem not_isReserved_of_isContextual {word : String} (h : isContextual word) :
    isReserved word = false := by
  have disjoint : ∀ w ∈ contextualWords, isReserved w = false := by decide
  exact disjoint word (by simpa [isContextual] using h)

end JavaLex.Lexicon
