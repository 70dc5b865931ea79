/-! # The members of the word sets

A reserved or contextual word is a member of its set, which has one spelling. The underscore is
reserved, and one contextual word is spelled with a hyphen.
-/
namespace JavaLex.Lexicon

/-- Reserved everywhere. -/
inductive Keyword where
  | underscore | abstract | assert | boolean | break | byte | case | catch | char | «class» | const
  | continue | default | do | double | else | enum | extends | final | finally | float | for | goto
  | if | implements | import | instanceof | int | interface | long | native | new | package
  | «private» | «protected» | «public» | return | short | static | strictfp | super | switch
  | synchronized | this | throw | throws | transient | try | void | volatile | while
  deriving DecidableEq, Repr

namespace Keyword

def all : List Keyword :=
  [.underscore, .abstract, .assert, .boolean, .break, .byte, .case, .catch, .char, .class, .const,
    .continue, .default, .do, .double, .else, .enum, .extends, .final, .finally, .float, .for,
    .goto, .if, .implements, .import, .instanceof, .int, .interface, .long, .native, .new, .package,
    .private, .protected, .public, .return, .short, .static, .strictfp, .super, .switch,
    .synchronized, .this, .throw, .throws, .transient, .try, .void, .volatile, .while]

def spelling : Keyword → String
  | .underscore => "_"
  | .abstract => "abstract"
  | .assert => "assert"
  | .boolean => "boolean"
  | .break => "break"
  | .byte => "byte"
  | .case => "case"
  | .catch => "catch"
  | .char => "char"
  | .class => "class"
  | .const => "const"
  | .continue => "continue"
  | .default => "default"
  | .do => "do"
  | .double => "double"
  | .else => "else"
  | .enum => "enum"
  | .extends => "extends"
  | .final => "final"
  | .finally => "finally"
  | .float => "float"
  | .for => "for"
  | .goto => "goto"
  | .if => "if"
  | .implements => "implements"
  | .import => "import"
  | .instanceof => "instanceof"
  | .int => "int"
  | .interface => "interface"
  | .long => "long"
  | .native => "native"
  | .new => "new"
  | .package => "package"
  | .private => "private"
  | .protected => "protected"
  | .public => "public"
  | .return => "return"
  | .short => "short"
  | .static => "static"
  | .strictfp => "strictfp"
  | .super => "super"
  | .switch => "switch"
  | .synchronized => "synchronized"
  | .this => "this"
  | .throw => "throw"
  | .throws => "throws"
  | .transient => "transient"
  | .try => "try"
  | .void => "void"
  | .volatile => "volatile"
  | .while => "while"

end Keyword

/-- A keyword only in certain places. -/
inductive ContextualKeyword where
  | exports | module | nonSealed | open | opens | permits | provides | record | requires | sealed
  | to | transitive | uses | var | when | with | yield
  deriving DecidableEq, Repr

namespace ContextualKeyword

def all : List ContextualKeyword :=
  [.exports, .module, .nonSealed, .open, .opens, .permits, .provides, .record, .requires, .sealed,
    .to, .transitive, .uses, .var, .when, .with, .yield]

def spelling : ContextualKeyword → String
  | .exports => "exports"
  | .module => "module"
  | .nonSealed => "non-sealed"
  | .open => "open"
  | .opens => "opens"
  | .permits => "permits"
  | .provides => "provides"
  | .record => "record"
  | .requires => "requires"
  | .sealed => "sealed"
  | .to => "to"
  | .transitive => "transitive"
  | .uses => "uses"
  | .var => "var"
  | .when => "when"
  | .with => "with"
  | .yield => "yield"

end ContextualKeyword

end JavaLex.Lexicon
