import JavaLex.Text.Line

/-! # Numbers and dates in TOML

The spellings of integers, floating-point numbers, dates and times. Underscores stand between
digits only, leading zeros are refused, and integers fit in 64 bits with a sign. A number too large
to have a nearest floating-point number is refused, but a negative one reads as minus infinity.
-/
namespace JavaLex.Toml

def isOctalDigit (c : Char) : Bool :=
  '0' ≤ c && c ≤ '7'

def isBinaryDigit (c : Char) : Bool :=
  c == '0' || c == '1'

def isHexDigit (c : Char) : Bool :=
  c.isDigit || ('a' ≤ c && c ≤ 'f') || ('A' ≤ c && c ≤ 'F')

def digitValue (c : Char) : Nat :=
  if c.isDigit then c.toNat - '0'.toNat
  else if 'a' ≤ c then c.toNat - 'a'.toNat + 10
  else c.toNat - 'A'.toNat + 10

/-- Digits with single underscores between them. -/
def isDigits (digit : Char → Bool) (s : List Char) : Bool :=
  (Text.pieces '_' s).all fun piece => !piece.isEmpty && piece.all digit

def valueOf (base : Nat) (s : List Char) : Nat :=
  (s.filter (· ≠ '_')).foldl (fun n c => n * base + digitValue c) 0

def unsigned : List Char → List Char
  | '+' :: s => s
  | '-' :: s => s
  | s => s

def hasLeadingZero : List Char → Bool
  | '0' :: _ :: _ => true
  | _ => false

/-- Decimal digits without a leading zero. -/
def isWhole (s : List Char) : Bool :=
  isDigits Char.isDigit s && !hasLeadingZero s

def isInteger (s : List Char) : Bool :=
  match s with
  | '0' :: 'x' :: digits => isDigits isHexDigit digits && valueOf 16 digits < Nat.pow 2 63
  | '0' :: 'o' :: digits => isDigits isOctalDigit digits && valueOf 8 digits < Nat.pow 2 63
  | '0' :: 'b' :: digits => isDigits isBinaryDigit digits && valueOf 2 digits < Nat.pow 2 63
  | _ =>
    let digits := unsigned s
    isWhole digits &&
      valueOf 10 digits < Nat.pow 2 63 + if s.head? == some '-' then 1 else 0

/-- An exponent after its letter. -/
def isExponent (s : List Char) : Bool :=
  isDigits Char.isDigit (unsigned s)

/-- What follows the whole part of a floating-point number. -/
def isFraction : List Char → Bool
  | '.' :: s =>
    let fraction := s.takeWhile fun c => c ≠ 'e' && c ≠ 'E'
    isDigits Char.isDigit fraction &&
      match s.drop fraction.length with
      | [] => true
      | _ :: exponent => isExponent exponent
  | 'e' :: s => isExponent s
  | 'E' :: s => isExponent s
  | _ => false

/-- The value of digits behind a sign. -/
def signedValue (s : List Char) : Int :=
  if s.head? == some '-' then -(valueOf 10 (unsigned s)) else valueOf 10 (unsigned s)

/-- Halfway from the greatest floating-point number to the next power of two. -/
def floatBound : Nat := Nat.pow 2 1024 - Nat.pow 2 970

/-- Whether the number of these digits times ten to the `e` lies beyond the floating-point numbers.
The bound has 309 digits, and only a number of as many is compared with it. -/
def isBeyondFloat (digits : List Char) (e : Int) : Bool :=
  let digits := digits.dropWhile (· == '0')
  if digits.isEmpty then false
  else
    let places := digits.length + e
    if places < 309 then false
    else if 309 < places then true
    else floatBound * Nat.pow 10 (-e).toNat ≤ valueOf 10 digits * Nat.pow 10 e.toNat

/-- Whether the number made of a whole part and what follows it lies beyond the floating-point
numbers. -/
def isBeyond (whole rest : List Char) : Bool :=
  let mantissa := rest.takeWhile fun c => c ≠ 'e' && c ≠ 'E'
  let fraction := mantissa.filter Char.isDigit
  isBeyondFloat (whole.filter Char.isDigit ++ fraction)
    (signedValue (rest.drop (mantissa.length + 1)) - fraction.length)

def isFloat (s : List Char) : Bool :=
  let magnitude := unsigned s
  if magnitude = "inf".toList ∨ magnitude = "nan".toList then true
  else
    let whole := magnitude.takeWhile fun c => c.isDigit || c == '_'
    let rest := magnitude.drop whole.length
    isWhole whole && isFraction rest && (s.head? == some '-' || !isBeyond whole rest)

def twoDigits? : List Char → Option (Nat × List Char)
  | a :: b :: s => if a.isDigit && b.isDigit then some (valueOf 10 [a, b], s) else none
  | _ => none

def daysIn (year month : Nat) : Nat :=
  if month = 2 then
    if year % 4 = 0 ∧ (year % 100 ≠ 0 ∨ year % 400 = 0) then 29 else 28
  else if month = 4 ∨ month = 6 ∨ month = 9 ∨ month = 11 then 30
  else 31

/-- What is left behind a date. -/
def date? (s : List Char) : Option (List Char) := do
  let (century, s) ← twoDigits? s
  let (year, s) ← twoDigits? s
  let '-' :: s := s | none
  let (month, s) ← twoDigits? s
  let '-' :: s := s | none
  let (day, s) ← twoDigits? s
  if 1 ≤ month ∧ month ≤ 12 ∧ 1 ≤ day ∧ day ≤ daysIn (century * 100 + year) month then some s
  else none

/-- What is left behind the hours and minutes of a clock. -/
def clock? (s : List Char) : Option (List Char) := do
  let (hour, s) ← twoDigits? s
  let ':' :: s := s | none
  let (minute, s) ← twoDigits? s
  if hour ≤ 23 ∧ minute ≤ 59 then some s else none

/-- What is left behind a time of day. -/
def time? (s : List Char) : Option (List Char) := do
  let s ← clock? s
  let ':' :: s := s | none
  let (second, s) ← twoDigits? s
  if 60 < second then none
  else
    match s with
    | '.' :: s =>
      let fraction := s.takeWhile Char.isDigit
      if fraction.isEmpty then none else some (s.drop fraction.length)
    | s => some s

def isOffset : List Char → Bool
  | [] => true
  | ['Z'] => true
  | ['z'] => true
  | '+' :: s => clock? s == some []
  | '-' :: s => clock? s == some []
  | _ => false

/-- A date, a time, or both with or without the offset of a time zone. -/
def isDate (s : List Char) : Bool :=
  match date? s with
  | some [] => true
  | some (c :: s) => (c == 'T' || c == 't' || c == ' ') && (time? s).any isOffset
  | none => time? s == some []

end JavaLex.Toml
