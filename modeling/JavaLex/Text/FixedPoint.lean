/-! # Numbers with a fixed number of decimal places

A binary floating-point number is an exact fraction, and so its decimal rounding is computed on
natural numbers. A value halfway between two neighbours goes to the even one.
-/
namespace JavaLex.Text

/-- The nearest natural number to `n / d`; of two equally near ones the even one. -/
def roundDiv (n d : Nat) : Nat :=
  let q := n / d
  match compare (2 * (n % d)) d with
  | .lt => q
  | .gt => q + 1
  | .eq => q + q % 2

/-- The digits of `n / 10 ^ places`, with that many places. -/
def pointed (n places : Nat) : String :=
  if places = 0 then toString n
  else
    let digits := toString (n % Nat.pow 10 places)
    let zeros := String.ofList (List.replicate (places - digits.length) '0')
    toString (n / Nat.pow 10 places) ++ "." ++ zeros ++ digits

/-- Numerator and denominator of the magnitude of a finite number. -/
def fraction (x : Float) : Nat × Nat :=
  let bits := x.toBits.toNat
  let exponent := bits / Nat.pow 2 52 % Nat.pow 2 11
  let mantissa := bits % Nat.pow 2 52
  if exponent = 0 then (mantissa, Nat.pow 2 1074)
  else
    let mantissa := mantissa + Nat.pow 2 52
    if 1075 ≤ exponent then (mantissa * Nat.pow 2 (exponent - 1075), 1)
    else (mantissa, Nat.pow 2 (1075 - exponent))

/-- A number with `places` decimal places. -/
def fixedPoint (x : Float) (places : Nat) : String :=
  if x.isNaN then "NaN"
  else
    let sign := if x.toBits.toNat < Nat.pow 2 63 then "" else "-"
    if x.isInf then sign ++ "inf"
    else
      let (n, d) := fraction x
      sign ++ pointed (roundDiv (n * Nat.pow 10 places) d) places

end JavaLex.Text
