/-! # Points in time

A point in time is a number of nanoseconds since the start of 1970. It is written as a date and a
time of day in UTC, with the fraction of the second in as many groups of three digits as it
needs.
-/
namespace JavaLex.Diagnostics

structure Timestamp where
  nanoseconds : Nat
  deriving DecidableEq, Repr, Inhabited

namespace Timestamp

/-- `n` with zeros in front up to `width` digits. -/
def padded (width n : Nat) : String :=
  let digits := toString n
  String.ofList (List.replicate (width - digits.length) '0') ++ digits

/-- Year, month and day of the day `n` days after the first of March of the year zero. Years are
counted from March on, so that a leap day is the last of its year. -/
def dateFromMarch (n : Nat) : Nat × Nat × Nat :=
  let era := n / 146097
  let day := n % 146097
  let year := (day - day / 1460 + day / 36524 - day / 146096) / 365
  let dayOfYear := day - (365 * year + year / 4 - year / 100)
  let month := (5 * dayOfYear + 2) / 153
  let year := era * 400 + year
  (if month < 10 then year else year + 1, if month < 10 then month + 3 else month - 9,
    dayOfYear - (153 * month + 2) / 5 + 1)

/-- Days from the first of March of the year zero to the start of 1970. -/
def daysBeforeEpoch : Nat := 719468

def fraction (nanoseconds : Nat) : String :=
  if nanoseconds = 0 then ""
  else if nanoseconds % 1000000 = 0 then "." ++ padded 3 (nanoseconds / 1000000)
  else if nanoseconds % 1000 = 0 then "." ++ padded 6 (nanoseconds / 1000)
  else "." ++ padded 9 nanoseconds

instance : ToString Timestamp where
  toString t :=
    let seconds := t.nanoseconds / 1000000000
    let (year, month, day) := dateFromMarch (seconds / 86400 + daysBeforeEpoch)
    let clock := seconds % 86400
    s!"{padded 4 year}-{padded 2 month}-{padded 2 day}T" ++
      s!"{padded 2 (clock / 3600)}:{padded 2 (clock / 60 % 60)}:{padded 2 (clock % 60)}" ++
      fraction (t.nanoseconds % 1000000000) ++ "+00:00"

end Timestamp
end JavaLex.Diagnostics
