import JavaLex.Text.FixedPoint

/-! # Durations

A number of nanoseconds, and how it reads in seconds and milliseconds.
-/
namespace JavaLex

structure Duration where
  nanoseconds : Nat
  deriving DecidableEq, Repr, Inhabited

namespace Duration

/-- A natural number as the nearest floating-point number, if it fits in 64 bits. -/
def ofCount (n : Nat) : Float :=
  n.toUInt64.toFloat

def seconds (d : Duration) : Float :=
  ofCount (d.nanoseconds / 1000000000) + ofCount (d.nanoseconds % 1000000000) / 1e9

def milliseconds (d : Duration) : Float :=
  d.seconds * 1000.0

/-- `count` over a span of time, or zero if it took none. -/
def rate (count : Nat) (time : Float) : Float :=
  if 0.0 < time then ofCount count / time else 0.0

end Duration
end JavaLex
