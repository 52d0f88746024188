import Upkeep.Text.Numeral
/-!
The text of a span of time.

A span of nanoseconds is written in the largest of the units s, ms, µs and ns in which it is at
least one, with as many decimals as are needed and no trailing zeros.
-/

namespace Upkeep.Span

/-- The decimals of a fraction `n / 10 ^ places` without trailing zeros, point included. -/
def decimals (places n : Nat) : List Char :=
  if n = 0 then []
  else '.' :: ((paddedDecimal places n).reverse.dropWhile (· == '0')).reverse

/-- A number of nanoseconds in a unit of `10 ^ places` nanoseconds. -/
def inUnit (places : Nat) (unit : String) (nanos : Nat) : String :=
  let size := Nat.pow 10 places
  String.ofList (decimal (nanos / size) ++ decimals places (nanos % size)) ++ unit

/-- The text of a span of nanoseconds. -/
def text (nanos : Nat) : String :=
  if 1000000000 ≤ nanos then inUnit 9 "s" nanos
  else if 1000000 ≤ nanos then inUnit 6 "ms" nanos
  else if 1000 ≤ nanos then inUnit 3 "µs" nanos
  else inUnit 0 "ns" nanos

end Upkeep.Span
