/-!
Numerals.

`decimal` writes a natural number in decimal digits, `readDecimal?` reads one back, and
`readNat64?` is the reader for untrusted text: an optional plus sign, at least one ASCII digit,
and a value below 2 ^ 64. `hexadecimal` writes a number in hexadecimal digits, and `hexValue?` reads
one such digit.
-/

namespace Upkeep

/-- The digit character of a number below ten. -/
def digitChar (n : Nat) : Char := Char.ofNat (48 + n)

/-- The value of an ASCII digit. -/
def digitValue (c : Char) : Nat := c.toNat - 48

/-- The decimal digits of a number, without leading zeros. -/
def decimal (n : Nat) : List Char :=
  if n < 10 then [digitChar n] else decimal (n / 10) ++ [digitChar (n % 10)]
termination_by n
decreasing_by omega

/-- The decimal text of a number. -/
def decimalText (n : Nat) : String := String.ofList (decimal n)

/-- The decimal text of an integer, with a minus sign when it is negative. -/
def integerText (n : Int) : String :=
  if n < 0 then "-" ++ decimalText n.natAbs else decimalText n.natAbs

/-- The digits of a number, padded with zeros on the left to at least `width` characters. -/
def paddedDecimal (width n : Nat) : List Char :=
  let ds := decimal n
  List.replicate (width - ds.length) '0' ++ ds

/-- The number that a list of digits stands for. -/
def digitsValue (ds : List Char) : Nat := ds.foldl (fun v c => v * 10 + digitValue c) 0

/-- Reads one or more ASCII digits and nothing else. -/
def readDecimal? (cs : List Char) : Option Nat :=
  if cs.isEmpty || !cs.all Char.isDigit then none else some (digitsValue cs)

/-- The lower-case hexadecimal digit of a number below sixteen. -/
def hexDigitLower (n : Nat) : Char := if n < 10 then digitChar n else Char.ofNat (87 + n)

/-- The hexadecimal digits of a number, in lower case and without leading zeros. -/
def hexadecimal (n : Nat) : List Char :=
  if n < 16 then [hexDigitLower n] else hexadecimal (n / 16) ++ [hexDigitLower (n % 16)]
termination_by n
decreasing_by omega

/-- The value of a hexadecimal digit in either case. -/
def hexValue? (c : Char) : Option Nat :=
  if c.isDigit then some (digitValue c)
  else if 'a' ≤ c ∧ c ≤ 'f' then some (c.toNat - 87)
  else if 'A' ≤ c ∧ c ≤ 'F' then some (c.toNat - 55)
  else none

/-- The first number that does not fit in 64 bits. -/
def wordLimit : Nat := 0x10000000000000000

/-- Reads an unsigned 64-bit number: an optional plus sign and then decimal digits. -/
def readNat64? (cs : List Char) : Option Nat :=
  let digits := match cs with
    | '+' :: rest => rest
    | _ => cs
  (readDecimal? digits).filter (· < wordLimit)

end Upkeep
