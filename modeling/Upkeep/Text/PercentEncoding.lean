import Upkeep.Text.Numeral
/-!
Percent encoding.

A character is written as the bytes of its UTF-8 form, each a percent sign and two upper-case
hexadecimal digits. In a segment of a URL path letters, digits and the four marks `-`, `_`, `.` and
`~` stand for themselves.
-/

namespace Upkeep

/-- The characters that a path segment may carry as they are. -/
def isUnreserved (c : Char) : Bool :=
  c.isAlphanum || c == '-' || c == '_' || c == '.' || c == '~'

/-- The upper-case hexadecimal digit of a number below sixteen. -/
def hexDigit (n : Nat) : Char := if n < 10 then Char.ofNat (48 + n) else Char.ofNat (55 + n)

/-- A byte as a percent sign and two hexadecimal digits. -/
def percentByte (b : UInt8) : List Char := ['%', hexDigit (b.toNat / 16), hexDigit (b.toNat % 16)]

/-- A character as the percent-encoded bytes of its UTF-8 form. -/
def percentChar (c : Char) : List Char := (String.utf8EncodeChar c).flatMap percentByte

/-- A text as one path segment. -/
def percentEncode (cs : List Char) : List Char :=
  cs.flatMap fun c => if isUnreserved c then [c] else percentChar c

/-- The bytes of a text of which some may be percent-encoded. A percent sign that two hexadecimal
digits do not follow stands for itself. -/
def percentDecode : List Char → List UInt8
  | '%' :: a :: b :: rest =>
    match hexValue? a, hexValue? b with
    | some x, some y => UInt8.ofNat (x * 16 + y) :: percentDecode rest
    | _, _ => '%'.toUInt8 :: percentDecode (a :: b :: rest)
  | c :: rest => String.utf8EncodeChar c ++ percentDecode rest
  | [] => []

end Upkeep
