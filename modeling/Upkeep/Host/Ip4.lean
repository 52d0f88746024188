import Upkeep.Text.Numeral
import Upkeep.Text.Search
/-!
Addresses of four bytes.

In a host an address may be written in up to four numbers, of which the last fills the bytes that
the others leave. Each is decimal, octal behind a zero, or hexadecimal behind `0x`.
-/

namespace Upkeep

/-- An address of four bytes. -/
structure Ip4 where
  value : UInt32
deriving DecidableEq, Repr

namespace Ip4

/-- The four bytes in decimal, with dots between them. -/
def text (a : Ip4) : List Char :=
  let byte (n : Nat) : List Char := decimal (a.value.toNat / Nat.pow 256 n % 256)
  byte 3 ++ '.' :: byte 2 ++ '.' :: byte 1 ++ '.' :: byte 0

/-- The number that digits of a base stand for. No digits stand for zero. -/
def numeral? (base : Nat) (ds : List Char) : Option Nat :=
  ds.foldlM (fun n c => ((hexValue? c).filter (· < base)).map (n * base + ·)) 0

/-- The number that a part of a host stands for. -/
def number? : List Char → Option Nat
  | [] => none
  | '0' :: 'x' :: ds => numeral? 16 ds
  | '0' :: d :: ds => numeral? 8 (d :: ds)
  | ds => numeral? 10 ds

/-- The parts of a host between its dots; a dot at the end does not count. -/
def parts (host : List Char) : List (List Char) :=
  let ps := splitWhere (· == '.') host
  if 1 < ps.length && ps.getLast? == some [] then ps.dropLast else ps

/-- The last part of the host is a number or looks like one, so that the host has to be an
address. -/
def isExpected (host : List Char) : Bool :=
  match (parts host).getLast? with
  | some part => !part.isEmpty && part.all Char.isDigit || (number? part).isSome
  | none => false

/-- The value of numbers of which the last fills what is left of `bytes` bytes. -/
def value? : Nat → List Nat → Option Nat
  | _, [] => none
  | bytes, [n] => if n < Nat.pow 256 bytes then some n else none
  | bytes, n :: rest =>
    if n < 256 ∧ 1 < bytes then
      (value? (bytes - 1) rest).map (n * Nat.pow 256 (bytes - 1) + ·)
    else none

/-- The address that a host stands for. -/
def parse? (host : List Char) : Option Ip4 := do
  let value ← value? 4 (← (parts host).mapM number?)
  return ⟨UInt32.ofNat value⟩

end Ip4

end Upkeep
