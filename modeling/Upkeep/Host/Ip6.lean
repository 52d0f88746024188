import Upkeep.Text.Numeral
import Upkeep.Text.Search
/-!
Addresses of eight pieces of two bytes.

The pieces are written in hexadecimal with colons between them. Two colons in a row stand for as
many zeros as are missing, and the last two pieces may be written as four bytes in decimal.
`Ip6.text` gives the one normal form of an address.
-/

namespace Upkeep

/-- An address of eight pieces. -/
structure Ip6 where
  pieces : List UInt16
  length_pieces : pieces.length = 8
deriving DecidableEq, Repr

namespace Ip6

/-! ## Reading -/

/-- A piece in one to four hexadecimal digits. -/
def piece? (cs : List Char) : Option UInt16 :=
  if cs.isEmpty || 4 < cs.length then none
  else (cs.foldlM (fun n c => (hexValue? c).map (n * 16 + ·)) 0).map UInt16.ofNat

/-- A byte in decimal digits without leading zeros. -/
def byte? (cs : List Char) : Option Nat :=
  (readDecimal? cs).filter fun n => n < 256 && decimal n == cs

/-- Two pieces that are written as four bytes. -/
def bytePieces? (cs : List Char) : Option (List UInt16) := do
  match ← (splitWhere (· == '.') cs).mapM byte? with
  | [a, b, c, d] => some [UInt16.ofNat (a * 256 + b), UInt16.ofNat (c * 256 + d)]
  | _ => none

/-- The pieces of groups between colons. Where the address ends, the last group may be four
bytes. -/
def groupPieces? (isEnd : Bool) : List (List Char) → Option (List UInt16)
  | [] => some []
  | [g] => ((piece? g).map ([·])).or (if isEnd then bytePieces? g else none)
  | g :: rest => do return (← piece? g) :: (← groupPieces? isEnd rest)

/-- The pieces of a run of groups, which may be empty. -/
def runPieces? (isEnd : Bool) (cs : List Char) : Option (List UInt16) :=
  groupPieces? isEnd (if cs.isEmpty then [] else splitWhere (· == ':') cs)

/-- Cuts a text at the first two colons in a row. -/
def splitAtGap? : List Char → Option (List Char × List Char)
  | ':' :: ':' :: rest => some ([], rest)
  | c :: rest => (splitAtGap? rest).map fun (a, b) => (c :: a, b)
  | [] => none

/-- The address of a list of eight pieces. -/
def ofPieces? (ps : List UInt16) : Option Ip6 :=
  if h : ps.length = 8 then some ⟨ps, h⟩ else none

/-- Reads an address. Two colons in a row stand for one zero at least. -/
def parse? (cs : List Char) : Option Ip6 := do
  match splitAtGap? cs with
  | none => ofPieces? (← runPieces? true cs)
  | some (left, right) =>
    let front ← runPieces? false left
    let back ← runPieces? true right
    let count := front.length + back.length
    if count < 8 then ofPieces? (front ++ List.replicate (8 - count) 0 ++ back) else none

/-! ## Writing -/

/-- The number of zeros at the start of a list. -/
def zeros (ps : List UInt16) : Nat := (ps.takeWhile (· == 0)).length

/-- Where the longest run of zeros starts, the first one if there are several, and how long it
is. -/
def longestRun : List UInt16 → Nat × Nat
  | [] => (0, 0)
  | p :: ps =>
    let (start, length) := longestRun ps
    if length ≤ zeros (p :: ps) then (0, zeros (p :: ps)) else (start + 1, length)

/-- Pieces with colons between them. -/
def join (ps : List UInt16) : List Char :=
  [':'].intercalate (ps.map fun p => hexadecimal p.toNat)

/-- The normal form of an address: no leading zeros, small letters, and two colons for the longest
run of at least two zeros. -/
def text (a : Ip6) : List Char :=
  let (start, length) := longestRun a.pieces
  if length < 2 then join a.pieces
  else join (a.pieces.take start) ++ ':' :: ':' :: join (a.pieces.drop (start + length))

end Ip6

end Upkeep
