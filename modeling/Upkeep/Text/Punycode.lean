import Upkeep.Text.Numeral
import Upkeep.Text.Search
/-!
Punycode: any text as a text of ASCII characters.

The ASCII characters of the text stand first, in their order, with a hyphen behind them unless there
are none. The other characters are then inserted one by one, in the order of their code points and
for one code point from the front to the back. A number stands for each: how many places were passed
since the last insertion, when the places of a text are counted through once for every code point.

A number is written in digits of growing weight, of which the last is the first that stays below its
threshold. The thresholds follow a bias, which follows the numbers before.
-/

namespace Upkeep.Punycode

/-! ## Digits -/

/-- The digit of a number below 36: a letter, or for the ten greatest a decimal digit. -/
def digitOf (n : Nat) : Char := if n < 26 then Char.ofNat (97 + n) else Char.ofNat (22 + n)

/-- The number of a digit. Letters may be in either case. -/
def digitNumber? (c : Char) : Option Nat :=
  if 'a' ≤ c ∧ c ≤ 'z' then some (c.toNat - 97)
  else if 'A' ≤ c ∧ c ≤ 'Z' then some (c.toNat - 65)
  else if c.isDigit then some (c.toNat - 22)
  else none

/-- A digit below the threshold is the last of its number. The first digit of a number is at place
36, and every further one 36 places on. -/
def threshold (bias place : Nat) : Nat := max 1 (min 26 (place - bias))

theorem threshold_pos (bias place : Nat) : 0 < threshold bias place := by
  simp only [threshold]
  omega

/-- The place of the first digit of a number. -/
def firstPlace : Nat := 36

/-! ## The bias -/

/-- The bias before the first number. -/
def firstBias : Nat := 72

/-- How often a number is divided by 35 until it is at most 455, and what is left. -/
def scaleDown (n : Nat) : Nat × Nat :=
  if n ≤ 455 then (0, n)
  else
    let (times, rest) := scaleDown (n / 35)
    (times + 1, rest)
termination_by n
decreasing_by omega

/-- The bias after a number that led to a text of `count` characters. The first number of a text
weighs less. -/
def nextBias (isFirst : Bool) (number count : Nat) : Nat :=
  let share := number / (if isFirst then 700 else 2)
  let (times, rest) := scaleDown (share + share / count)
  36 * times + 36 * rest / (rest + 38)

/-! ## Writing -/

/-- The digits of a number from a place on. -/
def writeNumber (bias place number : Nat) : List Char :=
  let t := threshold bias place
  if number < t then [digitOf number]
  else
    digitOf (t + (number - t) % (36 - t)) ::
      writeNumber bias (place + 36) ((number - t) / (36 - t))
termination_by number
decreasing_by
  have ht := threshold_pos bias place
  exact Nat.lt_of_le_of_lt (Nat.div_le_self _ _) (by omega)

/-- Where the occurrences of a code point are inserted. The number is the count of characters in
front that are inserted earlier. -/
def occurrences (point : Nat) : Nat → List Char → List Nat
  | _, [] => []
  | before, c :: cs =>
    if c.toNat = point then before :: occurrences point (before + 1) cs
    else occurrences point (if c.toNat < point then before + 1 else before) cs

/-- The character can stand for itself. -/
def isBasic (c : Char) : Bool := c.toNat < 0x80

/-- The insertions that a text needs, as code points and positions. -/
def insertions (cs : List Char) : List (Nat × Nat) :=
  let points := (((cs.filter fun c => !isBasic c).map Char.toNat).mergeSort).eraseDups
  points.flatMap fun point => (occurrences point 0 cs).map (point, ·)

/-- Writes insertions into a text of `count - 1` characters, from a code point and a position
on. -/
def writeInsertions : Nat → Nat → Nat → Nat → List (Nat × Nat) → List Char
  | _, _, _, _, [] => []
  | bias, count, point, position, (p, i) :: rest =>
    let number := (p - point) * count + i - position
    writeNumber bias firstPlace number ++
      writeInsertions (nextBias (position == 0) number count) (count + 1) p (i + 1) rest

def encode (cs : List Char) : List Char :=
  let basic := cs.filter isBasic
  (if basic.isEmpty then [] else basic ++ ['-']) ++
    writeInsertions firstBias (basic.length + 1) 0x80 0 (insertions cs)

/-! ## Reading -/

/-- What has been read of an encoded text. -/
structure Reading where
  /-- The characters so far. -/
  text : List Char
  /-- The code point of the last insertion. -/
  point : Nat := 0x80
  /-- The position behind the last insertion. -/
  position : Nat := 0
  bias : Nat := firstBias
  /-- The value of the digits of a number that is not complete. -/
  number : Nat := 0
  /-- The weight of the next digit. -/
  weight : Nat := 1
  /-- The place of the next digit. -/
  place : Nat := firstPlace

namespace Reading

/-- Inserts the character for which a number stands. -/
def insert? (r : Reading) (number : Nat) : Option Reading :=
  let count := r.text.length + 1
  let passed := r.position + number
  let point := r.point + passed / count
  if point.isValidChar then
    some {
      text := r.text.insertIdx (passed % count) (Char.ofNat point)
      point
      position := passed % count + 1
      bias := nextBias (r.position == 0) number count }
  else none

/-- Takes a digit. -/
def take? (r : Reading) (c : Char) : Option Reading := do
  let digit ← digitNumber? c
  let number := r.number + digit * r.weight
  let t := threshold r.bias r.place
  if digit < t then r.insert? number
  else some { r with number, weight := r.weight * (36 - t), place := r.place + 36 }

end Reading

/-- Reads an encoded text. A hyphen that nothing precedes is no separator. -/
def decode? (cs : List Char) : Option (List Char) := do
  let (basic, digits) := match splitLast? '-' cs with
    | some (b :: bs, digits) => (b :: bs, digits)
    | _ => ([], cs)
  let read ← digits.foldlM Reading.take? { text := basic }
  if basic.all isBasic && read.place == firstPlace then some read.text else none

end Upkeep.Punycode
