import Upkeep.Text.Numeral
/-!
Properties of characters, given by tables.

A table is a text of words with blanks between them. A word names a range of code points in
hexadecimal, as in `0300-036F` or `05BF`. In a table of replacements it goes on with what stands for
the first character of the range, as in `2075:0035` or `2167:0076.0069.0069.0069`. The last
character of a replacement moves with the character replaced, so that `0391-03A1:03B1` names the
small letters of seventeen capitals.
-/

namespace Upkeep.Unicode

/-- Code points from a first to a last. -/
structure Range where
  first : Nat
  last : Nat

def Range.contains (r : Range) (point : Nat) : Bool := r.first ≤ point && point ≤ r.last

/-- The words of a text between blanks and line ends. -/
def words (s : String) : List (List Char) :=
  let (word, rest) := s.toList.foldr
    (fun c (word, rest) => if c == ' ' || c == '\n' then ([], word :: rest) else (c :: word, rest))
    ([], [])
  (word :: rest).filter (!·.isEmpty)

/-- The value of hexadecimal digits. -/
def hexNumber (ds : List Char) : Nat := ds.foldl (fun n d => n * 16 + (hexValue? d).getD 0) 0

/-- The range that a word names. -/
def Range.ofWord (word : List Char) : Range :=
  let first := word.takeWhile (· != '-')
  match word.drop first.length with
  | [] => ⟨hexNumber first, hexNumber first⟩
  | _ :: last => ⟨hexNumber first, hexNumber last⟩

/-! ## Sets of characters -/

/-- A set of characters. -/
structure CharSet where
  ranges : List Range

namespace CharSet

def ofText (s : String) : CharSet := ⟨(words s).map Range.ofWord⟩

def contains (s : CharSet) (c : Char) : Bool := s.ranges.any (·.contains c.toNat)

end CharSet

/-! ## Replacements -/

/-- What stands for the characters of a range. -/
structure Replacement where
  range : Range
  /-- The code points that stand for the first character, without the last of them. -/
  front : List Nat
  /-- The last code point that stands for the first character. -/
  final : Nat

namespace Replacement

/-- The replacement that a word names. -/
def ofWord (word : List Char) : Replacement :=
  let range := word.takeWhile (· != ':')
  let (number, front) := (word.drop (range.length + 1)).foldl
    (fun (number, front) c =>
      if c == '.' then (0, front ++ [number]) else (number * 16 + (hexValue? c).getD 0, front))
    (0, [])
  ⟨Range.ofWord range, front, number⟩

/-- What stands for a character of the range. -/
def image (r : Replacement) (c : Char) : List Char :=
  (r.front ++ [r.final + (c.toNat - r.range.first)]).map Char.ofNat

end Replacement

/-- Characters and what stands for them. -/
structure Replacements where
  entries : List Replacement

namespace Replacements

def ofText (s : String) : Replacements := ⟨(words s).map Replacement.ofWord⟩

/-- What stands for a character, if the table has it. -/
def find? (t : Replacements) (c : Char) : Option (List Char) :=
  (t.entries.find? (·.range.contains c.toNat)).map (·.image c)

/-- The character for which a text stands, if the table has one. -/
def source? (t : Replacements) (image : List Char) : Option Char :=
  (t.entries.find? fun r => r.image (Char.ofNat r.range.first) == image).map
    fun r => Char.ofNat r.range.first

end Replacements

end Upkeep.Unicode
