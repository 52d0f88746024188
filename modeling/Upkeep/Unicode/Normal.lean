import Upkeep.Unicode.Canonical
/-!
The composed normal form of texts.

`normalize` takes every character apart, puts the marks behind each letter into the order of their
combining classes, and composes what can be composed.
-/

namespace Upkeep.Unicode

/-! ## Korean syllables

A syllable is a leading consonant, a vowel and perhaps a trailing consonant; the syllables are
numbered through. -/

/-- The number of a character in a row of characters. -/
def numberIn? (first size : Nat) (c : Char) : Option Nat :=
  if first ≤ c.toNat ∧ c.toNat < first + size then some (c.toNat - first) else none

def leading? : Char → Option Nat := numberIn? 0x1100 19
def vowel? : Char → Option Nat := numberIn? 0x1161 21
def syllableNumber? : Char → Option Nat := numberIn? 0xAC00 (19 * 21 * 28)

/-- The number of a trailing consonant; number zero is none at all. -/
def trailing? (c : Char) : Option Nat := (numberIn? 0x11A7 28 c).filter (0 < ·)

/-- The parts of a syllable. -/
def syllableParts? (c : Char) : Option (List Char) :=
  (syllableNumber? c).map fun n =>
    let start := [Char.ofNat (0x1100 + n / 588), Char.ofNat (0x1161 + n % 588 / 28)]
    if n % 28 = 0 then start else start ++ [Char.ofNat (0x11A7 + n % 28)]

/-- The syllable of a leading consonant and a vowel, or of a syllable without a trailing consonant
and such a consonant. -/
def syllable? (a b : Char) : Option Char :=
  match leading? a, vowel? b, syllableNumber? a, trailing? b with
  | some l, some v, _, _ => some (Char.ofNat (0xAC00 + (l * 21 + v) * 28))
  | _, _, some n, some t => if n % 28 = 0 then some (Char.ofNat (0xAC00 + n + t)) else none
  | _, _, _, _ => none

/-! ## Taking apart -/

/-- The first character with a decomposition. -/
def firstComposed : Nat := 0xC0

/-- Takes a character apart, and what it starts with again, up to a number of times. -/
def partsWithin : Nat → Char → List Char
  | 0, c => [c]
  | depth + 1, c =>
    match compositions.find? c with
    | some (first :: rest) => partsWithin depth first ++ rest
    | _ => (decompositions.find? c).getD [c]

/-- The characters that a character is composed of. No character is composed in more than three
steps. -/
def parts (c : Char) : List Char :=
  if c.toNat < firstComposed then [c] else (syllableParts? c).getD (partsWithin 4 c)

/-! ## Ordering marks -/

/-- Puts a character in front of an ordered text, or behind the marks that belong before it. -/
def insertOrdered (c : Char) : List Char → List Char
  | [] => [c]
  | d :: rest =>
    if 0 < combiningClass d ∧ combiningClass d < combiningClass c then d :: insertOrdered c rest
    else c :: d :: rest

/-- Marks in a row come in the order of their classes, those of one class as they stood. -/
def order (cs : List Char) : List Char := cs.foldr insertOrdered []

/-! ## Composing -/

/-- The character that two characters compose to. -/
def compose? (a b : Char) : Option Char := (syllable? a b).or (compositions.source? [a, b])

/-- Composes what follows a letter. `marks` are the marks behind it that stay, the last one first.
A mark is out of reach for the letter if the one before it stays and has the same class. -/
def composeOnto (letter : Char) (marks : List Char) : List Char → List Char
  | [] => letter :: marks.reverse
  | c :: cs =>
    let isReached := match marks with
      | [] => true
      | m :: _ => combiningClass m < combiningClass c
    match if isReached then compose? letter c else none with
    | some composed => composeOnto composed marks cs
    | none =>
      if combiningClass c = 0 then letter :: marks.reverse ++ composeOnto c [] cs
      else composeOnto letter (c :: marks) cs

/-- Composes an ordered text. Marks at its start have no letter. -/
def compose : List Char → List Char
  | [] => []
  | c :: cs => if combiningClass c = 0 then composeOnto c [] cs else c :: compose cs

/-- The composed normal form of a text. -/
def normalize (cs : List Char) : List Char := compose (order (cs.flatMap parts))

end Upkeep.Unicode
