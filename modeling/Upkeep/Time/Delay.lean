import Upkeep.Text.Blank
import Upkeep.Text.Numeral
/-!
Delays: non-negative spans of wall-clock time.

A policy writes a delay as groups of a number and a unit, such as `30d` or `1d12h`; the bare text
`0` is the zero delay. `Delay.parse` reads that form and names what is wrong with a text that has
another one, and `Delay.text` writes the form with the largest units first.
-/

namespace Upkeep

/-- A threshold in whole seconds. -/
structure Delay where
  seconds : Nat
deriving DecidableEq, Repr, Inhabited

/-- What can be wrong with the text of a delay. Each cause but the first carries the whole text. -/
inductive DelayError
  | empty
  | unknownUnit (input : String) (unit : Char)
  | missingValue (input : String)
  | missingUnit (input : String)
  | tooLarge (input : String)
deriving DecidableEq, Repr

/-- The sentence that reports a malformed delay. -/
def DelayError.message : DelayError → String
  | .empty => "Delay must not be empty"
  | .unknownUnit input unit =>
    "Delay '" ++ input ++ "' has unknown unit '" ++ unit.toString ++ "' (expected d, h, m or s)"
  | .missingValue input => "Delay '" ++ input ++ "' has a unit with no value in front of it"
  | .missingUnit input => "Delay '" ++ input ++ "' ends with a number that has no unit"
  | .tooLarge input => "Delay '" ++ input ++ "' is too large"

namespace Delay

def zero : Delay := ⟨0⟩

def days (n : Nat) : Delay := ⟨n * 86400⟩

def hours (n : Nat) : Delay := ⟨n * 3600⟩

/-- The longest delay that a text can express, and the longest that arithmetic on instants uses:
one hundred years of 365 days. -/
def maxSeconds : Nat := 3153600000

/-- The seconds that arithmetic on instants takes a delay for. -/
def clampedSeconds (d : Delay) : Nat := min d.seconds maxSeconds

/-- The seconds in one unit of a delay text. -/
def unitSeconds? : Char → Option Nat
  | 'd' => some 86400
  | 'h' => some 3600
  | 'm' => some 60
  | 's' => some 1
  | _ => none

/-- The running total after one more group, if the group's number, its product with the unit and
the total all fit in 64 bits. -/
def addGroup? (total value unit : Nat) : Option Nat :=
  if value < wordLimit ∧ value * unit < wordLimit ∧ total + value * unit < wordLimit then
    some (total + value * unit)
  else
    none

/-- Reads the groups of a delay from left to right. `total` is the sum of the groups passed, and
`pending` is the number whose unit has not come yet. -/
def scan (input : String) (total : Nat) : Option Nat → List Char → Except DelayError Delay
  | none, [] => if maxSeconds < total then .error (.tooLarge input) else .ok ⟨total⟩
  | some _, [] => .error (.missingUnit input)
  | pending, c :: cs =>
    if c.isDigit then
      scan input total (some (pending.getD 0 * 10 + digitValue c)) cs
    else
      match unitSeconds? c, pending with
      | none, _ => .error (.unknownUnit input c)
      | some _, none => .error (.missingValue input)
      | some unit, some value =>
        match addGroup? total value unit with
        | none => .error (.tooLarge input)
        | some total => scan input total none cs

/-- Reads a delay text, blanks around it aside. -/
def parse (input : String) : Except DelayError Delay :=
  match trimChars input.toList with
  | [] => .error .empty
  | ['0'] => .ok zero
  | cs => scan input 0 none cs

/-- One group of a delay text; a group of zero is not written. -/
def group (n : Nat) (unit : Char) : List Char := if n = 0 then [] else decimal n ++ [unit]

/-- The groups of a delay in days, hours, minutes and seconds. -/
def groups (seconds : Nat) : List Char :=
  group (seconds / 86400) 'd' ++ group (seconds % 86400 / 3600) 'h' ++
    group (seconds % 3600 / 60) 'm' ++ group (seconds % 60) 's'

/-- The text of a delay in the largest units; the zero delay is a bare `0`. -/
def text (d : Delay) : String :=
  if d.seconds = 0 then "0" else String.ofList (groups d.seconds)

end Delay

end Upkeep
