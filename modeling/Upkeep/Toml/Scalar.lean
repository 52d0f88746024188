import Upkeep.Text.Double
import Upkeep.Toml.Datetime
import Upkeep.Toml.Lexical
/-!
The scalar values of TOML: booleans, integers, floating-point numbers, dates and times.

An integer must fit in 64 bits with its sign. A floating-point number keeps its text, and a date or
time becomes a table with a single entry under `datetimeKey`.
-/

namespace Upkeep.Toml

/-! ## Numbers -/

/-- Digits in groups with single underscores between them. The first argument says whether a digit
stands right before the text. -/
def digitGroups (isDigit : Char → Bool) : Bool → List Char → List Char × List Char
  | afterDigit, c :: cs =>
    if isDigit c then
      let (ds, rest) := digitGroups isDigit true cs
      (c :: ds, rest)
    else if afterDigit && c == '_' then
      match cs with
      | d :: cs =>
        if isDigit d then
          let (ds, rest) := digitGroups isDigit true cs
          (d :: ds, rest)
        else ([], c :: d :: cs)
      | [] => ([], [c])
    else ([], c :: cs)
  | _, [] => ([], [])

/-- One or more digits in groups. -/
def digits? (isDigit : Char → Bool) (cs : List Char) : Option (List Char × List Char) :=
  match digitGroups isDigit false cs with
  | ([], _) => none
  | r => some r

/-- The integers of 64 bits with their sign. -/
def isSignedWord (n : Int) : Bool := -0x8000000000000000 ≤ n && n < 0x8000000000000000

/-- The number that digits of a base stand for. -/
def valueInBase (base : Nat) (ds : List Char) : Nat :=
  ds.foldl (fun v c => v * base + (hexValue? c).getD 0) 0

/-- An integer in another base than ten, its mark already read. -/
def basedInteger? (base : Nat) (cs : List Char) : Option (Value × List Char) := do
  let (ds, cs) ← digits? (fun c => (hexValue? c).any (· < base)) cs
  let n : Int := valueInBase base ds
  if isSignedWord n then some (.int n, cs) else none

/-- The sign of a number. -/
def sign : List Char → List Char × List Char
  | '+' :: cs => (['+'], cs)
  | '-' :: cs => (['-'], cs)
  | cs => ([], cs)

/-- The digits before the point: a lone zero, or digits that do not begin with zero. -/
def wholePart? (cs : List Char) : Option (List Char × List Char) :=
  match cs with
  | '0' :: cs => some (['0'], cs)
  | cs => digits? Char.isDigit cs

/-- The digits behind the point, if there is one. -/
def fraction? (cs : List Char) : Option (List Char × List Char) :=
  match cs with
  | '.' :: cs => digits? Char.isDigit cs
  | cs => some ([], cs)

/-- The sign and digits of an exponent, if there is one. -/
def exponent? (cs : List Char) : Option (Option (List Char × List Char) × List Char) :=
  match cs with
  | c :: rest =>
    if c = 'e' ∨ c = 'E' then do
      let (s, rest) := sign rest
      let (ds, rest) ← digits? Char.isDigit rest
      return (some (s, ds), rest)
    else some (none, cs)
  | [] => some (none, [])

/-- A positive number with these digits before and behind the point and this exponent is too great
for double precision. -/
def overflows (whole fraction : List Char) (negativeExponent : Bool) (exponent : Nat) : Bool :=
  let m := digitsValue (whole ++ fraction)
  if m = 0 then false
  else if negativeExponent then
    decide (Double.overflowBound * Nat.pow 10 (fraction.length + min exponent 10000) ≤ m)
  else if 400 + fraction.length < exponent then true
  else decide (Double.overflowBound * Nat.pow 10 fraction.length ≤ m * Nat.pow 10 exponent)

/-- A decimal number, integer or floating-point. -/
def decimalNumber? (cs : List Char) : Option (Value × List Char) := do
  let (s, cs) := sign cs
  let (whole, cs) ← wholePart? cs
  let hasPoint := cs.head? == some '.'
  let (fraction, cs) ← fraction? cs
  let (exponent, cs) ← exponent? cs
  if !hasPoint && exponent.isNone then
    let n : Int := if s = ['-'] then -(digitsValue whole : Int) else digitsValue whole
    if isSignedWord n then some (.int n, cs) else none
  else
    let (expSign, expDigits) := exponent.getD ([], [])
    if s ≠ ['-'] ∧ overflows whole fraction (expSign = ['-']) (digitsValue expDigits) then none
    else
      let mantissa := s ++ whole ++ '.' :: fraction
      some (.real (String.ofList (mantissa ++ 'e' :: expSign ++ expDigits)), cs)

/-- A floating-point number that is written as a word. -/
def wordNumber? (cs : List Char) : Option (Value × List Char) :=
  let (s, cs) := sign cs
  match cs with
  | 'i' :: 'n' :: 'f' :: cs => some (.real (String.ofList (s ++ "inf".toList)), cs)
  | 'n' :: 'a' :: 'n' :: cs => some (.real (String.ofList (s ++ "nan".toList)), cs)
  | _ => none

/-- A number of any form. -/
def number? (cs : List Char) : Option (Value × List Char) :=
  match cs with
  | '0' :: 'x' :: cs => basedInteger? 16 cs
  | '0' :: 'o' :: cs => basedInteger? 8 cs
  | '0' :: 'b' :: cs => basedInteger? 2 cs
  | cs => (wordNumber? cs).or (decimalNumber? cs)

/-! ## Dates and times -/

/-- The hours and minutes of an offset that a document may give. -/
def isDocumentOffset (h m : Nat) : Bool := decide (h ≤ 23) && decide (m ≤ 59)

/-- A date with a time behind it, if there is one. -/
def dateTime? (cs : List Char) : Option (Datetime × List Char) := do
  let (d, rest) ← readDate? cs
  match rest with
  | c :: more =>
    if c = 'T' ∨ c = 't' ∨ (c = ' ' ∧ (more.head?.any Char.isDigit)) then do
      let (t, rest) ← readClock? 23 more
      let (o, rest) ← readOffset? isDocumentOffset rest
      return (⟨some d, some t, o⟩, rest)
    else return (⟨some d, none, none⟩, rest)
  | [] => return (⟨some d, none, none⟩, [])

/-- The text looks like a date or a time: four digits and a hyphen, or two digits and a colon. -/
def looksLikeDateTime (cs : List Char) : Bool :=
  let ds := cs.takeWhile Char.isDigit
  match cs.drop ds.length with
  | '-' :: _ => ds.length == 4
  | ':' :: _ => ds.length == 2
  | _ => false

/-- A date, a time, or both. -/
def temporal? (cs : List Char) : Option (Value × List Char) :=
  if Datetime.startsWithTime cs then
    (readClock? 23 cs).map fun (t, rest) => (Datetime.toValue { time? := some t }, rest)
  else (dateTime? cs).map fun (d, rest) => (d.toValue, rest)

/-- A value other than a list or a table. -/
def scalar (cs : List Char) : Option (Value × List Char) :=
  match cs with
  | 't' :: 'r' :: 'u' :: 'e' :: cs => some (.bool true, cs)
  | 'f' :: 'a' :: 'l' :: 's' :: 'e' :: cs => some (.bool false, cs)
  | '\x22' :: _ => (string? cs).map fun (s, cs) => (.text s, cs)
  | '\x27' :: _ => (string? cs).map fun (s, cs) => (.text s, cs)
  | _ => if looksLikeDateTime cs then temporal? cs else number? cs

end Upkeep.Toml
