import Upkeep.Text.Blank
import Upkeep.Time.Instant
/-!
Reading timestamps.

The form is that of RFC 3339 with some latitude: a field may have fewer digits than usual and
blanks in front of it, a year outside 0 to 9999 carries a sign, the date and the time are separated
by `T` or a space, a fraction may have any number of digits of which nine count, and the offset is
`Z`, `UTC` or a sign with hours and minutes. Seconds and the minutes of an offset are mandatory. Any
minute may have a leap second.
-/

namespace Upkeep.Rfc3339

/-- The digits at the start of a text, at most `limit` of them. -/
def leadingDigits (limit : Nat) (cs : List Char) : List Char :=
  (cs.take limit).takeWhile Char.isDigit

/-- A number of one to `width` digits, after any blanks. -/
def number (width : Nat) (cs : List Char) : Option (Nat × List Char) :=
  let cs := trimStart cs
  let ds := leadingDigits width cs
  if ds.isEmpty then none else some (digitsValue ds, cs.drop ds.length)

/-- A year: up to four digits, or a sign and any number of digits. -/
def year (cs : List Char) : Option (Int × List Char) :=
  match trimStart cs with
  | '-' :: rest => (signed rest).map fun (n, rest) => (-(n : Int), rest)
  | '+' :: rest => (signed rest).map fun (n, rest) => ((n : Int), rest)
  | rest => (number 4 rest).map fun (n, rest) => ((n : Int), rest)
where
  signed (cs : List Char) : Option (Nat × List Char) :=
    let ds := cs.takeWhile Char.isDigit
    if ds.isEmpty then none else some (digitsValue ds, cs.drop ds.length)

/-- A punctuation mark, after any blanks. -/
def mark (c : Char) (cs : List Char) : Option (List Char) :=
  match trimStart cs with
  | d :: rest => if d = c then some rest else none
  | [] => none

/-- A date of year, month and day. -/
def date (cs : List Char) : Option (Date × List Char) := do
  let (y, cs) ← year cs
  let (m, cs) ← number 2 (← mark '-' cs)
  let (d, cs) ← number 2 (← mark '-' cs)
  let date : Date := ⟨y, m, d⟩
  if date.isValid then some (date, cs) else none

/-- The letter or the space between date and time. -/
def separator : List Char → Option (List Char)
  | 'T' :: cs => some cs
  | 't' :: cs => some cs
  | ' ' :: cs => some cs
  | _ => none

/-- The nanoseconds of a fraction of a second; no fraction counts as zero. -/
def fraction : List Char → Option (Nat × List Char)
  | '.' :: cs =>
    let ds := leadingDigits 9 cs
    if ds.isEmpty then none
    else some (digitsValue ds * Nat.pow 10 (9 - ds.length), cs.dropWhile Char.isDigit)
  | cs => some (0, cs)

/-- A time of day in nanoseconds, in a leap second or not. The sixtieth second of a minute is a
leap second, which is counted like the one before. -/
def time (cs : List Char) : Option ((Nat × Bool) × List Char) := do
  let (h, cs) ← number 2 cs
  let (m, cs) ← number 2 (← mark ':' cs)
  let (s, cs) ← number 2 (← mark ':' cs)
  let (f, cs) ← fraction cs
  if h < 24 ∧ m < 60 ∧ s ≤ 60 then
    some (((h * 3600 + m * 60 + min s 59) * nanosPerSecond + f, s = 60), cs)
  else
    none

/-- Exactly two digits. -/
def twoDigits : List Char → Option (Nat × List Char)
  | a :: b :: cs =>
    if a.isDigit && b.isDigit then some (digitValue a * 10 + digitValue b, cs) else none
  | _ => none

/-- The seconds of an offset given by hours and minutes. -/
def clockOffset (cs : List Char) : Option (Nat × List Char) := do
  let (h, cs) ← twoDigits cs
  let (m, cs) ← twoDigits (cs.dropWhile fun c => c == ':' || isBlank c)
  if h < 24 ∧ m < 60 then some (h * 3600 + m * 60, cs) else none

/-- The offset from universal time in seconds. -/
def offset (cs : List Char) : Option (Int × List Char) :=
  match trimStart cs with
  | 'Z' :: cs => some (0, cs)
  | 'z' :: cs => some (0, cs)
  | '+' :: cs => (clockOffset cs).map fun (s, cs) => ((s : Int), cs)
  | '-' :: cs => (clockOffset cs).map fun (s, cs) => (-(s : Int), cs)
  | '\u2212' :: cs => (clockOffset cs).map fun (s, cs) => (-(s : Int), cs)
  | cs => if (cs.take 3).map Char.toLower = ['u', 't', 'c'] then some (0, cs.drop 3) else none

/-- Reads a timestamp. Both the local time and the instant that it denotes must be in range. -/
def parse? (s : String) : Option Instant := do
  let (d, cs) ← date s.toList
  let ((t, leap), cs) ← time (← separator cs)
  let (o, cs) ← offset cs
  if cs.all isBlank then
    let clock ← Instant.of? (d.dayNumber * nanosPerDay + t) leap
    Instant.of? (clock.nanos - o * nanosPerSecond) leap
  else
    none

end Upkeep.Rfc3339
