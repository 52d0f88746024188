import Upkeep.Decode
import Upkeep.Text.Numeral
import Upkeep.Time.Calendar
/-!
The dates and times of TOML.

A `Datetime` is a date, a time of day, or both with an offset or without. `Datetime.text` is its
one normal form, and `Datetime.parse?` reads a text of that form. A document keeps a date or time
as a table with a single entry under `datetimeKey`; `Value.plainDates` puts the texts in the place
of such tables.
-/

namespace Upkeep.Toml

/-- A time of day. The sixtieth second is a leap second. -/
structure ClockTime where
  hour : Nat
  minute : Nat
  second : Nat
  nanos : Nat := 0
deriving DecidableEq, Repr

/-- The distance of a local time from universal time. -/
inductive Offset
  | zulu
  | minutes (n : Int)
deriving DecidableEq, Repr

/-- A date, a time, or both; only both together have an offset. -/
structure Datetime where
  date? : Option Date := none
  time? : Option ClockTime := none
  offset? : Option Offset := none
deriving DecidableEq, Repr

/-! ## Writing -/

/-- A date in its normal form. -/
def dateText (d : Date) : List Char :=
  paddedDecimal 4 d.year.toNat ++ '-' :: paddedDecimal 2 d.month ++ '-' :: paddedDecimal 2 d.day

/-- The digits of a list without the zeros at its end. -/
def withoutTrailingZeros (ds : List Char) : List Char :=
  (ds.reverse.dropWhile (· == '0')).reverse

/-- A time of day in its normal form: its fraction has no trailing zeros. -/
def ClockTime.text (t : ClockTime) : List Char :=
  paddedDecimal 2 t.hour ++ ':' :: paddedDecimal 2 t.minute ++ ':' :: paddedDecimal 2 t.second ++
    if t.nanos = 0 then [] else '.' :: withoutTrailingZeros (paddedDecimal 9 t.nanos)

/-- An offset in its normal form. -/
def Offset.text : Offset → List Char
  | zulu => ['Z']
  | minutes n =>
    (if n < 0 then '-' else '+') ::
      (paddedDecimal 2 (n.natAbs / 60) ++ ':' :: paddedDecimal 2 (n.natAbs % 60))

/-- The normal form of a date or time: the letter `T` stands between date and time. -/
def Datetime.text (d : Datetime) : String :=
  let date := (d.date?.map dateText).getD []
  let time := (d.time?.map ClockTime.text).getD []
  let separator := if d.date?.isSome && d.time?.isSome then ['T'] else []
  String.ofList (date ++ separator ++ time ++ (d.offset?.map Offset.text).getD [])

/-! ## Reading -/

/-- Exactly `n` digits. -/
def fixedDigits? (n : Nat) (cs : List Char) : Option (Nat × List Char) :=
  let ds := cs.take n
  if ds.length = n && ds.all Char.isDigit then some (digitsValue ds, cs.drop n) else none

/-- A given character. -/
def char? (c : Char) : List Char → Option (List Char)
  | d :: cs => if d = c then some cs else none
  | [] => none

/-- A calendar date. -/
def readDate? (cs : List Char) : Option (Date × List Char) := do
  let (y, cs) ← fixedDigits? 4 cs
  let (m, cs) ← fixedDigits? 2 (← char? '-' cs)
  let (d, cs) ← fixedDigits? 2 (← char? '-' cs)
  let date : Date := ⟨y, m, d⟩
  if date.isValid then some (date, cs) else none

/-- The nanoseconds of a fraction of a second, if there is one. Nine of its digits count. -/
def nanos? (cs : List Char) : Option (Nat × List Char) :=
  match cs with
  | '.' :: rest =>
    let ds := rest.takeWhile Char.isDigit
    let counted := ds.take 9
    if ds.isEmpty then none
    else some (digitsValue counted * Nat.pow 10 (9 - counted.length), rest.drop ds.length)
  | _ => some (0, cs)

/-- A time of day up to the given hour. -/
def readClock? (lastHour : Nat) (cs : List Char) : Option (ClockTime × List Char) := do
  let (h, cs) ← fixedDigits? 2 cs
  let (m, cs) ← fixedDigits? 2 (← char? ':' cs)
  let (s, cs) ← fixedDigits? 2 (← char? ':' cs)
  if lastHour < h ∨ 59 < m ∨ 60 < s then none
  else do
    let (n, cs) ← nanos? cs
    return (⟨h, m, s, n⟩, cs)

/-- The hours and minutes of an offset behind its sign. -/
def offsetMinutes? (cs : List Char) : Option (Nat × Nat × List Char) := do
  let (h, cs) ← fixedDigits? 2 cs
  let (m, cs) ← fixedDigits? 2 (← char? ':' cs)
  return (h, m, cs)

/-- An offset, if there is one, of which the hours and minutes pass a test. -/
def readOffset? (accepts : Nat → Nat → Bool) (cs : List Char) :
    Option (Option Offset × List Char) :=
  match cs with
  | 'Z' :: cs => some (some .zulu, cs)
  | 'z' :: cs => some (some .zulu, cs)
  | '+' :: rest => do
    let (h, m, rest) ← offsetMinutes? rest
    if accepts h m then return (some (.minutes (h * 60 + m : Nat)), rest) else none
  | '-' :: rest => do
    let (h, m, rest) ← offsetMinutes? rest
    if accepts h m then return (some (.minutes (-(h * 60 + m : Nat))), rest) else none
  | cs => some (none, cs)

namespace Datetime

/-- The text begins with a time of day: its third character is a colon. -/
def startsWithTime (cs : List Char) : Bool := (cs.drop 2).head? == some ':'

/-- Reads a text of a date or time and nothing else. A time may be at hour 24 here, and an offset
may be up to 24 hours. -/
def parse? (s : String) : Option Datetime := do
  let cs := s.toList
  if startsWithTime cs then
    let (t, rest) ← readClock? 24 cs
    if rest.isEmpty then some { time? := some t } else none
  else
    let (d, rest) ← readDate? cs
    match rest with
    | [] => some { date? := some d }
    | c :: rest =>
      if c = 'T' ∨ c = 't' ∨ c = ' ' then
        let (t, rest) ← readClock? 24 rest
        let (o, rest) ← readOffset? (fun h m => decide (h * 60 + m ≤ 24 * 60)) rest
        if rest.isEmpty then some ⟨some d, some t, o⟩ else none
      else none

end Datetime

/-! ## Dates and times as values -/

/-- The key under which a date or time is kept. -/
def datetimeKey : String := "$__toml_private_datetime"

/-- A date or time as a value of a document. -/
def Datetime.toValue (d : Datetime) : Value := .table [(datetimeKey, .text d.text)]

end Upkeep.Toml

namespace Upkeep

/-- The text of the date or time that the value under `datetimeKey` stands for. -/
def Value.dateText (v : Value) : Except DecodeError Value :=
  match v with
  | .text s =>
    match Toml.Datetime.parse? s with
    | some d => .ok (.text d.text)
    | none => .error .malformed
  | _ => .error .malformed

mutual

/-- The value with texts in the place of dates and times. A table is one if its first key is
`datetimeKey`; the entries behind that one are refused when `alone` is set, and dropped when it is
not. -/
def Value.plainDates (alone : Bool) : Value → Except DecodeError Value
  | .list items => (plainItems alone items).map .list
  | .table [] => .ok (.table [])
  | .table ((key, v) :: rest) =>
    if key = Toml.datetimeKey then
      if alone && !rest.isEmpty then .error .malformed else v.dateText
    else
      match plainDates alone v with
      | .error e => .error e
      | .ok v => (plainEntries alone rest).map fun rest => .table ((key, v) :: rest)
  | .null => .ok .null
  | .bool b => .ok (.bool b)
  | .int n => .ok (.int n)
  | .real l => .ok (.real l)
  | .text s => .ok (.text s)
  | .unreadable => .ok .unreadable

def Value.plainItems (alone : Bool) : List Value → Except DecodeError (List Value)
  | [] => .ok []
  | v :: vs =>
    match Value.plainDates alone v with
    | .error e => .error e
    | .ok v => (plainItems alone vs).map (v :: ·)

/-- The entries of a table with texts in the place of dates and times. -/
def Value.plainEntries (alone : Bool) :
    List (String × Value) → Except DecodeError (List (String × Value))
  | [] => .ok []
  | (key, v) :: rest =>
    match Value.plainDates alone v with
    | .error e => .error e
    | .ok v => (plainEntries alone rest).map ((key, v) :: ·)

end

end Upkeep
