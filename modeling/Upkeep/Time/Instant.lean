import Upkeep.Text.Numeral
import Upkeep.Time.Calendar
import Upkeep.Time.Delay
/-!
Instants: points of time to the nanosecond.

An instant counts the nanoseconds since 1970-01-01T00:00:00Z and stays between the beginning of
the year −262143 and the end of the year 262142. An instant inside a leap second is counted as if
it were in the second before, the last of its minute, and carries a mark. Leap seconds are not in a
table: an instant knows of its own only, so that the time between two instants counts the leap
second of the earlier one when the later one stands behind it on the clock.

Moving an instant by a delay stops at the ends of the range. Without leap seconds, comparing two
instants against a delay is exact.
-/

namespace Upkeep

/-- The nanoseconds in a second. -/
def nanosPerSecond : Nat := 1000000000

/-- The nanoseconds in a day. -/
def nanosPerDay : Nat := 86400 * nanosPerSecond

namespace Instant

/-- The first instant, −262143-01-01T00:00:00Z. -/
def earliestNanos : Int := -8334601228800 * 1000000000

/-- The last instant, +262142-12-31T23:59:59.999999999Z. -/
def latestNanos : Int := 8210266876800 * 1000000000 - 1

end Instant

/-- A point of time in nanoseconds since 1970-01-01T00:00:00Z. -/
structure Instant where
  nanos : Int
  /-- The instant lies in the leap second behind the second of `nanos`. -/
  leap : Bool := false
  earliest_le : Instant.earliestNanos ≤ nanos
  le_latest : nanos ≤ Instant.latestNanos
  /-- A leap second follows the last second of a minute. -/
  leap_ends_minute : leap = true → nanos / 1000000000 % 60 = 59 := by nofun
deriving DecidableEq

namespace Instant

/-- Two instants with the same nanoseconds, both inside a leap second or both not, are the same. -/
@[ext] theorem ext {a b : Instant} (h : a.nanos = b.nanos) (hl : a.leap = b.leap) : a = b := by
  cases a; cases b; cases h; cases hl; rfl

def earliest : Instant where
  nanos := earliestNanos
  earliest_le := by decide
  le_latest := by decide

def latest : Instant := { nanos := latestNanos, earliest_le := by decide, le_latest := by decide }

instance : Inhabited Instant := ⟨{ nanos := 0, earliest_le := by decide, le_latest := by decide }⟩

/-- The instant with this many nanoseconds, in a leap second or not, if there is such an
instant. -/
def of? (n : Int) (leap : Bool) : Option Instant :=
  if h : (earliestNanos ≤ n ∧ n ≤ latestNanos) ∧ (leap = true → n / 1000000000 % 60 = 59) then
    some ⟨n, leap, h.1.1, h.1.2, h.2⟩
  else none

/-- The instant outside leap seconds with this many nanoseconds, if it is in range. -/
def ofNanos? (n : Int) : Option Instant := of? n false

/-- The instant that lies this many seconds after 1970-01-01T00:00:00Z, if it is in range. -/
def ofSeconds? (n : Int) : Option Instant := ofNanos? (n * nanosPerSecond)

/-- The instant in range that is nearest to this many nanoseconds. -/
def clamp (n : Int) : Instant :=
  if h₁ : n < earliestNanos then earliest
  else if h₂ : latestNanos < n then latest
  else { nanos := n, earliest_le := Int.not_lt.1 h₁, le_latest := Int.not_lt.1 h₂ }

/-- The second that an instant is counted in, from 1970-01-01T00:00:00Z. -/
def second (t : Instant) : Int := t.nanos / nanosPerSecond

/-- The nanoseconds up to an instant, those of its own leap second included. -/
def position (t : Instant) : Int := t.nanos + if t.leap then nanosPerSecond else 0

/-! ## Moving -/

/-- The instant stays inside its leap second when it moves on by this many nanoseconds. -/
def staysLeap (t : Instant) (n : Nat) : Prop :=
  t.leap = true ∧ t.nanos % 1000000000 + n < 1000000000

instance (t : Instant) (n : Nat) : Decidable (t.staysLeap n) :=
  inferInstanceAs (Decidable (_ ∧ _))

/-- The instant later by a number of nanoseconds, or the last instant. -/
def advance (t : Instant) (n : Nat) : Instant :=
  if h : t.staysLeap n then
    { nanos := t.nanos + n
      leap := true
      earliest_le := by have := t.earliest_le; omega
      le_latest := by
        have h₁ := t.le_latest
        have h₂ := h.2
        unfold latestNanos at h₁ ⊢
        omega
      leap_ends_minute := fun _ => by
        have h₁ := t.leap_ends_minute h.1
        have h₂ := h.2
        omega }
  else clamp (t.nanos + n)

/-- The nanoseconds that a delay moves an instant by. -/
def shift (d : Delay) : Nat := d.clampedSeconds * nanosPerSecond

/-- The instant later by a delay, or the last instant. -/
def plus (t : Instant) (d : Delay) : Instant := t.advance (shift d)

/-- The instant earlier by a delay, or the first instant. -/
def minus (t : Instant) (d : Delay) : Instant :=
  if shift d = 0 then t else clamp (t.position - shift d)

/-! ## Comparing -/

/-- The second of its day that an instant is counted in. -/
def secondOfDay (t : Instant) : Int := t.second % 86400

/-- The leap second of `t` lies before `u` on the clock of a day. -/
def leapCountsBefore (t u : Instant) : Bool := t.leap && decide (t.secondOfDay < u.secondOfDay)

/-- The nanoseconds from `earlier` to `t`, negative if `t` comes first. -/
def since (t earlier : Instant) : Int :=
  t.position - earlier.position +
    if leapCountsBefore earlier t then (nanosPerSecond : Int)
    else if leapCountsBefore t earlier then -(nanosPerSecond : Int)
    else 0

/-- Strictly more than the delay separates `earlier` from `t`. -/
def isLaterThan (t earlier : Instant) (d : Delay) : Bool :=
  decide ((shift d : Int) < t.since earlier)

/-- Less than the delay separates `earlier` from `t`. -/
def isWithin (t earlier : Instant) (d : Delay) : Bool := decide (t.since earlier < shift d)

/-- A number that grows with time: first come the seconds, then what lies inside a second with its
leap second behind it. -/
def rank (t : Instant) : Int := t.position + t.second * nanosPerSecond

instance : LT Instant := ⟨fun a b => a.rank < b.rank⟩

instance : LE Instant := ⟨fun a b => a.rank ≤ b.rank⟩

instance (a b : Instant) : Decidable (a < b) := inferInstanceAs (Decidable (a.rank < b.rank))

instance (a b : Instant) : Decidable (a ≤ b) := inferInstanceAs (Decidable (a.rank ≤ b.rank))

/-- The later of two instants. -/
def later (a b : Instant) : Instant := if a < b then b else a

/-- The later of two instants of which either may be missing. -/
def later? : Option Instant → Option Instant → Option Instant
  | none, b => b
  | a, none => a
  | some a, some b => some (later a b)

/-- The newest of a list of instants. -/
def newest? (ts : List Instant) : Option Instant := ts.foldl (fun t u => later? t (some u)) none

/-! ### Outside leap seconds -/

theorem since_of_not_leap {t e : Instant} (ht : t.leap = false) (he : e.leap = false) :
    t.since e = t.nanos - e.nanos := by
  simp [since, leapCountsBefore, position, ht, he]

theorem lt_iff_of_not_leap {a b : Instant} (ha : a.leap = false) (hb : b.leap = false) :
    a < b ↔ a.nanos < b.nanos := by
  show a.rank < b.rank ↔ _
  simp only [rank, position, second, ha, hb, nanosPerSecond]
  omega

theorem plus_of_not_leap {t : Instant} (h : t.leap = false) (d : Delay) :
    t.plus d = clamp (t.nanos + shift d) := by
  simp [plus, advance, staysLeap, h]

/-! ## Texts -/

/-- The date of an instant in universal time. -/
def date (t : Instant) : Date := Date.ofDayNumber (t.nanos / nanosPerDay)

/-- The nanoseconds since the beginning of the instant's day. -/
def nanosOfDay (t : Instant) : Nat := (t.nanos % nanosPerDay).toNat

/-- A year in at least four digits, with a sign when it lies outside 0 to 9999. -/
def yearText (year : Int) : List Char :=
  if year < 0 then '-' :: paddedDecimal 4 year.natAbs
  else if 9999 < year then '+' :: decimal year.natAbs
  else paddedDecimal 4 year.natAbs

/-- A date as year, month and day. -/
def dateChars (d : Date) : List Char :=
  yearText d.year ++ '-' :: paddedDecimal 2 d.month ++ '-' :: paddedDecimal 2 d.day

/-- The date of an instant as year, month and day. -/
def dateText (t : Instant) : String := String.ofList (dateChars t.date)

/-- The fraction of a second: nothing when it is zero, else the shortest of 3, 6 and 9 digits that
is exact. -/
def fractionText (nanos : Nat) : List Char :=
  if nanos = 0 then []
  else if nanos % 1000000 = 0 then '.' :: paddedDecimal 3 (nanos / 1000000)
  else if nanos % 1000 = 0 then '.' :: paddedDecimal 6 (nanos / 1000)
  else '.' :: paddedDecimal 9 nanos

/-- A time of day as hours, minutes and seconds with their fraction. A leap second counts on after
the second before it. -/
def timeChars (nanosOfDay : Nat) (leap : Bool) : List Char :=
  let seconds := nanosOfDay / nanosPerSecond
  paddedDecimal 2 (seconds / 3600) ++ ':' :: paddedDecimal 2 (seconds / 60 % 60) ++
    ':' :: paddedDecimal 2 (seconds % 60 + leap.toNat) ++ fractionText (nanosOfDay % nanosPerSecond)

/-- Date and time of an instant with the letter `T` between them. -/
def dateTimeChars (t : Instant) : List Char :=
  dateChars t.date ++ 'T' :: timeChars t.nanosOfDay t.leap

/-- The text of an instant with the offset written `+00:00`. -/
def text (t : Instant) : String := String.ofList (t.dateTimeChars ++ "+00:00".toList)

/-- The text of an instant with the offset written `Z`. -/
def zuluText (t : Instant) : String := String.ofList (t.dateTimeChars ++ ['Z'])

end Instant

end Upkeep
