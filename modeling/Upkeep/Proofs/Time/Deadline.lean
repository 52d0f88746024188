import Upkeep.Proofs.Time.Order
/-!
# Deadlines

Adding a delay to an instant gives the deadline until which the delay has not passed, and the
addition stops at the last instant. Comparing the time since the instant with the delay is exact.
Outside leap seconds the two agree on every later instant, also where the addition stops
(`isLaterThan_iff_plus_lt`). A leap second can be counted on one side only, and the two can differ
by up to two seconds then (`isLaterThan_of_apart`).
-/

namespace Upkeep.Instant

variable {t e : Instant} {d : Delay}

/-- A delay of any length moves an instant out of its leap second. -/
theorem plus_eq_clamp (hd : 0 < shift d) (e : Instant) : e.plus d = clamp (e.nanos + shift d) := by
  have hsecond : nanosPerSecond ≤ shift d := by
    unfold shift at hd ⊢
    exact Nat.le_mul_of_pos_left _ (Nat.pos_of_mul_pos_right hd)
  -- Only a part of a second could stay inside.
  have hmoves : ¬ e.staysLeap (shift d) := by
    rintro ⟨-, hstays⟩
    unfold nanosPerSecond at hsecond
    omega
  rw [plus, advance, dif_neg hmoves]

theorem plus_leap (hd : 0 < shift d) (e : Instant) : (e.plus d).leap = false := by
  rw [plus_eq_clamp hd, clamp_leap]

/-- The deadline is the last instant if it would lie behind it. -/
theorem plus_nanos (hd : 0 < shift d) (e : Instant) :
    (e.plus d).nanos = min (e.nanos + shift d) latestNanos := by
  have hearliest := e.earliest_le
  have hrange : earliestNanos ≤ latestNanos := by decide
  rw [plus_eq_clamp hd, clamp_nanos]
  omega

theorem plus_position (hd : 0 < shift d) (e : Instant) :
    (e.plus d).position = min (e.nanos + shift d) latestNanos := by
  rw [position, plus_leap hd, plus_nanos hd]
  simp

theorem position_bounds_nanos (t : Instant) :
    t.nanos ≤ t.position ∧ t.position ≤ t.nanos + nanosPerSecond := by
  unfold position
  split <;> omega

/-- The leap second of the earlier instant counts once at most. -/
theorem since_le_nanos (t e : Instant) : t.since e ≤ t.position - e.nanos := by
  have he := position_bounds_nanos e
  cases h : leapCountsBefore e t with
  | false =>
    have hle := since_le_of_not_leapCountsBefore h
    omega
  | true =>
    -- `position` takes away from the difference what the count adds to it.
    have hle := (since_bounds t e).2
    have hposition : e.position = e.nanos + nanosPerSecond := by
      rw [position, if_pos (leapCountsBefore_iff.1 h).1]
    omega

/-- Up to the deadline, the delay has not passed. -/
theorem not_isLaterThan_of_position_le (hd : 0 < shift d)
    (h : t.position ≤ (e.plus d).position) : t.isLaterThan e d = false := by
  have hsince := since_le_nanos t e
  rw [plus_position hd] at h
  rw [isLaterThan, decide_eq_false_iff_not]
  omega

/-- Two seconds behind the deadline, the delay has passed. -/
theorem isLaterThan_of_apart (hd : 0 < shift d)
    (h : (e.plus d).position + 2 * nanosPerSecond < t.position) : t.isLaterThan e d = true := by
  -- One second may be lost by the leap second of either instant. A deadline that stops at the last
  -- instant has nothing two seconds behind it.
  have hsince := (since_bounds t e).1
  have he := position_bounds_nanos e
  have ht := position_bounds_nanos t
  have hlatest := t.le_latest
  rw [plus_position hd] at h
  rw [isLaterThan, decide_eq_true_iff]
  omega

theorem plus_leap_of_not_leap (he : e.leap = false) (d : Delay) : (e.plus d).leap = false := by
  rw [plus_of_not_leap he, clamp_leap]

/-- Outside leap seconds, the delay has passed exactly behind the deadline. -/
theorem isLaterThan_iff_plus_lt (ht : t.leap = false) (he : e.leap = false) :
    t.isLaterThan e d = true ↔ e.plus d < t := by
  have hearliest := e.earliest_le
  have hlatest := t.le_latest
  rw [lt_iff_of_not_leap (plus_leap_of_not_leap he d) ht, plus_of_not_leap he, clamp_nanos,
    isLaterThan, decide_eq_true_iff, since_of_not_leap ht he]
  omega

/-- A deadline that has been passed is not the end of the range, and neither is an earlier one. -/
theorem plus_nanos_of_isLaterThan {c : Delay} (ht : t.leap = false) (he : e.leap = false)
    (h : t.isLaterThan e d = true) (hc : shift c ≤ shift d) :
    (e.plus c).nanos = e.nanos + shift c := by
  have hearliest := e.earliest_le
  have hlatest := t.le_latest
  rw [isLaterThan, decide_eq_true_iff, since_of_not_leap ht he] at h
  rw [plus_of_not_leap he, clamp_nanos]
  omega

/-! ## The length of a delay -/

/-- A delay that a text can express counts in full. -/
theorem shift_eq (h : d.seconds ≤ Delay.maxSeconds) : shift d = d.seconds * nanosPerSecond := by
  rw [shift, Delay.clampedSeconds, Nat.min_eq_left h]

theorem shift_le_shift {c : Delay} (h : c.seconds ≤ d.seconds) : shift c ≤ shift d := by
  refine Nat.mul_le_mul_right _ ?_
  unfold Delay.clampedSeconds
  omega

end Upkeep.Instant
