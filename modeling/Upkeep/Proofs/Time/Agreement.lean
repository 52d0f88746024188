import Upkeep.Proofs.Time.Deadline
/-!
# Moving and comparing

An instant is compared with an earlier one either by the exact time between the two, or by moving
one of them by the delay, which stops at the ends of the range. Outside leap seconds, and with them
where more than two seconds are left, the two ways agree (`ages_agree`). There is one exception: an
instant that is moved back to the first one does not come before it.
-/

namespace Upkeep.Instant

variable {t u e : Instant} {c d : Delay}

/-! ## Moving back -/

theorem clamp_nanos_self (h : t.leap = false) : clamp t.nanos = t := by
  refine Instant.ext ?_ ((clamp_leap _).trans h.symm)
  have hearliest := t.earliest_le
  have hlatest := t.le_latest
  rw [clamp_nanos]
  omega

theorem position_of_not_leap (h : t.leap = false) : t.position = t.nanos := by
  rw [position, h]
  exact Int.add_zero _

theorem minus_of_not_leap (h : t.leap = false) (d : Delay) :
    t.minus d = clamp (t.nanos - shift d) := by
  rw [minus, position_of_not_leap h]
  split
  · next hzero => rw [hzero, Int.natCast_zero, Int.sub_zero, clamp_nanos_self h]
  · rfl

theorem minus_leap_of_not_leap (h : t.leap = false) (d : Delay) : (t.minus d).leap = false := by
  rw [minus_of_not_leap h, clamp_leap]

/-- A delay moves an instant back by whole seconds, or not at all. -/
theorem shift_eq_zero_or (d : Delay) : shift d = 0 ∨ nanosPerSecond ≤ shift d := by
  unfold shift
  rcases Nat.eq_zero_or_pos d.clampedSeconds with h | h
  · exact .inl (by rw [h, Nat.zero_mul])
  · exact .inr (Nat.le_mul_of_pos_left _ h)

theorem earliestNanos_le_position (t : Instant) : earliestNanos ≤ t.position :=
  Int.le_trans t.earliest_le (position_bounds_nanos t).1

theorem minus_position (t : Instant) (d : Delay) :
    (t.minus d).position = max earliestNanos (t.position - shift d) := by
  have hearliest := earliestNanos_le_position t
  unfold minus
  split
  · omega
  · have hlatest := t.le_latest
    have hposition := position_bounds_nanos t
    have hsecond := shift_eq_zero_or d
    rw [position_of_not_leap (clamp_leap _), clamp_nanos]
    omega

/-- Except from the first instant, less than a delay separates an instant from another exactly if
it comes before the other once it is moved back. -/
theorem isWithin_iff_minus_lt (ht : t.leap = false) (he : e.leap = false) (hne : e ≠ earliest) :
    t.isWithin e d = true ↔ t.minus d < e := by
  have hearliest : earliestNanos ≠ e.nanos := fun h => hne (Instant.ext h.symm he)
  have hle := e.earliest_le
  have hlatest := e.le_latest
  rw [lt_iff_of_not_leap (minus_leap_of_not_leap ht d) he, minus_of_not_leap ht, clamp_nanos,
    isWithin, decide_eq_true_iff, since_of_not_leap ht he]
  omega

theorem neither_iff :
    t.isLaterThan e d = false ∧ t.isWithin e d = false ↔ t.since e = shift d := by
  rw [isLaterThan, isWithin, decide_eq_false_iff_not, decide_eq_false_iff_not]
  omega

/-! ## Far from each other -/

/-- More than two seconds lie between two instants. -/
def Apart (t u : Instant) : Prop :=
  t.position + 2 * nanosPerSecond < u.position ∨ u.position + 2 * nanosPerSecond < t.position

instance (t u : Instant) : Decidable (Apart t u) := inferInstanceAs (Decidable (_ ∨ _))

theorem lt_of_position_lt (h : t.position + 2 * nanosPerSecond < u.position) : t < u := by
  have ht := position_bounds t
  have hu := position_bounds u
  show t.rank < u.rank
  unfold rank nanosPerSecond at *
  omega

theorem Apart.lt_iff (h : Apart t u) : t < u ↔ t.position + 2 * nanosPerSecond < u.position := by
  refine ⟨fun hlt => h.resolve_right fun hgt => ?_, lt_of_position_lt⟩
  exact absurd (Int.lt_trans hlt (lt_of_position_lt hgt)) (Int.lt_irrefl _)

theorem plus_of_shift_eq_zero (h : shift d = 0) (t : Instant) : t.plus d = t := by
  unfold plus advance
  rw [h]
  split
  · next hstays => exact Instant.ext (Int.add_zero _) hstays.1.symm
  · next hmoves =>
    have hleap : t.leap = false := by
      rw [← Bool.not_eq_true]
      exact fun hleap => hmoves ⟨hleap, by omega⟩
    rw [Int.natCast_zero, Int.add_zero, clamp_nanos_self hleap]

theorem nanos_plus (t : Instant) (d : Delay) :
    (t.plus d).nanos = min (t.nanos + shift d) latestNanos := by
  rcases Nat.eq_zero_or_pos (shift d) with hzero | hd
  · have hlatest := t.le_latest
    rw [plus_of_shift_eq_zero hzero]
    omega
  · exact plus_nanos hd t

theorem isLaterThan_iff_of_apart (h : Apart (e.plus d) t) :
    t.isLaterThan e d = true ↔ e.plus d < t := by
  have hsince := since_bounds t e
  rw [h.lt_iff]
  rcases Nat.eq_zero_or_pos (shift d) with hzero | hd
  · rw [Apart, plus_of_shift_eq_zero hzero] at h
    rw [plus_of_shift_eq_zero hzero, isLaterThan, decide_eq_true_iff]
    omega
  · refine ⟨fun hlater => h.resolve_right fun hgt => ?_, isLaterThan_of_apart hd⟩
    rw [not_isLaterThan_of_position_le hd (by omega)] at hlater
    cases hlater

theorem isWithin_iff_of_apart (h : Apart (t.minus d) e) :
    t.isWithin e d = true ↔ t.minus d < e := by
  have hsince := since_bounds t e
  have hearliest := earliestNanos_le_position e
  rw [h.lt_iff]
  rw [Apart, minus_position] at h
  rw [minus_position, isWithin, decide_eq_true_iff]
  omega

/-! ## In order -/

theorem nanos_le_of_standsBefore {others : List Instant} (h : StandsBefore others t u) :
    t.nanos ≤ u.nanos := by
  obtain ⟨hle, hleap | hapart⟩ := h
  · exact (le_iff_of_not_leap (hleap t (by simp)) (hleap u (by simp))).1 hle
  · have ht := position_bounds_nanos t
    have hu := position_bounds_nanos u
    omega

/-- Moving on keeps instants in order, also where it ends at the last instant. -/
theorem StandsBefore.plus_le {others : List Instant} (h : StandsBefore others t u) (d : Delay) :
    t.plus d ≤ u.plus d := by
  rcases Nat.eq_zero_or_pos (shift d) with hzero | hd
  · rw [plus_of_shift_eq_zero hzero, plus_of_shift_eq_zero hzero]
    exact h.1
  · have hnanos := nanos_le_of_standsBefore h
    rw [plus_eq_clamp hd, plus_eq_clamp hd]
    exact clamp_le_clamp (by omega)

theorem clamp_rank (n : Int) :
    (clamp n).rank = (clamp n).nanos + (clamp n).nanos / nanosPerSecond * nanosPerSecond := by
  rw [rank, position_of_not_leap (clamp_leap n)]
  rfl

theorem clamp_eq_latest {n : Int} (h : latestNanos ≤ n) : clamp n = latest := by
  refine Instant.ext ?_ (clamp_leap n)
  have hrange : earliestNanos ≤ latestNanos := by decide
  rw [clamp_nanos]
  show _ = latestNanos
  omega

/-- What is a second later at least comes later, if it is in range. -/
theorem lt_clamp {n : Int} (hn : n ≤ latestNanos) (h : t.nanos + nanosPerSecond ≤ n) :
    t < clamp n := by
  have hearliest := t.earliest_le
  have hposition := position_bounds_nanos t
  have hnanos : (clamp n).nanos = n := by
    rw [clamp_nanos]
    omega
  show t.rank < (clamp n).rank
  rw [clamp_rank, hnanos]
  unfold rank second nanosPerSecond at *
  omega

/-- What is a second later at least comes later, unless it ends at the last instant. -/
theorem le_clamp {n : Int} (ht : t ≤ latest) (h : t.nanos + nanosPerSecond ≤ n) : t ≤ clamp n := by
  rcases Int.le_total n latestNanos with hn | hn
  · exact le_of_lt (lt_clamp hn h)
  · rw [clamp_eq_latest hn]
    exact ht

/-- A delay of any length leads to a later instant, except from the last one on. -/
theorem plus_le_self_iff (hd : 0 < shift d) : t.plus d ≤ t ↔ latest ≤ t := by
  rw [plus_eq_clamp hd]
  rcases Int.le_total (t.nanos + shift d) latestNanos with hn | hn
  · have hsecond := shift_eq_zero_or d
    have hlatest : clamp latestNanos = latest := clamp_eq_latest (Int.le_refl _)
    have hplus : t < clamp (t.nanos + shift d) := lt_clamp hn (by omega)
    have hend : t < clamp latestNanos := lt_clamp (Int.le_refl _) (by omega)
    rw [hlatest] at hend
    exact iff_of_false (Int.not_le.2 hplus) (Int.not_le.2 hend)
  · rw [clamp_eq_latest hn]

theorem clamp_le {n : Int} (h : n ≤ t.nanos) : clamp n ≤ t := by
  have hearliest := t.earliest_le
  have hnanos : (clamp n).nanos ≤ t.nanos := by
    rw [clamp_nanos]
    omega
  have hposition := position_bounds_nanos t
  show (clamp n).rank ≤ t.rank
  rw [clamp_rank]
  unfold rank second nanosPerSecond at *
  omega

/-- A longer delay does not lead to an earlier instant. Only instants in the leap second behind the
last instant are moved back to that one. -/
theorem plus_le_plus (h : c.seconds ≤ d.seconds) (ht : t ≤ latest) : t.plus c ≤ t.plus d := by
  have hshift := shift_le_shift h
  rcases Nat.eq_zero_or_pos (shift d) with hd | hd
  · rw [plus_of_shift_eq_zero hd, plus_of_shift_eq_zero (by omega)]
    exact le_refl t
  rcases Nat.eq_zero_or_pos (shift c) with hc | hc
  · rw [plus_of_shift_eq_zero hc, plus_eq_clamp hd]
    have hsecond := shift_eq_zero_or d
    exact le_clamp ht (by omega)
  · rw [plus_eq_clamp hc, plus_eq_clamp hd]
    exact clamp_le_clamp (by omega)

/-- A longer delay does not lead back to a later instant. -/
theorem minus_le_minus (h : c.seconds ≤ d.seconds) (t : Instant) : t.minus d ≤ t.minus c := by
  have hshift := shift_le_shift h
  unfold minus
  split
  · rw [if_pos (by omega)]
    exact le_refl t
  · next hd =>
    split
    · have hposition := position_bounds_nanos t
      have hsecond := shift_eq_zero_or d
      exact clamp_le (by omega)
    · exact clamp_le_clamp (by omega)

/-! ## There and back -/

/-- An instant that is moved on and back is where it was, unless it was stopped at the last
instant. -/
theorem nanos_minus_plus (h : t.nanos + shift d ≤ latestNanos) :
    ((t.plus d).minus d).nanos = t.nanos := by
  rcases Nat.eq_zero_or_pos (shift d) with hzero | hd
  · rw [plus_of_shift_eq_zero hzero, minus, if_pos hzero]
  · have hearliest := t.earliest_le
    have hlatest := t.le_latest
    rw [minus, if_neg (Nat.ne_of_gt hd), clamp_nanos, plus_position hd]
    omega

/-- The longest shift is shorter than the range by far. -/
theorem shift_le (d : Delay) : shift d ≤ Delay.maxSeconds * nanosPerSecond :=
  Nat.mul_le_mul_right _ (Nat.min_le_right _ _)

theorem minus_plus_iff (ht : t.leap = false) :
    (t.plus d).minus d = t ↔ t.nanos + shift d ≤ latestNanos := by
  have hplus := plus_leap_of_not_leap ht d
  refine ⟨fun h => Int.not_lt.1 fun hpast => ?_, fun h => ?_⟩
  · have hposition := congrArg position h
    have hrange : earliestNanos ≤ latestNanos - (Delay.maxSeconds * nanosPerSecond : Nat) := by
      decide
    have hshift := shift_le d
    rw [minus_position, position_of_not_leap hplus, position_of_not_leap ht, plus_of_not_leap ht,
      clamp_nanos] at hposition
    omega
  · exact Instant.ext (nanos_minus_plus h) ((minus_leap_of_not_leap hplus d).trans ht.symm)

/-! ## Agreement -/

/-- The most milliseconds that the time between two instants is counted in. -/
def maxMillis : Nat := 0x7FFFFFFFFFFFFFFF

theorem since_natAbs_le (t e : Instant) : (t.since e).natAbs ≤ maxMillis * 1000000 := by
  have hsince := since_bounds t e
  have ht := position_bounds_nanos t
  have he := position_bounds_nanos e
  have hbounds := And.intro t.earliest_le t.le_latest
  have hbounds' := And.intro e.earliest_le e.le_latest
  unfold earliestNanos latestNanos nanosPerSecond at *
  unfold maxMillis
  omega

/-- The ways to compare the time from `e` to `t` with a delay agree, and moving by a delay keeps
what is in order. -/
structure Agrees (t e : Instant) (d : Delay) : Prop where
  later : t.leap = false ∧ e.leap = false ∨ Apart (e.plus d) t →
    (t.isLaterThan e d = true ↔ e.plus d < t)
  within : t.leap = false ∧ e.leap = false ∧ e ≠ earliest ∨ Apart (t.minus d) e →
    (t.isWithin e d = true ↔ t.minus d < e)
  not_both : ¬ (t.isLaterThan e d = true ∧ t.isWithin e d = true)
  neither : t.isLaterThan e d = false ∧ t.isWithin e d = false ↔ t.since e = shift d
  neither_nanos : t.leap = false → e.leap = false →
    (t.isLaterThan e d = false ∧ t.isWithin e d = false ↔ t.nanos = e.nanos + shift d)
  plus_le : ∀ u, StandsBefore [] t u → t.plus d ≤ u.plus d
  minus_le : ∀ u, StandsBefore [] t u → t.minus d ≤ u.minus d
  plus_le_plus : ∀ c : Delay, c.seconds ≤ d.seconds → t ≤ latest → t.plus c ≤ t.plus d
  minus_le_minus : ∀ c : Delay, c.seconds ≤ d.seconds → t.minus d ≤ t.minus c
  restored : t.leap = false → ((t.plus d).minus d = t ↔ t.nanos + shift d ≤ latestNanos)
  restored_nanos : t.nanos + shift d ≤ latestNanos → ((t.plus d).minus d).nanos = t.nanos
  /-- Neither the delay nor the time between the two is too much to be counted. -/
  counted : d.clampedSeconds * 1000 ≤ maxMillis ∧ (t.since e).natAbs ≤ maxMillis * 1000000

/-- Comparing exactly and moving by the delay come to the same at both ends of the range, for
delays of any length. -/
theorem ages_agree (t e : Instant) (d : Delay) : Agrees t e d where
  later h := by
    rcases h with ⟨ht, he⟩ | hapart
    · exact isLaterThan_iff_plus_lt ht he
    · exact isLaterThan_iff_of_apart hapart
  within h := by
    rcases h with ⟨ht, he, hne⟩ | hapart
    · exact isWithin_iff_minus_lt ht he hne
    · exact isWithin_iff_of_apart hapart
  not_both := by
    rintro ⟨hlater, hwithin⟩
    rw [isLaterThan, decide_eq_true_iff] at hlater
    rw [isWithin, decide_eq_true_iff] at hwithin
    omega
  neither := neither_iff
  neither_nanos ht he := by
    rw [neither_iff, since_of_not_leap ht he]
    omega
  plus_le u h := h.plus_le d
  minus_le u h := h.minus_le d
  plus_le_plus c h ht := plus_le_plus h ht
  minus_le_minus c h := minus_le_minus h t
  restored := minus_plus_iff
  restored_nanos := nanos_minus_plus
  counted := by
    refine ⟨?_, since_natAbs_le t e⟩
    have hclamped : d.clampedSeconds ≤ Delay.maxSeconds := Nat.min_le_right _ _
    unfold Delay.maxSeconds at hclamped
    unfold maxMillis
    omega

/-- 2016-12-31T23:59:60.5Z, in a leap second. -/
def yearEnd : Instant where
  nanos := 1483228799500000000
  leap := true
  earliest_le := by decide
  le_latest := by decide
  leap_ends_minute := by decide

/-- 2017-01-01T00:00:00.2Z, behind that leap second. -/
def newYear : Instant := .clamp 1483228800200000000

/-- Across midnight a leap second is not counted: an instant behind it is taken for one that comes
before. -/
theorem leap_second_disagrees :
    yearEnd ≠ earliest ∧ yearEnd.plus .zero < newYear ∧ newYear.isLaterThan yearEnd .zero = false ∧
      ¬ newYear.minus .zero < yearEnd ∧ newYear.isWithin yearEnd .zero = true := by
  decide

end Upkeep.Instant
