import Upkeep.Time.Instant
import Mathlib.Data.List.Induction
/-!
# Instants in order

Time passes alike wherever it is measured from: of two instants in order, the later one lies at
least as far behind any third. That is so outside leap seconds, and with leap seconds where the two
are a second apart at least (`StandsBefore.since_le`). Moving both back by a delay keeps their order
(`StandsBefore.minus_le`), also where it ends at the first instant.
-/

namespace Upkeep.Instant

variable {t u e : Instant}

/-- `t` comes before `u`. Neither of them nor any of the others lies in a leap second, or a second
at least lies between `t` and `u`. -/
def StandsBefore (others : List Instant) (t u : Instant) : Prop :=
  t ≤ u ∧ ((∀ e ∈ t :: u :: others, e.leap = false) ∨ t.position + nanosPerSecond ≤ u.position)

instance (others : List Instant) (t u : Instant) : Decidable (StandsBefore others t u) :=
  inferInstanceAs (Decidable (_ ∧ _))

theorem le_iff_of_not_leap (ht : t.leap = false) (hu : u.leap = false) :
    t ≤ u ↔ t.nanos ≤ u.nanos := by
  show t.rank ≤ u.rank ↔ _
  simp only [rank, position, second, ht, hu, nanosPerSecond]
  omega

theorem position_le_of_not_leap (ht : t.leap = false) (hu : u.leap = false) (h : t ≤ u) :
    t.position ≤ u.position := by
  have hnanos := (le_iff_of_not_leap ht hu).1 h
  simp only [position, ht, hu]
  omega

/-! ## The time between instants -/

theorem leapCountsBefore_iff :
    leapCountsBefore t u = true ↔ t.leap = true ∧ t.secondOfDay < u.secondOfDay := by
  simp [leapCountsBefore]

theorem not_leapCountsBefore_of (h : leapCountsBefore t u = true) :
    leapCountsBefore u t = false := by
  rw [← Bool.not_eq_true, leapCountsBefore_iff]
  rw [leapCountsBefore_iff] at h
  omega

/-- The time from one instant to another is the time back with the sign changed. -/
theorem since_swap (t e : Instant) : e.since t = -t.since e := by
  unfold since
  cases h : leapCountsBefore e t with
  | true =>
    rw [not_leapCountsBefore_of h]
    simp only [if_true, Bool.false_eq_true, if_false]
    omega
  | false =>
    simp only [Bool.false_eq_true, if_false]
    split <;> omega

theorem since_bounds (t e : Instant) :
    t.position - e.position - nanosPerSecond ≤ t.since e ∧
      t.since e ≤ t.position - e.position + nanosPerSecond := by
  unfold since
  split
  · omega
  · split <;> omega

theorem since_le_of_not_leapCountsBefore (h : leapCountsBefore e t = false) :
    t.since e ≤ t.position - e.position := by
  unfold since
  rw [h, if_neg Bool.false_ne_true]
  split <;> omega

theorem le_since_of_not_leapCountsBefore (h : leapCountsBefore t e = false) :
    t.position - e.position ≤ t.since e := by
  unfold since
  rw [h, if_neg Bool.false_ne_true]
  split <;> omega

theorem position_bounds (t : Instant) :
    t.second * nanosPerSecond ≤ t.position ∧
      t.position < t.second * nanosPerSecond + 2 * nanosPerSecond := by
  unfold position second nanosPerSecond
  split <;> omega

theorem since_le_of_apart (h : t.position + nanosPerSecond ≤ u.position) :
    t.since e ≤ u.since e := by
  cases he : leapCountsBefore e t with
  | false =>
    have ht := since_le_of_not_leapCountsBefore he
    have hu := (since_bounds u e).1
    omega
  | true =>
    cases hu : leapCountsBefore u e with
    | false =>
      have ht := (since_bounds t e).2
      have hu := le_since_of_not_leapCountsBefore hu
      omega
    | true =>
      -- As a leap second ends a minute, `u` lies a minute behind the beginning of a later day.
      obtain ⟨-, het⟩ := leapCountsBefore_iff.1 he
      obtain ⟨hleap, hue⟩ := leapCountsBefore_iff.1 hu
      have hminute : u.second % 60 = 59 := u.leap_ends_minute hleap
      have ht := position_bounds t
      have hu := position_bounds u
      have hte := (since_bounds t e).2
      have hue' := (since_bounds u e).1
      unfold secondOfDay at het hue
      unfold nanosPerSecond at *
      omega

/-! ## In order -/

namespace StandsBefore

variable {others : List Instant}

/-- More time lies between an instant and the later one of two. -/
theorem since_le (h : StandsBefore others t u) (he : e ∈ others) : t.since e ≤ u.since e := by
  obtain ⟨hle, hleap | hapart⟩ := h
  · have ht : t.leap = false := hleap t (by simp)
    have hu : u.leap = false := hleap u (by simp)
    have he : e.leap = false := hleap e (by simp [he])
    rw [since_of_not_leap ht he, since_of_not_leap hu he]
    have hnanos := (le_iff_of_not_leap ht hu).1 hle
    omega
  · exact since_le_of_apart hapart

/-- Less time lies between the later one of two instants and another. -/
theorem since_le_since (h : StandsBefore others t u) (he : e ∈ others) :
    e.since u ≤ e.since t := by
  rw [since_swap u e, since_swap t e]
  exact Int.neg_le_neg (h.since_le he)

theorem position_le (h : StandsBefore others t u) : t.position ≤ u.position := by
  obtain ⟨hle, hleap | hapart⟩ := h
  · exact position_le_of_not_leap (hleap t (by simp)) (hleap u (by simp)) hle
  · omega

end StandsBefore

theorem clamp_leap (n : Int) : (clamp n).leap = false := by
  unfold clamp
  split
  · rfl
  split <;> rfl

theorem clamp_nanos (n : Int) : (clamp n).nanos = max earliestNanos (min n latestNanos) := by
  have hrange : earliestNanos ≤ latestNanos := by decide
  unfold clamp
  split
  · show earliestNanos = _
    omega
  split
  · show latestNanos = _
    omega
  · show n = _
    omega

theorem clamp_le_clamp {m n : Int} (h : m ≤ n) : clamp m ≤ clamp n := by
  rw [le_iff_of_not_leap (clamp_leap m) (clamp_leap n), clamp_nanos, clamp_nanos]
  omega

/-- Moving back keeps instants in order, also where it ends at the first instant. -/
theorem StandsBefore.minus_le {others : List Instant} (h : StandsBefore others t u) (d : Delay) :
    t.minus d ≤ u.minus d := by
  unfold minus
  split
  · exact h.1
  · have hposition := h.position_le
    exact clamp_le_clamp (by omega)

/-! ## The newest of several instants -/

theorem le_refl (t : Instant) : t ≤ t := Int.le_refl t.rank

theorem le_trans {v : Instant} (h : t ≤ u) (h' : u ≤ v) : t ≤ v := Int.le_trans h h'

theorem le_of_lt (h : t < u) : t ≤ u := Int.le_of_lt h

theorem le_of_not_lt (h : ¬ t < u) : u ≤ t := Int.not_lt.1 h

/-- Instants of the same rank are the same. -/
theorem le_antisymm (h : t ≤ u) (h' : u ≤ t) : t = u := by
  have hrank : t.rank = u.rank := Int.le_antisymm h h'
  unfold rank position second nanosPerSecond at hrank
  have hleap : t.leap = u.leap := by
    cases ht : t.leap <;> cases hu : u.leap <;>
      simp only [ht, hu, if_true, Bool.false_eq_true, if_false] at hrank <;> first | rfl | omega
  rw [hleap] at hrank
  exact Instant.ext (by omega) hleap

/-- The newest of the instants with a property. There is none if no instant has it. -/
def IsNewest (P : Instant → Prop) : Option Instant → Prop
  | none => ∀ t, ¬ P t
  | some t => P t ∧ ∀ u, P u → u ≤ t

namespace IsNewest

variable {P Q : Instant → Prop} {a b : Option Instant}

theorem unique (ha : IsNewest P a) (hb : IsNewest P b) : a = b := by
  cases a with
  | none =>
    cases b with
    | none => rfl
    | some u => exact absurd hb.1 (ha u)
  | some t =>
    cases b with
    | none => exact absurd ha.1 (hb t)
    | some u => rw [le_antisymm (hb.2 t ha.1) (ha.2 u hb.1)]

theorem congr (h : ∀ t, P t ↔ Q t) (ha : IsNewest P a) : IsNewest Q a := by
  have hsame : P = Q := funext fun t => propext (h t)
  rwa [← hsame]

theorem single (t : Instant) : IsNewest (· = t) (some t) :=
  ⟨rfl, fun u hu => hu ▸ le_refl u⟩

/-- The later of the newest instants is the newest of all. -/
theorem later? (ha : IsNewest P a) (hb : IsNewest Q b) :
    IsNewest (fun t => P t ∨ Q t) (later? a b) := by
  cases a with
  | none => exact hb.congr fun t => (or_iff_right (ha t)).symm
  | some t =>
    cases b with
    | none => exact ha.congr fun u => (or_iff_left (hb u)).symm
    | some u =>
      show IsNewest _ (some (later t u))
      unfold later
      split
      · next h =>
        refine ⟨.inr hb.1, fun v hv => hv.elim (fun hv => ?_) (hb.2 v)⟩
        exact le_trans (ha.2 v hv) (le_of_lt h)
      · next h =>
        refine ⟨.inl ha.1, fun v hv => hv.elim (ha.2 v) fun hv => ?_⟩
        exact le_trans (hb.2 v hv) (le_of_not_lt h)

/-- What is the newest of more instants is not older. -/
theorem le_of_imp (ha : IsNewest P (some t)) (hb : IsNewest Q b) (h : ∀ u, P u → Q u) :
    ∃ u, b = some u ∧ t ≤ u := by
  cases b with
  | none => exact absurd (h t ha.1) (hb t)
  | some u => exact ⟨u, rfl, hb.2 t (h t ha.1)⟩

end IsNewest

theorem isNewest_newest? (ts : List Instant) : IsNewest (· ∈ ts) (newest? ts) := by
  induction ts using List.reverseRecOn with
  | nil => exact fun t => List.not_mem_nil
  | append_singleton ts t ih =>
    rw [newest?, List.foldl_append]
    refine (ih.later? (.single t)).congr fun u => ?_
    rw [List.mem_append, List.mem_singleton]

end Upkeep.Instant
