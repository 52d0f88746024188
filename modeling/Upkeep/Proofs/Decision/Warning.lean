import Upkeep.Proofs.Decision.Announcement
/-!
# The warning before closing

A policy violates the order of its delays for the kinds of items whose stale delay is not shorter
than their close delay. These are the kinds that lose their warning: their items are never stale
(`not_stale_of_violation`). An item of any other kind that is closed has had a time for the warning
before, as long as the two delays are apart, in which it is stale unless it is too new or waits for
triage (`warned_unless_violated`).

The time is counted from the last comment of a member as `Instant.since` counts it. Outside leap
seconds it lies between two deadlines, behind the first and up to the second; a leap second in the
comment moves it by up to a second (`leap_second_delays_warning`).
-/

namespace Upkeep

theorem StalenessKind.mem_all (k : StalenessKind) : k ∈ StalenessKind.all := by cases k <;> decide

theorem PolicyRecord.mem_orderingViolations {p : PolicyRecord} {k : StalenessKind} :
    k ∈ p.orderingViolations ↔
      (p.stalenessDelays k).close.seconds ≤ (p.stalenessDelays k).stale.seconds := by
  simp [PolicyRecord.orderingViolations, k.mem_all]

namespace Decision

variable {i : Issue} {p : PolicyRecord} {s : Signals} {t now : Instant}

/-- The time between the stale delay and the close delay, up to the end of the latter, in
nanoseconds behind the last comment of a member or the creation. -/
def InWarningTime (i : Issue) (p : PolicyRecord) (s : Signals) (t : Instant) : Prop :=
  ((staleDelay i p).seconds * nanosPerSecond : Nat) < t.since (reference i s) ∧
    t.since (reference i s) ≤ ((i.closeDelay p).seconds * nanosPerSecond : Nat)

/-- Items are stale behind this instant. -/
def staleFrom (i : Issue) (p : PolicyRecord) (s : Signals) : Instant :=
  (reference i s).plus (staleDelay i p)

/-- An item that is closed at a moment has had its warning. -/
structure IsWarned (i : Issue) (p : PolicyRecord) (s : Signals) (closed : Instant) : Prop where
  /-- In the time for the warning it is stale, too new or waits for triage. -/
  warned : ∀ t, InWarningTime i p s t → (evaluate i p s t).disposition = .stale ∨
    (evaluate i p s t).disposition = .tooNew ∨ (evaluate i p s t).disposition = .needsTriage
  /-- If it has been active by then, it is stale. -/
  marked : ∀ before t, (evaluate i p s before).disposition = .active →
    Instant.StandsBefore (i.createdAt :: s.memberComment.toList) before t →
    InWarningTime i p s t → (evaluate i p s t).disposition = .stale
  /-- Outside leap seconds, the time for the warning begins behind one deadline, ends with another
  before the closing, and is as long as the delays are apart. -/
  window : (reference i s).leap = false → closed.leap = false →
    (∀ t, t.leap = false → (InWarningTime i p s t ↔ staleFrom i p s < t ∧ t ≤ deadline i p s)) ∧
      staleFrom i p s < deadline i p s ∧ deadline i p s < closed ∧
      (deadline i p s).nanos - (staleFrom i p s).nanos =
        (((i.closeDelay p).seconds - (staleDelay i p).seconds) * nanosPerSecond : Nat)
  /-- Outside leap seconds, from being active to being closed it is stale for that whole time. -/
  passage : (∀ e ∈ closed :: i.createdAt :: s.memberComment.toList, e.leap = false) →
    ∀ before, before.leap = false → (evaluate i p s before).disposition = .active →
      before ≤ staleFrom i p s ∧ ∀ t, t.leap = false → staleFrom i p s < t → t ≤ deadline i p s →
        (evaluate i p s t).disposition = .stale

/-! ## Kinds without a warning -/

theorem closeDelay_eq_kindOf (i : Issue) (p : PolicyRecord) :
    (p.stalenessDelays (kindOf i p)).close = i.closeDelay p :=
  closeDelay_eq i p

/-- A stale delay that is not the shorter one never passes before the close delay does. -/
theorem not_stale_of_violation (h : kindOf i p ∈ p.orderingViolations) (t : Instant) :
    (evaluate i p s t).disposition ≠ .stale := by
  intro hstale
  obtain ⟨-, hdue, hold⟩ := stale_iff.1 hstale
  have hle : Instant.shift (i.closeDelay p) ≤ Instant.shift (staleDelay i p) := by
    rw [← closeDelay_eq_kindOf]
    exact Instant.shift_le_shift (PolicyRecord.mem_orderingViolations.1 h)
  unfold Instant.isLaterThan at hdue hold
  rw [decide_eq_false_iff_not] at hdue
  rw [decide_eq_true_iff] at hold
  omega

/-! ## Kinds with a warning -/

theorem exposed_of_closing (h : (evaluate i p s now).disposition = .closing) :
    Exposed i p s now ∧ now.isLaterThan (reference i s) (i.closeDelay p) = true := by
  have hexposed : Exposed i p s now := exposed_iff.1 (by rw [h]; rfl)
  refine ⟨hexposed, ?_⟩
  by_contra hnot
  rw [hexposed.disposition_eq, if_neg hnot] at h
  split at h <;> cases h

theorem exposed_of_active (h : (evaluate i p s now).disposition = .active) :
    Exposed i p s now ∧ now.isLaterThan (reference i s) (staleDelay i p) = false := by
  have hexposed : Exposed i p s now := exposed_iff.1 (by rw [h]; rfl)
  refine ⟨hexposed, ?_⟩
  by_contra hold
  rw [Bool.not_eq_false] at hold
  rw [hexposed.disposition_eq, if_pos hold] at h
  split at h <;> cases h

/-- An item that is judged by its age at one time is at any other, unless it is too new or waits for
triage then. -/
theorem Exposed.at (h : Exposed i p s now) (t : Instant) :
    (evaluate i p s t).disposition = .tooNew ∨ (evaluate i p s t).disposition = .needsTriage ∨
      Exposed i p s t := by
  by_cases hnew : t.isWithin i.createdAt p.triageDelay = true
  · left
    rw [evaluate_eq, if_pos hnew]
    rfl
  by_cases hwaits : awaitsTriage i p s t = true
  · right
    left
    simp [evaluate_eq, hnew, h.notIgnored, h.opened, hwaits, triageItem]
  · right
    right
    exact ⟨by simpa using hnew, h.notIgnored, h.opened, by simpa using hwaits, h.notStaleproof⟩

/-- Outside leap seconds, an active item has not come to the first deadline. -/
theorem le_staleFrom_of_active (h : (evaluate i p s now).disposition = .active)
    (hnow : now.leap = false) (hreference : (reference i s).leap = false) :
    now ≤ staleFrom i p s := by
  obtain ⟨-, hyoung⟩ := exposed_of_active h
  rw [← Bool.not_eq_true, Instant.isLaterThan_iff_plus_lt hnow hreference] at hyoung
  exact Int.not_lt.1 hyoung

section Bounded

variable (hbound : (i.closeDelay p).seconds ≤ Delay.maxSeconds)
  (hlt : (staleDelay i p).seconds < (i.closeDelay p).seconds)

include hbound hlt

/-- Both delays count in full. -/
theorem shift_delays :
    Instant.shift (staleDelay i p) = (staleDelay i p).seconds * nanosPerSecond ∧
      Instant.shift (i.closeDelay p) = (i.closeDelay p).seconds * nanosPerSecond :=
  ⟨Instant.shift_eq (Nat.le_trans (Nat.le_of_lt hlt) hbound), Instant.shift_eq hbound⟩

theorem inWarningTime_iff :
    InWarningTime i p s t ↔ t.isLaterThan (reference i s) (staleDelay i p) = true ∧
      t.isLaterThan (reference i s) (i.closeDelay p) = false := by
  obtain ⟨hstale, hclose⟩ := shift_delays hbound hlt
  rw [InWarningTime, Instant.isLaterThan, Instant.isLaterThan, decide_eq_true_iff,
    decide_eq_false_iff_not, hstale, hclose, Int.not_lt]

theorem Exposed.stale (h : Exposed i p s t) (ht : InWarningTime i p s t) :
    (evaluate i p s t).disposition = .stale := by
  obtain ⟨hold, hdue⟩ := (inWarningTime_iff hbound hlt).1 ht
  exact stale_iff.2 ⟨h, hdue, hold⟩

/-- Outside leap seconds, the time for the warning lies between the deadlines. -/
theorem inWarningTime_iff_between (ht : t.leap = false)
    (hreference : (reference i s).leap = false) :
    InWarningTime i p s t ↔ staleFrom i p s < t ∧ t ≤ deadline i p s := by
  rw [inWarningTime_iff hbound hlt, ← Bool.not_eq_true,
    Instant.isLaterThan_iff_plus_lt ht hreference, Instant.isLaterThan_iff_plus_lt ht hreference]
  exact and_congr_right fun _ => Int.not_lt

/-- Behind the closing deadline, both deadlines are as far from the comment as the delays say. -/
theorem window_of_closing (hreference : (reference i s).leap = false) (hnow : now.leap = false)
    (hdue : now.isLaterThan (reference i s) (i.closeDelay p) = true) :
    staleFrom i p s < deadline i p s ∧ deadline i p s < now ∧
      (deadline i p s).nanos - (staleFrom i p s).nanos =
        (((i.closeDelay p).seconds - (staleDelay i p).seconds) * nanosPerSecond : Nat) := by
  obtain ⟨hstale, hclose⟩ := shift_delays hbound hlt
  have hshift := Instant.shift_le_shift (Nat.le_of_lt hlt)
  have hfrom : (staleFrom i p s).nanos = _ :=
    Instant.plus_nanos_of_isLaterThan hnow hreference hdue hshift
  have hto : (deadline i p s).nanos = _ :=
    Instant.plus_nanos_of_isLaterThan hnow hreference hdue (Nat.le_refl _)
  have hapart := Nat.mul_lt_mul_of_pos_right hlt (show 0 < nanosPerSecond by decide)
  refine ⟨?_, (Instant.isLaterThan_iff_plus_lt hnow hreference).1 hdue, ?_⟩
  · have hlt' := Instant.lt_iff_of_not_leap (a := staleFrom i p s) (b := deadline i p s)
      (Instant.plus_leap_of_not_leap hreference _) (Instant.plus_leap_of_not_leap hreference _)
    rw [hlt', hfrom, hto]
    omega
  · rw [hfrom, hto, Nat.sub_mul]
    omega

/-- Once it was active, an item is stale for the whole time for the warning. -/
theorem stale_of_active {before : Instant} (h : (evaluate i p s before).disposition = .active)
    (hbefore : Instant.StandsBefore (i.createdAt :: s.memberComment.toList) before t)
    (ht : InWarningTime i p s t) : (evaluate i p s t).disposition = .stale :=
  ((exposed_of_active h).1.later hbefore).stale hbound hlt ht

/-- An item that is closed has had its warning. -/
theorem isWarned_of_closing (h : (evaluate i p s now).disposition = .closing) :
    IsWarned i p s now := by
  obtain ⟨hexposed, hdue⟩ := exposed_of_closing h
  refine ⟨fun t ht => ?_, fun _ _ => stale_of_active hbound hlt, fun hreference hnow => ?_,
    fun hleap before hb hactive => ?_⟩
  · rcases hexposed.at t with hnew | hwaits | hexposed
    · exact .inr (.inl hnew)
    · exact .inr (.inr hwaits)
    · exact .inl (hexposed.stale hbound hlt ht)
  · exact ⟨fun t ht => inWarningTime_iff_between hbound hlt ht hreference,
      window_of_closing hbound hlt hreference hnow hdue⟩
  · obtain ⟨-, hleap⟩ := List.forall_mem_cons.1 hleap
    have hreference := hleap _ (reference_mem i s)
    have hle := le_staleFrom_of_active hactive hb hreference
    refine ⟨hle, fun t ht hfrom hto => ?_⟩
    -- What lies behind the first deadline comes after all that is not.
    have hbefore : before ≤ t := Int.le_trans hle (Int.le_of_lt hfrom)
    refine stale_of_active hbound hlt hactive ⟨hbefore, .inl ?_⟩
      ((inWarningTime_iff_between hbound hlt ht hreference).2 ⟨hfrom, hto⟩)
    simpa [hb, ht] using hleap

end Bounded

/-- The kinds with delays in the wrong order are those that lose their warning. An item of such a
kind is never stale; an item of any other kind is closed with a warning only. -/
theorem warned_unless_violated (p : PolicyRecord) (k : StalenessKind)
    (hbound : (p.stalenessDelays k).close.seconds ≤ Delay.maxSeconds) :
    (k ∈ p.orderingViolations → ∀ i s now, kindOf i p = k →
      (evaluate i p s now).disposition ≠ .stale) ∧
    (k ∉ p.orderingViolations → ∀ i s now, kindOf i p = k →
      (evaluate i p s now).disposition = .closing → IsWarned i p s now) := by
  constructor
  · rintro h i s now rfl
    exact not_stale_of_violation h now
  · rintro h i s now rfl hclosing
    rw [PolicyRecord.mem_orderingViolations, Nat.not_le, closeDelay_eq_kindOf] at h
    rw [closeDelay_eq_kindOf] at hbound
    exact isWarned_of_closing hbound h hclosing

/-- Feature requests are stale after fifty days, and left alone for the first sixty. -/
def patientRecord : PolicyRecord :=
  { triageDelay := .days 60
    featureRequestStaleDelay := .days 50
    featureRequestCloseDelay := .days 120 }

def featureRequest : Issue :=
  ⟨⟨⟨"istio", "istio"⟩, 3⟩, false, .clamp 0, .opened, ["enhancement"], ""⟩

/-- A member has moved it on the board, and nobody has commented on it. -/
def movedSignals : Signals := ⟨none, some (.clamp (5 * nanosPerDay)), some ⟨"Backlog"⟩⟩

theorem warned_unless_violated_patient :
    (patientRecord.stalenessDelays .featureRequest).close.seconds ≤ Delay.maxSeconds ∧
      .featureRequest ∉ patientRecord.orderingViolations ∧
      (evaluate featureRequest patientRecord movedSignals
        (.clamp (121 * nanosPerDay))).disposition = .closing ∧
      IsWarned featureRequest patientRecord movedSignals (.clamp (121 * nanosPerDay)) := by
  have hbound : (patientRecord.stalenessDelays .featureRequest).close.seconds ≤
      Delay.maxSeconds := by decide
  have hclosing : (evaluate featureRequest patientRecord movedSignals
      (.clamp (121 * nanosPerDay))).disposition = .closing := by decide
  exact ⟨hbound, by decide, hclosing,
    (warned_unless_violated patientRecord .featureRequest hbound).2 (by decide) _ _ _ rfl hclosing⟩

/-- Thirty days after the second before the leap second of a comment, that leap second has not
passed by the clock. Behind the first deadline and long before the second one, the pull request is
active still. -/
theorem leap_second_delays_warning :
    let signals : Signals := ⟨some leapComment, none, none⟩
    let t : Instant := .clamp 1609417859900000000
    let later : Instant := .clamp 1614601859900000000
    kindOf novemberPullRequest {} = .pullRequest ∧
      .pullRequest ∉ ({} : PolicyRecord).orderingViolations ∧
      (evaluate novemberPullRequest {} signals later).disposition = .closing ∧
      staleFrom novemberPullRequest {} signals < t ∧ t ≤ deadline novemberPullRequest {} signals ∧
      (evaluate novemberPullRequest {} signals t).disposition = .active := by
  decide

end Decision

end Upkeep
