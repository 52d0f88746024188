import Upkeep.Proofs.Decision.Plan
import Upkeep.Proofs.Time.Order
/-!
# Ageing goes one way

As time passes, and the longer ago the last comment of a member is, an item only goes on in its
lifecycle (`ageing_monotone`). Everything that a decision asks of the time is a comparison that goes
one way: the item is too new, waits for triage, or is late against some delay (`AgesWith`).

With leap seconds this holds over a second or more. The leap second of a comment counts towards
moments that stand behind it on the clock of their day, and not towards others, so that an item can
get younger within a second (`leap_second_rejuvenates`).
-/

namespace Upkeep

/-- How far an item has come in its lifecycle. -/
def Disposition.rank : Disposition → Nat
  | .tooNew => 0
  | .needsTriage => 1
  | .ignored _ => 2
  | .closed => 2
  | .staleproof => 2
  | .active => 2
  | .stale => 3
  | .closing => 4

/-- The signals with the newest comment of a member at another time. -/
def Signals.commentedAt (s : Signals) (c : Instant) : Signals := { s with memberComment := some c }

namespace Decision

variable {i : Issue} {p : PolicyRecord} {s s' : Signals} {now now' : Instant}

/-- The second decision takes the item for as old as the first does, or older. -/
structure AtLeastAsOld (d e : Decision) : Prop where
  rank : d.disposition.rank ≤ e.disposition.rank
  escalation : d.stats.markedNeedsEscalation ≤ e.stats.markedNeedsEscalation

/-! ## Comparisons -/

/-- What one decision finds the item to be too old for, another one does, and what the first finds
it to be late for, so does the other. -/
structure AgesWith (i : Issue) (p : PolicyRecord) (s : Signals) (now : Instant) (s' : Signals)
    (now' : Instant) : Prop where
  newness : now'.isWithin i.createdAt p.triageDelay = true →
    now.isWithin i.createdAt p.triageDelay = true
  triage : awaitsTriage i p s' now' = true → awaitsTriage i p s now = true
  lateness : ∀ d, now.isLaterThan (reference i s) d = true →
    now'.isLaterThan (reference i s') d = true
  priority : s'.isHighPriority = s.isHighPriority

theorem isWithin_mono {t u e : Instant} {d : Delay} (h : t.since e ≤ u.since e)
    (hu : u.isWithin e d = true) : t.isWithin e d = true := by
  unfold Instant.isWithin at *
  rw [decide_eq_true_iff] at *
  omega

theorem isLaterThan_mono {t u e e' : Instant} {d : Delay} (h : t.since e ≤ u.since e')
    (ht : t.isLaterThan e d = true) : u.isLaterThan e' d = true := by
  unfold Instant.isLaterThan at *
  rw [decide_eq_true_iff] at *
  omega

/-- An issue that is past the cutoff for triage stays so. -/
theorem awaitsTriage_mono (h : ∀ d, now.minus d ≤ now'.minus d)
    (haw : awaitsTriage i p s now' = true) : awaitsTriage i p s now = true := by
  unfold awaitsTriage at *
  rw [Bool.and_eq_true] at *
  refine ⟨haw.1, ?_⟩
  cases hd : p.realOldDelay with
  | none => rfl
  | some d =>
    have hcutoff := haw.2
    rw [hd, Option.all_some, decide_eq_true_iff] at *
    exact Int.lt_of_le_of_lt (h d) hcutoff

/-! ## Decisions -/

theorem ageing_escalation (p : PolicyRecord) (labels : LabelScan) (delays : StalenessDelays)
    (e now : Instant) : (ageing p labels delays e now).stats.markedNeedsEscalation = 0 := by
  unfold ageing
  split
  · rfl
  split
  · rfl
  split <;> rfl

theorem openItem_escalation (labels : LabelScan) :
    (openItem i p labels s now).stats.markedNeedsEscalation =
      if isOverdue p s (reference i s) now then 1 else 0 := by
  simp only [openItem, Stats.add, ageing_escalation]
  rfl

theorem two_le_rank_ageing (p : PolicyRecord) (labels : LabelScan) (delays : StalenessDelays)
    (e now : Instant) : 2 ≤ (ageing p labels delays e now).disposition.rank := by
  unfold ageing
  split
  · exact Nat.le_refl 2
  split
  · exact Nat.le_add_right 2 2
  split
  · exact Nat.le_succ 2
  · exact Nat.le_refl 2

/-- Both thresholds are passed for good, whichever of them is the shorter one. -/
theorem rank_ageing_mono {labels : LabelScan} {delays : StalenessDelays} {e e' : Instant}
    (h : ∀ d, now.isLaterThan e d = true → now'.isLaterThan e' d = true) :
    (ageing p labels delays e now).disposition.rank ≤
      (ageing p labels delays e' now').disposition.rank := by
  have hold := two_le_rank_ageing p labels delays e' now'
  by_cases hsp : labels.staleproof = true
  · simp [ageing, hsp]
  by_cases hclose : now.isLaterThan e delays.close = true
  · simp [ageing, hsp, hclose, h _ hclose]
  by_cases hstale : now.isLaterThan e delays.stale = true
  · by_cases hclose' : now'.isLaterThan e' delays.close = true
    · simp [ageing, hsp, hclose, hstale, hclose', Disposition.rank]
    · simp [ageing, hsp, hclose, hstale, hclose', h _ hstale]
  · have hactive : (ageing p labels delays e now).disposition = .active := by
      simp [ageing, hsp, hclose, hstale]
    rw [hactive]
    exact hold

theorem openItem_atLeastAsOld (h : AgesWith i p s now s' now') (labels : LabelScan) :
    AtLeastAsOld (openItem i p labels s now) (openItem i p labels s' now') where
  rank := rank_ageing_mono h.lateness
  escalation := by
    rw [openItem_escalation, openItem_escalation]
    by_cases hdue : isOverdue p s (reference i s) now = true
    · have hdue' : isOverdue p s' (reference i s') now' = true := by
        rw [isOverdue, Bool.and_eq_true] at hdue ⊢
        exact ⟨h.priority ▸ hdue.1, h.lateness _ hdue.2⟩
      simp only [hdue, hdue', if_true, Nat.le_refl]
    · simp only [hdue, Bool.false_eq_true, if_false, Nat.zero_le]

/-- Where all comparisons go on, the whole decision does. -/
theorem AgesWith.atLeastAsOld (h : AgesWith i p s now s' now') :
    AtLeastAsOld (evaluate i p s now) (evaluate i p s' now') := by
  rw [evaluate_eq, evaluate_eq]
  by_cases hnew : now.isWithin i.createdAt p.triageDelay = true
  · rw [if_pos hnew]
    exact ⟨Nat.zero_le _, Nat.zero_le _⟩
  rw [if_neg hnew, if_neg fun hnew' => hnew (h.newness hnew')]
  cases i.labels.find? p.isIgnoreLabel with
  | some l => exact ⟨Nat.le_refl _, Nat.le_refl _⟩
  | none =>
    dsimp only
    split
    · exact ⟨Nat.le_refl _, Nat.le_refl _⟩
    by_cases haw' : awaitsTriage i p s' now' = true
    · rw [if_pos (h.triage haw'), if_pos haw']
      exact ⟨Nat.le_refl _, Nat.le_refl _⟩
    rw [if_neg haw']
    by_cases haw : awaitsTriage i p s now = true
    · rw [if_pos haw]
      exact ⟨Nat.le_trans (Nat.le_succ 1) (two_le_rank_ageing _ _ _ _ _), Nat.zero_le _⟩
    · rw [if_neg haw]
      exact openItem_atLeastAsOld h _

theorem reference_mem (i : Issue) (s : Signals) :
    reference i s ∈ i.createdAt :: s.memberComment.toList := by
  unfold reference
  cases s.memberComment <;> simp

open Instant in
/-- Time that passes makes the item older. -/
theorem agesWith_later
    (h : StandsBefore (i.createdAt :: s.memberComment.toList) now now') :
    AgesWith i p s now s now' where
  newness := isWithin_mono (h.since_le List.mem_cons_self)
  triage := awaitsTriage_mono h.minus_le
  lateness _ := isLaterThan_mono (h.since_le (reference_mem i s))
  priority := rfl

open Instant in
/-- An older comment makes the item older. It makes no difference to the need for triage. -/
theorem agesWith_commentedAt {c c' : Instant} (h : StandsBefore [now] c c') :
    AgesWith i p (s.commentedAt c') now (s.commentedAt c) now where
  newness := id
  triage := id
  lateness _ := isLaterThan_mono (h.since_le_since List.mem_cons_self)
  priority := rfl

open Instant in
/-- As time passes, an item only goes on in its lifecycle, and an escalation stays. The same goes
for the same item at the same time, the older the newest comment of a member is. -/
theorem ageing_monotone (i : Issue) (p : PolicyRecord) (s : Signals) :
    (∀ now later, StandsBefore (i.createdAt :: s.memberComment.toList) now later →
      AtLeastAsOld (evaluate i p s now) (evaluate i p s later)) ∧
    ∀ now older newer, StandsBefore [now] older newer →
      AtLeastAsOld (evaluate i p (s.commentedAt newer) now)
        (evaluate i p (s.commentedAt older) now) :=
  ⟨fun _ _ h => (agesWith_later h).atLeastAsOld,
    fun _ _ _ h => (agesWith_commentedAt h).atLeastAsOld⟩

/-- A pull request from the first instant of all. -/
def firstPullRequest : Issue := ⟨⟨⟨"istio", "istio"⟩, 1⟩, true, .earliest, .opened, [], ""⟩

/-- Items are closed after a day, long before they would be stale. -/
def hastyRecord : PolicyRecord :=
  { pullRequestStaleDelay := .days 73000, pullRequestCloseDelay := .days 1 }

open Instant in
/-- A comment that is dated ten days ahead keeps the pull request active until its day comes. -/
theorem ageing_monotone_ahead :
    let signals : Signals := ⟨some (clamp (10 * nanosPerDay)), none, none⟩
    StandsBefore [earliest, clamp (10 * nanosPerDay)] (clamp 0) latest ∧
      (evaluate firstPullRequest hastyRecord signals (clamp 0)).disposition = .active ∧
      (evaluate firstPullRequest hastyRecord signals latest).disposition = .closing ∧
      AtLeastAsOld (evaluate firstPullRequest hastyRecord signals (clamp 0))
        (evaluate firstPullRequest hastyRecord signals latest) := by
  intro signals
  have hbefore : StandsBefore [earliest, clamp (10 * nanosPerDay)] (clamp 0) latest := by decide
  exact ⟨hbefore, by decide, by decide,
    (ageing_monotone firstPullRequest hastyRecord signals).1 (clamp 0) latest hbefore⟩

/-! ## At a leap second -/

/-- 2020-12-01T12:30:60.5Z, in a leap second. -/
def leapComment : Instant where
  nanos := 1606825859500000000
  leap := true
  earliest_le := by decide
  le_latest := by decide
  leap_ends_minute := by decide

/-- 2020-12-01T12:31:00.2Z, behind that leap second. -/
def nextComment : Instant := .clamp 1606825860200000000

/-- 2020-12-30T23:59:59.9Z. -/
def lateEvening : Instant := .clamp 1609372799900000000

/-- 2020-12-31T00:00:00.3Z. -/
def pastMidnight : Instant := .clamp 1609372800300000000

/-- A pull request of 2020-11-01T00:00:00Z. -/
def novemberPullRequest : Issue :=
  ⟨⟨⟨"istio", "istio"⟩, 2⟩, true, .clamp 1604188800000000000, .opened, [], ""⟩

/-- Pull requests are stale after 29 days, 11 hours and 29 minutes. -/
def preciseRecord : PolicyRecord :=
  { pullRequestStaleDelay := ⟨29 * 86400 + 11 * 3600 + 29 * 60⟩ }

/-- The leap second of the comment counts until late in the evening, and no longer past midnight.
The pull request was stale and is active again, and it would still be stale if the comment were
newer. -/
theorem leap_second_rejuvenates :
    let disposition (comment now : Instant) :=
      (evaluate novemberPullRequest preciseRecord ⟨some comment, none, none⟩ now).disposition
    (lateEvening ≤ pastMidnight ∧
      ¬ (disposition leapComment lateEvening).rank ≤
        (disposition leapComment pastMidnight).rank) ∧
    (leapComment ≤ nextComment ∧
      ¬ (disposition nextComment pastMidnight).rank ≤
        (disposition leapComment pastMidnight).rank) := by
  decide

end Decision

end Upkeep
