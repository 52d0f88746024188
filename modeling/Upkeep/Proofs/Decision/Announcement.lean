import Upkeep.Proofs.Decision.Ageing
import Upkeep.Proofs.Decision.Closing
import Upkeep.Proofs.Time.Deadline
/-!
# The announced close date

The comment on a stale item says when the item is going to be closed. The date in it is that of the
deadline, which is found by adding the close delay to the last comment of a member, while closing is
decided by the time since that comment. Both mean the same (`stale_keepsAnnouncement`): until the
deadline the item stays stale with the same comment, and behind it the item is closed. No check that
comes before can step in, since all of them are passed for good (`Exposed.later`).

A leap second is counted by the time since a comment only. Around one, the two can be up to two
seconds apart (`leap_second_postpones`).
-/

namespace Upkeep

/-- The reason for a decision is the age of the item. -/
def Disposition.isByAge : Disposition → Bool
  | .closing => true
  | .stale => true
  | .active => true
  | _ => false

namespace Decision

variable {i : Issue} {p : PolicyRecord} {s : Signals} {now now' : Instant}

/-- Only the age of the item is left to decide. -/
structure Exposed (i : Issue) (p : PolicyRecord) (s : Signals) (now : Instant) : Prop where
  settled : now.isWithin i.createdAt p.triageDelay = false
  notIgnored : i.labels.find? p.isIgnoreLabel = none
  opened : i.state = .opened
  triaged : awaitsTriage i p s now = false
  notStaleproof : i.hasLabel p.staleproofLabel = false

/-- The stale delay for the kind of an item. -/
def staleDelay (i : Issue) (p : PolicyRecord) : Delay := (p.stalenessDelays (kindOf i p)).stale

/-- The close delay after the last comment of a member, or after the creation. -/
def deadline (i : Issue) (p : PolicyRecord) (s : Signals) : Instant :=
  (reference i s).plus (i.closeDelay p)

/-- What is done about the comment on a stale item. -/
def announcement (i : Issue) (p : PolicyRecord) (s : Signals) : Action :=
  Template.commentAction .staleness
    (Template.render p.staleComment (reference i s) (some (deadline i p s)))

/-- The part of a decision that is about the comment on the item. -/
def comments (d : Decision) : List Action := d.actions.filter Action.isComment

/-! ## Decisions by age -/

open Instant in
/-- The checks before the age are passed for good. -/
theorem Exposed.later (h : Exposed i p s now)
    (hbefore : StandsBefore (i.createdAt :: s.memberComment.toList) now now') :
    Exposed i p s now' := by
  have hages := agesWith_later (p := p) hbefore
  refine ⟨?_, h.notIgnored, h.opened, ?_, h.notStaleproof⟩
  · rw [← Bool.not_eq_true]
    intro hnew
    have hsettled := h.settled
    rw [hages.newness hnew] at hsettled
    cases hsettled
  · rw [← Bool.not_eq_true]
    intro hwaits
    have htriaged := h.triaged
    rw [hages.triage hwaits] at htriaged
    cases htriaged

/-- The age of an item that is left to decide is compared with the close delay first. -/
theorem Exposed.disposition_eq (h : Exposed i p s now) :
    (evaluate i p s now).disposition =
      if now.isLaterThan (reference i s) (i.closeDelay p) then .closing
      else if now.isLaterThan (reference i s) (staleDelay i p) then .stale
      else .active := by
  have hclose := closeDelay_eq i p
  have hstale : (p.stalenessDelays (stalenessKind i (.carried p i))).stale = staleDelay i p := rfl
  have hsp : (LabelScan.carried p i).staleproof = i.hasLabel p.staleproofLabel := rfl
  rw [evaluate_of_passed h.settled h.notIgnored h.opened h.triaged]
  simp only [openItem, ageing, hclose, hstale, hsp, h.notStaleproof, Bool.false_eq_true, if_false]
  split
  · rfl
  split <;> rfl

/-- The age of an item is the reason for a decision if nothing else was left to decide. -/
theorem exposed_iff : (evaluate i p s now).disposition.isByAge = true ↔ Exposed i p s now := by
  constructor
  · intro h
    rw [evaluate_eq] at h
    -- Every other way through the checks ends with another reason.
    split at h
    · cases h
    next hnew =>
    split at h
    · cases h
    next hign =>
    split at h
    · cases h
    next hst =>
    split at h
    · cases h
    next haw =>
    have hopened : i.state = .opened := by
      cases hs : i.state with
      | opened => rfl
      | closed => exact absurd hs hst
    have hproof : ¬ i.hasLabel p.staleproofLabel = true := by
      intro hproof
      have hsp : (LabelScan.carried p i).staleproof = true := hproof
      simp only [openItem, ageing, hsp, if_true] at h
      cases h
    exact ⟨by simpa using hnew, hign, hopened, by simpa using haw, by simpa using hproof⟩
  · intro h
    rw [h.disposition_eq]
    split
    · rfl
    split <;> rfl

/-- An item is stale if only its age is left to decide, and lies between the two delays. -/
theorem stale_iff : (evaluate i p s now).disposition = .stale ↔ Exposed i p s now ∧
    now.isLaterThan (reference i s) (i.closeDelay p) = false ∧
    now.isLaterThan (reference i s) (staleDelay i p) = true := by
  constructor
  · intro h
    have hexposed : Exposed i p s now := exposed_iff.1 (by rw [h]; rfl)
    rw [hexposed.disposition_eq] at h
    split at h
    · cases h
    next hdue =>
    split at h
    · next hold => exact ⟨hexposed, by simpa using hdue, hold⟩
    · cases h
  · rintro ⟨h, hdue, hold⟩
    simp [h.disposition_eq, hdue, hold]

theorem Exposed.closing (h : Exposed i p s now)
    (hdue : now.isLaterThan (reference i s) (i.closeDelay p) = true) :
    (evaluate i p s now).disposition = .closing := by
  rw [h.disposition_eq, if_pos hdue]

/-- Comments are in the decision as they are in the plan. -/
theorem comments_evaluate :
    comments (evaluate i p s now) = (plan i p s now).filter Action.isComment := by
  rw [comments, evaluate_actions, List.filter_filter]
  apply List.filter_congr
  intro a _
  cases hcomment : a.isComment with
  | false => rfl
  | true => rw [Action.isPending_of_label?_eq_none (Action.label?_of_isComment hcomment)]; rfl

/-- A stale item has the comment with the close date, and no other. -/
theorem comments_of_stale (h : (evaluate i p s now).disposition = .stale) :
    comments (evaluate i p s now) = [announcement i p s] := by
  obtain ⟨h, hdue, hold⟩ := stale_iff.1 h
  have hign : i.isIgnored p = false := by
    rw [Issue.isIgnored_eq, h.notIgnored]
    rfl
  have hplan : plan i p s now =
      triagePlan i p s ++ escalationPlan p (isOverdue p s (reference i s) now) ++
        ageingPlan i p (reference i s) now := by
    simp [plan, h.settled, hign, h.opened, h.triaged]
  have hclose : (p.stalenessDelays (kindOf i p)).close = i.closeDelay p := closeDelay_eq i p
  have hage : ageingPlan i p (reference i s) now =
      [announcement i p s, .addLabel p.staleLabel] := by
    have hstale : (p.stalenessDelays (kindOf i p)).stale = staleDelay i p := rfl
    simp only [ageingPlan, h.notStaleproof, hclose, hdue, hstale, hold, Bool.false_eq_true,
      if_false, if_true]
    rfl
  have hcomment : (announcement i p s).isComment = true := Action.isComment_commentAction _ _
  rw [comments_evaluate, hplan, List.filter_append,
    Action.filter_isComment_of_labels fun _ => attention_label?_ne_none, hage, List.nil_append,
    List.filter_cons_of_pos hcomment]
  rfl

/-! ## Up to the deadline and behind it -/

open Instant in
/-- An instant lies behind the deadline, by more than two seconds if it or the comment lies in a
leap second. -/
def IsPast (i : Issue) (p : PolicyRecord) (s : Signals) (t : Instant) : Prop :=
  ((reference i s).leap = false ∧ t.leap = false ∧ deadline i p s < t) ∨
    (deadline i p s).position + 2 * nanosPerSecond < t.position

open Instant in
/-- What is announced of an item that is stale at a moment comes true: until the deadline it stays
stale with the same comment, and behind the deadline it is closed. -/
structure KeepsAnnouncement (i : Issue) (p : PolicyRecord) (s : Signals) (now : Instant) :
    Prop where
  announced : comments (evaluate i p s now) = [announcement i p s]
  kept : ∀ t, StandsBefore (i.createdAt :: s.memberComment.toList) now t →
    t.position ≤ (deadline i p s).position →
      (evaluate i p s t).disposition = .stale ∧
        comments (evaluate i p s t) = [announcement i p s]
  closed : ∀ t, StandsBefore (i.createdAt :: s.memberComment.toList) now t → IsPast i p s t →
    (evaluate i p s t).disposition = .closing
  /-- Outside leap seconds, one or the other holds of every instant from now on. -/
  exact : (∀ e ∈ now :: i.createdAt :: s.memberComment.toList, e.leap = false) →
    now ≤ deadline i p s ∧ ∀ t, t.leap = false →
      (now ≤ t → t ≤ deadline i p s →
        (evaluate i p s t).disposition = .stale ∧
          comments (evaluate i p s t) = [announcement i p s]) ∧
      (deadline i p s < t → (evaluate i p s t).disposition = .closing)

section Stale

variable (h : (evaluate i p s now).disposition = .stale)

include h

/-- The close delay of a stale item is not zero. -/
theorem shift_closeDelay_pos : 0 < Instant.shift (i.closeDelay p) := by
  obtain ⟨-, hdue, hold⟩ := stale_iff.1 h
  unfold Instant.isLaterThan at hdue hold
  rw [decide_eq_false_iff_not] at hdue
  rw [decide_eq_true_iff] at hold
  omega

open Instant in
theorem stale_until_deadline {t : Instant}
    (hbefore : StandsBefore (i.createdAt :: s.memberComment.toList) now t)
    (hle : t.position ≤ (deadline i p s).position) :
    (evaluate i p s t).disposition = .stale ∧
      comments (evaluate i p s t) = [announcement i p s] := by
  obtain ⟨hexposed, -, hold⟩ := stale_iff.1 h
  have hages := agesWith_later (p := p) hbefore
  have hdue := not_isLaterThan_of_position_le (shift_closeDelay_pos h) hle
  have hstale := stale_iff.2 ⟨hexposed.later hbefore, hdue, hages.lateness _ hold⟩
  exact ⟨hstale, comments_of_stale hstale⟩

open Instant in
theorem closing_behind_deadline {t : Instant}
    (hbefore : StandsBefore (i.createdAt :: s.memberComment.toList) now t)
    (hpast : IsPast i p s t) : (evaluate i p s t).disposition = .closing := by
  obtain ⟨hexposed, -, -⟩ := stale_iff.1 h
  have hpos := shift_closeDelay_pos h
  apply (hexposed.later hbefore).closing
  rcases hpast with ⟨hreference, ht, hlt⟩ | hapart
  · exact (isLaterThan_iff_plus_lt ht hreference).2 hlt
  · exact isLaterThan_of_apart hpos hapart

theorem le_deadline (hnow : now.leap = false) (hreference : (reference i s).leap = false) :
    now ≤ deadline i p s := by
  obtain ⟨-, hdue, -⟩ := stale_iff.1 h
  apply Int.not_lt.1
  intro hlt
  rw [(Instant.isLaterThan_iff_plus_lt hnow hreference).2 hlt] at hdue
  cases hdue

end Stale

open Instant in
/-- The announced close date is kept, and the comment with it does not change before. -/
theorem stale_keepsAnnouncement (h : (evaluate i p s now).disposition = .stale) :
    KeepsAnnouncement i p s now := by
  refine ⟨comments_of_stale h, fun _ => stale_until_deadline h,
    fun _ => closing_behind_deadline h, fun hleap => ?_⟩
  have hnow : now.leap = false := hleap now List.mem_cons_self
  have hreference : (reference i s).leap = false :=
    hleap _ (List.mem_cons_of_mem _ (reference_mem i s))
  have hdeadline : (deadline i p s).leap = false := plus_leap (shift_closeDelay_pos h) _
  have hbefore (t : Instant) (ht : t.leap = false) (hfrom : now ≤ t) :
      StandsBefore (i.createdAt :: s.memberComment.toList) now t := by
    refine ⟨hfrom, .inl ?_⟩
    simpa [ht] using hleap
  -- What is behind the deadline is behind `now` too.
  have hle := le_deadline h hnow hreference
  refine ⟨hle, fun t ht => ⟨?_, ?_⟩⟩
  · intro hfrom hto
    exact stale_until_deadline h (hbefore t ht hfrom) (position_le_of_not_leap ht hdeadline hto)
  · intro hlt
    have hfrom : now ≤ t := Int.le_trans hle (Int.le_of_lt hlt)
    exact closing_behind_deadline h (hbefore t ht hfrom) (.inl ⟨hreference, ht, hlt⟩)

/-- The close date is announced. -/
def datedRecord : PolicyRecord := { staleComment := "Closing on \x7bclose_date\x7d." }

/-- A member has commented thirty-one days before the last instant. -/
def lastSignals : Signals := ⟨some (.clamp (Instant.latestNanos - 31 * nanosPerDay)), none, none⟩

/-- At noon of the last day, the end of time is announced. -/
theorem stale_keepsAnnouncement_last :
    deadline firstPullRequest datedRecord lastSignals = .latest ∧
      announcement firstPullRequest datedRecord lastSignals =
        .postComment .staleness "Closing on +262142-12-31." ∧
      KeepsAnnouncement firstPullRequest datedRecord lastSignals
        (.clamp (Instant.latestNanos - 12 * 3600 * nanosPerSecond)) :=
  ⟨by decide, by decide +kernel, stale_keepsAnnouncement (by decide)⟩

/-- Sixty days after the second before the leap second of a comment, that leap second has not passed
by the clock, and a pull request that is past its deadline is stale still. -/
theorem leap_second_postpones :
    let signals : Signals := ⟨some leapComment, none, none⟩
    (evaluate novemberPullRequest {} signals (.clamp 1610713859900000000)).disposition = .stale ∧
      deadline novemberPullRequest {} signals < .clamp 1612009859900000000 ∧
      (evaluate novemberPullRequest {} signals (.clamp 1612009859900000000)).disposition =
        .stale := by
  decide

end Decision

end Upkeep
