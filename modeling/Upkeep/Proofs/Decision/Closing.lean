import Upkeep.Proofs.Decision.Plan
/-!
# When an item is closed

`DueForClosing` says what has to hold for an item to be closed, with the conditions side by side
and without the scan of its labels. An item is closed exactly when it is due.
-/

namespace Upkeep

/-- The nanoseconds of a delay, of which at most one hundred years count. -/
def Delay.boundedNanos (d : Delay) : Nat := min d.seconds (100 * 365 * 24 * 60 * 60) * 1000000000

/-- How long an item of its kind may go without a member's comment before it is closed. A pull
request is one whatever its labels. -/
def Issue.closeDelay (i : Issue) (p : PolicyRecord) : Delay :=
  if i.isPullRequest then p.pullRequestCloseDelay
  else if p.featureRequestLabel ≠ "" ∧ p.featureRequestLabel ∈ i.labels then
    p.featureRequestCloseDelay
  else p.issueCloseDelay

/-- What has to hold for an item to be closed. The time between two instants is in nanoseconds
(`Instant.since`, the plain difference outside leap seconds). -/
structure DueForClosing (i : Issue) (p : PolicyRecord) (s : Signals) (now : Instant) : Prop where
  settled : ¬ now.since i.createdAt < p.triageDelay.boundedNanos
  notIgnored : ∀ l ∈ i.labels, l ∉ p.ignoreLabels
  opened : i.state = .opened
  /-- The item does not wait for triage, or is too old to be sent there. -/
  triaged : i.isPullRequest = true ∨ s.needsTriage = false ∨
    ∃ d, p.realOldDelay = some d ∧ ¬ now.minus d < i.createdAt
  notStaleproof : ∀ l ∈ i.labels, l = p.staleproofLabel → l = ""
  /-- The last comment of a member, or the creation, lies further back than the close delay. -/
  inactive : (i.closeDelay p).boundedNanos < now.since (s.memberComment.getD i.createdAt)

namespace Decision

variable {i : Issue} {p : PolicyRecord} {s : Signals} {now : Instant}

theorem closeDelay_eq (i : Issue) (p : PolicyRecord) :
    (p.stalenessDelays (stalenessKind i (.carried p i))).close = i.closeDelay p := by
  have hf : (LabelScan.carried p i).featureRequest = i.hasLabel p.featureRequestLabel := rfl
  simp only [stalenessKind, Issue.closeDelay, hf, Issue.hasLabel_iff]
  split
  · rfl
  split <;> rfl

theorem isWithin_eq_false_iff {t e : Instant} {d : Delay} :
    t.isWithin e d = false ↔ ¬ t.since e < d.boundedNanos :=
  decide_eq_false_iff_not

theorem isLaterThan_iff {t e : Instant} {d : Delay} :
    t.isLaterThan e d = true ↔ d.boundedNanos < t.since e :=
  decide_eq_true_iff

theorem find?_isIgnoreLabel_eq_none_iff :
    i.labels.find? p.isIgnoreLabel = none ↔ ∀ l ∈ i.labels, l ∉ p.ignoreLabels := by
  simp [List.find?_eq_none, PolicyRecord.isIgnoreLabel]

theorem awaitsTriage_eq_false_iff :
    awaitsTriage i p s now = false ↔ i.isPullRequest = true ∨ s.needsTriage = false ∨
      ∃ d, p.realOldDelay = some d ∧ ¬ now.minus d < i.createdAt := by
  unfold awaitsTriage
  cases p.realOldDelay <;> cases i.isPullRequest <;> cases s.needsTriage <;> simp

theorem hasLabel_staleproof_eq_false_iff :
    i.hasLabel p.staleproofLabel = false ↔ ∀ l ∈ i.labels, l = p.staleproofLabel → l = "" := by
  rw [← Bool.not_eq_true, Issue.hasLabel_iff]
  constructor
  · rintro h l hl rfl
    by_contra hne
    exact h ⟨hne, hl⟩
  · rintro h ⟨hne, hl⟩
    exact hne (h _ hl rfl)

/-- The decision of an item that has passed the checks before escalation. -/
theorem evaluate_of_passed (hnew : now.isWithin i.createdAt p.triageDelay = false)
    (hign : i.labels.find? p.isIgnoreLabel = none) (hst : i.state = .opened)
    (haw : awaitsTriage i p s now = false) :
    evaluate i p s now = openItem i p (.carried p i) s now := by
  simp [evaluate_eq, hnew, hign, hst, haw]

/-- The decision closes the item. -/
structure Closes (d : Decision) : Prop where
  once : d.actions.count .close = 1
  counted : d.stats.closed = 1
  reason : d.disposition = .closing

/-- The decision leaves the item open, or closed if it was. -/
structure KeepsOpen (d : Decision) : Prop where
  never : .close ∉ d.actions
  uncounted : d.stats.closed = 0
  reason : d.disposition ≠ .closing

theorem close_notMem_addUnless (present : Bool) (l : String) : .close ∉ addUnless present l := by
  unfold addUnless
  split <;> simp

theorem close_notMem_removeIf (present : Bool) (l : String) : .close ∉ removeIf present l := by
  unfold removeIf
  split <;> simp

theorem close_notMem_triageActions (labels : LabelScan) : .close ∉ triageActions i p labels s := by
  unfold triageActions
  split
  · exact close_notMem_removeIf _ _
  · exact List.not_mem_nil

theorem close_notMem_escalationActions (labels : LabelScan) (overdue : Bool) :
    .close ∉ escalationActions p labels overdue := by
  unfold escalationActions
  split
  · exact close_notMem_addUnless _ _
  · exact close_notMem_removeIf _ _

theorem close_notMem_notStale (labels : LabelScan) : .close ∉ notStale p labels := by
  simp [notStale, close_notMem_removeIf]

/-- Closing is up to the ageing part of the decision on an open item. -/
theorem openItem_closes {labels : LabelScan}
    (h : Closes (ageing p labels (p.stalenessDelays (stalenessKind i labels)) (reference i s)
      now)) :
    Closes (openItem i p labels s now) where
  once := by
    simp only [openItem, List.count_append, h.once,
      List.count_eq_zero.2 (close_notMem_triageActions labels),
      List.count_eq_zero.2 (close_notMem_escalationActions labels _)]
  counted := by simp [openItem, Stats.add, h.counted]
  reason := h.reason

theorem openItem_keepsOpen {labels : LabelScan}
    (h : KeepsOpen (ageing p labels (p.stalenessDelays (stalenessKind i labels)) (reference i s)
      now)) : KeepsOpen (openItem i p labels s now) where
  never := by
    simp [openItem, h.never, close_notMem_triageActions, close_notMem_escalationActions]
  uncounted := by simp [openItem, Stats.add, h.uncounted]
  reason := h.reason

theorem ageing_closes {labels : LabelScan} {delays : StalenessDelays} {e : Instant}
    (hsp : labels.staleproof = false) (h : now.isLaterThan e delays.close = true) :
    Closes (ageing p labels delays e now) := by
  have hc := Action.commentAction_ne_close .closing (Template.render p.closeComment e none)
  have hl := List.count_eq_zero.2 (close_notMem_addUnless labels.close p.closeLabel)
  simp only [ageing, hsp, h, if_true, Bool.false_eq_true, if_false]
  exact ⟨by rw [List.count_cons_self, List.count_cons_of_ne hc, hl], rfl, rfl⟩

theorem ageing_keepsOpen {labels : LabelScan} {delays : StalenessDelays} {e : Instant}
    (h : labels.staleproof = true ∨ now.isLaterThan e delays.close = false) :
    KeepsOpen (ageing p labels delays e now) := by
  unfold ageing
  split
  · exact ⟨close_notMem_notStale _, rfl, nofun⟩
  · next hsp =>
    rw [h.resolve_left hsp]
    simp only [Bool.false_eq_true, if_false]
    split
    · refine ⟨fun hm => ?_, rfl, nofun⟩
      rcases List.mem_cons.1 hm with hm | hm
      · exact Action.commentAction_ne_close _ _ hm.symm
      · exact close_notMem_addUnless _ _ hm
    · exact ⟨close_notMem_notStale _, rfl, nofun⟩

theorem evaluate_of_due (h : DueForClosing i p s now) : Closes (evaluate i p s now) := by
  rw [evaluate_of_passed (isWithin_eq_false_iff.2 h.settled)
    (find?_isIgnoreLabel_eq_none_iff.2 h.notIgnored) h.opened
    (awaitsTriage_eq_false_iff.2 h.triaged)]
  refine openItem_closes (ageing_closes (hasLabel_staleproof_eq_false_iff.2 h.notStaleproof) ?_)
  rw [closeDelay_eq]
  exact isLaterThan_iff.2 h.inactive

theorem evaluate_of_not_due (h : ¬ DueForClosing i p s now) : KeepsOpen (evaluate i p s now) := by
  rw [evaluate_eq]
  -- Of the five ways that a decision takes, only the last may close.
  split
  · exact ⟨List.not_mem_nil, rfl, nofun⟩
  · next hnew =>
    split
    · exact ⟨List.not_mem_nil, rfl, nofun⟩
    · next hign =>
      split
      · exact ⟨by simp [closedItem, close_notMem_removeIf], rfl, nofun⟩
      · next hst =>
        split
        · exact ⟨close_notMem_addUnless _ _, rfl, nofun⟩
        · next haw =>
          refine openItem_keepsOpen (ageing_keepsOpen ?_)
          by_contra hage
          simp only [not_or, Bool.not_eq_true, Bool.not_eq_false] at hage
          refine h ⟨isWithin_eq_false_iff.1 (by simpa using hnew),
            find?_isIgnoreLabel_eq_none_iff.1 hign, ?_,
            awaitsTriage_eq_false_iff.1 (by simpa using haw),
            hasLabel_staleproof_eq_false_iff.1 hage.1,
            isLaterThan_iff.1 (closeDelay_eq i p ▸ hage.2)⟩
          cases hs : i.state with
          | opened => rfl
          | closed => exact absurd hs hst

/-- An item is closed exactly when it is due. A decision that closes it does so once, counts it,
and has that for its reason; no other decision does any of these. -/
theorem closing_iff_due (i : Issue) (p : PolicyRecord) (s : Signals) (now : Instant) :
    (.close ∈ (evaluate i p s now).actions ↔ DueForClosing i p s now) ∧
      ((evaluate i p s now).actions.count .close = 1 ↔ DueForClosing i p s now) ∧
      ((evaluate i p s now).stats.closed = 1 ↔ DueForClosing i p s now) ∧
      ((evaluate i p s now).disposition = .closing ↔ DueForClosing i p s now) := by
  by_cases h : DueForClosing i p s now
  · have hc := evaluate_of_due h
    simp only [h, iff_true]
    have hmem : .close ∈ (evaluate i p s now).actions :=
      List.count_pos_iff.1 (by rw [hc.once]; exact Nat.one_pos)
    exact ⟨hmem, hc.once, hc.counted, hc.reason⟩
  · have ho := evaluate_of_not_due h
    simp only [h, iff_false]
    refine ⟨ho.never, ?_, ?_, ho.reason⟩
    · rw [List.count_eq_zero.2 ho.never]
      exact Nat.zero_ne_one
    · rw [ho.uncounted]
      exact Nat.zero_ne_one

end Decision

end Upkeep
