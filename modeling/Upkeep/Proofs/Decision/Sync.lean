import Upkeep.Proofs.Decision.Closing
/-!
# Labels that agree with the lifecycle of an item

The reason for a decision says what is to become of the label of each role: it has to be on the
item, it may not be on it, or nobody cares. The plan asks for just that (`filter_label?_plan`), so
that applying the decision brings the labels there and touches nothing else (`labels_in_sync`).
-/

namespace Upkeep

/-- What is to become of a label. -/
inductive LabelWish
  | kept
  | present
  | absent
deriving DecidableEq, Repr

/-- The action that brings a label there. -/
def LabelWish.action? (l : String) : LabelWish → Option Action
  | .kept => none
  | .present => some (.addLabel l)
  | .absent => some (.removeLabel l)

namespace Decision

variable {i : Issue} {p : PolicyRecord} {s : Signals} {now : Instant} {d : Disposition}

/-- What is to become of the labels that ask for attention, on an open item that does not wait for
triage. The time between two instants is in nanoseconds. -/
def attention (i : Issue) (p : PolicyRecord) (s : Signals) (now : Instant) : LabelRole → LabelWish
  | .triage => if i.isPullRequest = false ∧ s.needsTriage = false then .absent else .kept
  | .escalation =>
    if s.isHighPriority = true ∧
        p.escalationDelay.boundedNanos < now.since (s.memberComment.getD i.createdAt) then .present
    else .absent
  | _ => .kept

/-- What is to become of the label of a role, by the reason for the decision. -/
def wanted (i : Issue) (p : PolicyRecord) (s : Signals) (now : Instant) :
    Disposition → LabelRole → LabelWish
  | .tooNew, _ => .kept
  | .ignored _, _ => .kept
  | .closed, .triage => .absent
  | .closed, .escalation => .absent
  | .closed, _ => .kept
  | .needsTriage, .triage => .present
  | .needsTriage, _ => .kept
  | .staleproof, .stale => .absent
  | .active, .stale => .absent
  | .stale, .stale => .present
  | .closing, .close => .present
  | _, r => attention i p s now r

/-- The actions for what is wanted of the labels of some roles. -/
def wishes (i : Issue) (p : PolicyRecord) (s : Signals) (now : Instant) (d : Disposition)
    (rs : List LabelRole) : List Action :=
  rs.filterMap fun r => (wanted i p s now d r).action? (p.labelOf r)

/-! ## What the plan asks for -/

theorem attention_plan :
    triagePlan i p s ++ escalationPlan p (isOverdue p s (reference i s) now) =
      [LabelRole.triage, .escalation].filterMap fun r =>
        (attention i p s now r).action? (p.labelOf r) := by
  have hover : isOverdue p s (reference i s) now = true ↔ s.isHighPriority = true ∧
      p.escalationDelay.boundedNanos < now.since (s.memberComment.getD i.createdAt) := by
    rw [isOverdue, Bool.and_eq_true, isLaterThan_iff, reference]
  have htriage : triagePlan i p s =
      ((attention i p s now .triage).action? p.triageLabel).toList := by
    simp only [triagePlan, attention, Bool.and_eq_true, Bool.not_eq_true']
    split <;> rfl
  have hescalation : escalationPlan p (isOverdue p s (reference i s) now) =
      ((attention i p s now .escalation).action? p.escalationLabel).toList := by
    simp only [escalationPlan, attention, ← hover]
    split <;> rfl
  rw [htriage, hescalation]
  simp only [List.filterMap_cons, List.filterMap_nil, PolicyRecord.labelOf]
  cases (attention i p s now .triage).action? p.triageLabel <;>
    cases (attention i p s now .escalation).action? p.escalationLabel <;> rfl

theorem filter_label?_wishes (rs : List LabelRole) :
    (wishes i p s now d rs).filter (·.label?.isSome) = wishes i p s now d rs := by
  refine List.filter_eq_self.2 fun a ha => ?_
  obtain ⟨r, -, hr⟩ := List.mem_filterMap.1 ha
  cases hw : wanted i p s now d r <;> rw [hw] at hr <;> cases hr <;> rfl

/-- The actions of the plan on labels are those for what is wanted of them. -/
theorem filter_label?_plan (i : Issue) (p : PolicyRecord) (s : Signals) (now : Instant) :
    (plan i p s now).filter (·.label?.isSome) =
      wishes i p s now (evaluate i p s now).disposition LabelRole.all := by
  rw [evaluate_eq, plan, Issue.isIgnored_eq]
  split
  · rfl
  cases i.labels.find? p.isIgnoreLabel with
  | some l => rfl
  | none =>
    simp only [Option.isSome_none, Bool.false_eq_true, if_false]
    split
    · rfl
    split
    · rfl
    -- The attention that an open item needs does not depend on its age.
    have hopen (d : Disposition) (aged : List Action)
        (hd : wishes i p s now d [.triage, .escalation] =
          [LabelRole.triage, .escalation].filterMap fun r =>
            (attention i p s now r).action? (p.labelOf r))
        (haged : aged.filter (·.label?.isSome) =
          wishes i p s now d [.staleproof, .stale, .featureRequest, .close]) :
        (triagePlan i p s ++ escalationPlan p (isOverdue p s (reference i s) now) ++ aged).filter
          (·.label?.isSome) = wishes i p s now d LabelRole.all := by
      rw [attention_plan, ← hd, List.filter_append, filter_label?_wishes, haged, wishes, wishes,
        ← List.filterMap_append]
      rfl
    have hcomment (k : CommentKind) (body : String) :
        (Template.commentAction k body).label?.isSome = false := by
      rw [Action.label?_of_isComment (Action.isComment_commentAction k body)]
      rfl
    have hk : stalenessKind i (.carried p i) = kindOf i p := rfl
    have hsp : (LabelScan.carried p i).staleproof = i.hasLabel p.staleproofLabel := rfl
    simp only [openItem, ageing, ageingPlan, hk, hsp]
    split
    · exact hopen .staleproof _ rfl rfl
    split
    · refine hopen .closing _ rfl ?_
      simp only [List.filter_cons, hcomment]
      rfl
    split
    · refine hopen .stale _ rfl ?_
      simp only [List.filter_cons, hcomment]
      rfl
    · exact hopen .active _ rfl rfl

theorem mem_plan_of_wanted {a : Action} {r : LabelRole}
    (h : (wanted i p s now (evaluate i p s now).disposition r).action? (p.labelOf r) = some a) :
    a ∈ plan i p s now := by
  have hmem : a ∈ (plan i p s now).filter (·.label?.isSome) := by
    rw [filter_label?_plan]
    exact List.mem_filterMap.2 ⟨r, r.mem_all, h⟩
  exact (List.mem_filter.1 hmem).1

/-- An action of the plan on a label is there because of what is wanted of a role with that
label. -/
theorem action?_of_mem_plan {a : Action} {l : String} (ha : a ∈ plan i p s now)
    (hl : a.label? = some l) :
    ∃ r, p.labelOf r = l ∧
      (wanted i p s now (evaluate i p s now).disposition r).action? l = some a := by
  have hmem : a ∈ (plan i p s now).filter (·.label?.isSome) :=
    List.mem_filter.2 ⟨ha, by rw [hl]; rfl⟩
  rw [filter_label?_plan] at hmem
  obtain ⟨r, -, hr⟩ := List.mem_filterMap.1 hmem
  have hlabel : p.labelOf r = l := by
    cases hw : wanted i p s now (evaluate i p s now).disposition r <;> rw [hw] at hr <;>
      cases hr <;> exact Option.some.inj hl
  exact ⟨r, hlabel, hlabel ▸ hr⟩

theorem wanted_of_mem_plan {a : Action} {l : String} (ha : a ∈ plan i p s now)
    (hl : a.label? = some l) :
    ∃ r, p.labelOf r = l ∧
      wanted i p s now (evaluate i p s now).disposition r ≠ .kept := by
  obtain ⟨r, hlabel, hr⟩ := action?_of_mem_plan ha hl
  refine ⟨r, hlabel, fun hkept => ?_⟩
  rw [hkept] at hr
  cases hr

/-- Closing is the reason of the decisions that close. -/
theorem close_mem_actions_iff :
    .close ∈ (evaluate i p s now).actions ↔ (evaluate i p s now).disposition = .closing := by
  by_cases h : DueForClosing i p s now
  · have hc := evaluate_of_due h
    have hmem : .close ∈ (evaluate i p s now).actions :=
      List.count_pos_iff.1 (hc.once ▸ Nat.one_pos)
    exact iff_of_true hmem hc.reason
  · have ho := evaluate_of_not_due h
    exact iff_of_false ho.never ho.reason

/-- Nothing is done on an item that is too new or ignored. -/
theorem actions_of_leftAlone (h : (evaluate i p s now).disposition = .tooNew ∨
    ∃ l, (evaluate i p s now).disposition = .ignored l) : (evaluate i p s now).actions = [] := by
  have hage (labels : LabelScan) (delays : StalenessDelays) (e : Instant) :
      ¬ ((ageing p labels delays e now).disposition = .tooNew ∨
        ∃ l, (ageing p labels delays e now).disposition = .ignored l) := by
    unfold ageing
    split
    · simp
    split
    · simp
    split <;> simp
  rw [evaluate_eq] at h ⊢
  split
  · rfl
  · next hnew =>
    rw [if_neg hnew] at h
    cases hign : i.labels.find? p.isIgnoreLabel with
    | some l => rfl
    | none =>
      rw [hign] at h
      dsimp only at h ⊢
      split at h
      · simp [closedItem] at h
      split at h
      · simp [triageItem] at h
      · exact absurd h (hage _ _ _)

/-! ## After the decision -/

/-- The label belongs to a role of which something is wanted. The empty label belongs to none. -/
def isGoverned (i : Issue) (p : PolicyRecord) (s : Signals) (now : Instant) (d : Disposition)
    (l : String) : Bool :=
  !l.isEmpty && LabelRole.all.any fun r => p.labelOf r == l && wanted i p s now d r != .kept

/-- The item after a decision agrees with the reason for the decision, and with the item before in
all that the reason says nothing about. Roles without a label are passed over. -/
structure InSync (i : Issue) (p : PolicyRecord) (s : Signals) (now : Instant) (d : Disposition)
    (after : Issue) : Prop where
  /-- The label is there: once if it was missing, and as often as before if it was not. -/
  present : ∀ r, p.labelOf r ≠ "" → wanted i p s now d r = .present →
    p.labelOf r ∈ after.labels ∧
      after.labels.count (p.labelOf r) = max 1 (i.labels.count (p.labelOf r))
  absent : ∀ r, p.labelOf r ≠ "" → wanted i p s now d r = .absent →
    p.labelOf r ∉ after.labels
  /-- All other labels are kept, in their order and as often as they were there. -/
  kept : after.labels.filter (fun l => !isGoverned i p s now d l) =
    i.labels.filter fun l => !isGoverned i p s now d l
  state : after.state = if d = .closing then .closed else i.state
  rest : after = { i with labels := after.labels, state := after.state }
  /-- Nothing at all happens to an item that is too new or ignored. -/
  leftAlone : (d = .tooNew ∨ ∃ l, d = .ignored l) → after = i

/-- Applying a decision brings the labels in line with the reason for it, and touches nothing
else. -/
theorem labels_in_sync (hp : p.DistinctLabels) (i : Issue) (s : Signals) (now : Instant) :
    InSync i p s now (evaluate i p s now).disposition
      (i.applyAll (evaluate i p s now).actions) where
  present r hne hr := by
    have hmem : .addLabel (p.labelOf r) ∈ plan i p s now :=
      mem_plan_of_wanted (r := r) (by rw [hr]; rfl)
    have hap := actions_pairwise_apart hp i s now
    have honly : ∀ a ∈ (evaluate i p s now).actions, a.label? = some (p.labelOf r) →
        a = .addLabel (p.labelOf r) := fun a ha hl =>
      Action.eq_of_apart (plan_pairwise_apart hp i s now) (mem_actions.1 ha).1 hmem hl rfl hne
    have hcount : (i.applyAll (evaluate i p s now).actions).labels.count (p.labelOf r) =
        max 1 (i.labels.count (p.labelOf r)) := by
      rw [Issue.count_labels_applyAll_of_adds honly]
      by_cases hold : p.labelOf r ∈ i.labels
      · have hnot : .addLabel (p.labelOf r) ∉ (evaluate i p s now).actions := by
          rw [mem_actions]
          simp [Action.isPending, hold]
        rw [List.count_eq_zero.2 hnot, Nat.add_zero, Nat.max_eq_right (List.count_pos_iff.2 hold)]
      · have hadds : .addLabel (p.labelOf r) ∈ (evaluate i p s now).actions :=
          mem_actions.2 ⟨hmem, by simp [Action.isPending, hne, hold]⟩
        have honce := Action.count_le_one_of_apart hap (a := .addLabel (p.labelOf r)) rfl hne
        have hpos := List.count_pos_iff.2 hadds
        rw [List.count_eq_zero.2 hold]
        omega
    exact ⟨List.count_pos_iff.1 (hcount ▸ Nat.le_max_left 1 _), hcount⟩
  absent r hne hr := by
    have hmem : .removeLabel (p.labelOf r) ∈ plan i p s now :=
      mem_plan_of_wanted (r := r) (by rw [hr]; rfl)
    have hdone := isPending_applyAll_filter (i := i) (plan_pairwise_apart hp i s now) hmem
      (by intro h; cases h)
    rw [evaluate_actions]
    simpa [Action.isPending, Issue.hasLabel, hne] using hdone
  kept := by
    refine Issue.filter_labels_applyAll fun a ha l hl => ?_
    obtain ⟨hmem, hpend⟩ := mem_actions.1 ha
    obtain ⟨r, hr, hw⟩ := wanted_of_mem_plan hmem hl
    have hne := Action.ne_empty_of_isPending hpend hl
    have hgov : isGoverned i p s now (evaluate i p s now).disposition l = true := by
      simp only [isGoverned, Bool.and_eq_true, Bool.not_eq_true', String.isEmpty_eq_false_iff,
        List.any_eq_true, beq_iff_eq, bne_iff_ne]
      exact ⟨hne, r, r.mem_all, hr, hw⟩
    rw [hgov]
    rfl
  state := by simp only [Issue.applyAll_state, close_mem_actions_iff]
  rest := Issue.applyAll_eq i _
  leftAlone h := by
    rw [actions_of_leftAlone h]
    rfl

/-- A release blocker that was marked for triage and as stale, twice even. -/
def blocker : Issue :=
  ⟨⟨⟨"istio", "istio"⟩, 17⟩, false, .clamp 0, .opened,
    ["lifecycle/stale", "bug", "lifecycle/needs triage", "lifecycle/stale"], ""⟩

/-- A member has commented on it ten days ago. -/
def blockerSignals : Signals :=
  ⟨some (.clamp (80 * nanosPerDay)), none, some ⟨"Release Blocker"⟩⟩

/-- The blocker after a decision ninety days after its creation. -/
def answered : Issue :=
  blocker.applyAll (evaluate blocker {} blockerSignals (.clamp (90 * nanosPerDay))).actions

theorem labels_in_sync_blocker :
    ({} : PolicyRecord).DistinctLabels ∧
      answered.labels = ["bug", "lifecycle/needs escalation"] ∧
      InSync blocker {} blockerSignals (.clamp (90 * nanosPerDay)) .active answered := by
  have hp : ({} : PolicyRecord).DistinctLabels := by decide
  exact ⟨hp, by decide, labels_in_sync hp blocker blockerSignals (.clamp (90 * nanosPerDay))⟩

end Decision

end Upkeep
