import Upkeep.Proofs.Decision.Labels
/-!
# A decision is what is left to do of a plan

The plan for an item lists every action that its lifecycle asks for, whether or not the labels
that the plan is about are there already. An action of the plan is pending while it would change
something. A decision has the pending actions of the plan, in the order of the plan
(`evaluate_actions`).

The plan does not read the labels that it changes: applying some of it leaves it as it was
(`plan_congr`), and no two of its actions are on the same label (`plan_pairwise_apart`). Together
these say what a decision leaves for the next one.
-/

namespace Upkeep

namespace Action

/-- The action would change something on the item. Comments and closing are always done. -/
def isPending (i : Issue) : Action → Bool
  | .addLabel l => !l.isEmpty && !i.labels.contains l
  | .removeLabel l => i.hasLabel l
  | .postComment _ _ => true
  | .removeComment => true
  | .close => true

@[simp] theorem isPending_close (i : Issue) : isPending i .close = true := by
  rw [isPending]

@[simp] theorem isPending_removeComment (i : Issue) : isPending i .removeComment = true := by
  rw [isPending]

@[simp] theorem isPending_commentAction (i : Issue) (k : CommentKind) (body : String) :
    isPending i (Template.commentAction k body) = true := by
  unfold Template.commentAction
  split <;> rfl

/-- The action is about the manager's comment. -/
def isComment : Action → Bool
  | .postComment _ _ => true
  | .removeComment => true
  | _ => false

@[simp] theorem isComment_addLabel (l : String) : isComment (.addLabel l) = false := rfl

@[simp] theorem isComment_removeLabel (l : String) : isComment (.removeLabel l) = false := rfl

@[simp] theorem isComment_removeComment : isComment .removeComment = true := rfl

@[simp] theorem isComment_close : isComment .close = false := rfl

@[simp] theorem isComment_commentAction (k : CommentKind) (body : String) :
    isComment (Template.commentAction k body) = true := by
  unfold Template.commentAction
  split <;> rfl

theorem label?_of_isComment {a : Action} (h : a.isComment = true) : a.label? = none := by
  cases a <;> simp_all [isComment, label?]

/-- Actions on labels are not about the comment. -/
theorem filter_isComment_of_labels {as : List Action} (h : ∀ a ∈ as, a.label? ≠ none) :
    as.filter isComment = [] :=
  List.filter_eq_nil_iff.2 fun a ha hcomment => h a ha (label?_of_isComment hcomment)

theorem commentAction_ne_close (k : CommentKind) (body : String) :
    Template.commentAction k body ≠ .close := by
  unfold Template.commentAction
  split <;> nofun

theorem isPending_of_label?_eq_none {a : Action} (h : a.label? = none) (i : Issue) :
    isPending i a = true := by
  cases a <;> simp_all [label?, isPending]

theorem ne_empty_of_isPending {i : Issue} {a : Action} {l : String} (h : isPending i a = true)
    (hl : a.label? = some l) : l ≠ "" := by
  rcases eq_of_label? hl with rfl | rfl
  · simp only [isPending, Bool.and_eq_true, Bool.not_eq_true', String.isEmpty_eq_false_iff] at h
    exact h.1
  · exact (Issue.hasLabel_iff.1 h).1

/-- Whether an action on a label is pending depends on that label only. -/
theorem isPending_congr {i j : Issue} {a : Action}
    (h : ∀ l, a.label? = some l → (l ∈ i.labels ↔ l ∈ j.labels)) :
    isPending i a = isPending j a := by
  cases a with
  | addLabel l =>
    simp only [isPending, List.contains_eq_mem, h l rfl]
  | removeLabel l =>
    simp only [isPending, Issue.hasLabel, List.contains_eq_mem, h l rfl]
  | _ => rfl

end Action

/-! ## The plan -/

namespace Decision

/-- Which thresholds apply to an item, by its labels. -/
def kindOf (i : Issue) (p : PolicyRecord) : StalenessKind :=
  if i.isPullRequest then .pullRequest
  else if i.hasLabel p.featureRequestLabel then .featureRequest
  else .issue

def triagePlan (i : Issue) (p : PolicyRecord) (s : Signals) : List Action :=
  if !i.isPullRequest && !s.needsTriage then [.removeLabel p.triageLabel] else []

def escalationPlan (p : PolicyRecord) (overdue : Bool) : List Action :=
  if overdue then [.addLabel p.escalationLabel] else [.removeLabel p.escalationLabel]

/-- What the age of an open item asks for. -/
def ageingPlan (i : Issue) (p : PolicyRecord) (reference now : Instant) : List Action :=
  let delays := p.stalenessDelays (kindOf i p)
  if i.hasLabel p.staleproofLabel then [.removeLabel p.staleLabel, .removeComment]
  else if now.isLaterThan reference delays.close then
    [.close, Template.commentAction .closing (Template.render p.closeComment reference none),
      .addLabel p.closeLabel]
  else if now.isLaterThan reference delays.stale then
    [Template.commentAction .staleness
        (Template.render p.staleComment reference (some (reference.plus delays.close))),
      .addLabel p.staleLabel]
  else [.removeLabel p.staleLabel, .removeComment]

/-- Everything that the lifecycle of an item asks for. -/
def plan (i : Issue) (p : PolicyRecord) (s : Signals) (now : Instant) : List Action :=
  if now.isWithin i.createdAt p.triageDelay then []
  else if i.isIgnored p then []
  else if i.state = .closed then [.removeLabel p.triageLabel, .removeLabel p.escalationLabel]
  else if awaitsTriage i p s now then [.addLabel p.triageLabel]
  else
    triagePlan i p s ++ escalationPlan p (isOverdue p s (reference i s) now) ++
      ageingPlan i p (reference i s) now

/-! ## Decisions and plans -/

theorem addUnless_hasLabel (i : Issue) (l : String) :
    addUnless (i.hasLabel l) l = [Action.addLabel l].filter (Action.isPending i) := by
  rcases Bool.eq_false_or_eq_true l.isEmpty with he | he <;>
    rcases Bool.eq_false_or_eq_true (i.labels.contains l) with hc | hc <;>
    simp only [addUnless, Issue.hasLabel, List.filter_cons, Action.isPending, he, hc] <;> rfl

theorem removeIf_hasLabel (i : Issue) (l : String) :
    removeIf (i.hasLabel l) l = [Action.removeLabel l].filter (Action.isPending i) := by
  simp only [removeIf, List.filter_cons, Action.isPending]
  rfl

theorem triageActions_carried (i : Issue) (p : PolicyRecord) (s : Signals) :
    triageActions i p (.carried p i) s = (triagePlan i p s).filter (Action.isPending i) := by
  unfold triageActions triagePlan
  split
  · exact removeIf_hasLabel i _
  · rfl

theorem escalationActions_carried (i : Issue) (p : PolicyRecord) (overdue : Bool) :
    escalationActions p (.carried p i) overdue =
      (escalationPlan p overdue).filter (Action.isPending i) := by
  unfold escalationActions escalationPlan
  split
  · exact addUnless_hasLabel i _
  · exact removeIf_hasLabel i _

theorem notStale_carried (i : Issue) (p : PolicyRecord) :
    notStale p (.carried p i) =
      [Action.removeLabel p.staleLabel, .removeComment].filter (Action.isPending i) := by
  have h : removeIf (LabelScan.carried p i).stale p.staleLabel = _ := removeIf_hasLabel i _
  rw [notStale, h]
  simp only [List.filter_cons, List.filter_nil, Action.isPending_removeComment, if_true]
  split <;> rfl

theorem ageing_carried (i : Issue) (p : PolicyRecord) (reference now : Instant) :
    (ageing p (.carried p i) (p.stalenessDelays (stalenessKind i (.carried p i))) reference
        now).actions = (ageingPlan i p reference now).filter (Action.isPending i) := by
  have hk : stalenessKind i (.carried p i) = kindOf i p := rfl
  have hp : (LabelScan.carried p i).staleproof = i.hasLabel p.staleproofLabel := rfl
  have hs : (LabelScan.carried p i).stale = i.hasLabel p.staleLabel := rfl
  have hc : (LabelScan.carried p i).close = i.hasLabel p.closeLabel := rfl
  simp only [ageing, ageingPlan, hk, hp, hs, hc, addUnless_hasLabel, notStale_carried]
  by_cases h₁ : i.hasLabel p.staleproofLabel = true
  · simp only [h₁, if_true]
  by_cases h₂ : now.isLaterThan reference (p.stalenessDelays (kindOf i p)).close = true
  · simp only [h₁, h₂, if_true, if_false, Bool.false_eq_true, List.filter_cons_of_pos,
      Action.isPending_close, Action.isPending_commentAction]
  by_cases h₃ : now.isLaterThan reference (p.stalenessDelays (kindOf i p)).stale = true
  · simp only [h₁, h₂, h₃, if_true, if_false, Bool.false_eq_true, List.filter_cons_of_pos,
      Action.isPending_commentAction]
  · simp only [h₁, h₂, h₃, if_false, Bool.false_eq_true]

end Decision

/-- The decision on an item, said by the labels that it carries. -/
theorem evaluate_eq (i : Issue) (p : PolicyRecord) (s : Signals) (now : Instant) :
    evaluate i p s now =
      if now.isWithin i.createdAt p.triageDelay then .idle .tooNew
      else
        match i.labels.find? p.isIgnoreLabel with
        | some l => .idle (.ignored l)
        | none =>
          if i.state = .closed then .closedItem p (.carried p i)
          else if Decision.awaitsTriage i p s now then .triageItem p (.carried p i)
          else .openItem i p (.carried p i) s now := by
  unfold evaluate
  dsimp only
  rw [LabelScan.ofIssue_ignoredBy]
  cases hf : i.labels.find? p.isIgnoreLabel with
  | some l => rfl
  | none =>
    rw [LabelScan.ofIssue_eq_carried]
    simpa [Issue.isIgnored] using hf

theorem Issue.isIgnored_eq (i : Issue) (p : PolicyRecord) :
    i.isIgnored p = (i.labels.find? p.isIgnoreLabel).isSome := by
  rw [Issue.isIgnored, List.isSome_find?]

open Decision in
/-- A decision has the pending actions of the plan. -/
theorem evaluate_actions (i : Issue) (p : PolicyRecord) (s : Signals) (now : Instant) :
    (evaluate i p s now).actions = (plan i p s now).filter (Action.isPending i) := by
  rw [evaluate_eq, plan, Issue.isIgnored_eq]
  split
  · rfl
  cases i.labels.find? p.isIgnoreLabel with
  | some l => rfl
  | none =>
    simp only [Option.isSome_none, Bool.false_eq_true, if_false]
    split
    · exact (congrArg₂ (· ++ ·) (removeIf_hasLabel i p.triageLabel)
        (removeIf_hasLabel i p.escalationLabel)).trans (List.filter_append _ _).symm
    split
    · exact addUnless_hasLabel i _
    · simp only [List.filter_append, ← triageActions_carried, ← escalationActions_carried,
        ← ageing_carried]
      rfl

/-! ## The labels of a plan -/

namespace Action

/-- The action is on no label but that of a role. -/
def IsOn (p : PolicyRecord) (r : LabelRole) (a : Action) : Prop :=
  ∀ l, a.label? = some l → l = p.labelOf r

theorem IsOn.apart {p : PolicyRecord} (hp : p.DistinctLabels) {r s : LabelRole} (hrs : r ≠ s)
    {a b : Action} (ha : a.IsOn p r) (hb : b.IsOn p s) : a.Apart b := by
  intro l hl hl'
  by_contra hne
  obtain rfl := ha l hl
  exact hrs (hp r s hne (hb _ hl'))

end Action

namespace Decision

variable {i j : Issue} {p : PolicyRecord} {s : Signals} {now : Instant}

theorem mem_actions {a : Action} :
    a ∈ (evaluate i p s now).actions ↔ a ∈ plan i p s now ∧ a.isPending i = true := by
  rw [evaluate_actions, List.mem_filter]

theorem triagePlan_isOn {a : Action} (h : a ∈ triagePlan i p s) : a.IsOn p .triage := by
  unfold triagePlan at h
  split at h
  · rintro l hl
    obtain rfl := List.mem_singleton.1 h
    exact (Option.some.inj hl).symm
  · cases h

theorem escalationPlan_isOn {overdue : Bool} {a : Action} (h : a ∈ escalationPlan p overdue) :
    a.IsOn p .escalation := by
  rintro l hl
  unfold escalationPlan at h
  split at h <;> obtain rfl := List.mem_singleton.1 h <;> exact (Option.some.inj hl).symm

/-- What the age of an item can ask for. -/
theorem ageingPlan_cases (i : Issue) (p : PolicyRecord) (reference now : Instant) :
    ageingPlan i p reference now = [.removeLabel p.staleLabel, .removeComment] ∨
      (∃ c : Action, c.isComment = true ∧
        ageingPlan i p reference now = [.close, c, .addLabel p.closeLabel]) ∨
      ∃ c : Action, c.isComment = true ∧
        ageingPlan i p reference now = [c, .addLabel p.staleLabel] := by
  unfold ageingPlan
  dsimp only
  split
  · exact .inl rfl
  split
  · exact .inr (.inl ⟨_, Action.isComment_commentAction _ _, rfl⟩)
  split
  · exact .inr (.inr ⟨_, Action.isComment_commentAction _ _, rfl⟩)
  · exact .inl rfl

theorem attention_label?_ne_none {overdue : Bool} {a : Action}
    (h : a ∈ triagePlan i p s ++ escalationPlan p overdue) : a.label? ≠ none := by
  rcases List.mem_append.1 h with h | h
  · unfold triagePlan at h
    split at h
    · simp [List.mem_singleton.1 h]
    · cases h
  · unfold escalationPlan at h
    split at h <;> simp [List.mem_singleton.1 h]

/-- What the plan can be: actions on labels, and the part about age at the end of them if the item
is open and does not wait for triage. -/
theorem plan_cases (i : Issue) (p : PolicyRecord) (s : Signals) (now : Instant) :
    (∀ a ∈ plan i p s now, a.label? ≠ none) ∨
      ∃ front, (∀ a ∈ front, a.label? ≠ none) ∧
        plan i p s now = front ++ ageingPlan i p (reference i s) now := by
  unfold plan
  split
  · exact .inl nofun
  split
  · exact .inl nofun
  split
  · exact .inl (by simp)
  split
  · exact .inl (by simp)
  exact .inr ⟨_, fun _ => attention_label?_ne_none, rfl⟩

/-- A plan has at most one action on the comment. -/
theorem filter_isComment_plan (i : Issue) (p : PolicyRecord) (s : Signals) (now : Instant) :
    ∃ c : Action, c.isComment = true ∧ ((plan i p s now).filter Action.isComment).Sublist [c] := by
  rcases plan_cases i p s now with h | ⟨front, hf, h⟩
  · rw [Action.filter_isComment_of_labels h]
    exact ⟨.removeComment, rfl, List.nil_sublist _⟩
  · rw [h, List.filter_append, Action.filter_isComment_of_labels hf, List.nil_append]
    rcases ageingPlan_cases i p (reference i s) now with e | ⟨c, hc, e⟩ | ⟨c, hc, e⟩
    · exact ⟨.removeComment, rfl, by simp [e]⟩
    · exact ⟨c, hc, by simp [e, hc]⟩
    · exact ⟨c, hc, by simp [e, hc]⟩

theorem comment_unique {a b : Action} (ha : a ∈ plan i p s now) (hb : b ∈ plan i p s now)
    (hca : a.isComment = true) (hcb : b.isComment = true) : a = b := by
  obtain ⟨c, -, hc⟩ := filter_isComment_plan i p s now
  have hac := List.mem_singleton.1 (hc.subset (List.mem_filter.2 ⟨ha, hca⟩))
  have hbc := List.mem_singleton.1 (hc.subset (List.mem_filter.2 ⟨hb, hcb⟩))
  exact hac.trans hbc.symm

/-- Nothing is asked for on an item that is ignored. -/
theorem plan_of_isIgnored (h : i.isIgnored p = true) : plan i p s now = [] := by
  unfold plan
  rw [h]
  split <;> rfl

theorem not_isIgnored_of_mem_plan {a : Action} (h : a ∈ plan i p s now) :
    i.isIgnored p = false := by
  rw [← Bool.not_eq_true]
  intro hi
  rw [plan_of_isIgnored hi] at h
  cases h

/-- The plan for a closed item takes away the labels that ask for attention. -/
theorem mem_plan_closed {a : Action} (hst : i.state = .closed) (h : a ∈ plan i p s now) :
    a = .removeLabel p.triageLabel ∨ a = .removeLabel p.escalationLabel := by
  unfold plan at h
  rw [hst] at h
  split at h
  · cases h
  split at h
  · cases h
  · simpa using h

/-- Ageing is about the stale label or about the close label, and has one action on it. -/
theorem ageingPlan_isOn (i : Issue) (p : PolicyRecord) (reference now : Instant) :
    (∃ r, (r = .stale ∨ r = .close) ∧ ∀ a ∈ ageingPlan i p reference now, a.IsOn p r) ∧
      (ageingPlan i p reference now).Pairwise Action.Apart := by
  rcases ageingPlan_cases i p reference now with h | ⟨c, hc, h⟩ | ⟨c, hc, h⟩ <;> rw [h]
  · exact ⟨⟨.stale, .inl rfl, by simp [Action.IsOn, PolicyRecord.labelOf]⟩, by simp [Action.Apart]⟩
  all_goals have hl := Action.label?_of_isComment hc
  · exact ⟨⟨.close, .inr rfl, by simp [Action.IsOn, PolicyRecord.labelOf, hl]⟩,
      by simp [Action.Apart, hl]⟩
  · exact ⟨⟨.stale, .inl rfl, by simp [Action.IsOn, PolicyRecord.labelOf, hl]⟩,
      by simp [Action.Apart, hl]⟩

/-- The plan never touches the labels that it reads. -/
theorem plan_isOn {a : Action} (h : a ∈ plan i p s now) :
    ∃ r, r ≠ .staleproof ∧ r ≠ .featureRequest ∧ a.IsOn p r := by
  unfold plan at h
  -- Too new, ignored, closed, awaiting triage, open.
  split at h
  · cases h
  split at h
  · cases h
  split at h
  · simp only [List.mem_cons, List.not_mem_nil, or_false] at h
    rcases h with rfl | rfl
    · exact ⟨.triage, nofun, nofun, fun l hl => (Option.some.inj hl).symm⟩
    · exact ⟨.escalation, nofun, nofun, fun l hl => (Option.some.inj hl).symm⟩
  split at h
  · obtain rfl := List.mem_singleton.1 h
    exact ⟨.triage, nofun, nofun, fun l hl => (Option.some.inj hl).symm⟩
  · rcases List.mem_append.1 h with h | h
    · rcases List.mem_append.1 h with h | h
      · exact ⟨.triage, nofun, nofun, triagePlan_isOn h⟩
      · exact ⟨.escalation, nofun, nofun, escalationPlan_isOn h⟩
    · obtain ⟨r, hr, hon⟩ := (ageingPlan_isOn i p (reference i s) now).1
      refine ⟨r, ?_, ?_, hon a h⟩ <;> rcases hr with rfl | rfl <;> nofun

/-- No two actions of the plan are on the same label. -/
theorem plan_pairwise_apart (hp : p.DistinctLabels) (i : Issue) (s : Signals) (now : Instant) :
    (plan i p s now).Pairwise Action.Apart := by
  unfold plan
  split
  · exact .nil
  split
  · exact .nil
  split
  · refine List.pairwise_pair.2 (Action.IsOn.apart hp (r := .triage) (s := .escalation) nofun ?_ ?_)
    · exact fun l hl => (Option.some.inj hl).symm
    · exact fun l hl => (Option.some.inj hl).symm
  split
  · exact List.pairwise_singleton _ _
  obtain ⟨⟨r, hr, hon⟩, hpair⟩ := ageingPlan_isOn i p (reference i s) now
  have hrt : LabelRole.triage ≠ r := by rcases hr with rfl | rfl <;> nofun
  have hre : LabelRole.escalation ≠ r := by rcases hr with rfl | rfl <;> nofun
  refine List.pairwise_append.2 ⟨List.pairwise_append.2 ⟨?_, ?_, ?_⟩, hpair, ?_⟩
  · unfold triagePlan
    split
    · exact List.pairwise_singleton _ _
    · exact .nil
  · unfold escalationPlan
    split <;> exact List.pairwise_singleton _ _
  · intro a ha b hb
    exact Action.IsOn.apart hp (r := .triage) (s := .escalation) nofun (triagePlan_isOn ha)
      (escalationPlan_isOn hb)
  · intro a ha b hb
    rcases List.mem_append.1 ha with ha | ha
    · exact Action.IsOn.apart hp hrt (triagePlan_isOn ha) (hon b hb)
    · exact Action.IsOn.apart hp hre (escalationPlan_isOn ha) (hon b hb)

/-- No two actions of a decision are on the same label. -/
theorem actions_pairwise_apart (hp : p.DistinctLabels) (i : Issue) (s : Signals) (now : Instant) :
    (evaluate i p s now).actions.Pairwise Action.Apart := by
  rw [evaluate_actions]
  exact (plan_pairwise_apart hp i s now).filter _

/-! ## After some of the plan -/

/-- What the plan reads of an item. -/
theorem plan_congr (hpr : j.isPullRequest = i.isPullRequest) (hcr : j.createdAt = i.createdAt)
    (hst : j.state = i.state) (hign : j.isIgnored p = i.isIgnored p)
    (hsp : j.hasLabel p.staleproofLabel = i.hasLabel p.staleproofLabel)
    (hfr : j.hasLabel p.featureRequestLabel = i.hasLabel p.featureRequestLabel) :
    plan j p s now = plan i p s now := by
  unfold plan triagePlan ageingPlan kindOf awaitsTriage reference
  rw [hpr, hcr, hst, hign, hsp, hfr]

/-- Actions of the plan leave the labels of other roles as they are. -/
theorem hasLabel_applyAll {as : List Action} (hp : p.DistinctLabels)
    (has : as ⊆ plan i p s now) {r : LabelRole} (hr : r = .staleproof ∨ r = .featureRequest) :
    (i.applyAll as).hasLabel (p.labelOf r) = i.hasLabel (p.labelOf r) := by
  rw [Bool.eq_iff_iff, Issue.hasLabel_iff, Issue.hasLabel_iff]
  refine and_congr_right fun hne => Issue.mem_labels_applyAll_of_ne fun a ha hl => ?_
  obtain ⟨q, hq₁, hq₂, hon⟩ := plan_isOn (has ha)
  have hrq : r = q := hp r q hne (hon _ hl)
  rcases hr with rfl | rfl
  · exact hq₁ hrq.symm
  · exact hq₂ hrq.symm

/-- As long as the item is not closed by it, carrying out some of the plan does not change the
plan, unless a label that it adds makes the item ignored. -/
theorem plan_applyAll {as : List Action} (hp : p.DistinctLabels) (has : as ⊆ plan i p s now)
    (hclose : .close ∉ as) (hign : (i.applyAll as).isIgnored p = i.isIgnored p) :
    plan (i.applyAll as) p s now = plan i p s now :=
  plan_congr (by simp) (by simp) (by rw [Issue.applyAll_state, if_neg hclose]) hign
    (hasLabel_applyAll (r := .staleproof) hp has (.inl rfl))
    (hasLabel_applyAll (r := .featureRequest) hp has (.inr rfl))

/-- Once the pending ones of a list of actions are done, no action on a label is pending. -/
theorem isPending_applyAll_filter {as : List Action} (hap : as.Pairwise Action.Apart) {a : Action}
    (ha : a ∈ as) (hl : a.label? ≠ none) :
    a.isPending (i.applyAll (as.filter (Action.isPending i))) = false := by
  obtain ⟨l, hl⟩ := Option.ne_none_iff_exists'.1 hl
  rw [← Bool.not_eq_true]
  intro hpend
  have hne := Action.ne_empty_of_isPending hpend hl
  have honly : ∀ b ∈ as.filter (Action.isPending i), b.label? = some l → b = a :=
    fun b hb hbl => Action.eq_of_apart hap (List.mem_filter.1 hb).1 ha hbl hl hne
  rcases Action.eq_of_label? hl with rfl | rfl
  · have hlabels := Issue.mem_labels_applyAll_of_adds (i := i) honly
    simp only [Action.isPending, Bool.and_eq_true, Bool.not_eq_true', List.contains_eq_mem,
      decide_eq_false_iff_not] at hpend
    rw [hlabels, not_or] at hpend
    refine hpend.2.2 (List.mem_filter.2 ⟨ha, ?_⟩)
    simpa [Action.isPending, hpend.1] using hpend.2.1
  · have hlabels := Issue.mem_labels_applyAll_of_removes (i := i) honly
    obtain ⟨-, hmem⟩ := Issue.hasLabel_iff.1 hpend
    rw [hlabels] at hmem
    exact hmem.2 (List.mem_filter.2 ⟨ha, Issue.hasLabel_iff.2 ⟨hne, hmem.1⟩⟩)

end Decision

end Upkeep
