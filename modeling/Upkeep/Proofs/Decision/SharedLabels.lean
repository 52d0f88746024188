import Upkeep.Proofs.Decision.Sync
import Upkeep.Wire.Policy
/-!
# Roles that share a label

Nothing keeps a policy from using one label for two roles. Whether an item that was brought in line
with such a policy stays in line is a matter of which two: the label may be taken away for one role
in the same decision that finds it there for the other, or it may change by itself what the next
decision reads. `LabelRole.compatible` lists the roles that get along. If only those share labels,
no label is added by a decision on an item that has the labels of the decision before it, and
any other two roles have a policy and an item where one is (`settles_unless_shared`).
-/

namespace Upkeep

/-- The item with the labels that some actions leave on it, and otherwise as it was. -/
def Issue.relabel (i : Issue) (as : List Action) : Issue :=
  { i with labels := (i.applyAll as).labels }

/-- Two roles may share a label. The close label comes only with closing, when nobody cares for the
stale label any more; the labels that exempt from staleness or choose its delays are never taken
away. -/
def LabelRole.compatible : LabelRole → LabelRole → Bool
  | .stale, .close | .close, .stale => true
  | .staleproof, .close | .close, .staleproof => true
  | .staleproof, .featureRequest | .featureRequest, .staleproof => true
  | r, q => r == q

theorem LabelRole.compatible_symm (r q : LabelRole) : r.compatible q = q.compatible r := by
  cases r <;> cases q <;> rfl

namespace PolicyRecord

/-- Only roles that get along share a label. -/
def Compatible (p : PolicyRecord) : Prop :=
  ∀ r q, p.labelOf r ≠ "" → p.labelOf r = p.labelOf q → r.compatible q = true

instance (p : PolicyRecord) : Decidable p.Compatible :=
  decidable_of_iff (∀ r ∈ LabelRole.all, ∀ q ∈ LabelRole.all,
      p.labelOf r ≠ "" → p.labelOf r = p.labelOf q → r.compatible q = true)
    ⟨fun h r q => h r r.mem_all q q.mem_all, fun h r _ q _ => h r q⟩

/-- Only the two roles share a label. -/
def SharesOnly (p : PolicyRecord) (r q : LabelRole) : Prop :=
  ∀ a b, p.labelOf a ≠ "" → p.labelOf a = p.labelOf b →
    a = b ∨ (a = r ∧ b = q) ∨ (a = q ∧ b = r)

/-- A decision on an item with the labels of the decision before it adds no label. -/
def Settles (p : PolicyRecord) : Prop :=
  ∀ (i : Issue) (s : Signals) (now : Instant) (l : String),
    .addLabel l ∉ (evaluate (i.relabel (evaluate i p s now).actions) p s now).actions

end PolicyRecord

namespace Decision

variable {i j : Issue} {p : PolicyRecord} {s : Signals} {now : Instant} {l : String}

/-! ## What the labels of a decision change in the plan -/

theorem role_of_present {d : Disposition} {r : LabelRole} (h : wanted i p s now d r = .present) :
    (r = .triage ∧ d = .needsTriage) ∨ r = .escalation ∨ (r = .stale ∧ d = .stale) ∨
      (r = .close ∧ d = .closing) := by
  cases r <;> cases d <;> simp_all [wanted, attention, ite_eq_iff]

theorem role_of_absent {d : Disposition} {r : LabelRole} (h : wanted i p s now d r = .absent) :
    d ≠ .needsTriage ∧
      (r = .triage ∨ r = .escalation ∨ (r = .stale ∧ d ≠ .stale ∧ d ≠ .closing)) := by
  cases r <;> cases d <;> simp_all [wanted, attention]

/-- Roles of which one gets its label and the other loses it do not get along. -/
theorem not_compatible_of_wanted {d : Disposition} {r q : LabelRole}
    (hr : wanted i p s now d r = .present) (hq : wanted i p s now d q = .absent) :
    r.compatible q = false := by
  have hne : r ≠ q := by
    rintro rfl
    rw [hr] at hq
    cases hq
  -- Each pair that is left is out of the question by the disposition, or listed as such.
  obtain ⟨hd, hq⟩ := role_of_absent hq
  rcases role_of_present hr with ⟨rfl, rfl⟩ | rfl | ⟨rfl, rfl⟩ | ⟨rfl, rfl⟩ <;>
    rcases hq with rfl | rfl | ⟨rfl, hstale, hclosing⟩ <;> first | rfl | contradiction

/-- An action of the plan on a label tells what is wanted of a role with that label. -/
theorem wanted_eq_of_mem_plan {w : LabelWish} {a : Action} (ha : a ∈ plan i p s now)
    (hw : w.action? l = some a) : ∃ r, p.labelOf r = l ∧
      wanted i p s now (evaluate i p s now).disposition r = w := by
  have hl : a.label? = some l := by
    cases w <;> cases hw <;> rfl
  obtain ⟨r, hlabel, hr⟩ := action?_of_mem_plan ha hl
  refine ⟨r, hlabel, ?_⟩
  generalize wanted i p s now (evaluate i p s now).disposition r = v at hr
  cases v <;> cases w <;> cases hw <;> first | rfl | cases hr

/-- No label is both added and removed. -/
theorem addLabel_of_label? (hp : p.Compatible) (hne : l ≠ "") (h : .addLabel l ∈ plan i p s now)
    {a : Action} (ha : a ∈ plan i p s now) (hl : a.label? = some l) : a = .addLabel l := by
  rcases Action.eq_of_label? hl with rfl | rfl
  · rfl
  · obtain ⟨r, rfl, hr⟩ := wanted_eq_of_mem_plan (w := .present) h rfl
    obtain ⟨q, hlabel, hq⟩ := wanted_eq_of_mem_plan (w := .absent) ha rfl
    have hnot := not_compatible_of_wanted hr hq
    rw [hp r q hne hlabel.symm] at hnot
    cases hnot

/-- The plan is never about the feature request label, and adds the staleproof label at most. -/
theorem addLabel_of_reads (hp : p.Compatible) {r : LabelRole}
    (hr : r = .staleproof ∨ r = .featureRequest) (hne : p.labelOf r ≠ "") {a : Action}
    (ha : a ∈ plan i p s now) (hl : a.label? = some (p.labelOf r)) :
    r = .staleproof ∧ a = .addLabel (p.labelOf r) := by
  rcases Action.eq_of_label? hl with rfl | rfl
  · obtain ⟨q, hlabel, hq⟩ := wanted_eq_of_mem_plan (w := .present) ha rfl
    have hcomp := hp r q hne hlabel.symm
    rcases hr with rfl | rfl
    · exact ⟨rfl, rfl⟩
    · rcases role_of_present hq with ⟨rfl, -⟩ | rfl | ⟨rfl, -⟩ | ⟨rfl, -⟩ <;> cases hcomp
  · obtain ⟨q, hlabel, hq⟩ := wanted_eq_of_mem_plan (w := .absent) ha rfl
    have hcomp := hp r q hne hlabel.symm
    obtain ⟨-, hq⟩ := role_of_absent hq
    rcases hr with rfl | rfl <;> rcases hq with rfl | rfl | ⟨rfl, -⟩ <;> cases hcomp

/-- The plan for an item that has become staleproof, and is otherwise the same for it, adds no
label that the plan before did not add. -/
theorem addLabel_mem_plan_of (hpr : j.isPullRequest = i.isPullRequest)
    (hcr : j.createdAt = i.createdAt) (hst : j.state = i.state) (hi : i.isIgnored p = false)
    (hsp : i.hasLabel p.staleproofLabel = true → j.hasLabel p.staleproofLabel = true)
    (hfr : j.hasLabel p.featureRequestLabel = i.hasLabel p.featureRequestLabel)
    (h : .addLabel l ∈ plan j p s now) : .addLabel l ∈ plan i p s now := by
  have hj := not_isIgnored_of_mem_plan h
  -- Unless the item has become staleproof, the plan is the same.
  by_cases hsame : j.hasLabel p.staleproofLabel = i.hasLabel p.staleproofLabel
  · rwa [← plan_congr hpr hcr hst (hj.trans hi.symm) hsame hfr]
  · have hexempt : j.hasLabel p.staleproofLabel = true := by
      by_contra hnot
      rw [Bool.not_eq_true] at hnot
      rw [hnot] at hsame hsp
      exact hsame (Bool.eq_false_iff.2 fun hold => by cases hsp hold).symm
    have htriage : triagePlan j p s = triagePlan i p s := by rw [triagePlan, triagePlan, hpr]
    have hawaits : awaitsTriage j p s now = awaitsTriage i p s now := by
      rw [awaitsTriage, awaitsTriage, hpr, hcr]
    have hreference : reference j s = reference i s := by rw [reference, reference, hcr]
    rw [plan, hcr, hj, hst, hawaits, htriage, hreference] at h
    rw [plan, hi]
    -- Too new, closed, awaiting triage, open.
    split at h
    · cases h
    · next hnew =>
      rw [if_neg hnew]
      simp only [Bool.false_eq_true, if_false] at h ⊢
      split at h
      · simp at h
      · next hopen =>
        rw [if_neg hopen]
        split at h
        · next hwaits => rwa [if_pos hwaits]
        · next hwaits =>
          rw [if_neg hwaits]
          rcases List.mem_append.1 h with h | h
          · exact List.mem_append_left _ h
          · simp [ageingPlan, hexempt] at h

/-- The labels of a decision do not make the plan add another one. -/
theorem addLabel_mem_plan_of_relabel (hp : p.Compatible) (hi : i.isIgnored p = false)
    (h : .addLabel l ∈ plan (i.relabel (evaluate i p s now).actions) p s now) :
    .addLabel l ∈ plan i p s now := by
  refine addLabel_mem_plan_of (j := i.relabel (evaluate i p s now).actions) rfl rfl rfl hi ?_ ?_ h
  -- The staleproof label stays if it was there, and the feature request label is not touched.
  · intro hsp
    obtain ⟨hne, hmem⟩ := Issue.hasLabel_iff.1 hsp
    refine Issue.hasLabel_iff.2 ⟨hne, (Issue.mem_labels_applyAll_of_adds ?_).2 (.inl hmem)⟩
    intro a ha hl
    exact (addLabel_of_reads (r := .staleproof) hp (.inl rfl) hne (mem_actions.1 ha).1 hl).2
  · rw [Bool.eq_iff_iff, Issue.hasLabel_iff, Issue.hasLabel_iff]
    refine and_congr_right fun hne => Issue.mem_labels_applyAll_of_ne ?_
    intro a ha hl
    have hplan := (mem_actions.1 ha).1
    cases (addLabel_of_reads (r := .featureRequest) hp (.inr rfl) hne hplan hl).1

/-- If only roles that get along share labels, every item settles. -/
theorem settles_of_compatible (hp : p.Compatible) : p.Settles := by
  intro i s now l hmem
  obtain ⟨hplan, hpend⟩ := mem_actions.1 hmem
  have hne := Action.ne_empty_of_isPending hpend rfl
  have hign : i.isIgnored p = false := by
    by_contra hi
    rw [Bool.not_eq_false] at hi
    -- An ignored item keeps its labels, and is ignored again.
    have hsame : i.relabel (evaluate i p s now).actions = i := by
      rw [evaluate_actions, plan_of_isIgnored hi]
      rfl
    rw [hsame, plan_of_isIgnored hi] at hplan
    cases hplan
  have hadds := addLabel_mem_plan_of_relabel hp hign hplan
  -- The label is on the item already, or this decision adds it.
  have hthere : l ∈ (i.applyAll (evaluate i p s now).actions).labels := by
    rw [Issue.mem_labels_applyAll_of_adds fun a ha hl =>
      addLabel_of_label? hp hne hadds (mem_actions.1 ha).1 hl]
    by_cases hold : l ∈ i.labels
    · exact .inl hold
    · exact .inr (mem_actions.2 ⟨hadds, by simp [Action.isPending, hne, hold]⟩)
  simp [Action.isPending, Issue.relabel, hthere] at hpend

/-! ## Roles that do not get along -/

/-- The built-in labels, with one for two roles. Feature requests become stale later than other
issues. -/
def sharing (r q : LabelRole) : PolicyRecord :=
  let label (role : LabelRole) : String :=
    if role = r ∨ role = q then "shared" else ({} : PolicyRecord).labelOf role
  { featureRequestLabel := label .featureRequest
    triageLabel := label .triage
    escalationLabel := label .escalation
    featureRequestStaleDelay := .days 50
    staleLabel := label .stale
    staleproofLabel := label .staleproof
    featureRequestCloseDelay := .days 120
    closeLabel := label .close }

/-- An issue with the label of the two roles. It has no label where closing is to add it. -/
def sharedItem (r q : LabelRole) : Issue :=
  ⟨⟨⟨"istio", "istio"⟩, 1⟩, false, .clamp 0, .opened,
    if r ∈ [.featureRequest, .close] ∧ q ∈ [.featureRequest, .close] then [] else ["shared"], ""⟩

/-- A member has commented on it, within the close delay unless one of the roles is about
closing. -/
def sharedSignals (r q : LabelRole) : Signals :=
  ⟨some (.clamp ((if r = .close ∨ q = .close then 30 else 55) * nanosPerDay)), none,
    some ⟨if r ∈ [.triage, .escalation] ∧ q ∈ [.triage, .escalation] then "P0" else "Backlog"⟩⟩

theorem labelOf_sharing (r q role : LabelRole) :
    (sharing r q).labelOf role =
      if role = r ∨ role = q then "shared" else ({} : PolicyRecord).labelOf role := by
  cases role <;> rfl

theorem sharesOnly_sharing (r q : LabelRole) : (sharing r q).SharesOnly r q := by
  have hdistinct : ({} : PolicyRecord).DistinctLabels := by decide
  have hnew (role : LabelRole) : "shared" ≠ ({} : PolicyRecord).labelOf role := by
    cases role <;> decide
  intro a b hne heq
  rw [labelOf_sharing] at hne
  rw [labelOf_sharing, labelOf_sharing] at heq
  by_cases ha : a = r ∨ a = q
  · rw [if_pos ha] at heq
    by_cases hb : b = r ∨ b = q
    · rcases ha with rfl | rfl <;> rcases hb with rfl | rfl <;> simp
    · rw [if_neg hb] at heq
      exact absurd heq (hnew b)
  · rw [if_neg ha] at hne heq
    by_cases hb : b = r ∨ b = q
    · rw [if_pos hb] at heq
      exact absurd heq.symm (hnew a)
    · rw [if_neg hb] at heq
      exact .inl (hdistinct a b hne heq)

/-- A hundred days after the issue was opened, the second decision adds the shared label again, or
the stale label to an issue that is not what it was. -/
theorem not_settles_sharing {r q : LabelRole} (h : r.compatible q = false) :
    ¬ (sharing r q).Settles := by
  have hadds : ∃ l ∈ ["shared", ({} : PolicyRecord).staleLabel],
      .addLabel l ∈ (evaluate
        ((sharedItem r q).relabel (evaluate (sharedItem r q) (sharing r q) (sharedSignals r q)
          (.clamp (100 * nanosPerDay))).actions)
        (sharing r q) (sharedSignals r q) (.clamp (100 * nanosPerDay))).actions := by
    revert h
    cases r <;> cases q <;> decide +kernel
  obtain ⟨l, -, hl⟩ := hadds
  exact fun hsettles => hsettles _ _ _ l hl

theorem compatible_of_sharesOnly {r q : LabelRole} (hrq : r.compatible q = true)
    (hp : p.SharesOnly r q) : p.Compatible := by
  intro a b hne heq
  rcases hp a b hne heq with rfl | ⟨rfl, rfl⟩ | ⟨rfl, rfl⟩
  · cases a <;> rfl
  · exact hrq
  · rwa [LabelRole.compatible_symm]

/-- Every item settles under a policy in which only roles that get along share labels. Two roles
get along exactly if every item settles under every policy in which they alone share a label. -/
theorem settles_unless_shared (p : PolicyRecord) (r q : LabelRole) :
    (p.Compatible → p.Settles) ∧
      ((∀ p' : PolicyRecord, p'.SharesOnly r q → p'.Settles) ↔ r.compatible q = true) := by
  refine ⟨settles_of_compatible, ?_, ?_⟩
  · intro hall
    by_contra hnot
    exact not_settles_sharing (Bool.eq_false_iff.2 hnot) (hall _ (sharesOnly_sharing r q))
  · intro hrq p' hp'
    exact settles_of_compatible (compatible_of_sharesOnly hrq hp')

/-- Closed items may keep the label by which they were marked stale. -/
def inactivePolicy : PolicyRecord := { staleLabel := "inactive", closeLabel := "inactive" }

theorem settles_unless_shared_inactive :
    inactivePolicy.Compatible ∧ inactivePolicy.Settles ∧
      (∀ p : PolicyRecord, p.SharesOnly .stale .close → p.Settles) ∧
      ¬ ∀ p : PolicyRecord, p.SharesOnly .triage .escalation → p.Settles := by
  have hcompatible : inactivePolicy.Compatible := by decide
  refine ⟨hcompatible, (settles_unless_shared inactivePolicy .stale .close).1 hcompatible,
    (settles_unless_shared inactivePolicy .stale .close).2.2 rfl, fun hall => ?_⟩
  cases (settles_unless_shared inactivePolicy .triage .escalation).2.1 hall

/-- One label asks for attention, whether for triage or for an answer. -/
def attentionPolicy : PolicyRecord :=
  { triageLabel := "attention", escalationLabel := "attention" }

/-- An issue of high priority with the label. -/
def attentionItem : Issue :=
  ⟨⟨⟨"istio", "istio"⟩, 1⟩, false, .clamp 0, .opened, ["attention"], ""⟩

/-- A member has commented on it twenty days after it was opened. -/
def attentionSignals : Signals := ⟨some (.clamp (20 * nanosPerDay)), none, some ⟨"P0"⟩⟩

/-- Ten days later the label is taken away, because triage is over, and not added, because it is
there. The next decision adds it. -/
theorem attention_returns :
    PolicyRecord.ofValue (.table [("triage_label", .text "attention"),
        ("escalation_label", .text "attention")]) = .ok attentionPolicy ∧
      (evaluate attentionItem attentionPolicy attentionSignals
        (.clamp (30 * nanosPerDay))).actions = [.removeLabel "attention", .removeComment] ∧
      (evaluate
        (attentionItem.relabel (evaluate attentionItem attentionPolicy attentionSignals
          (.clamp (30 * nanosPerDay))).actions)
        attentionPolicy attentionSignals (.clamp (30 * nanosPerDay))).actions =
          [.addLabel "attention", .removeComment] ∧
      ¬ attentionPolicy.Settles := by
  refine ⟨rfl, by decide, by decide, fun hsettles => ?_⟩
  exact hsettles attentionItem attentionSignals (.clamp (30 * nanosPerDay)) "attention" (by decide)

end Decision

end Upkeep
