import Upkeep.Proofs.Decision.Closing
/-!
# The labels that a decision knows

A policy knows the labels that it ignores and those of its roles, and looks at no others. Items
that carry the same known labels get decisions that agree, in whatever order and however often the
labels are there (`evaluate_agrees`). A single ignore label anywhere empties the decision
(`evaluate_of_mem_ignoreLabels`); without one, the scan has seen every role whose label is there
(`LabelScan.sees_ofIssue`).
-/

namespace Upkeep

/-- A policy knows the labels that it ignores and those of its roles. -/
def PolicyRecord.Knows (p : PolicyRecord) (l : String) : Prop :=
  l ∈ p.ignoreLabels ∨ (l ≠ "" ∧ ∃ r, p.labelOf r = l)

/-- Two items are the same to a policy. Their references and bodies may differ, and so may the
labels that the policy does not know, the order of the labels, and how often each is there. -/
structure Issue.SameTo (p : PolicyRecord) (i j : Issue) : Prop where
  isPullRequest : i.isPullRequest = j.isPullRequest
  createdAt : i.createdAt = j.createdAt
  state : i.state = j.state
  labels : ∀ l, p.Knows l → (l ∈ i.labels ↔ l ∈ j.labels)

/-- Two decisions are the same, except that they may name different ignore labels. -/
structure Decision.Agrees (d e : Decision) : Prop where
  actions : d.actions = e.actions
  stats : d.stats = e.stats
  disposition : d.disposition = e.disposition ∨
    ∃ l m, d.disposition = .ignored l ∧ e.disposition = .ignored m

theorem Decision.Agrees.of_eq {d e : Decision} (h : d = e) : d.Agrees e := by
  subst h
  exact ⟨rfl, rfl, .inl rfl⟩

theorem PolicyRecord.isIgnoreLabel_iff {p : PolicyRecord} {l : String} :
    p.isIgnoreLabel l = true ↔ l ∈ p.ignoreLabels := by
  rw [isIgnoreLabel, List.contains_iff_mem]

variable {p : PolicyRecord} {i j : Issue} {s : Signals} {now : Instant}

theorem Issue.isIgnored_iff : i.isIgnored p = true ↔ ∃ l ∈ i.labels, l ∈ p.ignoreLabels := by
  simp only [isIgnored, List.any_eq_true, PolicyRecord.isIgnoreLabel_iff]

/-! ## Items that are the same to a policy -/

namespace Issue.SameTo

theorem isIgnored (h : i.SameTo p j) : i.isIgnored p = j.isIgnored p := by
  rw [Bool.eq_iff_iff, isIgnored_iff, isIgnored_iff]
  refine exists_congr fun l => and_congr_left fun hl => ?_
  exact h.labels l (.inl hl)

theorem hasLabel (h : i.SameTo p j) (r : LabelRole) :
    i.hasLabel (p.labelOf r) = j.hasLabel (p.labelOf r) := by
  rw [Bool.eq_iff_iff, hasLabel_iff, hasLabel_iff]
  exact and_congr_right fun hne => h.labels _ (.inr ⟨hne, r, rfl⟩)

theorem carried (h : i.SameTo p j) : LabelScan.carried p i = LabelScan.carried p j := by
  simp only [LabelScan.carried, LabelScan.mk.injEq, and_true]
  exact ⟨h.hasLabel .triage, h.hasLabel .escalation, h.hasLabel .staleproof, h.hasLabel .stale,
    h.hasLabel .featureRequest, h.hasLabel .close⟩

theorem awaitsTriage (h : i.SameTo p j) :
    Decision.awaitsTriage i p s now = Decision.awaitsTriage j p s now := by
  rw [Decision.awaitsTriage, Decision.awaitsTriage, h.isPullRequest, h.createdAt]

theorem openItem (h : i.SameTo p j) (labels : LabelScan) :
    Decision.openItem i p labels s now = Decision.openItem j p labels s now := by
  have hkind : Decision.stalenessKind i labels = Decision.stalenessKind j labels := by
    rw [Decision.stalenessKind, Decision.stalenessKind, h.isPullRequest]
  have htriage : Decision.triageActions i p labels s = Decision.triageActions j p labels s := by
    rw [Decision.triageActions, Decision.triageActions, h.isPullRequest]
  have hreference : Decision.reference i s = Decision.reference j s := by
    rw [Decision.reference, Decision.reference, h.createdAt]
  unfold Decision.openItem
  rw [hkind, htriage, hreference]

end Issue.SameTo

/-! ## Decisions -/

/-- Items that are the same to a policy get decisions that agree. -/
theorem evaluate_agrees (h : i.SameTo p j) (s : Signals) (now : Instant) :
    (evaluate i p s now).Agrees (evaluate j p s now) := by
  have hign := h.isIgnored
  rw [Issue.isIgnored_eq, Issue.isIgnored_eq] at hign
  rw [evaluate_eq, evaluate_eq, h.createdAt]
  split
  · exact .of_eq rfl
  cases hi : i.labels.find? p.isIgnoreLabel with
  | some l =>
    -- The other item is ignored too, but another ignore label may come first on it.
    rw [hi, Option.isSome_some] at hign
    obtain ⟨m, hj⟩ := Option.isSome_iff_exists.1 hign.symm
    rw [hj]
    exact ⟨rfl, rfl, .inr ⟨l, m, rfl, rfl⟩⟩
  | none =>
    rw [hi, Option.isSome_none] at hign
    rw [Option.isNone_iff_eq_none.1 (Option.isSome_eq_false_iff.1 hign.symm)]
    refine .of_eq ?_
    simp only [h.state, h.carried, h.awaitsTriage, h.openItem]

/-- One ignore label empties the decision, wherever it stands. -/
theorem evaluate_of_mem_ignoreLabels {l : String} (hl : l ∈ i.labels) (hign : l ∈ p.ignoreLabels)
    (s : Signals) (now : Instant) :
    (evaluate i p s now).actions = [] ∧ (evaluate i p s now).stats = .zero ∧
      ((evaluate i p s now).disposition = .tooNew ∨
        ∃ m ∈ i.labels, m ∈ p.ignoreLabels ∧ (evaluate i p s now).disposition = .ignored m) := by
  have hsome : (i.labels.find? p.isIgnoreLabel).isSome = true := by
    rw [← Issue.isIgnored_eq, Issue.isIgnored_iff]
    exact ⟨l, hl, hign⟩
  obtain ⟨m, hm⟩ := Option.isSome_iff_exists.1 hsome
  have hmign := PolicyRecord.isIgnoreLabel_iff.1 (List.find?_some hm)
  rw [evaluate_eq, hm]
  split
  · exact ⟨rfl, rfl, .inl rfl⟩
  · exact ⟨rfl, rfl, .inr ⟨m, List.mem_of_find?_eq_some hm, hmign, rfl⟩⟩

/-- A scan that meets no ignore label tells of every role whether its label is there. -/
theorem LabelScan.sees_ofIssue (h : ∀ l ∈ i.labels, l ∉ p.ignoreLabels) (r : LabelRole) :
    (ofIssue p i).sees r = i.hasLabel (p.labelOf r) := by
  have hign : i.isIgnored p = false := by
    rw [Issue.isIgnored_eq, Decision.find?_isIgnoreLabel_eq_none_iff.2 h]
    rfl
  rw [ofIssue_eq_carried hign]
  cases r <;> rfl

/-- A decision reads the labels as a set of known names: items that are the same to the policy get
decisions that agree, one ignore label empties the decision, and without any, what the scan says of
a role is whether the item carries its label. -/
theorem evaluate_reads_known_labels (p : PolicyRecord) (s : Signals) (now : Instant) :
    (∀ i j : Issue, i.SameTo p j → (evaluate i p s now).Agrees (evaluate j p s now)) ∧
    (∀ i : Issue, ∀ l ∈ i.labels, l ∈ p.ignoreLabels →
      (evaluate i p s now).actions = [] ∧ (evaluate i p s now).stats = .zero ∧
        ((evaluate i p s now).disposition = .tooNew ∨
          ∃ m ∈ i.labels, m ∈ p.ignoreLabels ∧
            (evaluate i p s now).disposition = .ignored m)) ∧
    (∀ i : Issue, (∀ l ∈ i.labels, l ∉ p.ignoreLabels) →
      (LabelScan.ofIssue p i).ignoredBy = none ∧
        ∀ r, (LabelScan.ofIssue p i).sees r = i.hasLabel (p.labelOf r)) := by
  refine ⟨fun i j h => evaluate_agrees h s now,
    fun i l hl hign => evaluate_of_mem_ignoreLabels hl hign s now,
    fun i h => ⟨?_, LabelScan.sees_ofIssue h⟩⟩
  rw [LabelScan.ofIssue_ignoredBy]
  exact Decision.find?_isIgnoreLabel_eq_none_iff.2 h

/-- An open issue with some labels. -/
def labelled (number : Nat) (labels : List String) : Issue :=
  ⟨⟨⟨"istio", "istio"⟩, number⟩, false, .clamp 0, .opened, labels, ""⟩

/-- The stale label is what the two issues have in common. -/
theorem evaluate_reads_known_labels_stale :
    (labelled 1 ["kind/bug", "lifecycle/stale"]).SameTo {}
        (labelled 2 ["lifecycle/stale", "kind/docs", "lifecycle/stale"]) ∧
      (evaluate (labelled 1 ["kind/bug", "lifecycle/stale"]) {} .unknown (.clamp 0)).Agrees
        (evaluate (labelled 2 ["lifecycle/stale", "kind/docs", "lifecycle/stale"]) {} .unknown
          (.clamp 0)) := by
  have hsame : (labelled 1 ["kind/bug", "lifecycle/stale"]).SameTo {}
      (labelled 2 ["lifecycle/stale", "kind/docs", "lifecycle/stale"]) := by
    refine ⟨rfl, rfl, rfl, ?_⟩
    rintro l (hign | ⟨-, r, rfl⟩)
    · cases hign
    · cases r <;> decide
  exact ⟨hsame, (evaluate_reads_known_labels {} .unknown (.clamp 0)).1 _ _ hsame⟩

end Upkeep
