import Upkeep.Proofs.Decision.Announcement
import Upkeep.Proofs.Decision.Sync
import Upkeep.Proofs.Decision.Template
import Mathlib.Data.List.Basic
/-!
# The form of a decision

An evaluation ends in one of five ways, and the age of an open item gives one of four answers.
`Form` lists the decisions that can come of it. The counts and the actions of every decision agree
with its reason (`evaluate_wellFormed`): what is counted is what the reason says, and an open item
that does not wait for triage has exactly one action on its comment.
-/

namespace Upkeep.Decision

variable {i : Issue} {p : PolicyRecord} {s : Signals} {now : Instant} {d : Decision}

/-- An action on the labels that ask for attention, on an open item that does not wait for
triage. -/
def IsAttention (p : PolicyRecord) (a : Action) : Prop :=
  a = .removeLabel p.triageLabel ∨ a = .addLabel p.escalationLabel ∨
    a = .removeLabel p.escalationLabel

/-- What the age of an open item can ask for. -/
inductive AgeForm (p : PolicyRecord) : Decision → Prop
  | staleproof {mark} : mark.Sublist [.removeLabel p.staleLabel] →
      AgeForm p ⟨mark ++ [.removeComment], .zero, .staleproof⟩
  | closing {comment mark} : Template.Calls .closing p.closeComment comment →
      mark.Sublist [.addLabel p.closeLabel] →
      AgeForm p ⟨.close :: comment :: mark, { closed := 1 }, .closing⟩
  | stale {comment mark} : Template.Calls .staleness p.staleComment comment →
      mark.Sublist [.addLabel p.staleLabel] →
      AgeForm p ⟨comment :: mark, { markedStale := 1 }, .stale⟩
  | active {mark} : mark.Sublist [.removeLabel p.staleLabel] →
      AgeForm p ⟨mark ++ [.removeComment], .zero, .active⟩

/-- What a decision can be. -/
inductive Form (p : PolicyRecord) : Decision → Prop
  | tooNew : Form p (.idle .tooNew)
  | ignored (label : String) : Form p (.idle (.ignored label))
  | closed {as} : as.Sublist [.removeLabel p.triageLabel, .removeLabel p.escalationLabel] →
      Form p ⟨as, .zero, .closed⟩
  | needsTriage {as} : as.Sublist [.addLabel p.triageLabel] →
      Form p ⟨as, { markedNeedsTriage := 1 }, .needsTriage⟩
  | opened {front aged} (overdue : Bool) : (∀ a ∈ front, IsAttention p a) → AgeForm p aged →
      Form p ⟨front ++ aged.actions,
        Stats.add { markedNeedsEscalation := if overdue then 1 else 0 } aged.stats,
        aged.disposition⟩

/-! ## Every decision has one of the forms -/

theorem addUnless_sublist (present : Bool) (l : String) :
    (addUnless present l).Sublist [.addLabel l] := by
  unfold addUnless
  split
  · exact List.Sublist.refl _
  · exact List.nil_sublist _

theorem removeIf_sublist (present : Bool) (l : String) :
    (removeIf present l).Sublist [.removeLabel l] := by
  unfold removeIf
  split
  · exact List.Sublist.refl _
  · exact List.nil_sublist _

theorem ageing_ageForm (p : PolicyRecord) (labels : LabelScan) (delays : StalenessDelays)
    (reference now : Instant) : AgeForm p (ageing p labels delays reference now) := by
  unfold ageing
  split
  · exact .staleproof (removeIf_sublist _ _)
  split
  · exact .closing (Template.calls_commentAction _ _ _ _) (addUnless_sublist _ _)
  split
  · exact .stale (Template.calls_commentAction _ _ _ _) (addUnless_sublist _ _)
  · exact .active (removeIf_sublist _ _)

theorem isAttention_triageActions {labels : LabelScan} {a : Action}
    (h : a ∈ triageActions i p labels s) : IsAttention p a := by
  unfold triageActions at h
  split at h
  · exact .inl (List.mem_singleton.1 ((removeIf_sublist _ _).subset h))
  · cases h

theorem isAttention_escalationActions {labels : LabelScan} {overdue : Bool} {a : Action}
    (h : a ∈ escalationActions p labels overdue) : IsAttention p a := by
  unfold escalationActions at h
  split at h
  · exact .inr (.inl (List.mem_singleton.1 ((addUnless_sublist _ _).subset h)))
  · exact .inr (.inr (List.mem_singleton.1 ((removeIf_sublist _ _).subset h)))

theorem evaluate_form (i : Issue) (p : PolicyRecord) (s : Signals) (now : Instant) :
    Form p (evaluate i p s now) := by
  rw [evaluate_eq]
  split
  · exact .tooNew
  split
  · exact .ignored _
  split
  · exact .closed ((removeIf_sublist _ _).append (removeIf_sublist _ _))
  split
  · exact .needsTriage (addUnless_sublist _ _)
  · refine .opened _ (fun a ha => ?_) (ageing_ageForm _ _ _ _ _)
    rcases List.mem_append.1 ha with ha | ha
    · exact isAttention_triageActions ha
    · exact isAttention_escalationActions ha

/-! ## What all forms have in common -/

/-- What a decision counts is what its reason says. -/
structure Truthful (d : Decision) : Prop where
  counts : d.stats.markedStale ≤ 1 ∧ d.stats.closed ≤ 1 ∧ d.stats.markedNeedsTriage ≤ 1 ∧
    d.stats.markedNeedsEscalation ≤ 1
  closed : d.stats.closed = 1 ↔ d.disposition = .closing
  stale : d.stats.markedStale = 1 ↔ d.disposition = .stale
  triage : d.stats.markedNeedsTriage = 1 ↔ d.disposition = .needsTriage
  escalation : d.stats.markedNeedsEscalation = 1 →
    d.disposition ∈ [.staleproof, .closing, .stale, .active]

/-- What a decision does is what its reason says. -/
def HasShape (p : PolicyRecord) (d : Decision) : Prop :=
  match d.disposition with
  | .tooNew => d.actions = [] ∧ d.stats = .zero
  | .ignored _ => d.actions = [] ∧ d.stats = .zero
  | .closed => (∀ a ∈ d.actions, ∃ l, a = .removeLabel l) ∧ d.stats = .zero
  | .needsTriage => d.actions = [] ∨ d.actions = [.addLabel p.triageLabel]
  | .staleproof => comments d = [.removeComment]
  | .active => comments d = [.removeComment]
  | .stale => ∃ comment, comments d = [comment] ∧
      Template.Calls .staleness p.staleComment comment
  | .closing => ∃ front comment mark, d.actions = front ++ .close :: comment :: mark ∧
      comments d = [comment] ∧ Template.Calls .closing p.closeComment comment ∧
      (∀ a ∈ front, IsAttention p a) ∧ (mark = [] ∨ mark = [.addLabel p.closeLabel])

/-- The counts, the actions and the reason of a decision agree. -/
structure WellFormed (p : PolicyRecord) (d : Decision) : Prop extends Truthful d where
  closes : .close ∈ d.actions ↔ d.disposition = .closing
  shape : HasShape p d

theorem Form.truthful (h : Form p d) : Truthful d := by
  cases h with
  | tooNew => constructor <;> decide
  | ignored label => constructor <;> simp [idle, Stats.zero]
  | closed _ => constructor <;> simp [Stats.zero]
  | needsTriage _ => constructor <;> simp
  | opened overdue _ haged =>
    cases haged <;> cases overdue <;> constructor <;> simp [Stats.add, Stats.zero]

theorem IsAttention.label?_ne_none {a : Action} (h : IsAttention p a) : a.label? ≠ none := by
  rcases h with rfl | rfl | rfl <;> nofun

theorem filter_isComment_of_sublist {mark : List Action} {a : Action} (h : mark.Sublist [a])
    (ha : a.label? ≠ none) : mark.filter Action.isComment = [] :=
  Action.filter_isComment_of_labels fun _ hb => List.mem_singleton.1 (h.subset hb) ▸ ha

theorem Form.hasShape (h : Form p d) : HasShape p d := by
  cases h with
  | tooNew => exact ⟨rfl, rfl⟩
  | ignored label => exact ⟨rfl, rfl⟩
  | closed h =>
    refine ⟨fun a ha => ?_, rfl⟩
    have hmem := h.subset ha
    simp only [List.mem_cons, List.not_mem_nil, or_false] at hmem
    rcases hmem with rfl | rfl
    · exact ⟨_, rfl⟩
    · exact ⟨_, rfl⟩
  | needsTriage h => exact List.sublist_singleton.1 h
  | @opened front _ overdue hfront haged =>
    have hnone := Action.filter_isComment_of_labels fun a ha => (hfront a ha).label?_ne_none
    -- The only comment of the decision is the one that the age of the item asks for.
    cases haged with
    | staleproof h =>
      have hmark := filter_isComment_of_sublist h (by simp)
      simp [HasShape, comments, hnone, hmark]
    | @closing comment mark hc h =>
      have hmark := filter_isComment_of_sublist h (by simp)
      refine ⟨front, comment, mark, rfl, ?_, hc, hfront, List.sublist_singleton.1 h⟩
      simp [comments, hnone, hmark, hc.isComment]
    | @stale comment _ hc h =>
      have hmark := filter_isComment_of_sublist h (by simp)
      refine ⟨comment, ?_, hc⟩
      simp [comments, hnone, hmark, hc.isComment]
    | active h =>
      have hmark := filter_isComment_of_sublist h (by simp)
      simp [HasShape, comments, hnone, hmark]

/-- The counts, the actions and the reason of every decision agree. -/
theorem evaluate_wellFormed (i : Issue) (p : PolicyRecord) (s : Signals) (now : Instant) :
    WellFormed p (evaluate i p s now) where
  toTruthful := (evaluate_form i p s now).truthful
  closes := close_mem_actions_iff
  shape := (evaluate_form i p s now).hasShape

end Upkeep.Decision
