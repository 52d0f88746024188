import Upkeep.Decision.Apply
import Upkeep.Decision.Evaluate
import Mathlib.Data.List.Pairwise
/-!
# The labels of a policy

A policy names a label for each of six roles. Unless an ignore label ends it, the scan of an item
sees exactly the roles whose label the item carries (`LabelScan.ofIssue_eq_carried`), so that the
rest of the development speaks of `Issue.hasLabel` only.

The second half says what a list of actions does to one label, when no two of its actions are on
the same label (`Action.Apart`).
-/

namespace Upkeep

/-- What a policy uses a label for. -/
inductive LabelRole
  | triage
  | escalation
  | staleproof
  | stale
  | featureRequest
  | close
deriving DecidableEq, Repr

namespace LabelRole

def all : List LabelRole := [triage, escalation, staleproof, stale, featureRequest, close]

theorem mem_all (r : LabelRole) : r ∈ all := by cases r <;> decide

end LabelRole

namespace PolicyRecord

/-- The label of a role, empty when the role is switched off. -/
def labelOf (p : PolicyRecord) : LabelRole → String
  | .triage => p.triageLabel
  | .escalation => p.escalationLabel
  | .staleproof => p.staleproofLabel
  | .stale => p.staleLabel
  | .featureRequest => p.featureRequestLabel
  | .close => p.closeLabel

/-- Two roles do not share a label, roles that are switched off aside. -/
def DistinctLabels (p : PolicyRecord) : Prop :=
  ∀ r s, p.labelOf r ≠ "" → p.labelOf r = p.labelOf s → r = s

/-- The label of a role does not make an item ignored. -/
def LabelsNotIgnored (p : PolicyRecord) : Prop :=
  ∀ r, p.labelOf r ≠ "" → p.isIgnoreLabel (p.labelOf r) = false

instance (p : PolicyRecord) : Decidable p.DistinctLabels :=
  decidable_of_iff (∀ r ∈ LabelRole.all, ∀ s ∈ LabelRole.all,
      p.labelOf r ≠ "" → p.labelOf r = p.labelOf s → r = s)
    ⟨fun h r s => h r r.mem_all s s.mem_all, fun h r _ s _ => h r s⟩

instance (p : PolicyRecord) : Decidable p.LabelsNotIgnored :=
  decidable_of_iff (∀ r ∈ LabelRole.all, p.labelOf r ≠ "" → p.isIgnoreLabel (p.labelOf r) = false)
    ⟨fun h r => h r r.mem_all, fun h r _ => h r⟩

end PolicyRecord

/-! ## What the scan sees -/

/-- The item carries an ignore label. -/
def Issue.isIgnored (i : Issue) (p : PolicyRecord) : Bool := i.labels.any p.isIgnoreLabel

theorem Issue.hasLabel_iff {i : Issue} {l : String} :
    i.hasLabel l = true ↔ l ≠ "" ∧ l ∈ i.labels := by
  simp [Issue.hasLabel]

namespace LabelScan

/-- The scan has met the label of a role. -/
def sees (s : LabelScan) : LabelRole → Bool
  | .triage => s.triage
  | .escalation => s.escalation
  | .staleproof => s.staleproof
  | .stale => s.stale
  | .featureRequest => s.featureRequest
  | .close => s.close

theorem sees_note (p : PolicyRecord) (s : LabelScan) (l : String) (r : LabelRole) :
    (s.note p l).sees r = (s.sees r || fits l (p.labelOf r)) := by
  cases r <;> rfl

theorem scan_ignoredBy (p : PolicyRecord) (s : LabelScan) (ls : List String) :
    (scan p s ls).ignoredBy = (ls.find? p.isIgnoreLabel).or s.ignoredBy := by
  induction ls generalizing s with
  | nil => rfl
  | cons l ls ih =>
    unfold scan
    by_cases h : p.isIgnoreLabel l = true
    · simp [h]
    · simp only [h, Bool.false_eq_true, if_false, ih, List.find?_cons_of_neg h]
      rfl

/-- A scan that no ignore label ends has looked at every label. -/
theorem sees_scan (p : PolicyRecord) (s : LabelScan) (ls : List String) (r : LabelRole)
    (h : ls.any p.isIgnoreLabel = false) :
    (scan p s ls).sees r = (s.sees r || ls.any fun l => fits l (p.labelOf r)) := by
  induction ls generalizing s with
  | nil => simp [scan]
  | cons l ls ih =>
    simp only [List.any_cons, Bool.or_eq_false_iff] at h
    unfold scan
    simp only [h.1, Bool.false_eq_true, if_false, ih _ h.2, sees_note, List.any_cons, Bool.or_assoc]

theorem any_fits (ls : List String) (l : String) :
    (ls.any fun m => fits m l) = (!l.isEmpty && ls.contains l) := by
  induction ls with
  | nil => simp
  | cons m ls ih =>
    rw [List.any_cons, ih, List.contains_cons, Bool.and_or_distrib_left, Bool.beq_comm]
    rfl

theorem ofIssue_ignoredBy (p : PolicyRecord) (i : Issue) :
    (ofIssue p i).ignoredBy = i.labels.find? p.isIgnoreLabel := by
  rw [ofIssue, scan_ignoredBy]
  exact Option.or_none

/-- The labels of its roles that an item carries, as a scan. -/
def carried (p : PolicyRecord) (i : Issue) : LabelScan where
  triage := i.hasLabel p.triageLabel
  escalation := i.hasLabel p.escalationLabel
  staleproof := i.hasLabel p.staleproofLabel
  stale := i.hasLabel p.staleLabel
  featureRequest := i.hasLabel p.featureRequestLabel
  close := i.hasLabel p.closeLabel

/-- Of an item that is not ignored, the scan tells which labels it carries. -/
theorem ofIssue_eq_carried {p : PolicyRecord} {i : Issue} (h : i.isIgnored p = false) :
    ofIssue p i = carried p i := by
  have sees (r : LabelRole) : (ofIssue p i).sees r = i.hasLabel (p.labelOf r) := by
    rw [ofIssue, sees_scan p _ _ r h, any_fits]
    cases r <;> rfl
  have unending : (ofIssue p i).ignoredBy = none := by
    rw [ofIssue_ignoredBy, List.find?_eq_none]
    simpa [Issue.isIgnored] using h
  generalize ofIssue p i = s at sees unending
  cases s
  simp only [carried, mk.injEq]
  exact ⟨sees .triage, sees .escalation, sees .staleproof, sees .stale, sees .featureRequest,
    sees .close, unending⟩

end LabelScan

/-! ## What actions do to a label -/

namespace Action

/-- The label that an action is on. -/
def label? : Action → Option String
  | .addLabel l => some l
  | .removeLabel l => some l
  | _ => none

@[simp] theorem label?_addLabel (l : String) : (addLabel l).label? = some l := rfl

@[simp] theorem label?_removeLabel (l : String) : (removeLabel l).label? = some l := rfl

@[simp] theorem label?_removeComment : removeComment.label? = none := rfl

@[simp] theorem label?_close : close.label? = none := rfl

/-- Two actions are not on the same label; the empty label does not count. -/
def Apart (a b : Action) : Prop := ∀ l, a.label? = some l → b.label? = some l → l = ""

theorem Apart.symm {a b : Action} (h : a.Apart b) : b.Apart a := fun l hb ha => h l ha hb

instance : Std.Symm Apart := ⟨fun _ _ => Apart.symm⟩

theorem eq_of_label? {a : Action} {l : String} (h : a.label? = some l) :
    a = .addLabel l ∨ a = .removeLabel l := by
  cases a <;> simp_all [label?]

/-- Of actions that are apart, only one is on a label. -/
theorem eq_of_apart {as : List Action} (h : as.Pairwise Apart) {a b : Action} {l : String}
    (ha : a ∈ as) (hb : b ∈ as) (hla : a.label? = some l) (hlb : b.label? = some l)
    (hne : l ≠ "") : a = b := by
  by_contra hab
  exact hne (h.forall ha hb hab l hla hlb)

theorem count_le_one_of_apart {as : List Action} (h : as.Pairwise Apart) {a : Action} {l : String}
    (hl : a.label? = some l) (hne : l ≠ "") : as.count a ≤ 1 := by
  induction as with
  | nil => exact Nat.zero_le 1
  | cons b as ih =>
    obtain ⟨hhead, htail⟩ := List.pairwise_cons.1 h
    by_cases hb : b = a
    · have hnot : a ∉ as := fun ha => hne (hhead a ha l (hb ▸ hl) hl)
      have hzero := List.count_eq_zero.2 hnot
      rw [hb, List.count_cons_self]
      omega
    · rw [List.count_cons_of_ne hb]
      exact ih htail

end Action

namespace Issue

@[simp] theorem applyAll_nil (i : Issue) : i.applyAll [] = i := rfl

@[simp] theorem applyAll_cons (i : Issue) (a : Action) (as : List Action) :
    i.applyAll (a :: as) = (i.apply a).applyAll as := rfl

@[simp] theorem apply_reference (i : Issue) (a : Action) : (i.apply a).reference = i.reference := by
  cases a <;> rfl

@[simp] theorem apply_isPullRequest (i : Issue) (a : Action) :
    (i.apply a).isPullRequest = i.isPullRequest := by
  cases a <;> rfl

@[simp] theorem apply_createdAt (i : Issue) (a : Action) : (i.apply a).createdAt = i.createdAt := by
  cases a <;> rfl

@[simp] theorem applyAll_reference (i : Issue) (as : List Action) :
    (i.applyAll as).reference = i.reference := by
  induction as generalizing i with
  | nil => rfl
  | cons a as ih => simp [ih]

@[simp] theorem applyAll_isPullRequest (i : Issue) (as : List Action) :
    (i.applyAll as).isPullRequest = i.isPullRequest := by
  induction as generalizing i with
  | nil => rfl
  | cons a as ih => simp [ih]

@[simp] theorem applyAll_createdAt (i : Issue) (as : List Action) :
    (i.applyAll as).createdAt = i.createdAt := by
  induction as generalizing i with
  | nil => rfl
  | cons a as ih => simp [ih]

/-- Actions change the labels and the state only. -/
theorem applyAll_eq (i : Issue) (as : List Action) :
    i.applyAll as =
      { i with labels := (i.applyAll as).labels, state := (i.applyAll as).state } := by
  induction as generalizing i with
  | nil => rfl
  | cons a as ih =>
    rw [applyAll_cons]
    cases a <;> exact ih _

/-- Only closing changes the state. -/
theorem applyAll_state (i : Issue) (as : List Action) :
    (i.applyAll as).state = if .close ∈ as then .closed else i.state := by
  induction as generalizing i with
  | nil => rfl
  | cons a as ih =>
    rw [applyAll_cons, ih]
    cases a <;> simp [apply]

/-- Actions that only add a label leave it there if it was, and put it there if one of them adds
it. -/
theorem mem_labels_applyAll_of_adds {i : Issue} {as : List Action} {l : String}
    (h : ∀ a ∈ as, a.label? = some l → a = .addLabel l) :
    l ∈ (i.applyAll as).labels ↔ l ∈ i.labels ∨ .addLabel l ∈ as := by
  induction as generalizing i with
  | nil => simp
  | cons a as ih =>
    rw [applyAll_cons, ih fun b hb => h b (List.mem_cons_of_mem _ hb)]
    have ha := h a List.mem_cons_self
    cases a with
    | addLabel m => simp [apply, or_assoc]
    | removeLabel m =>
      have hm : l ≠ m := fun e => by simp [Action.label?, e] at ha
      simp [apply, hm]
    | _ => simp [apply]

/-- Actions that only remove a label leave it away if it was, and take it away if one of them
removes it. -/
theorem mem_labels_applyAll_of_removes {i : Issue} {as : List Action} {l : String}
    (h : ∀ a ∈ as, a.label? = some l → a = .removeLabel l) :
    l ∈ (i.applyAll as).labels ↔ l ∈ i.labels ∧ .removeLabel l ∉ as := by
  induction as generalizing i with
  | nil => simp
  | cons a as ih =>
    rw [applyAll_cons, ih fun b hb => h b (List.mem_cons_of_mem _ hb)]
    have ha := h a List.mem_cons_self
    cases a with
    | addLabel m =>
      have hm : l ≠ m := fun e => by simp [Action.label?, e] at ha
      simp [apply, hm]
    | removeLabel m => simp [apply, and_assoc]
    | _ => simp [apply]

/-- Actions on other labels leave a label as it is. -/
theorem mem_labels_applyAll_of_ne {i : Issue} {as : List Action} {l : String}
    (h : ∀ a ∈ as, a.label? ≠ some l) : l ∈ (i.applyAll as).labels ↔ l ∈ i.labels := by
  rw [mem_labels_applyAll_of_adds fun a ha hl => absurd hl (h a ha)]
  simp only [or_iff_left_iff_imp]
  exact fun hm => absurd rfl (h _ hm)

/-- Labels that no action is on stay in their places. -/
theorem filter_labels_applyAll {i : Issue} {as : List Action} {q : String → Bool}
    (h : ∀ a ∈ as, ∀ l, a.label? = some l → q l = false) :
    (i.applyAll as).labels.filter q = i.labels.filter q := by
  induction as generalizing i with
  | nil => rfl
  | cons a as ih =>
    rw [applyAll_cons, ih fun b hb => h b (List.mem_cons_of_mem _ hb)]
    have ha := h a List.mem_cons_self
    cases a with
    | addLabel m => simp [apply, ha m rfl]
    | removeLabel m =>
      have hm : ∀ l ∈ i.labels, (q l && l != m) = q l := by
        intro l _
        by_cases hl : l = m
        · simp [hl, ha m rfl]
        · simp [hl]
      simp only [apply, List.filter_filter]
      exact List.filter_congr hm
    | _ => rfl

/-- A label is added as often as there are actions that add it. -/
theorem count_labels_applyAll_of_adds {i : Issue} {as : List Action} {l : String}
    (h : ∀ a ∈ as, a.label? = some l → a = .addLabel l) :
    (i.applyAll as).labels.count l = i.labels.count l + as.count (.addLabel l) := by
  induction as generalizing i with
  | nil => rfl
  | cons a as ih =>
    rw [applyAll_cons, ih fun b hb => h b (List.mem_cons_of_mem _ hb), List.count_cons]
    have ha := h a List.mem_cons_self
    cases a with
    | addLabel m =>
      by_cases hm : m = l
      · simp [apply, hm]
        omega
      · simp [apply, hm]
    | removeLabel m =>
      have hm : l ≠ m := fun e => by simp [Action.label?, e] at ha
      simp [apply, List.count_filter, hm]
    | _ => simp [apply]

end Issue

end Upkeep
