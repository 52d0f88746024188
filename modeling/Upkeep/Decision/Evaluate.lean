import Upkeep.Decision.Template
import Upkeep.Issue.Snapshot
import Upkeep.Policy.Record
/-!
The decision on one item.

`evaluate` maps an item, its policy record, the signals about it and the time to the actions that
bring it into its lifecycle state. The checks run in a fixed order and the first that applies ends
the evaluation: too new, ignored, closed, in need of triage, staleproof, due for closing, stale,
active. An escalation is decided beside them, once triage does not end the evaluation.
-/

namespace Upkeep

/-- What the labels of an item say about it. -/
structure LabelScan where
  triage : Bool := false
  escalation : Bool := false
  staleproof : Bool := false
  stale : Bool := false
  featureRequest : Bool := false
  close : Bool := false
  /-- The ignore label that ended the scan. -/
  ignoredBy : Option String := none

namespace LabelScan

/-- A label is the one configured for a role. A role without a name has no label. -/
def fits (label configured : String) : Bool := !configured.isEmpty && label == configured

/-- Takes one more label into account. -/
def note (policy : PolicyRecord) (scan : LabelScan) (label : String) : LabelScan :=
  { scan with
    triage := scan.triage || fits label policy.triageLabel
    escalation := scan.escalation || fits label policy.escalationLabel
    staleproof := scan.staleproof || fits label policy.staleproofLabel
    stale := scan.stale || fits label policy.staleLabel
    featureRequest := scan.featureRequest || fits label policy.featureRequestLabel
    close := scan.close || fits label policy.closeLabel }

/-- Goes through the labels in order, up to the first ignore label. -/
def scan (policy : PolicyRecord) : LabelScan → List String → LabelScan
  | s, [] => s
  | s, label :: labels =>
    if policy.isIgnoreLabel label then { s with ignoredBy := some label }
    else scan policy (s.note policy label) labels

/-- What the labels of an item say under a policy. -/
def ofIssue (policy : PolicyRecord) (issue : Issue) : LabelScan := scan policy {} issue.labels

end LabelScan

namespace Decision

/-- Adds a label that is configured and absent. -/
def addUnless (present : Bool) (label : String) : List Action :=
  if !present && !label.isEmpty then [.addLabel label] else []

/-- Removes a label that is present. -/
def removeIf (present : Bool) (label : String) : List Action :=
  if present then [.removeLabel label] else []

/-- A decision to do nothing. -/
def idle (reason : Disposition) : Decision := ⟨[], .zero, reason⟩

/-- The instant from which the age of an item counts: the last comment of a member, or the
creation of the item when there is none. -/
def reference (issue : Issue) (signals : Signals) : Instant :=
  signals.memberComment.getD issue.createdAt

/-- A closed item only loses the labels that ask for attention. -/
def closedItem (policy : PolicyRecord) (labels : LabelScan) : Decision :=
  ⟨removeIf labels.triage policy.triageLabel ++ removeIf labels.escalation policy.escalationLabel,
    .zero, .closed⟩

/-- The issue waits for triage: the signals ask for it, and the issue is not older than the
cutoff. Pull requests are never triaged. -/
def awaitsTriage (issue : Issue) (policy : PolicyRecord) (signals : Signals) (now : Instant) :
    Bool :=
  !issue.isPullRequest && signals.needsTriage &&
    policy.realOldDelay.all fun d => decide (now.minus d < issue.createdAt)

/-- An issue that waits for triage gets the triage label. -/
def triageItem (policy : PolicyRecord) (labels : LabelScan) : Decision :=
  ⟨addUnless labels.triage policy.triageLabel, { markedNeedsTriage := 1 }, .needsTriage⟩

/-- An issue that no longer needs triage loses the triage label. -/
def triageActions (issue : Issue) (policy : PolicyRecord) (labels : LabelScan)
    (signals : Signals) : List Action :=
  if !issue.isPullRequest && !signals.needsTriage then removeIf labels.triage policy.triageLabel
  else []

/-- An item of high priority that no member has commented on for longer than the escalation delay
has to be escalated. -/
def isOverdue (policy : PolicyRecord) (signals : Signals) (reference now : Instant) : Bool :=
  signals.isHighPriority && now.isLaterThan reference policy.escalationDelay

/-- The escalation label follows `isOverdue`. -/
def escalationActions (policy : PolicyRecord) (labels : LabelScan) (overdue : Bool) :
    List Action :=
  if overdue then addUnless labels.escalation policy.escalationLabel
  else removeIf labels.escalation policy.escalationLabel

/-- Which thresholds apply to an item. -/
def stalenessKind (issue : Issue) (labels : LabelScan) : StalenessKind :=
  if issue.isPullRequest then .pullRequest
  else if labels.featureRequest then .featureRequest
  else .issue

/-- An item that is not stale loses the stale label and the comment. -/
def notStale (policy : PolicyRecord) (labels : LabelScan) : List Action :=
  removeIf labels.stale policy.staleLabel ++ [.removeComment]

/-- The last part of an evaluation: what the age of the item asks for. -/
def ageing (policy : PolicyRecord) (labels : LabelScan) (delays : StalenessDelays)
    (reference now : Instant) : Decision :=
  if labels.staleproof then
    ⟨notStale policy labels, .zero, .staleproof⟩
  else if now.isLaterThan reference delays.close then
    ⟨.close ::
      Template.commentAction .closing (Template.render policy.closeComment reference none) ::
        addUnless labels.close policy.closeLabel,
      { closed := 1 }, .closing⟩
  else if now.isLaterThan reference delays.stale then
    ⟨Template.commentAction .staleness
        (Template.render policy.staleComment reference (some (reference.plus delays.close))) ::
      addUnless labels.stale policy.staleLabel,
      { markedStale := 1 }, .stale⟩
  else
    ⟨notStale policy labels, .zero, .active⟩

/-- The decision on an open item that does not wait for triage. -/
def openItem (issue : Issue) (policy : PolicyRecord) (labels : LabelScan) (signals : Signals)
    (now : Instant) : Decision :=
  let reference := reference issue signals
  let overdue := isOverdue policy signals reference now
  let delays := policy.stalenessDelays (stalenessKind issue labels)
  let aged := ageing policy labels delays reference now
  ⟨triageActions issue policy labels signals ++ escalationActions policy labels overdue ++
      aged.actions,
    Stats.add { markedNeedsEscalation := if overdue then 1 else 0 } aged.stats,
    aged.disposition⟩

end Decision

/-- The decision on an item at a moment. -/
def evaluate (issue : Issue) (policy : PolicyRecord) (signals : Signals) (now : Instant) :
    Decision :=
  if now.isWithin issue.createdAt policy.triageDelay then
    .idle .tooNew
  else
    let labels := LabelScan.ofIssue policy issue
    match labels.ignoredBy with
    | some label => .idle (.ignored label)
    | none =>
      if issue.state = .closed then .closedItem policy labels
      else if Decision.awaitsTriage issue policy signals now then .triageItem policy labels
      else .openItem issue policy labels signals now

end Upkeep
