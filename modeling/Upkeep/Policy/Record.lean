import Upkeep.Time.Delay
/-!
Policy records: the thresholds, label names and comment templates that apply to a repository.
-/

namespace Upkeep

/-- The rules for the items of a repository. An empty label name switches off every action on that
label. -/
structure PolicyRecord where
  /-- The label that marks an issue as a feature request. -/
  featureRequestLabel : String := "enhancement"
  /-- Items with any of these labels are left alone. -/
  ignoreLabels : List String := []
  /-- Issues older than this no longer get the triage label; without it there is no cutoff. -/
  realOldDelay : Option Delay := none
  /-- Items younger than this are left alone. -/
  triageDelay : Delay := .zero
  triageLabel : String := "lifecycle/needs triage"
  /-- How long an item of high priority may go without a member's comment. -/
  escalationDelay : Delay := .days 7
  escalationLabel : String := "lifecycle/needs escalation"
  pullRequestStaleDelay : Delay := .days 30
  featureRequestStaleDelay : Delay := .days 30
  issueStaleDelay : Delay := .days 30
  staleLabel : String := "lifecycle/stale"
  /-- The template of the comment on a stale item. -/
  staleComment : String := ""
  staleproofLabel : String := "lifecycle/staleproof"
  pullRequestCloseDelay : Delay := .days 60
  featureRequestCloseDelay : Delay := .days 60
  issueCloseDelay : Delay := .days 60
  closeLabel : String := ""
  /-- The template of the comment on an item that is closed. -/
  closeComment : String := ""
deriving DecidableEq

/-- The kinds of items that have thresholds of their own. -/
inductive StalenessKind
  | pullRequest
  | featureRequest
  | issue
deriving DecidableEq, Repr

/-- When an item without activity becomes stale, and when it is closed. -/
structure StalenessDelays where
  stale : Delay
  close : Delay
deriving DecidableEq

namespace StalenessKind

def all : List StalenessKind := [pullRequest, featureRequest, issue]

def text : StalenessKind → String
  | pullRequest => "pull request"
  | featureRequest => "feature request"
  | issue => "issue"

end StalenessKind

namespace PolicyRecord

/-- The record that a configuration changes where it says so. -/
def builtin : PolicyRecord := {}

/-- The thresholds for a kind of item. -/
def stalenessDelays (r : PolicyRecord) : StalenessKind → StalenessDelays
  | .pullRequest => ⟨r.pullRequestStaleDelay, r.pullRequestCloseDelay⟩
  | .featureRequest => ⟨r.featureRequestStaleDelay, r.featureRequestCloseDelay⟩
  | .issue => ⟨r.issueStaleDelay, r.issueCloseDelay⟩

/-- The kinds of items that are never marked stale, because their stale delay is not shorter than
their close delay. -/
def orderingViolations (r : PolicyRecord) : List StalenessKind :=
  StalenessKind.all.filter fun k =>
    (r.stalenessDelays k).close.seconds ≤ (r.stalenessDelays k).stale.seconds

def isIgnoreLabel (r : PolicyRecord) (label : String) : Bool := r.ignoreLabels.contains label

end PolicyRecord

end Upkeep
