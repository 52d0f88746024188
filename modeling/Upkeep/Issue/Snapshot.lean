import Upkeep.Issue.Pipeline
import Upkeep.Reference
import Upkeep.Time.Instant
/-!
What is known of an issue or pull request when a decision is taken: a snapshot of the item itself,
and the signals that other sources give about it.
-/

namespace Upkeep

inductive IssueState
  | opened
  | closed
deriving DecidableEq, Repr

/-- An issue or pull request as it is at one moment. -/
structure Issue where
  reference : IssueRef
  isPullRequest : Bool
  createdAt : Instant
  state : IssueState
  /-- The names of the labels on the item, in order and possibly repeated. -/
  labels : List String
  body : String
deriving DecidableEq

/-- The item carries a label; nothing carries the empty label. -/
def Issue.hasLabel (i : Issue) (label : String) : Bool := !label.isEmpty && i.labels.contains label

/-- What other sources say about an item. -/
structure Signals where
  /-- The newest comment or review by a member of the organization. -/
  memberComment : Option Instant
  /-- The newest event of any kind by a member of the organization. -/
  memberActivity : Option Instant
  /-- The board column, if the item is on the board. -/
  pipeline : Option Pipeline
deriving DecidableEq

namespace Signals

/-- Nothing is known. -/
def unknown : Signals := ⟨none, none, none⟩

/-- An issue needs triage when the board does not classify it, or when no member has ever
commented on it or touched it. -/
def needsTriage (s : Signals) : Bool :=
  s.pipeline.all Pipeline.isUntriaged || (s.memberComment.isNone && s.memberActivity.isNone)

def isHighPriority (s : Signals) : Bool := s.pipeline.any Pipeline.isHighPriority

end Signals

end Upkeep
