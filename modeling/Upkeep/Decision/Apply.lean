import Upkeep.Decision.Action
import Upkeep.Issue.Snapshot
/-!
The effect of actions on an item.

Adding a label appends it, removing a label drops every occurrence, and closing closes. Comments
are no part of an item and leave it as it is.
-/

namespace Upkeep.Issue

/-- The item after one action. -/
def apply (issue : Issue) : Action → Issue
  | .addLabel label => { issue with labels := issue.labels ++ [label] }
  | .removeLabel label => { issue with labels := issue.labels.filter (· != label) }
  | .close => { issue with state := .closed }
  | .postComment _ _ => issue
  | .removeComment => issue

/-- The item after a list of actions. -/
def applyAll (issue : Issue) (actions : List Action) : Issue := actions.foldl apply issue

end Upkeep.Issue
