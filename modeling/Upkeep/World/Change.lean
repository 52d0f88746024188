import Upkeep.World
/-!
What happens in a world besides the work of the manager.

Time passes, members comment, items are relabelled, reopened or created, and the operations that
fail or take time become others.
-/

namespace Upkeep.World

/-- Something that happens in a world. -/
inductive Change
  | advance (delay : Delay)
  /-- A member comments on an item, now if no time is given. -/
  | comment (issue : IssueRef) (time? : Option Instant)
  /-- A member touches an item, now if no time is given. -/
  | activity (issue : IssueRef) (time? : Option Instant)
  | pipeline (issue : IssueRef) (pipeline? : Option Pipeline)
  | label (issue : IssueRef) (label : String)
  | reopen (issue : IssueRef)
  | addItem (item : WorldItem)
  | failures (rules : List FailureRule)
  | stalls (stalls : List Stall)

/-- The list of entries with the one for a key replaced, or added at the end. -/
def put {α : Type} (key : IssueRef) (value : α) : List (IssueRef × α) → List (IssueRef × α)
  | [] => [(key, value)]
  | (k, v) :: rest => if k = key then (key, value) :: rest else (k, v) :: put key value rest

/-- The list of entries without those for a key. -/
def drop {α : Type} (key : IssueRef) (entries : List (IssueRef × α)) : List (IssueRef × α) :=
  entries.filter (·.1 != key)

/-- The first item with a reference, with its issue replaced. -/
def updateIssue (w : World) (ref : IssueRef) (f : Issue → Issue) : World :=
  { w with items := updateFirst ref (fun item => { item with issue := f item.issue }) w.items }

/-- The world after something has happened. -/
def undergo (w : World) : Change → World
  | .advance d => { w with now := w.now.plus d }
  | .comment ref time? => { w with comments := put ref (time?.getD w.now) w.comments }
  | .activity ref time? => { w with activity := put ref (time?.getD w.now) w.activity }
  | .pipeline ref (some p) => { w with pipelines := put ref p w.pipelines }
  | .pipeline ref none => { w with pipelines := drop ref w.pipelines }
  | .label ref label => w.updateIssue ref (·.apply (.addLabel label))
  | .reopen ref => w.updateIssue ref fun i => { i with state := .opened }
  | .addItem item => { w with items := w.items ++ [item] }
  | .failures rules => { w with failures := rules }
  | .stalls stalls => { w with stalls }

end Upkeep.World
