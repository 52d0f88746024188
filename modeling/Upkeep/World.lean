import Upkeep.Decision.Apply
import Upkeep.Sweep.Tracker
/-!
A world in memory.

A `World` holds items with their comments, what the lookups about them give, and which operations
fail or take time. `World.tracker` are the manager's operations on it. Every change that was asked
for and every event is written to the trail of the world.
-/

namespace Upkeep

/-- An item of the world, with the comment that the manager wrote on it. -/
structure WorldItem where
  issue : Issue
  botComment : Option String := none
deriving DecidableEq

/-- The operations of the world that may fail. -/
inductive Operation
  | openIssues
  | issue
  | comment
  | activity
  | pipeline
  | addLabel
  | removeLabel
  | upsertComment
  | removeComment
  | close
deriving DecidableEq, Repr

namespace Operation

def name : Operation → String
  | openIssues => "open_issues"
  | issue => "issue"
  | comment => "comment"
  | activity => "activity"
  | pipeline => "pipeline"
  | addLabel => "add_label"
  | removeLabel => "remove_label"
  | upsertComment => "upsert_comment"
  | removeComment => "remove_comment"
  | close => "close"

/-- The operation that makes a change. -/
def ofMutation : Mutation → Operation
  | .addLabel _ => addLabel
  | .removeLabel _ => removeLabel
  | .upsertComment _ _ => upsertComment
  | .removeComment _ => removeComment
  | .close => close

end Operation

/-- The text that a change carries: its label, or the body of its comment. -/
def Mutation.argument? : Mutation → Option String
  | .addLabel label => some label
  | .removeLabel label => some label
  | .upsertComment body _ => some body
  | .removeComment _ => none
  | .close => none

/-- Makes calls of an operation fail. -/
structure FailureRule where
  operation : String
  /-- The text of the item or repository, or an asterisk for all. -/
  target : String
  /-- The only argument for which the call fails. -/
  argument? : Option String
  error : ServiceError
deriving DecidableEq

/-- Makes a lookup take time. -/
structure Stall where
  operation : String
  /-- The text of the item, or an asterisk for all. -/
  target : String
  millis : Nat
deriving DecidableEq

/-- What was done in a world. -/
inductive TrailEntry
  /-- A change was asked for. It may have failed. -/
  | call (issue : IssueRef) (mutation : Mutation)
  | seen (event : Event)
deriving DecidableEq

/-- The repository that an entry of the trail belongs to. -/
def TrailEntry.repository : TrailEntry → RepositoryId
  | .call issue _ => issue.repository
  | .seen event => event.repository

structure World where
  items : List WorldItem := []
  /-- The newest comment of a member on an item. -/
  comments : List (IssueRef × Instant) := []
  /-- The newest activity of a member on an item. -/
  activity : List (IssueRef × Instant) := []
  pipelines : List (IssueRef × Pipeline) := []
  failures : List FailureRule := []
  stalls : List Stall := []
  /-- Closed items are listed too. -/
  listClosed : Bool := false
  now : Instant
  trail : List TrailEntry := []

namespace World

/-- A target of a rule covers an item or repository. -/
def covers (target text : String) : Bool := target == "*" || target == text

/-- The failure of a call, by the first rule that fits it. -/
def failureOf (w : World) (operation : Operation) (target : String) (argument? : Option String) :
    Option ServiceError :=
  (w.failures.find? fun rule =>
    rule.operation == operation.name && covers rule.target target &&
      (rule.argument?.isNone || rule.argument? == argument?)).map FailureRule.error

/-- The nanoseconds that a lookup takes, by the first stall that fits it. -/
def stallOf (w : World) (operation : Operation) (target : String) : Nat :=
  match w.stalls.find? fun s => s.operation == operation.name && covers s.target target with
  | some s => s.millis * 1000000
  | none => 0

/-- A lookup in the world. -/
def look {α : Type} (w : World) (operation : Operation) (issue : IssueRef) (answer : α) :
    Lookup ServiceError α :=
  ⟨w.stallOf operation issue.text, match w.failureOf operation issue.text none with
    | some e => .error e
    | none => .ok answer⟩

/-- The items of a repository, in order. -/
def listed (w : World) (repository : RepositoryId) : List Issue :=
  (w.items.map WorldItem.issue).filter fun i =>
    i.reference.repository == repository && (w.listClosed || i.state == .opened)

def openIssues (w : World) (repository : RepositoryId) : Except ServiceError (List Issue) :=
  match w.failureOf .openIssues repository.text none with
  | some e => .error e
  | none => .ok (w.listed repository)

def issue (w : World) (ref : IssueRef) : Except ServiceError (Option Issue) :=
  match w.failureOf .issue ref.text none with
  | some e => .error e
  | none => .ok ((w.items.map WorldItem.issue).find? (·.reference == ref))

/-- The newest comment and then the newest activity of a member. -/
def memberSignals (w : World) (ref : IssueRef) : Lookup.MemberSignals :=
  (w.look .comment ref (w.comments.lookup ref)).andThen
    (w.look .activity ref (w.activity.lookup ref))

def pipeline (w : World) (ref : IssueRef) : Lookup ServiceError (Option Pipeline) :=
  w.look .pipeline ref (w.pipelines.lookup ref)

/-- The signals about an item, with a bound on each of the two lookups. -/
def signals (w : World) (limit : Nat) (ref : IssueRef) : Except LifecycleError Signals :=
  (Lookup.signals limit ref (w.memberSignals ref) (w.pipeline ref)).result

end World

/-- The item after a change. A label that is there already is not added again. -/
def WorldItem.mutate (item : WorldItem) : Mutation → WorldItem
  | .addLabel label =>
    if label ∈ item.issue.labels then item
    else { item with issue := item.issue.apply (.addLabel label) }
  | .removeLabel label => { item with issue := item.issue.apply (.removeLabel label) }
  | .upsertComment body _ => { item with botComment := some body }
  | .removeComment _ => { item with botComment := none }
  | .close => { item with issue := item.issue.apply .close }

namespace World

/-- Changes the first item with a reference. -/
def updateFirst (ref : IssueRef) (f : WorldItem → WorldItem) : List WorldItem → List WorldItem
  | [] => []
  | item :: rest =>
    if item.issue.reference = ref then f item :: rest else item :: updateFirst ref f rest

/-- The world with a change made to an item. -/
def change (w : World) (ref : IssueRef) (mutation : Mutation) : World :=
  { w with items := updateFirst ref (·.mutate mutation) w.items }

/-- The world with an entry at the end of its trail. -/
def note (w : World) (entry : TrailEntry) : World := { w with trail := w.trail ++ [entry] }

/-- Asks for a change. It is noted before it is made or fails. -/
def mutate (w : World) (ref : IssueRef) (mutation : Mutation) : Except ServiceError Unit × World :=
  let w := w.note (.call ref mutation)
  match w.failureOf (.ofMutation mutation) ref.text mutation.argument? with
  | some e => (.error e, w)
  | none => (.ok (), w.change ref mutation)

/-- The manager's operations on a world. -/
def tracker : Tracker (StateM World) where
  openIssues repository := fun w => (w.openIssues repository, w)
  issue ref := fun w => (w.issue ref, w)
  signals limit issue := fun w => (w.signals limit issue.reference, w)
  mutate ref mutation := fun w => w.mutate ref mutation
  now := fun w => (w.now, w)
  observe event := fun w => ((), w.note (.seen event))

end World

end Upkeep
