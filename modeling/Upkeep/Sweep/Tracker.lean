import Upkeep.Sweep.Lookup
/-!
What the manager needs from its surroundings.

`Tracker` lists the operations of an issue tracker and what goes with them: listing and reading
items, looking up signals, changing items, reading the clock, and reporting what happens. They run
in a monad of the caller's choice, so that the manager itself is the same for a live service and
for a world in memory.
-/

namespace Upkeep

/-- A change that a service is asked to make to an item. -/
inductive Mutation
  | addLabel (label : String)
  | removeLabel (label : String)
  /-- Creates the comment with the signature, or replaces it if its text is another. -/
  | upsertComment (body signature : String)
  /-- Deletes the comment with the signature, if there is one. -/
  | removeComment (signature : String)
  | close
deriving DecidableEq, Repr

/-- The change that an action asks for. Comments are signed. -/
def Mutation.ofAction : Action → Mutation
  | .addLabel label => .addLabel label
  | .removeLabel label => .removeLabel label
  | .postComment _ body => .upsertComment (body ++ botSignature) botSignature
  | .removeComment => .removeComment botSignature
  | .close => .close

/-- What the manager reports while it works. -/
inductive Event
  /-- An action was applied, or would have been in a dry run. -/
  | action (issue : IssueRef) (action : Action) (dryRun : Bool)
  | evaluated (issue : IssueRef) (disposition : Disposition)
  /-- An item was given up, and the sweep goes on to the next. -/
  | failed (issue : IssueRef) (reason : LifecycleError)
  /-- The items of a repository are done. -/
  | summary (repository : RepositoryId) (stats : Stats)
  /-- A repository was left out. -/
  | skipped (repository : RepositoryId) (reason : LifecycleError)
deriving DecidableEq

/-- The repository that an event belongs to. -/
def Event.repository : Event → RepositoryId
  | .action issue _ _ => issue.repository
  | .evaluated issue _ => issue.repository
  | .failed issue _ => issue.repository
  | .summary repository _ => repository
  | .skipped repository _ => repository

/-- The operations that the manager is built on. -/
structure Tracker (m : Type → Type) where
  /-- The items of a repository that are to be looked at. -/
  openIssues : RepositoryId → m (Except ServiceError (List Issue))
  /-- The current state of an item, if it exists. -/
  issue : IssueRef → m (Except ServiceError (Option Issue))
  /-- The signals about an item. The lookups behind them have the given number of nanoseconds
  each. -/
  signals : Nat → Issue → m (Except LifecycleError Signals)
  mutate : IssueRef → Mutation → m (Except ServiceError Unit)
  now : m Instant
  observe : Event → m Unit

end Upkeep
