import Upkeep.Decision.Evaluate
import Upkeep.Policy.Registry
import Upkeep.Sweep.Pool
import Upkeep.Sweep.Tracker
import Upkeep.Sweep.Report
/-!
The manager: it lists items, gathers the signals about them, evaluates and applies.

A failed lookup or change gives up that item only, and a repository whose items cannot be listed is
given up while the others carry on. Nothing is tried again; the next sweep finds out anew what is
left to do.
-/

namespace Upkeep

/-- How the manager works. -/
structure Settings where
  /-- The number of repositories that are swept at the same time. -/
  concurrency : Nat := 4
  /-- The bound on each lookup of signals, in nanoseconds. -/
  signalTimeout : Nat := 30 * nanosPerSecond
deriving DecidableEq, Repr

namespace Manager

variable {m : Type → Type} [Monad m]

/-- Applies actions in order up to the first that fails, and reports each one that succeeded. In a
dry run the actions are only reported. -/
def applyActions (tracker : Tracker m) (issue : IssueRef) (dryRun : Bool) :
    List Action → m (Except LifecycleError Unit)
  | [] => pure (.ok ())
  | action :: rest => do
    let applied ← if dryRun then pure (.ok ()) else tracker.mutate issue (.ofAction action)
    match applied with
    | .error e => pure (.error (.actionApply issue action e))
    | .ok () => do
      tracker.observe (.action issue action dryRun)
      applyActions tracker issue dryRun rest

/-- The signals that an evaluation needs. Those of a closed item are never read, so that they are
not looked up. -/
def signalsFor (tracker : Tracker m) (settings : Settings) (issue : Issue) :
    m (Except LifecycleError Signals) :=
  if issue.state = .closed then pure (.ok .unknown)
  else tracker.signals settings.signalTimeout issue

/-- Evaluates an item and applies the decision. -/
def processIssue (tracker : Tracker m) (settings : Settings) (policy : PolicyRecord) (now : Instant)
    (dryRun : Bool) (issue : Issue) : m (Except LifecycleError Decision) := do
  match ← signalsFor tracker settings issue with
  | .error e => pure (.error e)
  | .ok signals => do
    let decision := evaluate issue policy signals now
    tracker.observe (.evaluated issue.reference decision.disposition)
    match ← applyActions tracker issue.reference dryRun decision.actions with
    | .error e => pure (.error e)
    | .ok () => pure (.ok decision)

/-- Processes the items of a repository one after the other and counts what came of them. -/
def processIssues (tracker : Tracker m) (settings : Settings) (policy : PolicyRecord)
    (now : Instant) (dryRun : Bool) : RepositoryReport → List Issue → m RepositoryReport
  | report, [] => pure report
  | report, issue :: rest => do
    match ← processIssue tracker settings policy now dryRun issue with
    | .ok decision =>
      processIssues tracker settings policy now dryRun
        { report with
          stats := report.stats.add decision.stats
          processed := report.processed + 1 } rest
    | .error e => do
      tracker.observe (.failed issue.reference e)
      processIssues tracker settings policy now dryRun
        { report with failed := report.failed + 1 } rest

/-- Sweeps one repository. -/
def sweepRepository (tracker : Tracker m) (settings : Settings) (registry : Registry)
    (now : Instant) (dryRun : Bool) (repository : RepositoryId) : m RepositoryOutcome := do
  match registry.recordFor repository with
  | none => do
    tracker.observe (.skipped repository (.policyMissing repository))
    pure (.skipped repository)
  | some policy => do
    match ← tracker.openIssues repository with
    | .error e => do
      tracker.observe (.skipped repository (.structural repository e))
      pure (.failed (.structural repository e))
    | .ok issues => do
      let report ← processIssues tracker settings policy now dryRun { repository } issues
      tracker.observe (.summary repository report.stats)
      pure (.swept report)

/-- Sweeps every configured repository. All items are evaluated at the instant at which the sweep
began. The pool settles which of the repositories under way goes on next. -/
def sweepAll (tracker : Tracker m) (pool : Pool m) (settings : Settings) (registry : Registry)
    (dryRun : Bool) : m (Except SweepError SweepReport) := do
  let now ← tracker.now
  let arrivals ← pool.conduct settings.concurrency
    (registry.repositories.map (sweepRepository tracker settings registry now dryRun))
  pure (SweepReport.assemble dryRun arrivals)

/-- Evaluates and updates a single item, never as a dry run. An item of a repository that is not
configured or has no policy record is left alone. -/
def manageOne (tracker : Tracker m) (settings : Settings) (registry : Registry) (ref : IssueRef) :
    m (Except LifecycleError Decision) := do
  if ref.repository ∉ registry.repositories then pure (.ok .empty)
  else
    match registry.recordFor ref.repository with
    | none => do
      tracker.observe (.skipped ref.repository (.policyMissing ref.repository))
      pure (.ok .empty)
    | some policy => do
      match ← tracker.issue ref with
      | .error e => pure (.error (.signalLookup ref .issue e))
      | .ok none => pure (.error (.issueNotFound ref))
      | .ok (some issue) => do
        let now ← tracker.now
        processIssue tracker settings policy now false issue

end Manager

end Upkeep
