import Upkeep.Failure
/-!
The outcome of a sweep.

Repositories finish in any order. `SweepReport.assemble` brings their outcomes into configuration
order and sorts them into the repositories that were swept, those that were skipped and those that
failed.
-/

namespace Upkeep

/-- What came of sweeping one repository. -/
structure RepositoryReport where
  repository : RepositoryId
  stats : Stats := .zero
  /-- The items that were evaluated and, outside dry runs, updated. -/
  processed : Nat := 0
  /-- The items that were given up after a failed lookup or change. -/
  failed : Nat := 0
deriving DecidableEq

/-- How the work on one repository ended. -/
inductive RepositoryOutcome
  | swept (report : RepositoryReport)
  /-- No policy record covers the repository. -/
  | skipped (repository : RepositoryId)
  /-- The items of the repository could not be listed. -/
  | failed (reason : LifecycleError)
deriving DecidableEq

/-- What came of a whole sweep. -/
structure SweepReport where
  dryRun : Bool
  /-- The repositories that were swept, in configuration order. -/
  repositories : List RepositoryReport
  /-- The repositories without a policy record, in configuration order. -/
  skipped : List RepositoryId
deriving DecidableEq

/-- A sweep in which the items of a repository could not be listed: the report of the others, and
the first such failure in configuration order. -/
structure SweepError where
  report : SweepReport
  source : LifecycleError
deriving DecidableEq

/-- The sentence that reports an incomplete sweep. -/
def SweepError.message (_ : SweepError) : String := "Lifecycle sweep incomplete"

namespace RepositoryOutcome

def report? : RepositoryOutcome → Option RepositoryReport
  | swept r => some r
  | _ => none

def skipped? : RepositoryOutcome → Option RepositoryId
  | skipped r => some r
  | _ => none

def failure? : RepositoryOutcome → Option LifecycleError
  | failed e => some e
  | _ => none

end RepositoryOutcome

namespace SweepReport

/-- The statistics of all repositories. -/
def totals (r : SweepReport) : Stats := Stats.sum (r.repositories.map RepositoryReport.stats)

/-- The number of items given up. -/
def failedIssues (r : SweepReport) : Nat :=
  r.repositories.foldl (fun n report => n + report.failed) 0

/-- The outcomes of the repositories, each with its place in the configuration, in configuration
order. -/
def inOrder (arrivals : List (Nat × RepositoryOutcome)) : List RepositoryOutcome :=
  (arrivals.mergeSort fun a b => decide (a.1 ≤ b.1)).map Prod.snd

/-- The report on a list of outcomes. -/
def ofOutcomes (dryRun : Bool) (outcomes : List RepositoryOutcome) : SweepReport :=
  ⟨dryRun, outcomes.filterMap RepositoryOutcome.report?,
    outcomes.filterMap RepositoryOutcome.skipped?⟩

/-- The outcome of a sweep from those of the repositories, given as they arrived. -/
def assemble (dryRun : Bool) (arrivals : List (Nat × RepositoryOutcome)) :
    Except SweepError SweepReport :=
  let outcomes := inOrder arrivals
  let report := ofOutcomes dryRun outcomes
  match outcomes.findSome? RepositoryOutcome.failure? with
  | some source => .error ⟨report, source⟩
  | none => .ok report

end SweepReport

end Upkeep
