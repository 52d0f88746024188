import Upkeep.Sweep.Log
import Upkeep.Sweep.Report
import Upkeep.Wire.Decision
/-!
The written form of sweep reports and of the log.
-/

namespace Upkeep

/-- The value of the report on a repository. -/
def RepositoryReport.toValue (r : RepositoryReport) : Value :=
  .table [("repository", .text r.repository.text), ("stats", r.stats.toValue),
    ("processed", .ofNat r.processed), ("failed", .ofNat r.failed)]

namespace SweepReport

/-- The entries of a report. -/
def entries (r : SweepReport) : List (String × Value) :=
  [("dry_run", .bool r.dryRun),
    ("repositories", .list (r.repositories.map RepositoryReport.toValue)),
    ("skipped", .list (r.skipped.map fun s => .text s.text))]

/-- The value of a report. -/
def toValue (r : SweepReport) : Value := .table r.entries

end SweepReport

/-- The value of an entry of the log. -/
def LogEntry.toValue (e : LogEntry) : Value :=
  .table [("level", .text e.level.text),
    ("fields", .table (("message", .text e.message) :: e.fields.map fun (k, v) => (k, .text v)))]

end Upkeep
