import Upkeep.Sweep.Tracker
/-!
The log.

What the manager reports becomes entries of a log. An evaluation by itself is not worth an entry.
-/

namespace Upkeep

inductive LogLevel
  | info
  | warn
deriving DecidableEq, Repr

def LogLevel.text : LogLevel → String
  | info => "INFO"
  | warn => "WARN"

/-- An entry of the log: a sentence, and what it is about. -/
structure LogEntry where
  level : LogLevel
  message : String
  fields : List (String × String)
deriving DecidableEq, Repr

/-- The entry for what the manager reports, if it gets one. -/
def Event.logEntry? : Event → Option LogEntry
  | .action issue a dryRun =>
    some ⟨.info, if dryRun then "Would have applied action" else "Applied action",
      [("issue", issue.text), ("action", a.text)]⟩
  | .evaluated _ _ => none
  | .failed issue reason =>
    some ⟨.warn, "Skipping issue after error", [("issue", issue.text), ("error", reason.message)]⟩
  | .summary repository stats =>
    some ⟨.info, "Lifecycle stats", [("repository", repository.text), ("stats", stats.text)]⟩
  | .skipped repository reason =>
    some ⟨.warn, "Skipping repository",
      [("repository", repository.text), ("reason", reason.message)]⟩

end Upkeep
