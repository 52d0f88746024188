import Std.Time.DateTime.Timestamp
import Upkeep.Json.Printer
import Upkeep.Program
/-!
The entry point: arguments, environment, files and the clock.

There is no network here, so that every request fails.
-/

namespace Upkeep.Main

/-- The time on the clock of the machine. -/
def currentInstant : IO Instant := do
  let stamp ← Std.Time.Timestamp.now
  return Instant.clamp stamp.toNanosecondsSinceUnixEpoch.toInt

/-- A transport without a network. -/
def offline : Http.Transport IO where
  exchange _ := pure none
  pause nanos := IO.sleep (nanos / 1000000).toUInt32
  now := currentInstant

/-- One thing after the other. -/
def inSequence : Concurrency IO where
  within _ act := some <$> act
  both first second := do
    match ← first with
    | .error e => return .error e
    | .ok a => return (← second).map fun b => (a, b)
  pool := Pool.inTurn []

/-- A memory that lasts as long as the program runs. -/
def memo {κ α : Type} [BEq κ] : IO (Http.Memo IO κ α) := do
  let entries ← IO.mkRef ([] : List (κ × α))
  return {
    find? := fun key => return (← entries.get).lookup key
    insert := fun key a => entries.modify ((key, a) :: ·) }

/-- The text of a file, if it can be read. -/
def textAt (path : String) : IO (Option String) := do
  try
    return some (← IO.FS.readFile path)
  catch _ =>
    return none

/-- The variables of the environment that settings stand for. -/
def environment : IO (List (String × String)) := do
  let names := Setting.all.filterMap Setting.envName?
  let values ← names.mapM fun name => return (name, ← IO.getEnv name)
  return values.filterMap fun (name, value?) => value?.map fun value => (name, value)

def usage : String :=
  "usage: upkeep [--config FILE] [--log-format pretty|json] --github-token TOKEN\n" ++
    "              [--zenhub-token TOKEN] sweep [--dry-run] | manage ORG/REPO#NUMBER"

/-- Says why the program is not run. -/
def explain : Stop → IO Unit
  | .help => IO.println usage
  | .version => IO.println "upkeep 0.1.0"
  | .usage error => do
    IO.eprintln ("error: " ++ error.message)
    IO.eprintln usage

/-- Writes an entry of the log in the format that was asked for. -/
def log (format : String) (entry : LogEntry) : IO Unit :=
  if format = "json" then IO.eprintln (Json.print entry.toValue)
  else
    let fields := entry.fields.map fun (k, v) => " " ++ k ++ "=" ++ v
    IO.eprintln (entry.level.text ++ " " ++ entry.message ++ String.join fields)

/-- Runs an invocation, writes out what came of it, and gives the exit code. -/
def execute (invocation : Invocation) : IO Nat := do
  let memory : Memory IO := { members := ← memo, numbers := ← memo }
  let surroundings : Surroundings IO :=
    { transport := offline
      concurrency := inSequence
      memory
      textAt
      log := log invocation.logFormat }
  let outcome ← Program.run surroundings invocation
  if let some value := outcome.output? then IO.println (Json.pretty "" value)
  if let some failure := outcome.failure? then IO.eprintln ("error: " ++ failure.message)
  return Program.exitCode outcome

end Upkeep.Main

def main (arguments : List String) : IO UInt32 := do
  let given ← Upkeep.Main.environment
  match Upkeep.CommandLine.read arguments (given.lookup ·) with
  | .error stop => do
    Upkeep.Main.explain stop
    return (Upkeep.Program.stopCode stop).toUInt32
  | .ok invocation => return (← Upkeep.Main.execute invocation).toUInt32
