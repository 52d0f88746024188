import Upkeep.CommandLine
import Upkeep.Services
import Upkeep.Wire.Report
/-!
The program behind the command line.

`Program.run` loads the configuration, connects the services and carries out the command. What a
sweep achieved is written out even when a repository could not be swept. Remarks about the
configuration and what the manager reports go to the log. The outcome of a run says what is written
out and whether the run failed; `Program.exitCode` turns it into a number.
-/

namespace Upkeep

/-- Why a run fails. -/
inductive RunFailure
  | configuration (cause : ConfigError)
  | connection (cause : GitHub.ConfigError)
  | sweep (cause : SweepError)
  | manage (cause : LifecycleError)

/-- The sentence that reports why a run fails. -/
def RunFailure.message : RunFailure → String
  | configuration cause => cause.message?.getD "invalid configuration"
  | connection cause => cause.message
  | sweep cause => cause.message
  | manage cause => cause.message

/-- What comes of a run: what is written out, and why it fails if it does. -/
structure RunOutcome where
  output? : Option Value := none
  failure? : Option RunFailure := none

/-- What the program needs from its surroundings. -/
structure Surroundings (m : Type → Type) where
  transport : Http.Transport m
  concurrency : Concurrency m
  memory : Memory m
  /-- The text of a file, if there is such a file. -/
  textAt : String → m (Option String)
  log : LogEntry → m Unit

namespace Program

variable {m : Type → Type} [Monad m]

/-- Carries out a command. -/
def perform (tracker : Tracker m) (pool : Pool m) (config : Config) : Command → m RunOutcome
  | .sweep dryRun => do
    match ← Manager.sweepAll tracker pool config.settings config.registry dryRun with
    | .ok report => return { output? := some report.toValue }
    | .error e => return { output? := some e.report.toValue, failure? := some (.sweep e) }
  | .manage issue => do
    match ← Manager.manageOne tracker config.settings config.registry issue with
    | .ok decision => return { output? := some decision.toValue }
    | .error e => return { failure? := some (.manage e) }

/-- Logs what the manager reports. -/
def observe (log : LogEntry → m Unit) (event : Event) : m Unit :=
  match event.logEntry? with
  | some entry => log entry
  | none => pure ()

/-- Runs an invocation. -/
def run (surroundings : Surroundings m) (invocation : Invocation) : m RunOutcome := do
  match Config.load invocation.configPath (← surroundings.textAt invocation.configPath) with
  | .error e => return { failure? := some (.configuration e) }
  | .ok config => do
    config.warnings.forM fun w => surroundings.log w.logEntry
    match Services.connect surroundings.transport surroundings.memory config
        ⟨invocation.gitHubToken, invocation.zenHubToken?⟩ with
    | .error e => return { failure? := some (.connection e) }
    | .ok services =>
      let concurrency := surroundings.concurrency
      let tracker := services.tracker concurrency (observe surroundings.log)
      perform tracker concurrency.pool config invocation.command

/-- The exit code of a program that stops before it is run. -/
def stopCode : Stop → Nat
  | .usage _ => 2
  | .help => 0
  | .version => 0

/-- The exit code of a run. -/
def exitCode (outcome : RunOutcome) : Nat := if outcome.failure?.isSome then 1 else 0

end Program

end Upkeep
