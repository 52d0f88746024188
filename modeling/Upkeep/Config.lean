import Upkeep.Sweep.Log
import Upkeep.Sweep.Manager
import Upkeep.Toml.Document
import Upkeep.Wire.Policy
/-!
The configuration file.

`Config.parse` reads the text of a configuration. The document and its sections are read first, in
document order; then the default record, the overrides one by one, and the registry they make up.
A section that is left out has nothing but defaults. A `lifecycle` section with only overrides
makes no default record.
-/

namespace Upkeep

/-! ## Failures -/

/-- The part of a configuration that cannot be read. Overrides are counted from zero. -/
inductive ConfigPlace
  | file
  | defaultRecord
  | overrideRepositories (position : Nat)
  | overrideRecord (position : Nat)
deriving DecidableEq, Repr

/-- What is said about a part of a configuration that cannot be read. -/
def ConfigPlace.context? : ConfigPlace → Option String
  | .file => none
  | .defaultRecord => some "invalid [lifecycle] default record"
  | .overrideRepositories n => some ("invalid repos in lifecycle override #" ++ decimalText n)
  | .overrideRecord n => some ("invalid lifecycle override #" ++ decimalText n)

/-- Why there is no configuration. -/
inductive ConfigError
  | missingFile (path : String)
  /-- The text is no TOML document. -/
  | illFormed
  | undecodable (place : ConfigPlace) (cause : DecodeError)
  | registry (cause : RegistryError)
  | noConcurrency
deriving DecidableEq, Repr

namespace ConfigError

/-- The sentence that reports why there is no configuration, if there is more to say than that the
text cannot be read. -/
def message? : ConfigError → Option String
  | missingFile path => some ("reading configuration file " ++ path)
  | illFormed => none
  | undecodable _ cause => cause.message?
  | registry cause => some cause.message
  | noConcurrency => some "concurrency must be at least 1"

/-- What is said about the part that cannot be read. -/
def context? : ConfigError → Option String
  | undecodable place _ => place.context?
  | _ => none

end ConfigError

/-! ## The sections of the file -/

/-- The entries of a section. A section may also be given as the list of its fields, all of them;
items after the last field are passed over. -/
def Value.configSection (shape : List FieldShape) : Decoder (List (String × Value))
  | .list items => FieldShape.nameItems shape (items.take shape.length)
  | v => v.record shape true

/-- Where the issues are and how long a rate limit is waited for. -/
structure GitHubSection where
  apiUrl? : Option String := none
  maxRateLimitWait? : Option Delay := none

def GitHubSection.ofValue : Decoder GitHubSection := fun v => do
  let entries ← v.configSection
    [.required "api_url" Decoder.text, .required "max_rate_limit_wait" Decoder.delay]
  return ⟨← Fields.defaulted entries "api_url" (fun v => (Decoder.text v).map some) none,
    ← Fields.defaulted entries "max_rate_limit_wait" (fun v => (Decoder.delay v).map some) none⟩

/-- Where the boards are. -/
structure ZenHubSection where
  apiUrl? : Option String := none

def ZenHubSection.ofValue : Decoder ZenHubSection := fun v => do
  let entries ← v.configSection [.required "api_url" Decoder.text]
  return ⟨← Fields.defaulted entries "api_url" (fun v => (Decoder.text v).map some) none⟩

/-- The policy records, not read yet: the entries of the default record and those of each override,
sorted by key. -/
structure PolicySection where
  defaultEntries : List (String × Value) := []
  overrides : List (List (String × Value)) := []

/-- The entries of a table, sorted by key, with texts in the place of dates and times. -/
def Decoder.sortedEntries (alone : Bool) : Decoder (List (String × Value))
  | .table entries => (Value.plainEntries alone entries).map (Value.normalizeEntries [])
  | _ => .error .malformed

/-- The key of the overrides in the section of the policy records. -/
def PolicySection.overridesKey : String := "overrides"

def PolicySection.ofValue : Decoder PolicySection
  | .table entries => do
    let overrides ←
      Fields.defaulted entries overridesKey (Decoder.list (Decoder.sortedEntries false)) []
    let defaultEntries ← Decoder.sortedEntries true (.table (entries.filter (·.1 != overridesKey)))
    return ⟨defaultEntries, overrides⟩
  | _ => .error .malformed

/-- The file, with its policy records not read yet. -/
structure ConfigFile where
  repositories : List RepositoryId
  concurrency : Nat
  signalTimeout : Delay
  gitHub : GitHubSection
  zenHub : ZenHubSection
  policies : PolicySection

namespace ConfigFile

def shape : List FieldShape :=
  [.required "repos" (Decoder.list Decoder.repositoryId),
    .defaulted "concurrency" Decoder.nat64,
    .defaulted "signal_timeout" Decoder.delay,
    .defaulted "github" GitHubSection.ofValue,
    .defaulted "zenhub" ZenHubSection.ofValue,
    .defaulted "lifecycle" PolicySection.ofValue]

/-- Reads the sections. The file must list its repositories. -/
def ofValue : Decoder ConfigFile := fun v => do
  let entries ← v.record shape true
  return {
    repositories := ← Fields.required entries "repos" (Decoder.list Decoder.repositoryId)
    concurrency := ← Fields.defaulted entries "concurrency" Decoder.nat64 4
    signalTimeout := ← Fields.defaulted entries "signal_timeout" Decoder.delay ⟨30⟩
    gitHub := ← Fields.defaulted entries "github" GitHubSection.ofValue {}
    zenHub := ← Fields.defaulted entries "zenhub" ZenHubSection.ofValue {}
    policies := ← Fields.defaulted entries "lifecycle" PolicySection.ofValue {} }

end ConfigFile

/-! ## Policy records -/

namespace PolicySection

/-- Reads the default record, if there is one. -/
def default? (s : PolicySection) : Except ConfigError (Option PolicyRecord) :=
  if s.defaultEntries.isEmpty then .ok none
  else
    ((PolicyRecord.ofValue (.table s.defaultEntries)).map some).mapError
      (.undecodable .defaultRecord)

/-- The place of an override that cannot be read, and why it cannot. -/
def overrideError (position : Nat) : OverrideError → ConfigError
  | .repositories cause => .undecodable (.overrideRepositories position) cause
  | .record cause => .undecodable (.overrideRecord position) cause

/-- Reads overrides one after the other, the first of them at the given position. -/
def readOverrides : Nat → List (List (String × Value)) → Except ConfigError (List PolicyOverride)
  | _, [] => .ok []
  | position, entries :: rest =>
    match PolicyOverride.ofEntries entries with
    | .error e => .error (overrideError position e)
    | .ok o => (readOverrides (position + 1) rest).map (o :: ·)

end PolicySection

/-! ## Configurations -/

/-- A configuration that a manager can run with. -/
structure Config where
  registry : Registry
  /-- The number of repositories that are swept at the same time, at least one. -/
  concurrency : Nat
  signalTimeout : Delay
  maxRateLimitWait : Delay
  gitHubUrl? : Option String
  zenHubUrl? : Option String

/-- A remark about a configuration that can be run with, but perhaps not as was meant. -/
inductive ConfigWarning
  /-- The repository has no policy record. -/
  | noPolicy (repository : RepositoryId)
  /-- Items of this kind are never marked stale before they are closed. -/
  | closesUnwarned (repository : RepositoryId) (kind : StalenessKind)
deriving DecidableEq, Repr

/-- The sentence of a remark. -/
def ConfigWarning.message : ConfigWarning → String
  | .noPolicy _ => "No lifecycle policy applies; repository will be skipped"
  | .closesUnwarned _ _ =>
    "Close delay is not longer than stale delay; items may close without a stale warning"

/-- The entry of the log for a remark. -/
def ConfigWarning.logEntry (w : ConfigWarning) : LogEntry :=
  ⟨.warn, w.message, match w with
    | .noPolicy r => [("repository", r.text)]
    | .closesUnwarned r kind => [("repository", r.text), ("kind", kind.text)]⟩

namespace Config

/-- Makes a configuration of the sections of a file. -/
def ofFile (file : ConfigFile) : Except ConfigError Config := do
  let default? ← file.policies.default?
  let overrides ← PolicySection.readOverrides 0 file.policies.overrides
  let registry ← (Registry.build file.repositories default? overrides).mapError .registry
  if file.concurrency = 0 then .error .noConcurrency
  else
    return {
      registry
      concurrency := file.concurrency
      signalTimeout := file.signalTimeout
      maxRateLimitWait := file.gitHub.maxRateLimitWait?.getD ⟨15 * 60⟩
      gitHubUrl? := file.gitHub.apiUrl?
      zenHubUrl? := file.zenHub.apiUrl? }

/-- Reads a configuration from a document. -/
def ofDocument (document : Value) : Except ConfigError Config :=
  match ConfigFile.ofValue document with
  | .error e => .error (.undecodable .file e)
  | .ok file => ofFile file

/-- Reads the text of a configuration file. -/
def parse (text : String) : Except ConfigError Config :=
  match Toml.parse? text with
  | none => .error .illFormed
  | some document => ofDocument document

/-- Reads a configuration file of which the text is given, if it exists. -/
def load (path : String) (text? : Option String) : Except ConfigError Config :=
  match text? with
  | none => .error (.missingFile path)
  | some text => parse text

/-- The remarks about a configuration, repository by repository. -/
def warnings (c : Config) : List ConfigWarning :=
  c.registry.repositories.flatMap fun r =>
    match c.registry.recordFor r with
    | none => [.noPolicy r]
    | some record => record.orderingViolations.map (.closesUnwarned r)

/-- How the manager works under a configuration. -/
def settings (c : Config) : Settings :=
  ⟨c.concurrency, c.signalTimeout.seconds * nanosPerSecond⟩

end Config

end Upkeep
