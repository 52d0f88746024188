import Upkeep.Concurrency
import Upkeep.Config
import Upkeep.GitHub.Members
import Upkeep.ZenHub
/-!
The services that a live manager works with.

`Services.connect` sets up the clients that a configuration asks for, and `Services.tracker` gives
the manager its operations over them.
-/

namespace Upkeep

/-- The clients of a live manager. Without a client of the board no item has a pipeline. -/
structure Services (m : Type → Type) where
  transport : Http.Transport m
  github : GitHub.Client m
  members : GitHub.MemberResolver m
  zenhub? : Option (ZenHub.Client m)

/-- What clients remember. -/
structure Memory (m : Type → Type) where
  members : Http.Memo m String (List String)
  numbers : Http.Memo m RepositoryId Nat

/-- The tokens that the services ask for. -/
structure Tokens where
  github : String
  zenhub? : Option String

namespace Services

variable {m : Type → Type}

/-- What the client of GitHub is set up with under a configuration. -/
def gitHubConfig (config : Config) (token : String) : GitHub.Config :=
  let base : GitHub.Config := { token }
  { base with
    apiUrl := config.gitHubUrl?.getD base.apiUrl
    maxRateLimitWait := config.maxRateLimitWait.seconds * nanosPerSecond }

/-- What the client of the board is set up with under a configuration. -/
def zenHubConfig (config : Config) (token : String) : ZenHub.Config :=
  let base : ZenHub.Config := { token }
  { base with apiUrl := config.zenHubUrl?.getD base.apiUrl }

/-- Sets up the clients, the one of GitHub first. -/
def connect (transport : Http.Transport m) (memory : Memory m) (config : Config)
    (tokens : Tokens) : Except GitHub.ConfigError (Services m) := do
  let github ← GitHub.Client.create transport (gitHubConfig config tokens.github)
  let members := ⟨github, memory.members⟩
  match tokens.zenhub? with
  | none => return ⟨transport, github, members, none⟩
  | some token =>
    let zenhub ←
      ZenHub.Client.create transport github memory.numbers (zenHubConfig config token)
    return ⟨transport, github, members, some zenhub⟩

variable [Monad m]

/-- Looks up the pipeline of an item. -/
def pipelineOf (s : Services m) (issue : IssueRef) : m (Except ServiceError (Option Pipeline)) :=
  match s.zenhub? with
  | none => pure (.ok none)
  | some zenhub => zenhub.classification issue

/-- A lookup about an item that has a number of nanoseconds. -/
def bounded {α : Type} (concurrency : Concurrency m) (limit : Nat) (issue : IssueRef)
    (target : LookupTarget) (look : m (Except ServiceError α)) : m (Except LifecycleError α) := do
  let outcome ← concurrency.within limit look
  pure ((outcome.getD (.error (.timeout limit))).mapError (.signalLookup issue target))

/-- Gathers the signals about an item from lookups of what members did and of the pipeline, each
under the same bound and both at the same time. -/
def gather (concurrency : Concurrency m) (limit : Nat) (issue : IssueRef)
    (member : m (Except ServiceError (Option Instant × Option Instant)))
    (pipeline : m (Except ServiceError (Option Pipeline))) : m (Except LifecycleError Signals) := do
  let found ← concurrency.both (bounded concurrency limit issue .memberActivity member)
    (bounded concurrency limit issue .pipeline pipeline)
  pure (found.map fun ((comment, activity), pipeline) => ⟨comment, activity, pipeline⟩)

/-- Gathers the signals about an item from what the services know. -/
def signals (s : Services m) (concurrency : Concurrency m) (limit : Nat) (issue : Issue) :
    m (Except LifecycleError Signals) :=
  gather concurrency limit issue.reference
    (s.members.signals issue.reference issue.isPullRequest) (s.pipelineOf issue.reference)

/-- The operations of the manager over the services. -/
def tracker (s : Services m) (concurrency : Concurrency m) (observe : Event → m Unit) :
    Tracker m where
  openIssues r := s.github.openIssues r
  issue i := s.github.issue i
  signals limit issue := s.signals concurrency limit issue
  mutate i change := s.github.mutate i change
  now := s.transport.now
  observe := observe

end Services

end Upkeep
