import Upkeep.GitHub.Issues
/-!
The ZenHub board.

ZenHub knows repositories by the numbers that GitHub gives them; each number is asked for once and
then remembered. An item that is not on the board has no pipeline.
-/

namespace Upkeep.ZenHub

/-- What a client is set up with. -/
structure Config where
  apiUrl : String := "https://api.zenhub.com"
  token : String

/-- A client of the board. -/
structure Client (m : Type → Type) where
  transport : Http.Transport m
  github : GitHub.Client m
  apiUrl : String
  headers : List (String × String)
  /-- The numbers of repositories. -/
  numbers : Http.Memo m RepositoryId Nat

/-- The name of the pipeline in the row of an item. -/
def pipelineNameOfValue : Decoder (Option String) := fun v => do
  let name : Decoder String := fun v => do
    let fields ← v.record [.required "name" Decoder.text] false
    Fields.required fields "name" Decoder.text
  let fields ← v.record [.defaulted "pipeline" (Decoder.nullable name)] false
  Fields.defaulted fields "pipeline" (Decoder.nullable name) none

namespace Client

variable {m : Type → Type}

/-- Sets up a client. -/
def create (transport : Http.Transport m) (github : GitHub.Client m)
    (numbers : Http.Memo m RepositoryId Nat) (config : Config) :
    Except GitHub.ConfigError (Client m) :=
  if !Http.isHeaderValue (trim config.token) then .error (.invalidToken "ZenHub")
  else .ok
    { transport, github, numbers
      apiUrl := GitHub.withoutTrailingSlashes config.apiUrl
      headers := [("x-authentication-token", trim config.token)] }

variable [Monad m]

/-- The number of a repository, asked for at the first time and then remembered. A number that
could not be had is not remembered. -/
def numberOf (c : Client m) (r : RepositoryId) : m (Except ServiceError Nat) := do
  match ← c.numbers.find? r with
  | some n => pure (.ok n)
  | none => do
    match ← c.github.get "get repository" (GitHub.repositoryPath r)
        GitHub.repositoryNumberOfValue with
    | .error e => pure (.error e)
    | .ok n => do
      c.numbers.insert r n
      pure (.ok n)

/-- The address of an item on the board. -/
def issueUrl? (c : Client m) (number : Nat) (issue : IssueRef) : Option Url :=
  Url.parse? (c.apiUrl ++ "/p1/repositories/" ++ decimalText number ++ "/issues/" ++
    decimalText issue.number)

/-- The pipeline in the response for an item. An item that the board does not know has none. -/
def ofResponse (response : Http.Response) (now : Instant) :
    Except ServiceError (Option Pipeline) :=
  if response.status = 404 then .ok none
  else
    match RateLimit.reset? response.status response.headers now with
    | some reset => .error (.rateLimited reset)
    | none =>
      if !response.isSuccess then
        .error (.api response.status ("get ZenHub issue: " ++ response.body))
      else (response.decode pipelineNameOfValue).map fun name? => name?.bind Pipeline.ofName?

/-- The pipeline that an item sits in. A rate limit is not waited for. -/
def classification (c : Client m) (issue : IssueRef) :
    m (Except ServiceError (Option Pipeline)) := do
  match ← c.numberOf issue.repository with
  | .error e => pure (.error e)
  | .ok number =>
    match c.issueUrl? number issue with
    | none => pure (.error Http.noResponse)
    | some url => do
      match ← c.transport.exchange { method := .get, url, headers := c.headers } with
      | none => pure (.error Http.noResponse)
      | some response => do
        let now ← c.transport.now
        pure (ofResponse response now)

end Client

end Upkeep.ZenHub
