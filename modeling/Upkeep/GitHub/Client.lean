import Upkeep.GitHub.RateLimit
import Upkeep.Http.Transport
/-!
The client of the GitHub interface.

Every request goes through `Client.send`, which waits for exhausted rate limits up to a ceiling and
turns every other status that is no success into a failure. Nothing else is sent again.
`Client.getPages` collects the pages of a list.
-/

namespace Upkeep.GitHub

/-- What a client is set up with. -/
structure Config where
  apiUrl : String := "https://api.github.com"
  token : String
  userAgent : String := "issue-lifecycle-manager"
  /-- The longest wait for a rate limit, in nanoseconds. -/
  maxRateLimitWait : Nat := 900 * nanosPerSecond

/-- Why a client cannot be set up. -/
inductive ConfigError
  /-- The token of the named service is no header value. -/
  | invalidToken (service : String)
  /-- The name of the client is no header value. -/
  | invalidUserAgent
deriving DecidableEq, Repr

/-- What is wrong, in short. -/
def ConfigError.detail : ConfigError → String
  | .invalidToken service => "invalid " ++ service ++ " token"
  | .invalidUserAgent => "invalid user agent"

/-- The sentence that reports why a client cannot be set up. -/
def ConfigError.message (e : ConfigError) : String := "Invalid client configuration: " ++ e.detail

/-- The failure that a service reports for a client that cannot be set up. -/
def ConfigError.toServiceError (e : ConfigError) : ServiceError := .api 0 e.detail

/-- An address without the slashes at its end. -/
def withoutTrailingSlashes (s : String) : String :=
  String.ofList (s.toList.reverse.dropWhile (· == '/')).reverse

/-- A client: where it sends requests, what headers they carry, and how long it waits. -/
structure Client (m : Type → Type) where
  transport : Http.Transport m
  apiUrl : String
  headers : List (String × String)
  /-- The longest wait for a rate limit, in nanoseconds. -/
  maxRateLimitWait : Nat

namespace Client

variable {m : Type → Type}

/-- Sets up a client. The token is checked before the name of the client. -/
def create (transport : Http.Transport m) (config : Config) : Except ConfigError (Client m) :=
  let authorization := "Bearer " ++ trim config.token
  if !Http.isHeaderValue authorization then .error (.invalidToken "GitHub")
  else if !Http.isHeaderValue config.userAgent then .error .invalidUserAgent
  else .ok
    { transport
      apiUrl := withoutTrailingSlashes config.apiUrl
      headers := [("accept", "application/vnd.github+json"), ("x-github-api-version", "2022-11-28"),
        ("authorization", authorization), ("user-agent", config.userAgent)]
      maxRateLimitWait := config.maxRateLimitWait }

/-- The request for a path of the interface. There is none if the path does not make an address. -/
def request? (c : Client m) (method : Http.Method) (path : String)
    (query : List (String × String)) (body : Option Value) : Option Http.Request :=
  (Url.parse? (c.apiUrl ++ path)).map fun url =>
    { method
      url := if query.isEmpty then url else url.addQuery query
      headers := c.headers ++ if body.isSome then [("content-type", "application/json")] else []
      body }

/-- The body of a response that is no success. -/
def errorMessage (response : Http.Response) : String :=
  let decoder : Decoder String := fun v => do
    let fields ← v.record [.required "message" Decoder.text] false
    Fields.required fields "message" Decoder.text
  match response.decode decoder with
  | .ok message => message
  | .error _ => Http.reasonPhrase response.status

/-- The failure that a response reports which is no success and no rate limit. -/
def apiError (operation : String) (response : Http.Response) : ServiceError :=
  .api response.status (operation ++ ": " ++ errorMessage response)

variable [Monad m]

/-- Sends a request, and sends it again after a rate limit has been reset, as long as the wait is
within the ceiling and `retries` are left. -/
def attempt (c : Client m) (operation : String) (request : Http.Request) (retries : Nat) :
    m (Except ServiceError Http.Response) := do
  match ← c.transport.exchange request with
  | none => pure (.error Http.noResponse)
  | some response =>
    if response.isSuccess then pure (.ok response)
    else do
      let now ← c.transport.now
      match RateLimit.reset? response.status response.headers now with
      | none => pure (.error (apiError operation response))
      | some reset => do
        let wait := (← c.transport.now).nanosUntil reset
        match retries with
        | 0 => pure (.error (.rateLimited reset))
        | retries + 1 =>
          if wait ≤ c.maxRateLimitWait then do
            c.transport.pause (max wait RateLimit.minWait)
            attempt c operation request retries
          else pure (.error (.rateLimited reset))

/-- Sends a request for a path of the interface. -/
def send (c : Client m) (operation : String) (method : Http.Method) (path : String)
    (query : List (String × String)) (body : Option Value) :
    m (Except ServiceError Http.Response) :=
  match c.request? method path query body with
  | none => pure (.error Http.noResponse)
  | some request => c.attempt operation request RateLimit.maxRetries

/-- Reads the value at a path. -/
def get {α : Type} (c : Client m) (operation path : String) (d : Decoder α) :
    m (Except ServiceError α) := do
  match ← c.send operation .get path [] none with
  | .error e => pure (.error e)
  | .ok response => pure (response.decode d)

/-- The number of rows on a full page. -/
def pageSize : Nat := 100

/-- The number of the last page that can be asked for. -/
def lastPage : Nat := 0xFFFFFFFF

/-- Collects the pages from `page` on, up to one that is not full. Behind the last page that can be
asked for, that page is asked for again. `left` pages may be asked for. -/
def pagesFrom {α : Type} (c : Client m) (operation path : String) (query : List (String × String))
    (d : Decoder α) (rows : List α) (page : Nat) : (left : Nat) → m (Except ServiceError (List α))
  | 0 => pure (.error (.decode "the list does not end"))
  | left + 1 => do
    let query' := query ++ [("per_page", decimalText pageSize), ("page", decimalText page)]
    match ← c.send operation .get path query' none with
    | .error e => pure (.error e)
    | .ok response =>
      match response.decode (Decoder.list d) with
      | .error e => pure (.error e)
      | .ok chunk =>
        if chunk.length < pageSize then pure (.ok (rows ++ chunk))
        else pagesFrom c operation path query d (rows ++ chunk) (min (page + 1) lastPage) left

/-- Collects all pages of a list. -/
def getPages {α : Type} (c : Client m) (operation path : String) (query : List (String × String))
    (d : Decoder α) : m (Except ServiceError (List α)) :=
  pagesFrom c operation path query d [] 1 lastPage

end Client

/-- A failure that means that a thing does not exist. -/
def isNotFound : ServiceError → Bool
  | .api 404 _ => true
  | _ => false

end Upkeep.GitHub
