import Upkeep.Concurrency
import Upkeep.Http.Transport
/-!
A web server that answers from a script.

A script holds the responses for each route and a log of the requests. Successive requests for a
route get successive responses, of which the last repeats; a route that is not in the script is not
found. Clients are fibers over the script, whose clock counts milliseconds and moves only by waits
and delays.
-/

namespace Upkeep.Http

/-- A response of a script. -/
structure ScriptedResponse where
  response : Response
  /-- The milliseconds until the response comes. -/
  delayMillis : Nat := 0
  /-- The connection breaks instead. -/
  breaks : Bool := false

structure Script where
  /-- The responses that are left, by method and target. -/
  routes : List (String × List ScriptedResponse)
  /-- The instant at which the script began. -/
  start : Instant
  /-- The clock does not move. -/
  frozen : Bool := false
  /-- The milliseconds after which a request is given up. -/
  timeoutMillis : Nat := 30000
  /-- The requests so far. -/
  log : List Request := []
  /-- The members of organizations that clients remember. -/
  members : List (String × List String) := []
  /-- The numbers of repositories that clients remember. -/
  numbers : List (RepositoryId × Nat) := []

namespace Script

/-- The nanoseconds in a tick of the clock. -/
def tick : Nat := 1000000

/-- The longest wait in ticks: thirty years of 365 days. -/
def longestWait : Nat := 30 * 365 * 86400 * 1000

/-- The name of the route that a request takes. -/
def routeOf (r : Request) : String := r.method.text ++ " " ++ r.url.target

/-- The response to a request for a route that is not in the script. -/
def notFound : ScriptedResponse :=
  ⟨⟨404, [], Json.print (.table [("message", .text "Not Found")])⟩, 0, false⟩

/-- The next response of a route, and the routes afterwards. -/
def next (route : String) :
    List (String × List ScriptedResponse) →
      ScriptedResponse × List (String × List ScriptedResponse)
  | [] => (notFound, [])
  | (name, responses) :: rest =>
    if name = route then
      match responses with
      | [] => (notFound, (name, []) :: rest)
      | [r] => (r, (name, [r]) :: rest)
      | r :: more => (r, (name, more) :: rest)
    else
      let (r, rest) := next route rest
      (r, (name, responses) :: rest)

/-- Takes a request: it is logged, and the next response of its route is used up. -/
def receive (request : Request) : StateM Script ScriptedResponse := fun s =>
  let (scripted, routes) := next (routeOf request) s.routes
  (scripted, { s with routes, log := s.log ++ [request] })

/-- The time after a number of ticks. -/
def timeAfter (s : Script) (ticks : Nat) : Instant :=
  if s.frozen then s.start else s.start.advance (ticks * tick)

/-- Answers a request. A response that comes too late, or not at all, is none. -/
def exchange (request : Request) : Fiber Script (Option Response) := do
  let scripted ← Fiber.update (receive request)
  let timeout ← Fiber.update fun s => (s.timeoutMillis, s)
  Fiber.sleep (min scripted.delayMillis timeout)
  return if timeout ≤ scripted.delayMillis || scripted.breaks then none else some scripted.response

/-- A client's transport to the script. -/
def transport : Transport (Fiber Script) where
  exchange := exchange
  pause nanos := Fiber.sleep (min (ticksFor tick nanos) longestWait)
  now := do
    let ticks ← Fiber.clock
    Fiber.update fun s => (s.timeAfter ticks, s)

/-- Clients of a script at the same time. -/
def concurrency : Concurrency (Fiber Script) := Fiber.concurrency tick

/-- What clients remember of the members of organizations. -/
def memberMemo : Memo (Fiber Script) String (List String) where
  find? org := Fiber.update fun s => (s.members.lookup org, s)
  insert org logins := Fiber.update fun s => ((), { s with members := (org, logins) :: s.members })

/-- What clients remember of the numbers of repositories. -/
def numberMemo : Memo (Fiber Script) RepositoryId Nat where
  find? r := Fiber.update fun s => (s.numbers.lookup r, s)
  insert r n := Fiber.update fun s => ((), { s with numbers := (r, n) :: s.numbers })

end Script

end Upkeep.Http
