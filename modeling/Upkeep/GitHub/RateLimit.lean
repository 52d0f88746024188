import Upkeep.Http.Message
import Upkeep.Time.Instant
/-!
Rate limits.

A response with status 403 or 429 reports an exhausted rate limit by its headers: `retry-after`
gives the seconds to wait, or `x-ratelimit-remaining` is zero and `x-ratelimit-reset` names the
second of the reset, which counts as reached if it is not named. Any other 429 asks for a minute.
-/

namespace Upkeep.RateLimit

/-- How often a request is sent again. -/
def maxRetries : Nat := 3

/-- The shortest wait before a request is sent again, in nanoseconds: one second. -/
def minWait : Nat := nanosPerSecond

/-- The longest delay in seconds that a header can ask for. -/
def maxDelaySeconds : Nat := 0xFFFFFFFF

/-- The statuses that can report an exhausted rate limit. -/
def canReport (status : Nat) : Bool := status == 403 || status == 429

/-- The instant named by `x-ratelimit-reset`, if it is one. -/
def namedReset? (headers : List (String × String)) : Option Instant := do
  let epoch ← Http.headerNumber? headers "x-ratelimit-reset"
  if epoch < 0x8000000000000000 then Instant.ofSeconds? epoch else none

/-- When the rate limit that a response reports is reset; nothing if it reports none. -/
def reset? (status : Nat) (headers : List (String × String)) (now : Instant) : Option Instant :=
  if !canReport status then none
  else
    match Http.headerNumber? headers "retry-after" with
    | some seconds => some (now.plus ⟨min seconds maxDelaySeconds⟩)
    | none =>
      if Http.headerNumber? headers "x-ratelimit-remaining" = some 0 then
        some ((namedReset? headers).getD now)
      else if status = 429 then some (now.plus ⟨60⟩)
      else none

end Upkeep.RateLimit
