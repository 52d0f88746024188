import Upkeep.Decision.Action
import Upkeep.Reference
import Upkeep.Time.Instant
import Upkeep.Time.Span
/-!
Failures.

A `ServiceError` is what an outside service reports, or what came of not reaching it. A
`LifecycleError` wraps one with the item or repository that was being worked on. Only an exhausted
rate limit is worth a second attempt, once the limit has been reset.
-/

namespace Upkeep

/-- A failure of an outside service. -/
inductive ServiceError
  /-- The call did not finish within this many nanoseconds. -/
  | timeout (nanos : Nat)
  /-- The rate limit is exhausted until the given instant. -/
  | rateLimited (reset : Instant)
  /-- The service answered with a status that is no success. -/
  | api (status : Nat) (message : String)
  /-- The request got no response. -/
  | transport (detail : String)
  /-- The body of the response could not be read. -/
  | decode (detail : String)
deriving DecidableEq

/-- The sentence that reports a failure of a service. -/
def ServiceError.message : ServiceError → String
  | .timeout nanos => "Timed out after " ++ Span.text nanos
  | .rateLimited reset => "Rate limit exhausted until " ++ reset.text
  | .api status message => "API error " ++ decimalText status ++ ": " ++ message
  | .transport detail => "Transport error: " ++ detail
  | .decode detail => "Unable to decode response: " ++ detail

/-- What to do about a failure. -/
inductive RetryPolicy
  /-- Try again after this many nanoseconds. -/
  | after (nanos : Nat)
  | never
deriving DecidableEq, Repr

/-- The nanoseconds from one instant to a later one; zero if the other is not later. -/
def Instant.nanosUntil (now reset : Instant) : Nat := (reset.since now).toNat

/-- Only an exhausted rate limit may be tried again, after the time left until its reset. -/
def ServiceError.retryPolicy (e : ServiceError) (now : Instant) : RetryPolicy :=
  match e with
  | .rateLimited reset => .after (now.nanosUntil reset)
  | _ => .never

/-- What was being looked up about an item. -/
inductive LookupTarget
  | issue
  | memberActivity
  | pipeline
deriving DecidableEq, Repr

def LookupTarget.text : LookupTarget → String
  | .issue => "issue"
  | .memberActivity => "member activity"
  | .pipeline => "pipeline"

/-- Why an item or a repository could not be dealt with. -/
inductive LifecycleError
  /-- No policy record covers the repository. -/
  | policyMissing (repository : RepositoryId)
  | signalLookup (issue : IssueRef) (target : LookupTarget) (source : ServiceError)
  | actionApply (issue : IssueRef) (action : Action) (source : ServiceError)
  /-- The items of the repository could not be listed. -/
  | structural (repository : RepositoryId) (source : ServiceError)
  | issueNotFound (issue : IssueRef)
deriving DecidableEq

namespace LifecycleError

/-- The failure of the service that lies behind the error. -/
def source? : LifecycleError → Option ServiceError
  | .policyMissing _ => none
  | .signalLookup _ _ e => some e
  | .actionApply _ _ e => some e
  | .structural _ e => some e
  | .issueNotFound _ => none

/-- The sentence that reports why an item or a repository could not be dealt with. -/
def message : LifecycleError → String
  | .policyMissing r => "No lifecycle policy configured for repo " ++ r.text
  | .signalLookup i target e =>
    "Could not get " ++ target.text ++ " for issue/PR " ++ i.text ++ ": " ++ e.message
  | .actionApply i action e =>
    "Unable to " ++ action.text ++ " on issue/PR " ++ i.text ++ ": " ++ e.message
  | .structural r e => "Unable to enumerate issues for repo " ++ r.text ++ ": " ++ e.message
  | .issueNotFound i => "Issue/PR " ++ i.text ++ " not found"

end LifecycleError

end Upkeep
