import Upkeep.GitHub.Issues
/-!
The activity of members.

Only what members of the organization do counts, and of that neither what programs do nor the
manager's own comments. The members of an organization are listed once and then remembered.
-/

namespace Upkeep.GitHub

/-- The signature as it is looked for in comments that are not to count. -/
def plainSignature : String := trim botSignature

namespace User

/-- The user is a member of the organization and no program. -/
def isMember (members : List String) : Option User → Bool
  | some u => !u.isBot && members.contains u.login
  | none => false

end User

/-- A comment by a member that the manager did not write. -/
def Comment.counts (members : List String) (c : Comment) : Bool :=
  User.isMember members c.user && !Upkeep.String.hasText (c.body.getD "") plainSignature

/-- The newest comment by a member. -/
def newestComment? (members : List String) (comments : List Comment) : Option Instant :=
  Instant.newest? ((comments.filter (Comment.counts members)).map Comment.createdAt)

/-- The newest review submitted by a member. -/
def newestReview? (members : List String) (reviews : List Review) : Option Instant :=
  Instant.newest?
    ((reviews.filter fun r => User.isMember members r.user).filterMap Review.submittedAt)

/-- The newest event caused by a member. -/
def newestEvent? (members : List String) (events : List IssueEvent) : Option Instant :=
  Instant.newest?
    ((events.filter fun e => User.isMember members e.actor).map IssueEvent.createdAt)

/-- Looks up what members did. -/
structure MemberResolver (m : Type → Type) where
  client : Client m
  /-- The logins of the members of an organization. -/
  members : Http.Memo m String (List String)

namespace MemberResolver

variable {m : Type → Type} [Monad m]

/-- The logins of the members of an organization, listed at the first time and then remembered. A
list that could not be had is not remembered. -/
def membersOf (r : MemberResolver m) (org : String) : m (Except ServiceError (List String)) := do
  match ← r.members.find? org with
  | some logins => pure (.ok logins)
  | none => do
    let path := "/orgs/" ++ org ++ "/members"
    match ← r.client.getPages "list org members" path [] User.ofValue with
    | .error e => pure (.error e)
    | .ok users => do
      let logins := users.map User.login
      r.members.insert org logins
      pure (.ok logins)

/-- The path of a list that belongs to a pull request. -/
def pullPath (i : IssueRef) (list : String) : String :=
  repositoryPath i.repository ++ "/pulls/" ++ decimalText i.number ++ "/" ++ list

/-- The newest comment of a member. On a pull request its reviews count as well. -/
def latestComment (r : MemberResolver m) (issue : IssueRef) (isPullRequest : Bool) :
    m (Except ServiceError (Option Instant)) := do
  match ← r.membersOf issue.repository.org with
  | .error e => pure (.error e)
  | .ok members => do
    match ← r.client.comments issue with
    | .error e => pure (.error e)
    | .ok comments =>
      let commented := newestComment? members comments
      if isPullRequest then do
        match ← r.client.getPages "list reviews" (pullPath issue "reviews") [] Review.ofValue with
        | .error e => pure (.error e)
        | .ok reviews => pure (.ok (Instant.later? commented (newestReview? members reviews)))
      else pure (.ok commented)

/-- The newest event caused by a member. -/
def latestEvent (r : MemberResolver m) (issue : IssueRef) :
    m (Except ServiceError (Option Instant)) := do
  match ← r.membersOf issue.repository.org with
  | .error e => pure (.error e)
  | .ok members => do
    let path := issuePath issue ++ "/events"
    match ← r.client.getPages "list events" path [] IssueEvent.ofValue with
    | .error e => pure (.error e)
    | .ok events => pure (.ok (newestEvent? members events))

/-- The newest comment and the newest activity of any kind of a member. -/
def signals (r : MemberResolver m) (issue : IssueRef) (isPullRequest : Bool) :
    m (Except ServiceError (Option Instant × Option Instant)) := do
  match ← r.latestComment issue isPullRequest with
  | .error e => pure (.error e)
  | .ok comment => do
    match ← r.latestEvent issue with
    | .error e => pure (.error e)
    | .ok event => pure (.ok (comment, Instant.later? event comment))

/-- The newest activity of any kind of a member. -/
def latestActivity (r : MemberResolver m) (issue : IssueRef) (isPullRequest : Bool) :
    m (Except ServiceError (Option Instant)) := do
  match ← r.signals issue isPullRequest with
  | .error e => pure (.error e)
  | .ok (_, activity) => pure (.ok activity)

end MemberResolver

end Upkeep.GitHub
