import Upkeep.Decode
import Upkeep.Issue.Snapshot
/-!
The rows of the lists that GitHub gives: users, items, comments, events and reviews. Only the
fields that the manager needs are read.
-/

namespace Upkeep.GitHub

structure User where
  login : String
  kind : String
deriving DecidableEq

/-- Accounts of programs, by their kind or by the end of their name. -/
def User.isBot (u : User) : Bool := u.kind == "Bot" || "[bot]".toList.isSuffixOf u.login.toList

def User.ofValue : Decoder User := fun v => do
  let fields ← v.record [.required "login" Decoder.text, .defaulted "type" Decoder.text] false
  return ⟨← Fields.required fields "login" Decoder.text,
    ← Fields.defaulted fields "type" Decoder.text ""⟩

/-- The name of a label. -/
def labelOfValue : Decoder String := fun v => do
  let fields ← v.record [.required "name" Decoder.text] false
  Fields.required fields "name" Decoder.text

/-- Any value at all that can be read; says whether it is there. -/
def isPresent : Decoder Bool
  | .null => .ok false
  | v => if v.isReadable then .ok true else .error .malformed

/-- An item of a repository. The row of a pull request has a block of links to it. -/
def issueOfValue (repository : RepositoryId) : Decoder Issue := fun v => do
  let labels := Decoder.list labelOfValue
  let body := Decoder.nullable Decoder.text
  let fields ← v.record
    [.required "number" Decoder.nat64, .required "state" Decoder.text,
      .required "created_at" Decoder.instant, .defaulted "labels" labels, .defaulted "body" body,
      .defaulted "pull_request" isPresent] false
  let number ← Fields.required fields "number" Decoder.nat64
  let state ← Fields.required fields "state" Decoder.text
  return {
    reference := ⟨repository, number⟩
    isPullRequest := ← Fields.defaulted fields "pull_request" isPresent false
    createdAt := ← Fields.required fields "created_at" Decoder.instant
    state := if state = "closed" then .closed else .opened
    labels := ← Fields.defaulted fields "labels" labels []
    body := (← Fields.defaulted fields "body" body none).getD "" }

structure Comment where
  id : Nat
  body : Option String
  user : Option User
  createdAt : Instant
deriving DecidableEq

def Comment.ofValue : Decoder Comment := fun v => do
  let body := Decoder.nullable Decoder.text
  let user := Decoder.nullable User.ofValue
  let fields ← v.record
    [.required "id" Decoder.nat64, .defaulted "body" body, .defaulted "user" user,
      .required "created_at" Decoder.instant] false
  return {
    id := ← Fields.required fields "id" Decoder.nat64
    body := ← Fields.defaulted fields "body" body none
    user := ← Fields.defaulted fields "user" user none
    createdAt := ← Fields.required fields "created_at" Decoder.instant }

/-- Something that happened to an item. -/
structure IssueEvent where
  actor : Option User
  createdAt : Instant
deriving DecidableEq

def IssueEvent.ofValue : Decoder IssueEvent := fun v => do
  let actor := Decoder.nullable User.ofValue
  let fields ← v.record
    [.defaulted "actor" actor, .required "created_at" Decoder.instant] false
  return {
    actor := ← Fields.defaulted fields "actor" actor none
    createdAt := ← Fields.required fields "created_at" Decoder.instant }

/-- A review of a pull request, which has a time once it is submitted. -/
structure Review where
  user : Option User
  submittedAt : Option Instant
deriving DecidableEq

def Review.ofValue : Decoder Review := fun v => do
  let user := Decoder.nullable User.ofValue
  let submitted := Decoder.nullable Decoder.instant
  let fields ← v.record [.defaulted "user" user, .defaulted "submitted_at" submitted] false
  return {
    user := ← Fields.defaulted fields "user" user none
    submittedAt := ← Fields.defaulted fields "submitted_at" submitted none }

/-- The number of a repository. -/
def repositoryNumberOfValue : Decoder Nat := fun v => do
  let fields ← v.record [.required "id" Decoder.nat64] false
  Fields.required fields "id" Decoder.nat64

end Upkeep.GitHub
