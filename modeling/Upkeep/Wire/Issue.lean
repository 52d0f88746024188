import Upkeep.Decode
import Upkeep.Issue.Snapshot
/-!
The written form of items and of the signals about them.
-/

namespace Upkeep

namespace IssueRef

def toValue (r : IssueRef) : Value :=
  .table [("repository", .text r.repository.text), ("number", .ofNat r.number)]

def shape : List FieldShape :=
  [.required "repository" Decoder.repositoryId, .required "number" Decoder.nat64]

def ofValue : Decoder IssueRef := fun v => do
  let fields ← v.record shape false
  return {
    repository := ← Fields.required fields "repository" Decoder.repositoryId
    number := ← Fields.required fields "number" Decoder.nat64 }

end IssueRef

namespace IssueState

def text : IssueState → String
  | opened => "open"
  | closed => "closed"

def ofValue : Decoder IssueState := fun v => do
  match ← Decoder.name v with
  | "open" => .ok .opened
  | "closed" => .ok .closed
  | _ => .error .malformed

end IssueState

namespace Issue

def toValue (i : Issue) : Value :=
  .table [("reference", i.reference.toValue), ("is_pull_request", .bool i.isPullRequest),
    ("created_at", .text i.createdAt.zuluText), ("state", .text i.state.text),
    ("labels", .list (i.labels.map .text)), ("body", .text i.body)]

def shape : List FieldShape :=
  [.required "reference" IssueRef.ofValue, .required "is_pull_request" Decoder.bool,
    .required "created_at" Decoder.instant, .required "state" IssueState.ofValue,
    .required "labels" (Decoder.list Decoder.text), .required "body" Decoder.text]

def ofValue : Decoder Issue := fun v => do
  let fields ← v.record shape false
  return {
    reference := ← Fields.required fields "reference" IssueRef.ofValue
    isPullRequest := ← Fields.required fields "is_pull_request" Decoder.bool
    createdAt := ← Fields.required fields "created_at" Decoder.instant
    state := ← Fields.required fields "state" IssueState.ofValue
    labels := ← Fields.required fields "labels" (Decoder.list Decoder.text)
    body := ← Fields.required fields "body" Decoder.text }

end Issue

/-- A column is written as its name, and a name that is given is taken as it is. -/
def Pipeline.ofValue : Decoder Pipeline := fun v => (Decoder.text v).map Pipeline.mk

/-- An instant, or null. -/
def Value.ofInstant? : Option Instant → Value
  | some t => .text t.zuluText
  | none => .null

namespace Signals

def toValue (s : Signals) : Value :=
  .table [("latest_member_comment", .ofInstant? s.memberComment),
    ("latest_member_activity", .ofInstant? s.memberActivity),
    ("pipeline", .ofText? (s.pipeline.map Pipeline.name))]

def shape : List FieldShape :=
  [.required "latest_member_comment" (Decoder.nullable Decoder.instant),
    .required "latest_member_activity" (Decoder.nullable Decoder.instant),
    .required "pipeline" (Decoder.nullable Pipeline.ofValue)]

def ofValue : Decoder Signals := fun v => do
  let fields ← v.record shape false
  return {
    memberComment :=
      ← Fields.defaulted fields "latest_member_comment" (Decoder.nullable Decoder.instant) none
    memberActivity :=
      ← Fields.defaulted fields "latest_member_activity" (Decoder.nullable Decoder.instant) none
    pipeline := ← Fields.defaulted fields "pipeline" (Decoder.nullable Pipeline.ofValue) none }

end Signals

end Upkeep
