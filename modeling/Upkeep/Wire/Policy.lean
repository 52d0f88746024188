import Upkeep.Decode
import Upkeep.Policy.Registry
/-!
The written form of policy records.

`PolicyKey` names the fields of a record. Reading starts from the built-in record and puts in the
entries that are given, in their order; an entry under any other name is refused, and so is a
second entry for one field. Writing gives all fields in the order of `PolicyKey.all`. An override is
a record with the repositories that it is for.
-/

namespace Upkeep

/-- The fields of a policy record. -/
inductive PolicyKey
  | featureRequestLabel
  | ignoreLabels
  | realOldDelay
  | triageDelay
  | triageLabel
  | escalationDelay
  | escalationLabel
  | pullRequestStaleDelay
  | featureRequestStaleDelay
  | issueStaleDelay
  | staleLabel
  | staleComment
  | staleproofLabel
  | pullRequestCloseDelay
  | featureRequestCloseDelay
  | issueCloseDelay
  | closeLabel
  | closeComment
deriving DecidableEq, Repr

namespace PolicyKey

/-- The fields in the order in which they are written. -/
def all : List PolicyKey :=
  [featureRequestLabel, ignoreLabels, realOldDelay, triageDelay, triageLabel, escalationDelay,
    escalationLabel, pullRequestStaleDelay, featureRequestStaleDelay, issueStaleDelay, staleLabel,
    staleComment, staleproofLabel, pullRequestCloseDelay, featureRequestCloseDelay,
    issueCloseDelay, closeLabel, closeComment]

/-- The name of a field in writing. -/
def name : PolicyKey → String
  | featureRequestLabel => "feature_request_label"
  | ignoreLabels => "ignore_labels"
  | realOldDelay => "real_old_delay"
  | triageDelay => "triage_delay"
  | triageLabel => "triage_label"
  | escalationDelay => "escalation_delay"
  | escalationLabel => "escalation_label"
  | pullRequestStaleDelay => "pull_request_stale_delay"
  | featureRequestStaleDelay => "feature_request_stale_delay"
  | issueStaleDelay => "issue_stale_delay"
  | staleLabel => "stale_label"
  | staleComment => "stale_comment"
  | staleproofLabel => "staleproof_label"
  | pullRequestCloseDelay => "pull_request_close_delay"
  | featureRequestCloseDelay => "feature_request_close_delay"
  | issueCloseDelay => "issue_close_delay"
  | closeLabel => "close_label"
  | closeComment => "close_comment"

/-- An older name of the staleproof label, still read. -/
def staleproofAlias : String := "cant_be_stale_label"

/-- The field of a name. -/
def ofName? (key : String) : Option PolicyKey :=
  if key = staleproofAlias then some staleproofLabel else all.find? (·.name == key)

/-- The written value of a field. -/
def get (r : PolicyRecord) : PolicyKey → Value
  | featureRequestLabel => .text r.featureRequestLabel
  | ignoreLabels => .list (r.ignoreLabels.map .text)
  | realOldDelay => .ofText? (r.realOldDelay.map Delay.text)
  | triageDelay => .text r.triageDelay.text
  | triageLabel => .text r.triageLabel
  | escalationDelay => .text r.escalationDelay.text
  | escalationLabel => .text r.escalationLabel
  | pullRequestStaleDelay => .text r.pullRequestStaleDelay.text
  | featureRequestStaleDelay => .text r.featureRequestStaleDelay.text
  | issueStaleDelay => .text r.issueStaleDelay.text
  | staleLabel => .text r.staleLabel
  | staleComment => .text r.staleComment
  | staleproofLabel => .text r.staleproofLabel
  | pullRequestCloseDelay => .text r.pullRequestCloseDelay.text
  | featureRequestCloseDelay => .text r.featureRequestCloseDelay.text
  | issueCloseDelay => .text r.issueCloseDelay.text
  | closeLabel => .text r.closeLabel
  | closeComment => .text r.closeComment

/-- The record with a field read from its written value. -/
def set (r : PolicyRecord) (key : PolicyKey) (v : Value) : Except DecodeError PolicyRecord :=
  match key with
  | featureRequestLabel => (Decoder.text v).map fun s => { r with featureRequestLabel := s }
  | ignoreLabels => (Decoder.list Decoder.text v).map fun ls => { r with ignoreLabels := ls }
  | realOldDelay => (Decoder.nullable Decoder.delay v).map fun d => { r with realOldDelay := d }
  | triageDelay => (Decoder.delay v).map fun d => { r with triageDelay := d }
  | triageLabel => (Decoder.text v).map fun s => { r with triageLabel := s }
  | escalationDelay => (Decoder.delay v).map fun d => { r with escalationDelay := d }
  | escalationLabel => (Decoder.text v).map fun s => { r with escalationLabel := s }
  | pullRequestStaleDelay => (Decoder.delay v).map fun d => { r with pullRequestStaleDelay := d }
  | featureRequestStaleDelay =>
    (Decoder.delay v).map fun d => { r with featureRequestStaleDelay := d }
  | issueStaleDelay => (Decoder.delay v).map fun d => { r with issueStaleDelay := d }
  | staleLabel => (Decoder.text v).map fun s => { r with staleLabel := s }
  | staleComment => (Decoder.text v).map fun s => { r with staleComment := s }
  | staleproofLabel => (Decoder.text v).map fun s => { r with staleproofLabel := s }
  | pullRequestCloseDelay => (Decoder.delay v).map fun d => { r with pullRequestCloseDelay := d }
  | featureRequestCloseDelay =>
    (Decoder.delay v).map fun d => { r with featureRequestCloseDelay := d }
  | issueCloseDelay => (Decoder.delay v).map fun d => { r with issueCloseDelay := d }
  | closeLabel => (Decoder.text v).map fun s => { r with closeLabel := s }
  | closeComment => (Decoder.text v).map fun s => { r with closeComment := s }

end PolicyKey

namespace PolicyRecord

/-- The entries of a record, one for each field. -/
def entries (r : PolicyRecord) : List (String × Value) :=
  PolicyKey.all.map fun k => (k.name, k.get r)

def toValue (r : PolicyRecord) : Value := .table r.entries

/-- Puts the entries of a table into a record. `seen` lists the fields that were given already. -/
def readEntries (r : PolicyRecord) (seen : List PolicyKey) :
    List (String × Value) → Except DecodeError PolicyRecord
  | [] => .ok r
  | (name, v) :: rest =>
    match PolicyKey.ofName? name with
    | none => .error (.unknownField name)
    | some key =>
      if key ∈ seen then .error (.duplicateField key.name)
      else
        match key.set r v with
        | .error e => .error e
        | .ok r => readEntries r (key :: seen) rest

/-- Puts the items of a list into the fields of a record in order. -/
def readItems (r : PolicyRecord) : List PolicyKey → List Value → Except DecodeError PolicyRecord
  | _, [] => .ok r
  | [], _ :: _ => .error .malformed
  | key :: keys, v :: vs =>
    match key.set r v with
    | .error e => .error e
    | .ok r => readItems r keys vs

/-- Reads a record: its entries over the built-in record. -/
def ofValue : Decoder PolicyRecord
  | .table entries => readEntries builtin [] entries
  | .list items => readItems builtin PolicyKey.all items
  | _ => .error .malformed

/-- A field of a record differs from the built-in record: putting the built-in value in its place
gives another record. -/
def isChanged (r : PolicyRecord) (key : PolicyKey) : Bool :=
  match key.set r (key.get builtin) with
  | .ok s => s != r
  | .error _ => true

/-- The entries of the fields that differ from the built-in record. -/
def changedEntries (r : PolicyRecord) : List (String × Value) :=
  (PolicyKey.all.filter r.isChanged).map fun k => (k.name, k.get r)

end PolicyRecord

/-- Which part of an override cannot be read, and why. -/
inductive OverrideError
  | repositories (cause : DecodeError)
  | record (cause : DecodeError)
deriving DecidableEq, Repr

namespace PolicyOverride

/-- The name of the repositories in an override. -/
def repositoriesName : String := "repos"

/-- Reads an override: first the repositories it is for, then the rest of its entries as a
record. -/
def ofEntries (entries : List (String × Value)) : Except OverrideError PolicyOverride := do
  let repositories ←
    (Fields.defaulted entries repositoriesName (Decoder.list Decoder.repositoryId) []).mapError
      .repositories
  let record ←
    (PolicyRecord.ofValue (.table (entries.filter (·.1 != repositoriesName)))).mapError .record
  return ⟨repositories, record⟩

end PolicyOverride

end Upkeep
