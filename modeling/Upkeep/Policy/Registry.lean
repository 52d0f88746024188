import Upkeep.Policy.Record
import Upkeep.Reference
/-!
The registry of policy records.

A registry knows the configured repositories and the record of each. It is built from a default
record and from overrides that name repositories; building it checks that the repositories are
different from each other and that each of them is named by at most one override.
-/

namespace Upkeep

/-- Why a registry cannot be built. -/
inductive RegistryError
  | duplicateRepository (repository : RepositoryId)
  | multipleRecords (repository : RepositoryId)
  | unknownRepository (repository : RepositoryId)
  /-- The override at this position, counted from zero, names no repository. -/
  | emptyOverride (position : Nat)
deriving DecidableEq, Repr

/-- The sentence that reports why a registry cannot be built. -/
def RegistryError.message : RegistryError → String
  | .duplicateRepository r => "Repository " ++ r.text ++ " is listed more than once"
  | .multipleRecords r => "Can't have multiple lifecycle records matching the repo " ++ r.text
  | .unknownRepository r =>
    "Lifecycle record names repo " ++ r.text ++ ", which is not a configured repository"
  | .emptyOverride n =>
    "Lifecycle override at position " ++ decimalText n ++ " does not name any repository"

/-- A record that replaces the default record for the repositories it names. -/
structure PolicyOverride where
  repositories : List RepositoryId
  record : PolicyRecord
deriving DecidableEq

/-- The configured repositories, the record for those without one of their own, and the records of
the others. -/
structure Registry where
  repositories : List RepositoryId
  default? : Option PolicyRecord
  overrides : List (RepositoryId × PolicyRecord)

namespace Registry

/-- The first repository that stands a second time in the list. -/
def firstRepeated? : List RepositoryId → List RepositoryId → Option RepositoryId
  | _, [] => none
  | seen, r :: rest => if r ∈ seen then some r else firstRepeated? (r :: seen) rest

/-- Enters a record for each of the named repositories. -/
def enter (repositories : List RepositoryId) (record : PolicyRecord) :
    List (RepositoryId × PolicyRecord) → List RepositoryId →
      Except RegistryError (List (RepositoryId × PolicyRecord))
  | entries, [] => .ok entries
  | entries, r :: rest =>
    if r ∉ repositories then .error (.unknownRepository r)
    else if (entries.lookup r).isSome then .error (.multipleRecords r)
    else enter repositories record (entries ++ [(r, record)]) rest

/-- Enters the overrides one after the other. -/
def enterAll (repositories : List RepositoryId) :
    Nat → List (RepositoryId × PolicyRecord) → List PolicyOverride →
      Except RegistryError (List (RepositoryId × PolicyRecord))
  | _, entries, [] => .ok entries
  | position, entries, o :: rest =>
    if o.repositories.isEmpty then .error (.emptyOverride position)
    else
      match enter repositories o.record entries o.repositories with
      | .error e => .error e
      | .ok entries => enterAll repositories (position + 1) entries rest

/-- Builds the registry. The first violation met is reported, of the repositories before the
overrides and of each override in order. -/
def build (repositories : List RepositoryId) (default? : Option PolicyRecord)
    (overrides : List PolicyOverride) : Except RegistryError Registry :=
  match firstRepeated? [] repositories with
  | some r => .error (.duplicateRepository r)
  | none =>
    (enterAll repositories 0 [] overrides).map fun entries => ⟨repositories, default?, entries⟩

/-- The record of a repository. A repository that is not configured has none. -/
def recordFor (g : Registry) (r : RepositoryId) : Option PolicyRecord :=
  if r ∈ g.repositories then (g.overrides.lookup r).or g.default? else none

/-- The configured repositories that have a record, in configuration order. -/
def records (g : Registry) : List (RepositoryId × PolicyRecord) :=
  g.repositories.filterMap fun r => (g.recordFor r).map fun record => (r, record)

end Registry

end Upkeep
