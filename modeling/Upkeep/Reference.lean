import Upkeep.Text.Blank
import Upkeep.Text.Numeral
import Upkeep.Text.Search
/-!
References to repositories and to their items.

A repository is written `org/repo`, and an issue or pull request of it `org/repo#number`. Reading
drops the blanks around each part, so that the text of a reference that was read is its only text
without such blanks.
-/

namespace Upkeep

/-- What can be wrong with the text of a reference. -/
inductive ReferenceError
  | repository (input : String)
  | issue (input : String)
deriving DecidableEq, Repr

/-- The sentence that reports a malformed reference. -/
def ReferenceError.message : ReferenceError → String
  | .repository input =>
    "Invalid repository name '" ++ input ++ "', needs to be in the form org/repo"
  | .issue input =>
    "Invalid issue reference '" ++ input ++ "', needs to be in the form org/repo#number"

/-- The name of an organization or a repository: any text but the empty one. -/
def properName? (s : String) : Option String := if s.isEmpty then none else some s

/-- A repository of an organization. -/
structure RepositoryId where
  org : String
  name : String
deriving DecidableEq, Repr, Inhabited

/-- An issue or a pull request, which share one row of numbers in a repository. -/
structure IssueRef where
  repository : RepositoryId
  number : Nat
deriving DecidableEq, Repr, Inhabited

namespace RepositoryId

def text (r : RepositoryId) : String := r.org ++ "/" ++ r.name

/-- Reads `org/repo`: exactly one slash, with something besides blanks on either side. -/
def parse (input : String) : Except ReferenceError RepositoryId :=
  match splitFirst? '/' input.toList with
  | none => .error (.repository input)
  | some (org, name) =>
    if '/' ∈ name then .error (.repository input)
    else
      match properName? (String.ofList (trimChars org)),
        properName? (String.ofList (trimChars name)) with
      | some org, some name => .ok ⟨org, name⟩
      | _, _ => .error (.repository input)

end RepositoryId

namespace IssueRef

def text (r : IssueRef) : String := r.repository.text ++ "#" ++ decimalText r.number

/-- Reads `org/repo#number`. The number follows the last `#` and is checked before the
repository. -/
def parse (input : String) : Except ReferenceError IssueRef :=
  match splitLast? '#' input.toList with
  | none => .error (.issue input)
  | some (repository, number) =>
    match readNat64? (trimChars number) with
    | none => .error (.issue input)
    | some n => (RepositoryId.parse (String.ofList repository)).map fun r => ⟨r, n⟩

end IssueRef

end Upkeep
