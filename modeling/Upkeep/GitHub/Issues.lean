import Upkeep.GitHub.Client
import Upkeep.GitHub.Rows
import Upkeep.Sweep.Tracker
/-!
Items on GitHub: listing, reading and changing them.

The manager's comment on an item is known by its signature. Posting one deletes those that are
there, unless the only one has the wanted text already.
-/

namespace Upkeep.GitHub

/-- The path of a repository. -/
def repositoryPath (r : RepositoryId) : String := "/repos/" ++ r.org ++ "/" ++ r.name

/-- The path of an item. -/
def issuePath (i : IssueRef) : String :=
  repositoryPath i.repository ++ "/issues/" ++ decimalText i.number

/-- A text with line feeds as its only line ends. -/
def normalized (s : String) : String := String.ofList (normalizeNewlines s.toList)

/-- The comment carries the signature. -/
def Comment.carries (signature : String) (c : Comment) : Bool :=
  c.body.any fun body => Upkeep.String.hasText (normalized body) (normalized signature)

/-- The comment has the given text. -/
def Comment.hasBody (body : String) (c : Comment) : Bool :=
  c.body.map normalized == some (normalized body)

namespace Client

variable {m : Type → Type} [Monad m]

/-- The open items of a repository. -/
def openIssues (c : Client m) (r : RepositoryId) : m (Except ServiceError (List Issue)) :=
  c.getPages "list issues" (repositoryPath r ++ "/issues") [("state", "open")] (issueOfValue r)

/-- An item, if it exists. -/
def issue (c : Client m) (i : IssueRef) : m (Except ServiceError (Option Issue)) := do
  match ← c.get "get issue" (issuePath i) (issueOfValue i.repository) with
  | .ok found => pure (.ok (some found))
  | .error e => if isNotFound e then pure (.ok none) else pure (.error e)

/-- The comments on an item. -/
def comments (c : Client m) (i : IssueRef) : m (Except ServiceError (List Comment)) :=
  c.getPages "list comments" (issuePath i ++ "/comments") [] Comment.ofValue

/-- The comments on an item that carry a signature. -/
def signedComments (c : Client m) (i : IssueRef) (signature : String) :
    m (Except ServiceError (List Comment)) := do
  match ← c.comments i with
  | .ok cs => pure (.ok (cs.filter (Comment.carries signature)))
  | .error e => pure (.error e)

/-- Sends a request of which only the success matters. -/
def command (c : Client m) (operation : String) (method : Http.Method) (path : String)
    (body : Option Value) : m (Except ServiceError Unit) := do
  match ← c.send operation method path [] body with
  | .ok _ => pure (.ok ())
  | .error e => pure (.error e)

/-- Deletes a thing. One that does not exist counts as deleted. -/
def erase (c : Client m) (operation path : String) : m (Except ServiceError Unit) := do
  match ← c.command operation .delete path none with
  | .ok () => pure (.ok ())
  | .error e => if isNotFound e then pure (.ok ()) else pure (.error e)

def deleteComment (c : Client m) (i : IssueRef) (id : Nat) : m (Except ServiceError Unit) :=
  c.erase "delete comment"
    (repositoryPath i.repository ++ "/issues/comments/" ++ decimalText id)

/-- Deletes comments one after the other, up to the first that cannot be deleted. -/
def deleteComments (c : Client m) (i : IssueRef) : List Comment → m (Except ServiceError Unit)
  | [] => pure (.ok ())
  | comment :: rest => do
    match ← c.deleteComment i comment.id with
    | .error e => pure (.error e)
    | .ok () => deleteComments c i rest

def createComment (c : Client m) (i : IssueRef) (body : String) : m (Except ServiceError Unit) :=
  c.command "create comment" .post (issuePath i ++ "/comments")
    (some (.table [("body", .text body)]))

def addLabel (c : Client m) (i : IssueRef) (label : String) : m (Except ServiceError Unit) :=
  c.command "add label" .post (issuePath i ++ "/labels")
    (some (.table [("labels", .list [.text label])]))

def removeLabel (c : Client m) (i : IssueRef) (label : String) : m (Except ServiceError Unit) :=
  c.erase "remove label"
    (issuePath i ++ "/labels/" ++ String.ofList (percentEncode label.toList))

/-- Replaces the comments that carry the signature by one with the given body, unless the only one
has that text already. -/
def upsertComment (c : Client m) (i : IssueRef) (body signature : String) :
    m (Except ServiceError Unit) := do
  match ← c.signedComments i signature with
  | .error e => pure (.error e)
  | .ok existing =>
    if existing.length = 1 && existing.all (Comment.hasBody body) then pure (.ok ())
    else do
      match ← c.deleteComments i existing with
      | .error e => pure (.error e)
      | .ok () => c.createComment i body

/-- Deletes the comments that carry the signature. -/
def removeComment (c : Client m) (i : IssueRef) (signature : String) :
    m (Except ServiceError Unit) := do
  match ← c.signedComments i signature with
  | .error e => pure (.error e)
  | .ok existing => c.deleteComments i existing

def close (c : Client m) (i : IssueRef) : m (Except ServiceError Unit) :=
  c.command "close issue" .patch (issuePath i) (some (.table [("state", .text "closed")]))

/-- Makes a change to an item. -/
def mutate (c : Client m) (i : IssueRef) : Mutation → m (Except ServiceError Unit)
  | .addLabel label => c.addLabel i label
  | .removeLabel label => c.removeLabel i label
  | .upsertComment body signature => c.upsertComment i body signature
  | .removeComment signature => c.removeComment i signature
  | .close => c.close i

end Client

end Upkeep.GitHub
