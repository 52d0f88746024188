import Upkeep.Text.Numeral
/-!
What a decision is made of: the actions on an item, the counts of lifecycle transitions, and the
reason for them.
-/

namespace Upkeep

/-- The text at the end of every comment that the manager writes. At most one comment with it
stands on an item. -/
def botSignature : String := "\n\n_Created by the issue and PR lifecycle manager_."

/-- Which comment an action posts. -/
inductive CommentKind
  | staleness
  | closing
deriving DecidableEq, Repr

/-- One change to an item. Doing it twice is the same as doing it once. -/
inductive Action
  | addLabel (label : String)
  | removeLabel (label : String)
  /-- Posts a comment, or replaces the one that is there. The body is without the signature. -/
  | postComment (kind : CommentKind) (body : String)
  | removeComment
  | close
deriving DecidableEq, Repr

def CommentKind.text : CommentKind → String
  | .staleness => "staleness"
  | .closing => "closing"

/-- The phrase that names an action in reports. -/
def Action.text : Action → String
  | .addLabel label => "add the \x60" ++ label ++ "\x60 label"
  | .removeLabel label => "remove the \x60" ++ label ++ "\x60 label"
  | .postComment kind _ => "add " ++ kind.text ++ " comment"
  | .removeComment => "remove comment"
  | .close => "close"

/-- Counts of lifecycle transitions. -/
structure Stats where
  markedStale : Nat := 0
  closed : Nat := 0
  markedNeedsTriage : Nat := 0
  markedNeedsEscalation : Nat := 0
deriving DecidableEq, Repr, Inhabited

namespace Stats

def zero : Stats := {}

/-- Counts add up field by field. -/
def add (a b : Stats) : Stats :=
  ⟨a.markedStale + b.markedStale, a.closed + b.closed, a.markedNeedsTriage + b.markedNeedsTriage,
    a.markedNeedsEscalation + b.markedNeedsEscalation⟩

def sum (ss : List Stats) : Stats := ss.foldl add zero

def isZero (s : Stats) : Bool := s == zero

def text (s : Stats) : String :=
  "markedStale " ++ decimalText s.markedStale ++ ", closed " ++ decimalText s.closed ++
    ", markedNeedsTriage " ++ decimalText s.markedNeedsTriage ++
    ", markedNeedsEscalation " ++ decimalText s.markedNeedsEscalation

end Stats

/-- Why a decision has the actions it has. -/
inductive Disposition
  /-- The item is younger than the triage delay. -/
  | tooNew
  /-- The item carries an ignore label. -/
  | ignored (label : String)
  /-- The item is closed already. -/
  | closed
  /-- The issue waits for a maintainer to triage it. -/
  | needsTriage
  /-- The item is exempt from becoming stale. -/
  | staleproof
  /-- The item is due for closing. -/
  | closing
  /-- The item is past its stale delay. -/
  | stale
  /-- The item was active recently. -/
  | active
deriving DecidableEq, Repr

/-- The actions on an item in the order in which they are to be done, what they count for, and the
reason for them. -/
structure Decision where
  actions : List Action := []
  stats : Stats := {}
  disposition : Disposition := .active
deriving DecidableEq, Repr

namespace Decision

/-- Nothing is to be done. -/
def empty : Decision := {}

def isEmpty (d : Decision) : Bool := d.actions.isEmpty

end Decision

end Upkeep
