import Upkeep.Text.Blank
import Upkeep.Text.Search
import Upkeep.Decision.Action
import Upkeep.Time.Instant
/-!
Comment templates.

A template is a text in which two placeholders stand for dates. A template that comes out blank
means that there is to be no comment.
-/

namespace Upkeep.Template

/-- Stands for the date of the last activity of a member. -/
def lastActivityMark : List Char := "\x7blast_activity\x7d".toList

/-- Stands for the date after which a stale item is closed. -/
def closeDateMark : List Char := "\x7bclose_date\x7d".toList

/-- Puts the dates into a template. Without a close date its placeholder stays as it is. -/
def render (template : String) (lastActivity : Instant) (closeDate? : Option Instant) : String :=
  let dated := replaceAll lastActivityMark lastActivity.dateText.toList template.toList
  match closeDate? with
  | none => String.ofList dated
  | some closeDate => String.ofList (replaceAll closeDateMark closeDate.dateText.toList dated)

/-- The action that brings the comment on an item to the given body. -/
def commentAction (kind : CommentKind) (body : String) : Action :=
  if isBlankText body then .removeComment else .postComment kind body

end Upkeep.Template
