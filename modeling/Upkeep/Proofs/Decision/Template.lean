import Upkeep.Proofs.Decision.Plan
/-!
# Templates

The dates that are put into a template are not blank, and neither are the placeholders that they
replace. A text is therefore blank exactly if its template is (`isBlankText_render`), and the action
on the comment is the one that the template calls for (`calls_commentAction`).
-/

namespace Upkeep

/-- Replacing what is not blank by what is not blank keeps a text blank, or not blank. -/
theorem all_isBlank_replaceAll {pattern replacement : List Char}
    (hp : pattern.all isBlank = false) (hr : replacement.all isBlank = false) (cs : List Char) :
    (replaceAll pattern replacement cs).all isBlank = cs.all isBlank := by
  unfold replaceAll
  induction cs with
  | nil => rfl
  | cons c cs ih =>
    rw [replaceFrom]
    split
    · next h =>
      obtain ⟨rest, hrest⟩ := List.isPrefixOf_iff_prefix.1 h
      rw [← hrest, List.all_append, List.all_append, hr, hp, Bool.false_and, Bool.false_and]
    · rw [List.all_cons, List.all_cons, ih]

namespace Template

theorem dateText_not_blank (t : Instant) : t.dateText.toList.all isBlank = false := by
  have hdash : '-' ∈ t.dateText.toList := by
    simp [Instant.dateText, Instant.dateChars]
  exact List.all_eq_false.2 ⟨'-', hdash, by decide⟩

/-- A text is blank if its template is, whichever dates are put into it. -/
theorem isBlankText_render (template : String) (lastActivity : Instant)
    (closeDate? : Option Instant) :
    isBlankText (render template lastActivity closeDate?) = isBlankText template := by
  have hmark : lastActivityMark.all isBlank = false := by decide
  have hlast := all_isBlank_replaceAll hmark (dateText_not_blank lastActivity) template.toList
  cases closeDate? with
  | none =>
    rw [render, isBlankText, String.toList_ofList, hlast]
    rfl
  | some closeDate =>
    rw [render, isBlankText, String.toList_ofList,
      all_isBlank_replaceAll (by decide) (dateText_not_blank closeDate), hlast]
    rfl

/-- The template calls for an action: for a comment of the kind that is not blank, or for none if
the template is blank. -/
def Calls (kind : CommentKind) (template : String) (a : Action) : Prop :=
  if isBlankText template then a = .removeComment
  else ∃ body, isBlankText body = false ∧ a = .postComment kind body

theorem Calls.isComment {kind : CommentKind} {template : String} {a : Action}
    (h : Calls kind template a) : a.isComment = true := by
  unfold Calls at h
  split at h
  · rw [h]
    rfl
  · obtain ⟨body, -, rfl⟩ := h
    rfl

theorem calls_commentAction (kind : CommentKind) (template : String) (lastActivity : Instant)
    (closeDate? : Option Instant) :
    Calls kind template (commentAction kind (render template lastActivity closeDate?)) := by
  have hblank := isBlankText_render template lastActivity closeDate?
  unfold Calls commentAction
  rw [hblank]
  split
  · rfl
  · next h => exact ⟨_, by rw [hblank, Bool.eq_false_iff]; exact h, rfl⟩

end Template

end Upkeep
