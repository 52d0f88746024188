import Upkeep.Decision.Template
import Upkeep.Proofs.GitHub.Activity
import Upkeep.Proofs.GitHub.BotComment
/-!
# The signature

The manager finds its own comments by the whole signature, line ends normalized, and passes over
comments with the plain signature when it looks for what members did. The first is the narrower
test (`not_counts_of_carries`), so that no comment that the manager may delete or replace counts as
something a member did, and what it posts is its own by both tests (`own_comment_recognized`).
-/

namespace Upkeep.GitHub

theorem botSignature_eq :
    normalizeNewlines botSignature.toList = ['\n', '\n'] ++ plainSignature.toList := by
  decide +kernel

theorem carries_iff {c : Comment} : c.carries botSignature = true ↔ ∃ body, c.body = some body ∧
    normalizeNewlines botSignature.toList <:+: normalizeNewlines body.toList := by
  simp only [Comment.carries, Option.any_eq_true, String.hasText, normalized, String.toList_ofList,
    containsText_iff]

/-- What is found by the whole signature has the plain one, in the text as it was shown. -/
theorem hasText_of_carries {c : Comment} (h : c.carries botSignature = true) :
    String.hasText (c.body.getD "") plainSignature = true := by
  obtain ⟨body, hbody, hsigned⟩ := carries_iff.1 h
  rw [botSignature_eq] at hsigned
  -- The plain signature is a single line, which no change of line ends gets at.
  have hline : '\n' ∉ plainSignature.toList := by decide +kernel
  rw [hbody]
  exact containsText_iff.2 (infix_of_normalizeNewlines hline
    ((List.suffix_append _ _).isInfix.trans hsigned))

theorem not_counts_of_carries {c : Comment} (h : c.carries botSignature = true)
    (logins : List String) : c.counts logins = false := by
  rw [Comment.counts, hasText_of_carries h, Bool.not_true, Bool.and_false]

/-- Carriage returns before line feeds do not hide the signature. -/
theorem carries_of_crInserted {c : Comment} {text shown : String}
    (hshown : CrInserted none (text ++ botSignature).toList shown.toList)
    (hbody : c.body = some shown) : c.carries botSignature = true := by
  -- The comment as it was posted, before the server put carriage returns into it.
  let plain : Comment := { c with body := some (text ++ botSignature) }
  have hplain : plain.carries botSignature = true := carries_of_signed rfl
  have hsame : Comment.ShownAs plain c := by
    refine ⟨rfl, ?_⟩
    rw [hbody]
    exact .some hshown
  rw [hsame.carries_eq]
  exact hplain

/-- Comments that do not count do not matter for the newest one. -/
theorem newestComment?_filter {logins : List String} {listed : List Comment} {p : Comment → Bool}
    (h : ∀ c ∈ listed, p c = false → c.counts logins = false) :
    newestComment? logins (listed.filter p) = newestComment? logins listed := by
  unfold newestComment?
  rw [List.filter_filter]
  congr 2
  refine List.filter_congr fun c hmem => ?_
  cases hp : p c with
  | true => rw [Bool.and_true]
  | false => rw [h c hmem hp, Bool.and_false]

variable {σ : Type} {client : Client (StateM σ)} {issue : IssueRef} {s : σ} {signature : String}

theorem signedComments_run {result : Except ServiceError (List Comment)}
    (h : ((client.comments issue).run s).1 = result) :
    ((client.signedComments issue signature).run s).1 =
      result.map (List.filter (Comment.carries signature)) := by
  obtain ⟨⟨listed, s'⟩, hrun⟩ : ∃ p, (client.comments issue).run s = p := ⟨_, rfl⟩
  rw [hrun] at h
  subst h
  rw [Client.signedComments, StateT.run_bind, hrun]
  cases listed <;> rfl

/-- A comment that the manager posted, for whatever template and dates, is found among the comments
with the signature and is none that counts, also when it comes back with carriage returns before its
line feeds. No comment at all that is found so, and may be deleted or replaced, counts as something
a member did. -/
theorem own_comment_recognized :
    (∀ (template : String) (lastActivity : Instant) (closeDate? : Option Instant)
      (kind : CommentKind) (body signature : String),
      Mutation.ofAction (.postComment kind (Template.render template lastActivity closeDate?)) =
        .upsertComment body signature →
      ∀ (posted : Comment) (shown : String), posted.body = some shown →
        CrInserted none body.toList shown.toList →
        (∀ (σ : Type) (client : Client (StateM σ)) (issue : IssueRef) (s : σ)
          (listed : List Comment), ((client.comments issue).run s).1 = .ok listed →
            posted ∈ listed → ∃ found,
              ((client.signedComments issue signature).run s).1 = .ok found ∧ posted ∈ found) ∧
        ∀ logins listed,
          newestComment? logins (listed.filter (· ≠ posted)) = newestComment? logins listed) ∧
    (∀ c : Comment, c.carries botSignature = true →
      String.hasText (c.body.getD "") plainSignature = true) ∧
    (∀ (σ : Type) (client : Client (StateM σ)) (issue : IssueRef) (s : σ) (found : List Comment),
      ((client.signedComments issue botSignature).run s).1 = .ok found →
        ∀ c ∈ found, ∀ logins, c.counts logins = false) ∧
    ∀ logins listed, newestComment? logins (listed.filter fun c => !c.carries botSignature) =
      newestComment? logins listed := by
  refine ⟨?_, fun c => hasText_of_carries, ?_, ?_⟩
  · intro template lastActivity closeDate? kind body signature hpost posted shown hbody hshown
    obtain ⟨rfl, rfl⟩ := Mutation.upsertComment.inj hpost
    have hcarries : posted.carries botSignature = true := carries_of_crInserted hshown hbody
    constructor
    · intro σ client issue s listed hlisted hmem
      exact ⟨_, signedComments_run hlisted, List.mem_filter.2 ⟨hmem, hcarries⟩⟩
    · intro logins listed
      refine newestComment?_filter fun c _ hc => ?_
      obtain rfl : c = posted := by simpa using hc
      exact not_counts_of_carries hcarries logins
  · intro σ client issue s found hfound c hmem logins
    rw [signedComments_run rfl] at hfound
    cases hlisted : ((client.comments issue).run s).1 with
    | error e =>
      rw [hlisted] at hfound
      cases hfound
    | ok listed =>
      rw [hlisted] at hfound
      obtain rfl := Except.ok.inj hfound
      exact not_counts_of_carries (List.mem_filter.1 hmem).2 logins
  · intro logins listed
    refine newestComment?_filter fun c _ hc => not_counts_of_carries ?_ logins
    simpa using hc

/-- A comment of the manager as it comes back, under the name of a member. -/
def shownComment : Comment where
  id := 9
  body := some "Idle since 2020-01-01\r\n\n_Created by the issue and PR lifecycle manager_."
  user := some ⟨"ann", ""⟩
  createdAt := day 100

def shownRow : Value :=
  .table [("id", .int 9), ("user", .table [("login", .text "ann")]),
    ("body", .text "Idle since 2020-01-01\r\n\n_Created by the issue and PR lifecycle manager_."),
    ("created_at", .text "2020-04-10T00:00:00Z")]

/-- It is found by its signature, and what the member said herself is still her newest comment. -/
theorem own_comment_recognized_shown :
    Mutation.ofAction (.postComment .staleness
      (Template.render "Idle since \x7blast_activity\x7d" (day 0) none)) =
        .upsertComment ("Idle since 2020-01-01" ++ botSignature) botSignature ∧
    (∃ found, (((answering [annsRow, shownRow]).signedComments ⟨⟨"acme", "tools"⟩, 7⟩
      botSignature).run ()).1 = .ok found ∧ shownComment ∈ found) ∧
    newestComment? ["ann"] (annsListings.comments ++ [shownComment]) = some (day 0) := by
  have hpost : Mutation.ofAction (.postComment .staleness
      (Template.render "Idle since \x7blast_activity\x7d" (day 0) none)) =
        .upsertComment ("Idle since 2020-01-01" ++ botSignature) botSignature := by
    decide +kernel
  have hshown : CrInserted none ("Idle since 2020-01-01" ++ botSignature).toList
      "Idle since 2020-01-01\r\n\n_Created by the issue and PR lifecycle manager_.".toList := by
    iterate 21 apply CrInserted.keep
    exact .insert (by decide) (.refl _ _)
  have hfits : Json.Fits Json.nestingLimit (.list [annsRow, shownRow]) := by
    have hrow : Json.Fits 126 shownRow := by
      refine .table _ ?_
      simp only [List.forall_mem_cons]
      exact ⟨.int 9 rfl, .table _ (by simp [Json.Fits.text]), .text _, .text _, nofun⟩
    exact .list _ (List.forall_mem_cons.2 ⟨fits_annsRow 124, List.forall_mem_singleton.2 hrow⟩)
  have hlisted : (((answering [annsRow, shownRow]).comments ⟨⟨"acme", "tools"⟩, 7⟩).run ()).1 =
      .ok (annsListings.comments ++ [shownComment]) := by
    refine getPages_answering hfits ?_ ?_ ?_ ()
    all_goals decide +kernel
  obtain ⟨hfound, hnewest⟩ := own_comment_recognized.1 _ _ _ _ _ _ hpost shownComment _ rfl hshown
  have hmem : shownComment ∈ annsListings.comments ++ [shownComment] := by simp
  refine ⟨hpost, hfound Unit _ _ () _ hlisted hmem, ?_⟩
  rw [← hnewest]
  decide +kernel

end Upkeep.GitHub
