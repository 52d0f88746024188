import Upkeep.Proofs.GitHub.SignedComments
import Upkeep.Proofs.Json.RoundTrip
import Mathlib.Data.List.Nodup
/-!
# The comment of the manager

Posting the comment of the manager leaves one comment with the signature, which has the wanted text,
and posting it again changes nothing. Whatever goes wrong on the way, comments without the signature
are left alone, and those with it do not pile up (`one_bot_comment`). Posting and removing succeed
where their requests are answered (`Served`).
-/

namespace Upkeep.GitHub

variable {c : Client (Play Session)} {i : IssueRef} {s t : Session} {signature body : String}

/-! ## Posting and removing -/

/-- The comments without the signature are as they were, and those with it are no more than they
were, or no more than one. -/
structure Kept (signature : String) (before after : List Comment) : Prop where
  others : after.filter (fun c => !c.carries signature) =
    before.filter fun c => !c.carries signature
  atMost : after.countP (Comment.carries signature) ≤
    max 1 (before.countP (Comment.carries signature))

/-- There is one comment with the signature, and it has the text. -/
def UpToDate (signature body : String) (cs : List Comment) : Prop :=
  ∃ only, cs.filter (Comment.carries signature) = [only] ∧
    only.body.map normalized = some (normalized body)

theorem Spares.kept {before after : List Comment} (h : Spares signature before after) :
    Kept signature before after :=
  ⟨h.others, h.fewer.countP_le.trans (Nat.le_max_right 1 _)⟩

/-- What is found by the signature goes by the same identifiers as what is there. -/
theorem map_id_shown {cs rows : List Comment} (h : List.Forall₂ Comment.ShownAs cs rows) :
    rows.map Comment.id = cs.map Comment.id := by
  induction h with
  | nil => rfl
  | cons hab _ ih => rw [List.map_cons, List.map_cons, hab.id, ih]

/-- Where identifiers are different, none of a comment with the signature belongs to another. -/
theorem carries_of_mem_ids {cs : List Comment} (hcs : (cs.map Comment.id).Nodup) {x : Comment}
    (hx : x ∈ cs) (hid : x.id ∈ (cs.filter (Comment.carries signature)).map Comment.id) :
    x.carries signature = true := by
  obtain ⟨y, hy, hyx⟩ := List.mem_map.1 hid
  obtain ⟨hmem, hcarries⟩ := List.mem_filter.1 hy
  exact List.inj_on_of_nodup_map hcs hmem hx hyx ▸ hcarries

/-- Deleting all that is found by the signature leaves just the other comments. -/
theorem filter_notMem_ids {cs : List Comment} (hcs : (cs.map Comment.id).Nodup) :
    cs.filter (fun x => x.id ∉ (cs.filter (Comment.carries signature)).map Comment.id) =
      cs.filter fun x => !x.carries signature := by
  refine List.filter_congr fun x hx => ?_
  cases hcarries : x.carries signature with
  | true =>
    exact decide_eq_false (not_not.2 (List.mem_map_of_mem (List.mem_filter.2 ⟨hx, hcarries⟩)))
  | false =>
    refine decide_eq_true fun hid => ?_
    rw [carries_of_mem_ids hcs hx hid] at hcarries
    cases hcarries

/-- Deleting the comments that were found. -/
theorem deleteComments_found (hc : c.transport = commentServer c.apiUrl i) {found : List Comment}
    (hs : (s.comments.map Comment.id).Nodup)
    (hfound : List.Forall₂ Comment.ShownAs (s.comments.filter (Comment.carries signature)) found)
    {result : Except ServiceError Unit} (h : c.deleteComments i found s result t) :
    Spares signature s.comments t.comments ∧
      Throughout (fun e => Spares signature s.comments e.comments) s t ∧
      (result = .ok () → t.comments = s.comments.filter fun x => !x.carries signature) := by
  have hids := map_id_shown hfound
  obtain ⟨hspares, hway, hall⟩ := deleteComments_spares hc
    (fun x hx hid => carries_of_mem_ids hs hx (hids ▸ hid)) h
  refine ⟨hspares, hway, fun hok => ?_⟩
  rw [hall hok, hids, filter_notMem_ids hs]

/-- Removing the comment of the manager leaves the other comments as they are. If it succeeds, no
comment has the signature any more. -/
theorem removeComment_spares (hc : c.transport = commentServer c.apiUrl i)
    (hs : (s.comments.map Comment.id).Nodup) {result : Except ServiceError Unit}
    (h : c.removeComment i signature s result t) :
    Spares signature s.comments t.comments ∧
      Throughout (fun e => Spares signature s.comments e.comments) s t ∧
      (result = .ok () → t.comments = s.comments.filter fun x => !x.carries signature) := by
  obtain ⟨listed, u, hlist, h⟩ := h
  obtain ⟨hsame, hway, hshown⟩ := signedComments_shown hc hlist
  have hway : Throughout (fun e => Spares signature s.comments e.comments) s u :=
    hway.mono fun e he => he.2 ▸ .refl _ _
  cases listed with
  | error e =>
    obtain ⟨rfl, rfl⟩ := h
    exact ⟨hsame ▸ .refl _ _, hway, fun hok => by cases hok⟩
  | ok found =>
    have hfound := hshown found rfl
    rw [← hsame] at hs hfound
    obtain ⟨hspares, hway', hall⟩ := deleteComments_found hc hs hfound h
    rw [hsame] at hspares hway' hall
    exact ⟨hspares, hway.trans hway', hall⟩

/-- A comment that is created when no other has its signature is the only one with it. -/
theorem created {before after cs : List Comment}
    (hsigned : ∀ new : Comment, new.body = some body → new.carries signature = true)
    (hbefore : (before.map Comment.id).Nodup)
    (hcs : cs = before.filter fun x => !x.carries signature)
    (h : (CommentRequest.create body).Makes cs after) :
    Kept signature before after ∧ (after.map Comment.id).Nodup ∧
      UpToDate signature body after := by
  obtain ⟨new, hbody, hfresh, rfl⟩ := h
  have hnew := hsigned new hbody
  have hcarrying : (cs ++ [new]).filter (Comment.carries signature) = [new] := by
    simp [hcs, List.filter_filter, hnew]
  refine ⟨⟨by simp [hcs, List.filter_filter, hnew], ?_⟩, ?_, new, hcarrying, by rw [hbody]; rfl⟩
  · rw [List.countP_eq_length_filter, hcarrying]
    exact Nat.le_max_left 1 _
  · rw [List.map_append]
    refine List.Nodup.append ?_ (List.nodup_singleton _) fun id hid hnew => ?_
    · exact hcs ▸ hbefore.sublist (List.filter_sublist.map _)
    · obtain ⟨x, hx, rfl⟩ := List.mem_map.1 hid
      exact hfresh x hx (List.mem_singleton.1 hnew)

/-- What posting makes of the comments that there were before, whatever becomes of its requests. -/
structure Posted (signature body : String) (before : List Comment) (s t : Session)
    (result : Except ServiceError Unit) : Prop where
  kept : Kept signature before t.comments
  throughout : Throughout (fun e => Kept signature before e.comments) s t
  nodup : (t.comments.map Comment.id).Nodup
  upToDate : result = .ok () → UpToDate signature body t.comments

/-- The only comment that was found has the text already. -/
theorem upToDate_of_found {cs found : List Comment}
    (hfound : List.Forall₂ Comment.ShownAs (cs.filter (Comment.carries signature)) found)
    (h : (found.length = 1 && found.all (Comment.hasBody body)) = true) :
    UpToDate signature body cs := by
  obtain ⟨hlength, hall⟩ := Bool.and_eq_true_iff.1 h
  obtain ⟨shown, rfl⟩ := List.length_eq_one_iff.1 (of_decide_eq_true hlength)
  cases hcs : cs.filter (Comment.carries signature) with
  | nil => rw [hcs] at hfound; cases hfound
  | cons only rest =>
    rw [hcs] at hfound
    obtain _ | ⟨honly, hrest⟩ := hfound
    obtain rfl := List.forall₂_nil_right_iff.1 hrest
    have hbody := List.all_eq_true.1 hall shown List.mem_cons_self
    rw [honly.hasBody_eq] at hbody
    exact ⟨only, hcs, beq_iff_eq.1 hbody⟩

/-- The end of posting, when the comments that were found are deleted. -/
theorem createComment_posted (hc : c.transport = commentServer c.apiUrl i)
    (hsigned : ∀ new : Comment, new.body = some body → new.carries signature = true)
    {before : List Comment} (hbefore : (before.map Comment.id).Nodup)
    (hs : s.comments = before.filter fun x => !x.carries signature)
    {result : Except ServiceError Unit} (h : c.createComment i body s result t) :
    Posted signature body before s t result := by
  have hdone := createComment_done hc h
  have hidle : Spares signature before s.comments :=
    hs ▸ spares_filter fun x _ hx => by simpa using hx
  obtain ⟨hkept, hnodup⟩ : Kept signature before t.comments ∧
      (t.comments.map Comment.id).Nodup := by
    rcases hdone.made with h | h
    · exact h ▸ ⟨hidle.kept, hbefore.sublist (hidle.fewer.map _)⟩
    · exact ⟨(created hsigned hbefore hs h).1, (created hsigned hbefore hs h).2.1⟩
  refine ⟨hkept, hdone.throughout.mono fun e he => ?_, hnodup,
    fun hok => (created hsigned hbefore hs (hdone.ok hok)).2.2⟩
  rcases he with h | h <;> rw [h]
  · exact hidle.kept
  · exact hkept

theorem upsertComment_posted (hc : c.transport = commentServer c.apiUrl i)
    (hsigned : ∀ new : Comment, new.body = some body → new.carries signature = true)
    (hs : (s.comments.map Comment.id).Nodup) {result : Except ServiceError Unit}
    (h : c.upsertComment i body signature s result t) :
    Posted signature body s.comments s t result := by
  obtain ⟨listed, u, hlist, h⟩ := h
  obtain ⟨hsame, hway, hshown⟩ := signedComments_shown hc hlist
  have hlisted : Kept signature s.comments u.comments := hsame ▸ (Spares.refl _ _).kept
  have hway : Throughout (fun e => Kept signature s.comments e.comments) s u :=
    hway.mono fun e he => he.2 ▸ (Spares.refl _ _).kept
  cases listed with
  | error e =>
    obtain ⟨rfl, rfl⟩ := h
    exact ⟨hlisted, hway, hsame ▸ hs, fun hok => by cases hok⟩
  | ok found =>
    have hfound := hshown found rfl
    dsimp only at h
    split at h
    · next hup =>
      obtain ⟨rfl, rfl⟩ := h
      exact ⟨hlisted, hway, hsame ▸ hs, fun _ => hsame ▸ upToDate_of_found hfound hup⟩
    · obtain ⟨deleted, v, hdelete, h⟩ := h
      have hs' : (u.comments.map Comment.id).Nodup := hsame ▸ hs
      rw [← hsame] at hfound
      obtain ⟨hspares, hway', hall⟩ := deleteComments_found hc hs' hfound hdelete
      rw [hsame] at hspares hway' hall
      have hway := hway.trans (hway'.mono fun e he => he.kept)
      cases deleted with
      | error e =>
        obtain ⟨rfl, rfl⟩ := h
        exact ⟨hspares.kept, hway, hs.sublist (hspares.fewer.map _), fun hok => by cases hok⟩
      | ok _ =>
        have hposted := createComment_posted hc hsigned hs (hall rfl) h
        exact { hposted with throughout := hway.trans hposted.throughout }

/-- A comment that is up to date is found to be so, however it is shown. -/
theorem found_of_upToDate {cs found : List Comment} (hup : UpToDate signature body cs)
    (hfound : List.Forall₂ Comment.ShownAs (cs.filter (Comment.carries signature)) found) :
    (found.length = 1 && found.all (Comment.hasBody body)) = true := by
  obtain ⟨only, hcs, hbody⟩ := hup
  rw [hcs] at hfound
  obtain _ | ⟨honly, hrest⟩ := hfound
  obtain rfl := List.forall₂_nil_left_iff.1 hrest
  have hsame : only.hasBody body = true := beq_iff_eq.2 hbody
  simp [honly.hasBody_eq, hsame]

/-- Posting again what is up to date does no more than look. -/
theorem upsertComment_again (hc : c.transport = commentServer c.apiUrl i)
    (hup : UpToDate signature body s.comments) {result : Except ServiceError Unit}
    (h : c.upsertComment i body signature s result t) :
    t.comments = s.comments ∧ Throughout (fun e => e.request.method = .get) s t := by
  obtain ⟨listed, u, hlist, h⟩ := h
  obtain ⟨hsame, hway, hshown⟩ := signedComments_shown hc hlist
  have hway := hway.mono fun e he => he.1
  cases listed with
  | error e =>
    obtain ⟨rfl, rfl⟩ := h
    exact ⟨hsame, hway⟩
  | ok found =>
    dsimp only at h
    rw [if_pos (found_of_upToDate hup (hshown found rfl))] at h
    obtain ⟨rfl, rfl⟩ := h
    exact ⟨hsame, hway⟩

/-! ## Requests that are answered -/

/-- All requests were answered, and the comments fit on the pages that may be asked for. -/
structure Served (s t : Session) : Prop where
  answered : Throughout Exchange.Answered s t
  fit : s.comments.length < Client.pageSize * Client.lastPage

theorem address_of_upsertComment (h : c.upsertComment i body signature s (.ok ()) t) :
    (Url.parse? (c.apiUrl ++ (issuePath i ++ "/comments"))).isSome := by
  obtain ⟨listed, u, hlist, h⟩ := h
  cases listed with
  | error e => cases h.1
  | ok found => exact address_of_signedComments hlist

/-- Posting that fails was not answered somewhere. -/
theorem upsertComment_error (hc : c.transport = commentServer c.apiUrl i)
    (haddress : (Url.parse? (c.apiUrl ++ (issuePath i ++ "/comments"))).isSome)
    (hs : (s.comments.map Comment.id).Nodup)
    (hend : s.comments.length < Client.pageSize * Client.lastPage) {e : ServiceError}
    (h : c.upsertComment i body signature s (.error e) t) :
    Sometime (fun x => ¬x.Answered) s t := by
  obtain ⟨listed, u, hlist, h⟩ := h
  obtain ⟨hsame, hway, hshown⟩ := signedComments_shown hc hlist
  cases listed with
  | error e' =>
    obtain ⟨⟨⟩, rfl⟩ := h
    exact signedComments_error hc haddress hend hlist
  | ok found =>
    dsimp only at h
    split at h
    · cases h.1
    obtain ⟨deleted, v, hdelete, h⟩ := h
    refine hway.sometime ?_
    cases deleted with
    | error e' =>
      obtain ⟨⟨⟩, rfl⟩ := h
      exact deleteComments_error hc haddress hdelete
    | ok _ =>
      have hfound := hshown found rfl
      rw [← hsame] at hs hfound
      obtain ⟨-, hway', -⟩ := deleteComments_found hc hs hfound hdelete
      exact hway'.sometime (createComment_error hc haddress h)

/-- Removing that fails was not answered somewhere. -/
theorem removeComment_error (hc : c.transport = commentServer c.apiUrl i)
    (haddress : (Url.parse? (c.apiUrl ++ (issuePath i ++ "/comments"))).isSome)
    (hend : s.comments.length < Client.pageSize * Client.lastPage) {e : ServiceError}
    (h : c.removeComment i signature s (.error e) t) : Sometime (fun x => ¬x.Answered) s t := by
  obtain ⟨listed, u, hlist, h⟩ := h
  cases listed with
  | error e' =>
    obtain ⟨⟨⟩, rfl⟩ := h
    exact signedComments_error hc haddress hend hlist
  | ok found =>
    obtain ⟨-, hway, -⟩ := signedComments_shown hc hlist
    exact hway.sometime (deleteComments_error hc haddress h)

/-- What fails only where a request is not answered succeeds where all are. -/
theorem Served.ok {result : Except ServiceError Unit} (h : Served s t)
    (herror : ∀ e, result = .error e → Sometime (fun x => ¬x.Answered) s t) :
    result = .ok () := by
  cases result with
  | ok _ => rfl
  | error e => exact absurd (herror e rfl) h.answered.not_sometime

section OnePage

variable (body) (hc : c.transport = commentServer c.apiUrl i)
  (haddress : (Url.parse? (c.apiUrl ++ (issuePath i ++ "/comments"))).isSome)
  {response : Http.Response} (hresponse : response.isSuccess = true)
  (hrows : response.decode (Decoder.list Comment.ofValue) = .ok s.comments)
  (hshort : s.comments.length < Client.pageSize)

include hc haddress hresponse hrows hshort

/-- A comment that is outdated can be replaced. -/
theorem upsertComment_replaces (old new : Comment)
    (hfound : s.comments.filter (Comment.carries signature) = [old])
    (hbody : old.hasBody body = false) (hnew : new.body = some body)
    (hfresh : ∀ x ∈ s.comments, x.id ≠ new.id) :
    ∃ t, t.comments = s.comments.filter (·.id != old.id) ++ [new] ∧
      c.upsertComment i body signature s (.ok ()) t := by
  obtain ⟨u, hu, -, hlist⟩ := signedComments_succeeds hc haddress hresponse hrows hshort signature
  rw [hfound] at hlist
  obtain ⟨v, hv, -, hdelete⟩ := deleteComment_succeeds (s := u) hc (comment_address haddress old.id)
  rw [hu] at hv
  have hrest : ∀ x ∈ v.comments, x.id ≠ new.id := by
    rw [hv]
    exact fun x hx => hfresh x (List.mem_filter.1 hx).1
  obtain ⟨t, ht, -, hcreate⟩ := createComment_succeeds (s := v) hc new haddress hnew hrest
  rw [hv] at ht
  refine ⟨t, ht, _, u, hlist, ?_⟩
  dsimp only
  rw [if_neg (by simp [hbody])]
  exact ⟨.ok (), v, ⟨.ok (), v, hdelete, rfl, rfl⟩, hcreate⟩

/-- A comment that is up to date can be posted again. -/
theorem upsertComment_repeats (only : Comment)
    (hfound : s.comments.filter (Comment.carries signature) = [only])
    (hbody : only.hasBody body = true) :
    ∃ t, t.comments = s.comments ∧ c.upsertComment i body signature s (.ok ()) t := by
  obtain ⟨t, ht, -, hlist⟩ := signedComments_succeeds hc haddress hresponse hrows hshort signature
  rw [hfound] at hlist
  refine ⟨t, ht, _, t, hlist, ?_⟩
  dsimp only
  rw [if_pos (by simp [hbody])]
  exact ⟨rfl, rfl⟩

/-- A comment can be removed. -/
theorem removeComment_clears (only : Comment)
    (hfound : s.comments.filter (Comment.carries signature) = [only]) :
    ∃ t, Throughout Exchange.Answered s t ∧ c.removeComment i signature s (.ok ()) t := by
  obtain ⟨u, -, hlisted, hlist⟩ :=
    signedComments_succeeds hc haddress hresponse hrows hshort signature
  rw [hfound] at hlist
  obtain ⟨t, -, hdeleted, hdelete⟩ :=
    deleteComment_succeeds (s := u) hc (comment_address haddress only.id)
  exact ⟨t, hlisted.trans hdeleted, _, u, hlist, .ok (), t, hdelete, rfl, rfl⟩

end OnePage

/-! ## The comment of the manager -/

theorem of_create {m : Type → Type} {transport : Http.Transport m} {config : Config} {c : Client m}
    (h : Client.create transport config = .ok c) :
    c.transport = transport ∧ c.apiUrl = withoutTrailingSlashes config.apiUrl := by
  unfold Client.create at h
  dsimp only at h
  split at h
  · cases h
  split at h
  · cases h
  · cases h
    exact ⟨rfl, rfl⟩

/-- However its requests fare, posting the comment of the manager leaves the comments without the
signature alone and never makes those with it more than they were, or more than one. If it succeeds,
there is just one, and it has the wanted text; posting it again does no more than look, and removing
it leaves the other comments. Each of these succeeds if its requests are answered. -/
theorem one_bot_comment {config : Config} {i : IssueRef} {c : Client (Play Session)}
    (hc : Client.create (commentServer (withoutTrailingSlashes config.apiUrl) i) config = .ok c)
    (text : String) {s t : Session} (hs : (s.comments.map Comment.id).Nodup)
    {result : Except ServiceError Unit}
    (h : c.upsertComment i (text ++ botSignature) botSignature s result t) :
    Kept botSignature s.comments t.comments ∧
      Throughout (fun e => Kept botSignature s.comments e.comments) s t ∧
      ((Url.parse? (c.apiUrl ++ (issuePath i ++ "/comments"))).isSome → Served s t →
        result = .ok ()) ∧
      (result = .ok () →
        UpToDate botSignature (text ++ botSignature) t.comments ∧
        (∀ again u, c.upsertComment i (text ++ botSignature) botSignature t again u →
          u.comments = t.comments ∧ Throughout (fun e => e.request.method = .get) t u ∧
          (Served t u → again = .ok ())) ∧
        ∀ removed u, c.removeComment i botSignature t removed u →
          Kept botSignature t.comments u.comments ∧
          Throughout (fun e => Kept botSignature t.comments e.comments) t u ∧
          (removed = .ok () →
            u.comments = t.comments.filter fun x => !x.carries botSignature) ∧
          (Served t u → removed = .ok ())) := by
  obtain ⟨htransport, hurl⟩ := of_create hc
  rw [← hurl] at htransport
  have hposted := upsertComment_posted htransport (fun _ => carries_of_signed) hs h
  refine ⟨hposted.kept, hposted.throughout, fun haddress hserved => hserved.ok ?_, ?_⟩
  · rintro e rfl
    exact upsertComment_error htransport haddress hs hserved.fit h
  rintro rfl
  have haddress := address_of_upsertComment h
  have hup := hposted.upToDate rfl
  refine ⟨hup, fun again u h => ?_, fun removed u h => ?_⟩
  · obtain ⟨hsame, hway⟩ := upsertComment_again htransport hup h
    refine ⟨hsame, hway, fun hserved => hserved.ok ?_⟩
    rintro e rfl
    exact upsertComment_error htransport haddress hposted.nodup hserved.fit h
  · obtain ⟨hspares, hway, hall⟩ := removeComment_spares htransport hposted.nodup h
    refine ⟨hspares.kept, hway.mono fun e he => he.kept, hall, fun hserved => hserved.ok ?_⟩
    rintro e rfl
    exact removeComment_error htransport haddress hserved.fit h

/-- A service under a plain address. -/
def localConfig : Config := { apiUrl := "http://[::1]", token := "t" }

/-- A comment as it stands in a list, without its author. -/
def Comment.row (c : Comment) : Value :=
  .table [("id", .int c.id), ("body", .ofText? c.body),
    ("created_at", .text c.createdAt.zuluText)]

/-- Comments on one page. -/
def onePage (cs : List Comment) : Http.Response where
  status := 200
  body := Json.print (.list (cs.map Comment.row))

theorem Comment.fits_row {c : Comment} (hid : Value.isWordInt c.id = true) (n : Nat) :
    Json.Fits (n + 1) c.row := by
  refine .table _ ?_
  simp only [List.forall_mem_cons]
  refine ⟨.int _ hid, ?_, .text _, List.forall_mem_nil _⟩
  cases c.body with
  | none => exact .null
  | some body => exact .text body

theorem decode_onePage {d : Decoder (List Comment)} {cs rows : List Comment}
    (hids : ∀ c ∈ cs, Value.isWordInt c.id = true) (h : d (.list (cs.map Comment.row)) = .ok rows) :
    (onePage cs).decode d = .ok rows := by
  have hfits : Json.Fits Json.nestingLimit (.list (cs.map Comment.row)) :=
    .list _ (List.forall_mem_map.2 fun c hc => c.fits_row (hids c hc) 125)
  rw [Http.Response.decode, onePage, Json.read?_print hfits]
  dsimp only
  rw [h]
  rfl

/-- A question. -/
def question : Comment := ⟨1, some "Any news?", none, .clamp 0⟩

/-- A comment of the manager on the question. -/
def remark (id : Nat) (text : String) : Comment :=
  ⟨id, some (text ++ botSignature), none, .clamp 0⟩

/-- The outdated comment is replaced, the new one is found up to date, and it can be removed. -/
theorem one_bot_comment_outdated :
    let i : IssueRef := ⟨⟨"istio", "istio"⟩, 7⟩
    let body := "Fresh." ++ botSignature
    let discussion := [question, remark 2 "Stale."]
    ∃ c t u v, Client.create (commentServer (withoutTrailingSlashes localConfig.apiUrl) i)
        localConfig = .ok c ∧
      (discussion.map Comment.id).Nodup ∧
      c.upsertComment i body botSignature ⟨discussion, []⟩ (.ok ()) t ∧
      Kept botSignature discussion t.comments ∧ UpToDate botSignature body t.comments ∧
      t.comments = [question, remark 3 "Fresh."] ∧
      c.upsertComment i body botSignature t (.ok ()) u ∧ u.comments = t.comments ∧
      Throughout (fun e => e.request.method = .get) t u ∧
      c.removeComment i botSignature u (.ok ()) v ∧ Served u v ∧ v.comments = [question] := by
  intro i body discussion
  obtain ⟨c, hc⟩ : ∃ c, Client.create (commentServer (withoutTrailingSlashes localConfig.apiUrl) i)
      localConfig = .ok c := ⟨_, rfl⟩
  obtain ⟨htransport, hurl⟩ := of_create hc
  rw [← hurl] at htransport
  have haddress : (Url.parse? (c.apiUrl ++ (issuePath i ++ "/comments"))).isSome := by
    rw [hurl]
    decide +kernel
  -- The first time, the comment is replaced.
  have hstale : (onePage discussion).decode (Decoder.list Comment.ofValue) = .ok discussion :=
    decode_onePage (by decide) (by decide +kernel)
  have hold : discussion.filter (Comment.carries botSignature) = [remark 2 "Stale."] := by
    decide +kernel
  obtain ⟨t, ht, hposted⟩ := upsertComment_replaces (s := ⟨discussion, []⟩) body htransport
    haddress rfl hstale (by decide) (remark 2 "Stale.") (remark 3 "Fresh.") hold
    (by decide +kernel) rfl (by decide)
  have hafter : t.comments = [question, remark 3 "Fresh."] := ht.trans (by decide)
  -- The second time, nothing is done.
  have hfresh : (onePage t.comments).decode (Decoder.list Comment.ofValue) = .ok t.comments := by
    rw [hafter]
    exact decode_onePage (by decide) (by decide +kernel)
  have hnew : t.comments.filter (Comment.carries botSignature) = [remark 3 "Fresh."] := by
    rw [hafter]
    decide +kernel
  have hshort : t.comments.length < Client.pageSize := by
    rw [hafter]
    decide
  obtain ⟨u, hu, hrepeated⟩ := upsertComment_repeats body htransport haddress rfl hfresh hshort
    (remark 3 "Fresh.") hnew (by decide +kernel)
  -- After that, the comment is removed.
  rw [← hu] at hfresh hnew hshort
  obtain ⟨v, hanswered, hremoved⟩ := removeComment_clears htransport haddress rfl hfresh
    hshort (remark 3 "Fresh.") hnew
  have hserved : Served u v := ⟨hanswered, hshort.trans (by decide)⟩
  have hids : (discussion.map Comment.id).Nodup := by decide
  have hids' : (t.comments.map Comment.id).Nodup := by
    rw [hafter]
    decide
  obtain ⟨hkept, -, -, hok⟩ := one_bot_comment hc "Fresh." (s := ⟨discussion, []⟩) hids hposted
  obtain ⟨hup, hagain, -⟩ := hok rfl
  obtain ⟨hsame, hlooks, -⟩ := hagain (.ok ()) u hrepeated
  obtain ⟨-, -, -, hok'⟩ := one_bot_comment hc "Fresh." hids' hrepeated
  obtain ⟨-, -, hremove⟩ := hok' rfl
  obtain ⟨-, -, hleft, hdone⟩ := hremove (.ok ()) v hremoved
  refine ⟨c, t, u, v, hc, hids, hposted, hkept, hup, hafter, hrepeated, hsame, hlooks, hremoved,
    hserved, ?_⟩
  rw [hleft (hdone hserved), hu, hafter]
  decide +kernel

end Upkeep.GitHub
