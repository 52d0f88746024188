import Upkeep.Proofs.GitHub.CommentServer
import Upkeep.Proofs.Text.Search
import Mathlib.Data.List.Forall2
/-!
# Comments with a signature

The comments with a signature are found, however they are shown (`signedComments_shown`). Deleting
them one after the other leaves those without it as they are (`deleteComments_spares`). Where either
fails, a request was not answered (`signedComments_error`, `deleteComments_error`).
-/

namespace Upkeep.GitHub

variable {c : Client (Play Session)} {i : IssueRef} {s t : Session} {signature : String}

/-! ## Comments as they are shown -/

theorem Comment.ShownAs.refl (a : Comment) : a.ShownAs a := by
  refine ⟨rfl, ?_⟩
  cases a.body with
  | none => exact .none
  | some b => exact .some (.refl b.toList none)

theorem Comment.ShownAs.normalized_body {a b : Comment} (h : a.ShownAs b) :
    b.body.map normalized = a.body.map normalized := by
  have hbody := h.body
  generalize a.body = x at hbody
  generalize b.body = y at hbody
  cases hbody with
  | none => rfl
  | some hxy => exact congrArg (fun l => some (String.ofList l)) hxy.normalizeNewlines_eq

/-- A comment shows its signature. -/
theorem Comment.ShownAs.carries_eq {a b : Comment} (h : a.ShownAs b) (signature : String) :
    b.carries signature = a.carries signature := by
  have hany (x : Comment) : x.carries signature =
      (x.body.map normalized).any fun body => String.hasText body (normalized signature) := by
    rw [Comment.carries, Option.any_map]
  rw [hany, hany, h.normalized_body]

theorem Comment.ShownAs.hasBody_eq {a b : Comment} (h : a.ShownAs b) (body : String) :
    b.hasBody body = a.hasBody body := by
  rw [Comment.hasBody, Comment.hasBody, h.normalized_body]

/-- A text with the signature at its end carries it, also if the text itself ends with a carriage
return. -/
theorem carries_of_signed {new : Comment} {text : String}
    (h : new.body = some (text ++ botSignature)) : new.carries botSignature = true := by
  obtain ⟨rest, hrest⟩ : ∃ rest, botSignature.toList = '\n' :: rest := ⟨_, rfl⟩
  obtain ⟨front, hfront⟩ := normalizeNewlines_append text.toList rest
  have hsignature : normalizeNewlines ('\n' :: rest) = '\n' :: normalizeNewlines rest :=
    normalizeNewlines_cons (.inl (by decide))
  rw [Comment.carries, h, Option.any_some, String.hasText, normalized, normalized,
    String.toList_ofList, String.toList_ofList, String.toList_append, hrest, hfront, hsignature]
  exact containsText_iff.2 (List.suffix_append front _).isInfix

theorem filter_shown {cs rows : List Comment} (h : List.Forall₂ Comment.ShownAs cs rows)
    (signature : String) :
    List.Forall₂ Comment.ShownAs (cs.filter (Comment.carries signature))
      (rows.filter (Comment.carries signature)) := by
  induction h with
  | nil => exact .nil
  | @cons a b _ _ hab _ ih =>
    rw [List.filter_cons, List.filter_cons, hab.carries_eq]
    split
    · exact .cons hab ih
    · exact ih

/-! ## Listing -/

/-- A page and what the pages behind it show. -/
theorem shown_pages {cs rows rest : List Comment} {size page : Nat} (hpage : 1 ≤ page)
    (hrows : List.Forall₂ Comment.ShownAs ((cs.drop (size * (page - 1))).take size) rows)
    (hrest : List.Forall₂ Comment.ShownAs (cs.drop (size * (page + 1 - 1))) rest) :
    List.Forall₂ Comment.ShownAs (cs.drop (size * (page - 1))) (rows ++ rest) := by
  have hnext : size * (page + 1 - 1) = size * (page - 1) + size := by
    rw [← Nat.mul_succ]
    congr
    omega
  rw [hnext, ← List.drop_drop] at hrest
  rw [← List.take_append_drop size (cs.drop _)]
  exact List.rel_append hrows hrest

/-- A page is asked for. The list ends with it, for better or worse, or the next page is asked
for. -/
theorem page_cases (hc : c.transport = commentServer c.apiUrl i) {rows : List Comment}
    {page left : Nat} {result : Except ServiceError (List Comment)}
    (h : c.pagesFrom "list comments" (issuePath i ++ "/comments") [] Comment.ofValue rows page
      (left + 1) s result t) :
    ∃ u, u.comments = s.comments ∧
      Throughout (fun e => e.request.method = .get ∧ e.comments = s.comments) s u ∧
      ((t = u ∧ (∃ e, result = .error e) ∧
          ((Url.parse? (c.apiUrl ++ (issuePath i ++ "/comments"))).isSome →
            Sometime (fun x => ¬x.Answered) s t)) ∨
        ∃ chunk, List.Forall₂ Comment.ShownAs
            ((s.comments.drop (Client.pageSize * (page - 1))).take Client.pageSize) chunk ∧
          (chunk.length < Client.pageSize ∧ t = u ∧ result = .ok (rows ++ chunk) ∨
            ¬chunk.length < Client.pageSize ∧
              c.pagesFrom "list comments" (issuePath i ++ "/comments") [] Comment.ofValue
                (rows ++ chunk) (min (page + 1) Client.lastPage) left u result t)) := by
  obtain ⟨sent, u, hsend, h⟩ := h
  obtain ⟨response?, hsent, hsettles, hlogged⟩ := send_sent hc (fun _ => asks_list) hsend
  have hsame : u.comments = s.comments := hsent.reply.made.elim id id
  have hway : Throughout (fun e => e.request.method = .get ∧ e.comments = s.comments) s u :=
    hsent.throughout.mono fun e he => ⟨he.1, he.2.elim id (·.trans hsame)⟩
  refine ⟨u, hsame, hway, ?_⟩
  cases sent with
  | error e =>
    obtain ⟨rfl, rfl⟩ := h
    refine .inl ⟨rfl, ⟨e, rfl⟩, fun haddress => ?_⟩
    have hfailed := send_error hc haddress (fun _ => asks_list) hsend
    exact hfailed.resolve_right fun hgone => by cases hgone.1
  | ok response =>
    obtain ⟨rfl, hsuccess⟩ := (hsettles.ok_iff response).1 rfl
    dsimp only at h
    cases hdecode : response.decode (Decoder.list Comment.ofValue) with
    | error e =>
      rw [hdecode] at h
      obtain ⟨rfl, rfl⟩ := h
      refine .inl ⟨rfl, ⟨e, rfl⟩, fun haddress => (hlogged haddress).mono fun x hx => ?_⟩
      obtain ⟨hmethod, hresponse⟩ := hx
      rintro ⟨_, hresponse', ⟨-, hlegible⟩ | ⟨hdelete, -⟩⟩
      · obtain rfl := Option.some.inj (hresponse.symm.trans hresponse')
        obtain ⟨rows', hrows'⟩ := hlegible hmethod
        rw [hdecode] at hrows'
        cases hrows'
      · rw [hmethod] at hdelete
        cases hdelete
    | ok chunk =>
      rw [hdecode] at h
      dsimp only at h
      refine .inr ⟨chunk, hsent.reply.shown _ _ response chunk rfl rfl hsuccess hdecode, ?_⟩
      split at h
      · next hshort =>
        obtain ⟨rfl, rfl⟩ := h
        exact .inl ⟨hshort, rfl, rfl⟩
      · next hfull => exact .inr ⟨hfull, h⟩

/-- The pages that are listed make up the comments from the first of them on. -/
theorem pagesFrom_shown (hc : c.transport = commentServer c.apiUrl i) {rows : List Comment}
    {page left : Nat} (hpage : 1 ≤ page) (hleft : page + left ≤ Client.lastPage + 1)
    {result : Except ServiceError (List Comment)}
    (h : c.pagesFrom "list comments" (issuePath i ++ "/comments") [] Comment.ofValue rows page left
      s result t) :
    t.comments = s.comments ∧ Throughout (fun e => e.request.method = .get ∧
        e.comments = s.comments) s t ∧
      ∀ all, result = .ok all → ∃ rest, all = rows ++ rest ∧
        List.Forall₂ Comment.ShownAs (s.comments.drop (Client.pageSize * (page - 1))) rest := by
  induction left generalizing s rows page with
  | zero =>
    obtain ⟨rfl, rfl⟩ := h
    exact ⟨rfl, .refl _ _, nofun⟩
  | succ left ih =>
    obtain ⟨u, hsame, hway, ⟨rfl, ⟨e, rfl⟩, -⟩ | ⟨chunk, hshown, h⟩⟩ := page_cases hc h
    · exact ⟨hsame, hway, nofun⟩
    have hlength := hshown.length_eq
    rw [List.length_take] at hlength
    rcases h with ⟨hshort, rfl, rfl⟩ | ⟨hfull, h⟩
    · refine ⟨hsame, hway, ?_⟩
      rintro _ ⟨⟩
      refine ⟨chunk, rfl, ?_⟩
      rwa [List.take_of_length_le (by omega)] at hshown
    · have hnext : min (page + 1) Client.lastPage = page + 1 ∨ left = 0 := by omega
      obtain hnext | rfl := hnext
      swap
      · -- No page may be asked for any more.
        obtain ⟨rfl, rfl⟩ := h
        exact ⟨hsame, hway, nofun⟩
      rw [hnext] at h
      obtain ⟨hsame', hway', hrest⟩ := ih (Nat.le_add_left 1 page) (by omega) h
      rw [hsame] at hsame' hway'
      refine ⟨hsame', hway.trans hway', fun all hall => ?_⟩
      obtain ⟨rest, rfl, hrest⟩ := hrest all hall
      refine ⟨chunk ++ rest, List.append_assoc .., ?_⟩
      rw [hsame] at hrest
      exact shown_pages hpage hshown hrest

/-- Listing that fails was not answered, unless there are more comments than there are pages. -/
theorem pagesFrom_error (hc : c.transport = commentServer c.apiUrl i)
    (haddress : (Url.parse? (c.apiUrl ++ (issuePath i ++ "/comments"))).isSome)
    {rows : List Comment} {page left : Nat} (hpage : 1 ≤ page)
    (hleft : page + left = Client.lastPage + 1)
    (hstart : Client.pageSize * (page - 1) ≤ s.comments.length)
    (hend : s.comments.length < Client.pageSize * Client.lastPage) {e : ServiceError}
    (h : c.pagesFrom "list comments" (issuePath i ++ "/comments") [] Comment.ofValue rows page left
      s (.error e) t) : Sometime (fun x => ¬x.Answered) s t := by
  induction left generalizing s rows page with
  | zero =>
    obtain rfl : page = Client.lastPage + 1 := hleft
    exact absurd hend (Nat.not_lt.2 hstart)
  | succ left ih =>
    obtain ⟨u, hsame, hway, ⟨rfl, -, hfailed⟩ | ⟨chunk, hshown, h⟩⟩ := page_cases hc h
    · exact hfailed haddress
    rcases h with ⟨-, -, hok⟩ | ⟨hfull, h⟩
    · cases hok
    -- A full page is not the last one, so there is another that may be asked for.
    have hlength := hshown.length_eq
    rw [List.length_take, List.length_drop] at hlength
    have hmore : Client.pageSize * (page + 1 - 1) ≤ u.comments.length := by
      rw [hsame]
      simp only [Client.pageSize] at *
      omega
    rw [← hsame] at hend
    have hnext : min (page + 1) Client.lastPage = page + 1 := by
      simp only [Client.pageSize, Client.lastPage] at *
      omega
    rw [hnext] at h
    exact hway.sometime (ih (Nat.le_add_left 1 page) (by omega) hmore hend h)

/-- The comments with the signature are found, and listing them changes nothing. -/
theorem signedComments_shown (hc : c.transport = commentServer c.apiUrl i)
    {result : Except ServiceError (List Comment)}
    (h : c.signedComments i signature s result t) :
    t.comments = s.comments ∧ Throughout (fun e => e.request.method = .get ∧
        e.comments = s.comments) s t ∧
      ∀ found, result = .ok found →
        List.Forall₂ Comment.ShownAs (s.comments.filter (Comment.carries signature)) found := by
  obtain ⟨listed, u, hlist, h⟩ := h
  obtain ⟨hsame, hway, hshown⟩ := pagesFrom_shown hc (Nat.le_refl 1) (by decide) hlist
  cases listed with
  | error e =>
    obtain ⟨rfl, rfl⟩ := h
    exact ⟨hsame, hway, nofun⟩
  | ok rows =>
    obtain ⟨rfl, rfl⟩ := h
    refine ⟨hsame, hway, ?_⟩
    rintro _ ⟨⟩
    obtain ⟨rest, rfl, hrest⟩ := hshown rows rfl
    exact filter_shown hrest signature

theorem signedComments_error (hc : c.transport = commentServer c.apiUrl i)
    (haddress : (Url.parse? (c.apiUrl ++ (issuePath i ++ "/comments"))).isSome)
    (hend : s.comments.length < Client.pageSize * Client.lastPage) {e : ServiceError}
    (h : c.signedComments i signature s (.error e) t) : Sometime (fun x => ¬x.Answered) s t := by
  obtain ⟨listed, u, hlist, h⟩ := h
  cases listed with
  | ok rows => cases h.1
  | error e' =>
    obtain ⟨⟨⟩, rfl⟩ := h
    exact pagesFrom_error hc haddress (Nat.le_refl 1) (Nat.add_comm 1 _) (Nat.zero_le _) hend hlist

/-- Where listing succeeds, it has an address. -/
theorem address_of_signedComments {found : List Comment}
    (h : c.signedComments i signature s (.ok found) t) :
    (Url.parse? (c.apiUrl ++ (issuePath i ++ "/comments"))).isSome := by
  obtain ⟨listed, u, ⟨sent, v, hsend, hlist⟩, h⟩ := h
  unfold Client.send Client.request? at hsend
  cases haddress : Url.parse? (c.apiUrl ++ (issuePath i ++ "/comments")) with
  | some url => rfl
  | none =>
    rw [haddress] at hsend
    obtain ⟨rfl, rfl⟩ := hsend
    obtain ⟨rfl, rfl⟩ := hlist
    cases h.1

/-- Comments that fit on one page can be listed, and shown as they are. -/
theorem signedComments_succeeds (hc : c.transport = commentServer c.apiUrl i)
    (haddress : (Url.parse? (c.apiUrl ++ (issuePath i ++ "/comments"))).isSome)
    {response : Http.Response} (hresponse : response.isSuccess = true)
    (hrows : response.decode (Decoder.list Comment.ofValue) = .ok s.comments)
    (hshort : s.comments.length < Client.pageSize) (signature : String) :
    ∃ t, t.comments = s.comments ∧ Throughout Exchange.Answered s t ∧
      c.signedComments i signature s (.ok (s.comments.filter (Comment.carries signature))) t := by
  have hreply : Reply (.list Client.pageSize 1) (some response) s.comments s.comments := by
    refine ⟨.inl rfl, fun _ _ _ => rfl, fun _ _ _ => rfl, ?_⟩
    rintro _ _ _ rows ⟨⟩ ⟨⟩ _ hrows'
    rw [hrows] at hrows'
    obtain rfl := Except.ok.inj hrows'
    rw [Nat.sub_self, Nat.mul_zero, List.drop_zero, List.take_of_length_le (Nat.le_of_lt hshort)]
    exact List.forall₂_same.2 fun x _ => .refl x
  obtain ⟨t, ht, hanswered, hsend⟩ := send_succeeds "list comments" hc haddress
    (fun _ => asks_list) hresponse (fun _ => ⟨_, hrows⟩) hreply
  have hlast : Client.lastPage = 0xFFFFFFFE + 1 := rfl
  have hlist : c.comments i s (.ok s.comments) t := by
    unfold Client.comments Client.getPages
    rw [hlast, Client.pagesFrom]
    refine ⟨_, t, hsend, ?_⟩
    dsimp only
    rw [hrows]
    dsimp only
    rw [if_pos hshort]
    exact ⟨rfl, rfl⟩
  exact ⟨t, ht, hanswered, _, t, hlist, rfl, rfl⟩

/-! ## Deleting -/

/-- The comments without the signature are as they were, and some of those with it are gone. -/
structure Spares (signature : String) (before after : List Comment) : Prop where
  others : after.filter (fun c => !c.carries signature) =
    before.filter fun c => !c.carries signature
  fewer : after.Sublist before

theorem Spares.refl (signature : String) (cs : List Comment) : Spares signature cs cs :=
  ⟨rfl, .refl cs⟩

theorem Spares.trans {before between after : List Comment} (h : Spares signature before between)
    (h' : Spares signature between after) : Spares signature before after :=
  ⟨h'.others.trans h.others, h'.fewer.trans h.fewer⟩

/-- To delete only comments with the signature spares the others. -/
theorem spares_filter {cs : List Comment} {p : Comment → Bool}
    (h : ∀ c ∈ cs, p c = false → c.carries signature = true) :
    Spares signature cs (cs.filter p) := by
  refine ⟨?_, List.filter_sublist⟩
  rw [List.filter_filter]
  refine List.filter_congr fun c hc => ?_
  cases hp : p c with
  | true => rw [Bool.and_true]
  | false => rw [h c hc hp, Bool.and_false, Bool.not_true]

/-- Of comments with the signature that are deleted one after the other, some are left if one of
them cannot be deleted, and none otherwise. -/
theorem deleteComments_spares (hc : c.transport = commentServer c.apiUrl i) {found : List Comment}
    (honly : ∀ x ∈ s.comments, x.id ∈ found.map Comment.id → x.carries signature = true)
    {result : Except ServiceError Unit} (h : c.deleteComments i found s result t) :
    Spares signature s.comments t.comments ∧
      Throughout (fun e => Spares signature s.comments e.comments) s t ∧
      (result = .ok () → t.comments = s.comments.filter (·.id ∉ found.map Comment.id)) := by
  induction found generalizing s with
  | nil =>
    obtain ⟨rfl, rfl⟩ := h
    refine ⟨.refl _ _, .refl _ _, fun _ => ?_⟩
    simp
  | cons x found ih =>
    obtain ⟨deleted, u, hdelete, h⟩ := h
    obtain ⟨hmade, hway, hdone⟩ := deleteComment_done hc hdelete
    dsimp only [CommentRequest.Makes] at hmade hdone
    have hfilter : Spares signature s.comments (s.comments.filter (·.id != x.id)) :=
      spares_filter fun y hy hyx => honly y hy (List.mem_cons.2 (.inl (by simpa using hyx)))
    have hu : Spares signature s.comments u.comments := by
      rcases hmade with h | h <;> rw [h]
      · exact .refl _ _
      · exact hfilter
    have hway : Throughout (fun e => Spares signature s.comments e.comments) s u :=
      hway.mono fun e he => by
        rcases he with h | h <;> rw [h]
        · exact .refl _ _
        · exact hu
    cases deleted with
    | error e =>
      obtain ⟨rfl, rfl⟩ := h
      exact ⟨hu, hway, nofun⟩
    | ok _ =>
      have honly' : ∀ y ∈ u.comments, y.id ∈ found.map Comment.id → y.carries signature = true :=
        fun y hy hfound => honly y (hu.fewer.subset hy) (List.mem_cons_of_mem _ hfound)
      obtain ⟨ht, hway', hrest⟩ := ih honly' h
      refine ⟨hu.trans ht, hway.trans (hway'.mono fun e he => hu.trans he), fun hok => ?_⟩
      rw [hrest hok, hdone rfl, List.filter_filter]
      refine List.filter_congr fun y _ => ?_
      by_cases hy : y.id = x.id <;> simp [hy]

/-- Deleting that fails was not answered somewhere. -/
theorem deleteComments_error (hc : c.transport = commentServer c.apiUrl i)
    (haddress : (Url.parse? (c.apiUrl ++ (issuePath i ++ "/comments"))).isSome)
    {found : List Comment} {e : ServiceError} (h : c.deleteComments i found s (.error e) t) :
    Sometime (fun x => ¬x.Answered) s t := by
  induction found generalizing s with
  | nil => cases h.1
  | cons x found ih =>
    obtain ⟨deleted, u, hdelete, h⟩ := h
    cases deleted with
    | error e' =>
      obtain ⟨⟨⟩, rfl⟩ := h
      exact deleteComment_error hc (comment_address haddress x.id) hdelete
    | ok _ => exact (deleteComment_done hc hdelete).throughout.sometime (ih h)

end Upkeep.GitHub
