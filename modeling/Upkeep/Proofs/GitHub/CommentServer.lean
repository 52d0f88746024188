import Upkeep.GitHub.Issues
import Upkeep.Proofs.GitHub.RateLimit
import Upkeep.Proofs.Http.Address
import Upkeep.Proofs.Text.Newlines
import Mathlib.Data.List.Forall2
/-!
# A server of comments

What a server does is settled only in part: a request may get no response or any, and a request that
failed may have been carried out nevertheless. `Play` computes with everything that may happen, and
`commentServer` is the server that keeps the comments on an item and promises no more than it has
to. Its promises go together, as a request asks for one thing only (`CommentRequest.Asks.unique`).
Sending a request is one exchange that counts, behind some that were turned away (`send_sent`). A
request that fails was not answered as it should be (`send_error`).
-/

namespace Upkeep.GitHub

/-! ## What may happen -/

/-- A computation whose course is not settled: from which state it may come to which result and
which state. -/
def Play (σ α : Type) : Type := σ → α → σ → Prop

instance {σ : Type} : Monad (Play σ) where
  pure a := fun s b t => b = a ∧ t = s
  bind x k := fun s b t => ∃ a u, x s a u ∧ k a u b t

/-! ## The server -/

/-- What the client asks a server of comments for. -/
inductive CommentRequest
  /-- A page of the comments, counted from one, and the number of comments on a full page. -/
  | list (size page : Nat)
  | delete (id : Nat)
  | create (body : String)

namespace CommentRequest

def method : CommentRequest → Http.Method
  | list _ _ => .get
  | delete _ => .delete
  | create _ => .post

/-- The request that is sent for it, about the comments on an item. -/
def Asks (apiUrl : String) (i : IssueRef) : CommentRequest → Http.Request → Prop
  | list size page, request =>
    request.method = .get ∧ ∃ url, Url.parse? (apiUrl ++ (issuePath i ++ "/comments")) = some url ∧
      request.url = url.addQuery [("per_page", decimalText size), ("page", decimalText page)]
  | delete id, request =>
    request.method = .delete ∧
      Url.parse? (apiUrl ++
        (repositoryPath i.repository ++ "/issues/comments/" ++ decimalText id)) = some request.url
  | create body, request =>
    request.method = .post ∧ request.body = some (.table [("body", .text body)]) ∧
      Url.parse? (apiUrl ++ (issuePath i ++ "/comments")) = some request.url

theorem Asks.method_eq {apiUrl : String} {i : IssueRef} {q : CommentRequest}
    {request : Http.Request} (h : q.Asks apiUrl i request) : request.method = q.method := by
  cases q <;> exact h.1

/-- The address of a comment tells which one it is, whatever the address of the service. -/
theorem id_unique {apiUrl : String} {i : IssueRef} {id id' : Nat} {url : Url}
    (h : Url.parse? (apiUrl ++
      (repositoryPath i.repository ++ "/issues/comments/" ++ decimalText id)) = some url)
    (h' : Url.parse? (apiUrl ++
      (repositoryPath i.repository ++ "/issues/comments/" ++ decimalText id')) = some url) :
    id = id' := by
  have hpath (n : Nat) : 'c' :: "omments".toList ++ '/' :: decimal n <:+
      (apiUrl ++ (repositoryPath i.repository ++ "/issues/comments/" ++ decimalText n)).toList := by
    refine ⟨(apiUrl ++ repositoryPath i.repository ++ "/issues/").toList, ?_⟩
    simp [decimalText]
  have hword : ∀ x ∈ 'c' :: "omments".toList, Url.isPlain x = true :=
    List.all_eq_true.1 (by decide)
  exact Url.eq_of_parse? h h' (by decide) hword (hpath id) (hpath id')

/-- A request asks for one thing only. -/
theorem Asks.unique {apiUrl : String} {i : IssueRef} {q q' : CommentRequest}
    {request : Http.Request} (h : q.Asks apiUrl i request) (h' : q'.Asks apiUrl i request) :
    q = q' := by
  have hmethod : q.method = q'.method := h.method_eq.symm.trans h'.method_eq
  cases q with
  | list size page =>
    cases q' with
    | list size' page' =>
      obtain ⟨_, url, hurl, hquery⟩ := h
      obtain ⟨_, url', hurl', hquery'⟩ := h'
      obtain rfl := Option.some.inj (hurl.symm.trans hurl')
      obtain ⟨rfl, rfl⟩ := Url.addQuery_page (hquery.symm.trans hquery')
      rfl
    | delete | create => cases hmethod
  | delete id =>
    cases q' with
    | delete id' => rw [id_unique h.2 h'.2]
    | list | create => cases hmethod
  | create body =>
    cases q' with
    | create body' =>
      have heq := Option.some.inj (h.2.1.symm.trans h'.2.1)
      simp only [Value.table.injEq, List.cons.injEq, Prod.mk.injEq, Value.text.injEq] at heq
      rw [heq.1.2]
    | list | delete => cases hmethod

/-- What carrying it out makes of the comments. A new comment stands last and has an identifier of
its own. -/
def Makes : CommentRequest → List Comment → List Comment → Prop
  | list _ _, before, after => after = before
  | delete id, before, after => after = before.filter (·.id != id)
  | create body, before, after => ∃ new : Comment, new.body = some body ∧
    (∀ c ∈ before, c.id ≠ new.id) ∧ after = before ++ [new]

end CommentRequest

/-- A comment as it is shown: carriage returns may have been put before the line feeds of its
body. -/
structure Comment.ShownAs (c shown : Comment) : Prop where
  id : shown.id = c.id
  body : Option.Rel (fun b b' => CrInserted none b.toList b'.toList) c.body shown.body

/-- The response reports an exhausted rate limit. -/
def reportsLimit (response : Http.Response) : Prop :=
  ∃ now, (RateLimit.reset? response.status response.headers now).isSome

/-- What a server makes of a request, and what it shows, if there is a response. -/
structure Reply (q : CommentRequest) (response? : Option Http.Response)
    (before after : List Comment) : Prop where
  /-- A request that failed may have been carried out or not. -/
  made : after = before ∨ q.Makes before after
  /-- To delete what is not there makes no difference. -/
  success : ∀ response, response? = some response →
    response.isSuccess = true ∨ q.method = .delete ∧ response.status = 404 → q.Makes before after
  limited : ∀ response, response? = some response → reportsLimit response → after = before
  shown : ∀ size page response rows, q = .list size page → response? = some response →
    response.isSuccess = true → response.decode (Decoder.list Comment.ofValue) = .ok rows →
      List.Forall₂ Comment.ShownAs ((before.drop (size * (page - 1))).take size) rows

/-- A request, the response to it, and the comments after it. -/
structure Exchange where
  request : Http.Request
  response? : Option Http.Response
  comments : List Comment

/-- The request was answered as it should be: with success, and legibly if a list was asked for, or,
if something was to be deleted, with the news that it is not there. -/
def Exchange.Answered (e : Exchange) : Prop :=
  ∃ response, e.response? = some response ∧
    (response.isSuccess = true ∧ (e.request.method = .get →
        ∃ rows, response.decode (Decoder.list Comment.ofValue) = .ok rows) ∨
      e.request.method = .delete ∧ response.status = 404)

/-- The comments on an item, and the requests so far. -/
structure Session where
  comments : List Comment
  log : List Exchange := []

/-- A server that keeps the comments on an item. Nothing is said about the time. -/
def commentServer (apiUrl : String) (i : IssueRef) : Http.Transport (Play Session) where
  exchange request := fun s response? t =>
    (∀ q : CommentRequest, q.Asks apiUrl i request → Reply q response? s.comments t.comments) ∧
      t.log = s.log ++ [⟨request, response?, t.comments⟩]
  pause _ := fun s _ t => t = s
  now := fun s _ t => t = s

/-! ## One request -/

/-- All requests on the way from one session to another are of a kind, and so are the comments after
each of them. -/
def Throughout (P : Exchange → Prop) (s t : Session) : Prop :=
  ∃ es, t.log = s.log ++ es ∧ ∀ e ∈ es, P e

theorem Throughout.refl (P : Exchange → Prop) (s : Session) : Throughout P s s :=
  ⟨[], (List.append_nil _).symm, List.forall_mem_nil P⟩

theorem Throughout.trans {P : Exchange → Prop} {s t u : Session} (h : Throughout P s t)
    (h' : Throughout P t u) : Throughout P s u := by
  obtain ⟨es, hes, hall⟩ := h
  obtain ⟨fs, hfs, hall'⟩ := h'
  refine ⟨es ++ fs, by rw [hfs, hes, List.append_assoc], fun e he => ?_⟩
  exact (List.mem_append.1 he).elim (hall e) (hall' e)

theorem Throughout.mono {P Q : Exchange → Prop} {s t : Session} (h : Throughout P s t)
    (hPQ : ∀ e, P e → Q e) : Throughout Q s t := by
  obtain ⟨es, hes, hall⟩ := h
  exact ⟨es, hes, fun e he => hPQ e (hall e he)⟩

/-- Some request on the way from one session to another is of a kind. -/
def Sometime (P : Exchange → Prop) (s t : Session) : Prop :=
  ∃ es, t.log = s.log ++ es ∧ ∃ e ∈ es, P e

theorem Sometime.mono {P Q : Exchange → Prop} {s t : Session} (h : Sometime P s t)
    (hPQ : ∀ e, P e → Q e) : Sometime Q s t := by
  obtain ⟨es, hes, e, he, hP⟩ := h
  exact ⟨es, hes, e, he, hPQ e hP⟩

theorem Throughout.sometime {P Q : Exchange → Prop} {s t u : Session} (h : Throughout P s t)
    (h' : Sometime Q t u) : Sometime Q s u := by
  obtain ⟨es, hes, -⟩ := h
  obtain ⟨fs, hfs, e, he, hQ⟩ := h'
  refine ⟨es ++ fs, ?_, e, List.mem_append_right es he, hQ⟩
  rw [hfs, hes, List.append_assoc]

/-- What is true all the way is not false sometime. -/
theorem Throughout.not_sometime {P : Exchange → Prop} {s t : Session} (h : Throughout P s t) :
    ¬Sometime (fun e => ¬P e) s t := by
  rintro ⟨fs, hfs, e, he, hnot⟩
  obtain ⟨es, hes, hall⟩ := h
  obtain rfl : es = fs := List.append_cancel_left (hes.symm.trans hfs)
  exact hnot (hall e he)

/-- A request was sent, perhaps more than once, and the last time got this response. -/
structure Sent (q : CommentRequest) (s t : Session) (response? : Option Http.Response) : Prop where
  reply : Reply q response? s.comments t.comments
  throughout : Throughout (fun e => e.request.method = q.method ∧
    (e.comments = s.comments ∨ e.comments = t.comments)) s t

/-- This is the response to a request that was sent. -/
def Logged (q : CommentRequest) (s t : Session) (response? : Option Http.Response) : Prop :=
  Sometime (fun e => e.request.method = q.method ∧ e.response? = response?) s t

variable {c : Client (Play Session)} {i : IssueRef} {q : CommentRequest} {s t : Session}
  {operation : String}

/-- The result of a request goes with the response that settled it. -/
structure Settles (response? : Option Http.Response)
    (result : Except ServiceError Http.Response) : Prop where
  ok_iff : ∀ response, result = .ok response ↔
    response? = some response ∧ response.isSuccess = true
  notFound_iff : (∃ e, result = .error e ∧ isNotFound e = true) ↔
    ∃ response, response? = some response ∧ response.status = 404

theorem asks_list {size page : Nat} {request : Http.Request}
    (h : c.request? .get (issuePath i ++ "/comments")
      ([] ++ [("per_page", decimalText size), ("page", decimalText page)]) none = some request) :
    (CommentRequest.list size page).Asks c.apiUrl i request := by
  obtain ⟨url, hurl, rfl⟩ := Option.map_eq_some_iff.1 h
  exact ⟨rfl, url, hurl, rfl⟩

theorem asks_delete {id : Nat} {request : Http.Request}
    (h : c.request? .delete (repositoryPath i.repository ++ "/issues/comments/" ++ decimalText id)
      [] none = some request) : (CommentRequest.delete id).Asks c.apiUrl i request := by
  obtain ⟨url, hurl, rfl⟩ := Option.map_eq_some_iff.1 h
  exact ⟨rfl, hurl⟩

theorem asks_create {body : String} {request : Http.Request}
    (h : c.request? .post (issuePath i ++ "/comments") [] (some (.table [("body", .text body)])) =
      some request) : (CommentRequest.create body).Asks c.apiUrl i request := by
  obtain ⟨url, hurl, rfl⟩ := Option.map_eq_some_iff.1 h
  exact ⟨rfl, rfl, hurl⟩

theorem isNotFound_apiError {response : Http.Response} :
    isNotFound (Client.apiError operation response) = true ↔ response.status = 404 := by
  constructor
  · intro h
    unfold Client.apiError isNotFound at h
    split at h
    · next heq => exact (ServiceError.api.inj heq).1
    · cases h
  · intro h
    rw [Client.apiError, h]
    rfl

theorem status_of_reportsLimit {response : Http.Response} (h : reportsLimit response) :
    response.status = 403 ∨ response.status = 429 := by
  obtain ⟨now, hreset⟩ := h
  cases hreport : RateLimit.canReport response.status with
  | true => exact RateLimit.canReport_iff.1 hreport
  | false =>
    rw [RateLimit.reset?_of_not_canReport hreport] at hreset
    cases hreset

theorem not_reportsLimit_of_isSuccess {response : Http.Response}
    (h : response.isSuccess = true) : ¬reportsLimit response := by
  intro hlimit
  have hstatus := status_of_reportsLimit hlimit
  rw [Http.Response.isSuccess_iff] at h
  omega

theorem settles_noResponse : Settles none (.error Http.noResponse) := by
  refine ⟨fun response => ⟨nofun, nofun⟩, ?_, nofun⟩
  rintro ⟨_, ⟨⟩, ⟨⟩⟩

theorem settles_success {response : Http.Response} (h : response.isSuccess = true) :
    Settles (some response) (.ok response) := by
  refine ⟨fun response' => ⟨?_, ?_⟩, ?_, ?_⟩
  · rintro ⟨⟩
    exact ⟨rfl, h⟩
  · rintro ⟨⟨⟩, -⟩
    rfl
  · rintro ⟨_, ⟨⟩, -⟩
  · rintro ⟨_, ⟨⟩, hstatus⟩
    rw [Http.Response.isSuccess_iff, hstatus] at h
    omega

theorem settles_failure {response : Http.Response} (h : ¬response.isSuccess = true) :
    Settles (some response) (.error (Client.apiError operation response)) := by
  refine ⟨fun response' => ⟨nofun, ?_⟩, ?_, ?_⟩
  · rintro ⟨⟨⟩, hsuccess⟩
    exact absurd hsuccess h
  · rintro ⟨_, ⟨⟩, hnot⟩
    exact ⟨response, rfl, isNotFound_apiError.1 hnot⟩
  · rintro ⟨_, ⟨⟩, hstatus⟩
    exact ⟨_, rfl, isNotFound_apiError.2 hstatus⟩

theorem settles_limit {response : Http.Response} (h : reportsLimit response) (reset : Instant) :
    Settles (some response) (.error (.rateLimited reset)) := by
  refine ⟨fun response' => ⟨nofun, ?_⟩, ?_, ?_⟩
  · rintro ⟨⟨⟩, hsuccess⟩
    exact absurd h (not_reportsLimit_of_isSuccess hsuccess)
  · rintro ⟨_, ⟨⟩, ⟨⟩⟩
  · rintro ⟨_, ⟨⟩, hstatus⟩
    have hlimit := status_of_reportsLimit h
    omega

theorem sent_of_exchange {apiUrl : String} {request : Http.Request} (hq : q.Asks apiUrl i request)
    {response? : Option Http.Response}
    (h : (commentServer apiUrl i).exchange request s response? t) :
    Sent q s t response? ∧ Logged q s t response? := by
  refine ⟨⟨h.1 q hq, _, h.2, fun e he => ?_⟩, _, h.2, _, List.mem_singleton_self _, ?_⟩
  · obtain rfl := List.mem_singleton.1 he
    exact ⟨hq.method_eq, .inr rfl⟩
  · exact ⟨hq.method_eq, rfl⟩

/-- What was turned away before does not count. -/
theorem Sent.after_limit {apiUrl : String} {request : Http.Request} {u : Session}
    {response : Http.Response} {last? : Option Http.Response} (h : Sent q u t last?)
    (hq : q.Asks apiUrl i request)
    (hx : (commentServer apiUrl i).exchange request s (some response) u)
    (hlimit : reportsLimit response) : Sent q s t last? := by
  obtain ⟨hfirst, -⟩ := sent_of_exchange hq hx
  have hsame := hfirst.reply.limited response rfl hlimit
  refine ⟨hsame ▸ h.reply, (hfirst.throughout.mono fun e he => ?_).trans ?_⟩
  · rw [hsame, or_self] at he
    exact ⟨he.1, .inl he.2⟩
  · rw [← hsame]
    exact h.throughout

/-- A request is sent, and that is all, or it was turned away and is sent again. -/
theorem attempt_cases (hc : c.transport = commentServer c.apiUrl i) {request : Http.Request}
    {retries : Nat} {result : Except ServiceError Http.Response}
    (h : c.attempt operation request retries s result t) :
    ∃ response? u, (commentServer c.apiUrl i).exchange request s response? u ∧
      ((t = u ∧ Settles response? result) ∨
        ∃ response n, response? = some response ∧ reportsLimit response ∧ retries = n + 1 ∧
          c.attempt operation request n u result t) := by
  unfold Client.attempt at h
  obtain ⟨response?, u, hx, h⟩ := h
  rw [hc] at hx
  refine ⟨response?, u, hx, ?_⟩
  cases response? with
  | none =>
    obtain ⟨rfl, rfl⟩ := h
    exact .inl ⟨rfl, settles_noResponse⟩
  | some response =>
    dsimp only at h
    split at h
    · next hsuccess =>
      obtain ⟨rfl, rfl⟩ := h
      exact .inl ⟨rfl, settles_success hsuccess⟩
    · next hfailure =>
      obtain ⟨now, u₁, hnow, h⟩ := h
      rw [hc] at hnow
      obtain rfl : u₁ = u := hnow
      cases hreset : RateLimit.reset? response.status response.headers now with
      | none =>
        rw [hreset] at h
        obtain ⟨rfl, rfl⟩ := h
        exact .inl ⟨rfl, settles_failure hfailure⟩
      | some reset =>
        rw [hreset] at h
        obtain ⟨later, u₂, hlater, h⟩ := h
        rw [hc] at hlater
        obtain rfl : u₂ = u₁ := hlater
        have hlimit : reportsLimit response := ⟨now, by rw [hreset]; rfl⟩
        cases retries with
        | zero =>
          obtain ⟨rfl, rfl⟩ := h
          exact .inl ⟨rfl, settles_limit hlimit reset⟩
        | succ n =>
          dsimp only at h
          split at h
          · obtain ⟨_, u₃, hpause, h⟩ := h
            rw [hc] at hpause
            obtain rfl : u₃ = u₂ := hpause
            exact .inr ⟨response, n, rfl, hlimit, rfl, h⟩
          · obtain ⟨rfl, rfl⟩ := h
            exact .inl ⟨rfl, settles_limit hlimit reset⟩

theorem attempt_sent (hc : c.transport = commentServer c.apiUrl i) {request : Http.Request}
    (hq : q.Asks c.apiUrl i request) {retries : Nat} {result : Except ServiceError Http.Response}
    (h : c.attempt operation request retries s result t) :
    ∃ response?, Sent q s t response? ∧ Settles response? result ∧ Logged q s t response? := by
  induction retries generalizing s with
  | zero =>
    obtain ⟨response?, u, hx, ⟨rfl, hsettles⟩ | ⟨_, _, _, _, hn, _⟩⟩ := attempt_cases hc h
    · obtain ⟨hsent, hlogged⟩ := sent_of_exchange hq hx
      exact ⟨response?, hsent, hsettles, hlogged⟩
    · cases hn
  | succ n ih =>
    obtain ⟨response?, u, hx, ⟨rfl, hsettles⟩ | ⟨response, m, rfl, hlimit, hn, h⟩⟩ :=
      attempt_cases hc h
    · obtain ⟨hsent, hlogged⟩ := sent_of_exchange hq hx
      exact ⟨response?, hsent, hsettles, hlogged⟩
    · obtain rfl := Nat.succ.inj hn
      obtain ⟨last?, hsent, hsettles, hlogged⟩ := ih h
      obtain ⟨hfirst, -⟩ := sent_of_exchange hq hx
      exact ⟨last?, hsent.after_limit hq hx hlimit, hsettles, hfirst.throughout.sometime hlogged⟩

/-- A request for a path of the interface is sent. Where the path makes no address, that is the same
as a request that got lost. -/
theorem send_sent (hc : c.transport = commentServer c.apiUrl i) {method : Http.Method}
    {path : String} {query : List (String × String)} {body : Option Value}
    (hq : ∀ request, c.request? method path query body = some request → q.Asks c.apiUrl i request)
    {result : Except ServiceError Http.Response}
    (h : c.send operation method path query body s result t) :
    ∃ response?, Sent q s t response? ∧ Settles response? result ∧
      ((Url.parse? (c.apiUrl ++ path)).isSome → Logged q s t response?) := by
  unfold Client.send at h
  cases hrequest : c.request? method path query body with
  | none =>
    rw [hrequest] at h
    obtain ⟨rfl, rfl⟩ := h
    refine ⟨none, ⟨⟨.inl rfl, nofun, nofun, nofun⟩, .refl _ _⟩, settles_noResponse, ?_⟩
    intro haddress
    rw [Client.request?, Option.map_eq_none_iff] at hrequest
    rw [hrequest] at haddress
    cases haddress
  | some request =>
    rw [hrequest] at h
    obtain ⟨response?, hsent, hsettles, hlogged⟩ := attempt_sent hc (hq request hrequest) h
    exact ⟨response?, hsent, hsettles, fun _ => hlogged⟩

/-- A request with an address that fails was not answered, unless it was to delete what is not
there. -/
theorem send_error (hc : c.transport = commentServer c.apiUrl i) {method : Http.Method}
    {path : String} {query : List (String × String)} {body : Option Value}
    (haddress : (Url.parse? (c.apiUrl ++ path)).isSome)
    (hq : ∀ request, c.request? method path query body = some request → q.Asks c.apiUrl i request)
    {e : ServiceError} (h : c.send operation method path query body s (.error e) t) :
    Sometime (fun x => ¬x.Answered) s t ∨ q.method = .delete ∧ isNotFound e = true := by
  obtain ⟨response?, -, hsettles, hlogged⟩ := send_sent hc hq h
  by_cases hgone : q.method = .delete ∧ isNotFound e = true
  · exact .inr hgone
  refine .inl ((hlogged haddress).mono fun x hx => ?_)
  obtain ⟨hmethod, rfl⟩ := hx
  rintro ⟨response, hresponse, ⟨hsuccess, -⟩ | ⟨hdelete, hstatus⟩⟩
  · cases (hsettles.ok_iff response).2 ⟨hresponse, hsuccess⟩
  · obtain ⟨_, ⟨⟩, hnot⟩ := hsettles.notFound_iff.2 ⟨response, hresponse, hstatus⟩
    exact hgone ⟨hmethod ▸ hdelete, hnot⟩

/-! ## Requests of which only the success matters -/

/-- A change to the comments was asked for. If that succeeds, it is made. -/
structure Done (q : CommentRequest) (s t : Session) (result : Except ServiceError Unit) : Prop where
  made : t.comments = s.comments ∨ q.Makes s.comments t.comments
  throughout : Throughout (fun e => e.comments = s.comments ∨ e.comments = t.comments) s t
  ok : result = .ok () → q.Makes s.comments t.comments

theorem command_done (hc : c.transport = commentServer c.apiUrl i) {method : Http.Method}
    {path : String} {body : Option Value}
    (hq : ∀ request, c.request? method path [] body = some request → q.Asks c.apiUrl i request)
    {result : Except ServiceError Unit} (h : c.command operation method path body s result t) :
    Done q s t result ∧ ∀ e, result = .error e → isNotFound e = true → q.method = .delete →
      q.Makes s.comments t.comments := by
  obtain ⟨sent, u, hsend, h⟩ := h
  obtain ⟨response?, hsent, hsettles, -⟩ := send_sent hc hq hsend
  have hway := hsent.throughout.mono fun e he => he.2
  cases sent with
  | ok response =>
    obtain ⟨rfl, rfl⟩ := h
    obtain ⟨hresponse, hsuccess⟩ := (hsettles.ok_iff response).1 rfl
    exact ⟨⟨hsent.reply.made, hway,
      fun _ => hsent.reply.success response hresponse (.inl hsuccess)⟩, fun e he => by cases he⟩
  | error e =>
    obtain ⟨rfl, rfl⟩ := h
    refine ⟨⟨hsent.reply.made, hway, fun hok => by cases hok⟩, ?_⟩
    rintro _ ⟨⟩ hnotFound hmethod
    obtain ⟨response, hresponse, hstatus⟩ := hsettles.notFound_iff.1 ⟨e, rfl, hnotFound⟩
    exact hsent.reply.success response hresponse (.inr ⟨hmethod, hstatus⟩)

/-- A comment that does not exist counts as deleted. -/
theorem deleteComment_done (hc : c.transport = commentServer c.apiUrl i) {id : Nat}
    {result : Except ServiceError Unit} (h : c.deleteComment i id s result t) :
    Done (.delete id) s t result := by
  obtain ⟨commanded, u, hcommand, h⟩ := h
  obtain ⟨hdone, hnotFound⟩ := command_done hc (fun _ => asks_delete) hcommand
  cases commanded with
  | ok _ =>
    obtain ⟨rfl, rfl⟩ := h
    exact hdone
  | error e =>
    dsimp only at h
    split at h
    · next he =>
      obtain ⟨rfl, rfl⟩ := h
      exact ⟨hdone.made, hdone.throughout, fun _ => hnotFound e rfl he rfl⟩
    · obtain ⟨rfl, rfl⟩ := h
      exact hdone

theorem createComment_done (hc : c.transport = commentServer c.apiUrl i) {body : String}
    {result : Except ServiceError Unit} (h : c.createComment i body s result t) :
    Done (.create body) s t result :=
  (command_done hc (fun _ => asks_create) h).1

/-! ## Requests that are not answered -/

/-- Where the comments on an item can be listed, each of them can be deleted. -/
theorem comment_address {apiUrl : String}
    (h : (Url.parse? (apiUrl ++ (issuePath i ++ "/comments"))).isSome) (id : Nat) :
    (Url.parse? (apiUrl ++
      (repositoryPath i.repository ++ "/issues/comments/" ++ decimalText id))).isSome := by
  let front := apiUrl ++ repositoryPath i.repository ++ "/issues/"
  have hlist : (apiUrl ++ (issuePath i ++ "/comments")).toList =
      front.toList ++ (decimal i.number ++ "/comments".toList) := by
    simp [front, issuePath, decimalText]
  have hdelete : (apiUrl ++
      (repositoryPath i.repository ++ "/issues/comments/" ++ decimalText id)).toList =
        front.toList ++ ("comments/".toList ++ decimal id) := by
    simp [front, decimalText]
  have hfront : 'i' :: "ssues".toList ++ ['/'] <:+ front.toList := by
    refine ⟨(apiUrl ++ repositoryPath i.repository ++ "/").toList, ?_⟩
    simp [front]
  refine Url.isSome_parse?_of_append hlist hdelete hfront (by decide)
    (List.all_eq_true.1 (by decide)) ?_ (by simp) ?_ (by simp) h
  · exact List.forall_mem_append.2
      ⟨Url.isPlain_of_mem_decimal i.number, List.all_eq_true.1 (by decide)⟩
  · exact List.forall_mem_append.2
      ⟨List.all_eq_true.1 (by decide), Url.isPlain_of_mem_decimal id⟩

theorem command_error (hc : c.transport = commentServer c.apiUrl i) {method : Http.Method}
    {path : String} {body : Option Value} (haddress : (Url.parse? (c.apiUrl ++ path)).isSome)
    (hq : ∀ request, c.request? method path [] body = some request → q.Asks c.apiUrl i request)
    {e : ServiceError} (h : c.command operation method path body s (.error e) t) :
    Sometime (fun x => ¬x.Answered) s t ∨ q.method = .delete ∧ isNotFound e = true := by
  obtain ⟨sent, u, hsend, h⟩ := h
  cases sent with
  | ok response => cases h.1
  | error e' =>
    obtain ⟨⟨⟩, rfl⟩ := h
    exact send_error hc haddress hq hsend

theorem deleteComment_error (hc : c.transport = commentServer c.apiUrl i) {id : Nat}
    (haddress : (Url.parse? (c.apiUrl ++
      (repositoryPath i.repository ++ "/issues/comments/" ++ decimalText id))).isSome)
    {e : ServiceError} (h : c.deleteComment i id s (.error e) t) :
    Sometime (fun x => ¬x.Answered) s t := by
  obtain ⟨commanded, u, hcommand, h⟩ := h
  cases commanded with
  | ok _ => cases h.1
  | error e' =>
    dsimp only at h
    split at h
    · cases h.1
    · next hfound =>
      obtain ⟨⟨⟩, rfl⟩ := h
      exact (command_error hc haddress (fun _ => asks_delete) hcommand).resolve_right
        fun hgone => hfound hgone.2

theorem createComment_error (hc : c.transport = commentServer c.apiUrl i) {body : String}
    (haddress : (Url.parse? (c.apiUrl ++ (issuePath i ++ "/comments"))).isSome)
    {e : ServiceError} (h : c.createComment i body s (.error e) t) :
    Sometime (fun x => ¬x.Answered) s t :=
  (command_error hc haddress (fun _ => asks_create) h).resolve_right fun hgone => by cases hgone.1

/-! ## Requests that succeed -/

/-- A request can succeed at once if its reply is what the server promises. -/
theorem send_succeeds (operation : String) (hc : c.transport = commentServer c.apiUrl i)
    {method : Http.Method} {path : String} {query : List (String × String)} {body : Option Value}
    (haddress : (Url.parse? (c.apiUrl ++ path)).isSome)
    (hq : ∀ request, c.request? method path query body = some request → q.Asks c.apiUrl i request)
    {response : Http.Response} (hresponse : response.isSuccess = true)
    (hlegible : q.method = .get →
      ∃ rows, response.decode (Decoder.list Comment.ofValue) = .ok rows)
    {after : List Comment} (hreply : Reply q (some response) s.comments after) :
    ∃ t, t.comments = after ∧ Throughout Exchange.Answered s t ∧
      c.send operation method path query body s (.ok response) t := by
  obtain ⟨request, hrequest⟩ : ∃ request, c.request? method path query body = some request := by
    rw [← Option.isSome_iff_exists, Client.request?, Option.isSome_map]
    exact haddress
  have hasks := hq request hrequest
  let x : Exchange := ⟨request, some response, after⟩
  let t : Session := ⟨after, s.log ++ [x]⟩
  have hx : c.transport.exchange request s (some response) t := by
    rw [hc]
    exact ⟨fun q' hq' => hq'.unique hasks ▸ hreply, rfl⟩
  have hanswered : x.Answered := by
    refine ⟨response, rfl, .inl ⟨hresponse, fun hget => hlegible ?_⟩⟩
    rw [← hasks.method_eq]
    exact hget
  refine ⟨t, rfl, ⟨[x], rfl, List.forall_mem_singleton.2 hanswered⟩, ?_⟩
  unfold Client.send
  rw [hrequest]
  unfold Client.attempt
  refine ⟨some response, t, hx, ?_⟩
  dsimp only
  rw [if_pos hresponse]
  exact ⟨rfl, rfl⟩

theorem command_succeeds (hc : c.transport = commentServer c.apiUrl i) {method : Http.Method}
    {path : String} {body : Option Value} (haddress : (Url.parse? (c.apiUrl ++ path)).isSome)
    (hq : ∀ request, c.request? method path [] body = some request → q.Asks c.apiUrl i request)
    (hlist : q.method ≠ .get) {after : List Comment} (hmakes : q.Makes s.comments after) :
    ∃ t, t.comments = after ∧ Throughout Exchange.Answered s t ∧
      c.command operation method path body s (.ok ()) t := by
  have hresponse : Http.Response.isSuccess { status := 200 } = true := by decide
  have hreply : Reply q (some { status := 200 }) s.comments after := by
    refine ⟨.inr hmakes, fun _ _ _ => hmakes, ?_, ?_⟩
    · rintro _ ⟨⟩ hlimit
      exact absurd hlimit (not_reportsLimit_of_isSuccess hresponse)
    · rintro _ _ _ _ rfl
      exact absurd rfl hlist
  obtain ⟨t, ht, hanswered, hsend⟩ := send_succeeds operation hc haddress hq hresponse
    (fun hget => absurd hget hlist) hreply
  exact ⟨t, ht, hanswered, _, t, hsend, rfl, rfl⟩

theorem deleteComment_succeeds (hc : c.transport = commentServer c.apiUrl i) {id : Nat}
    (haddress : (Url.parse? (c.apiUrl ++
      (repositoryPath i.repository ++ "/issues/comments/" ++ decimalText id))).isSome) :
    ∃ t, t.comments = s.comments.filter (·.id != id) ∧ Throughout Exchange.Answered s t ∧
      c.deleteComment i id s (.ok ()) t := by
  have hmakes : (CommentRequest.delete id).Makes s.comments (s.comments.filter (·.id != id)) := rfl
  obtain ⟨t, ht, hanswered, hcommand⟩ :=
    command_succeeds hc haddress (fun _ => asks_delete) nofun hmakes
  exact ⟨t, ht, hanswered, _, t, hcommand, rfl, rfl⟩

theorem createComment_succeeds (hc : c.transport = commentServer c.apiUrl i) (new : Comment)
    {body : String} (haddress : (Url.parse? (c.apiUrl ++ (issuePath i ++ "/comments"))).isSome)
    (hbody : new.body = some body) (hfresh : ∀ x ∈ s.comments, x.id ≠ new.id) :
    ∃ t, t.comments = s.comments ++ [new] ∧ Throughout Exchange.Answered s t ∧
      c.createComment i body s (.ok ()) t :=
  command_succeeds hc haddress (fun _ => asks_create) nofun ⟨new, hbody, hfresh, rfl⟩

end Upkeep.GitHub
