import Upkeep.Proofs.GitHub.Memory
import Upkeep.Proofs.GitHub.Pages
import Upkeep.Proofs.Json.RoundTrip
import Upkeep.Proofs.Policy.Fields
import Upkeep.Proofs.Text.Search
import Upkeep.Proofs.Time.Order
/-!
# What members did

The signals of an item are the newest instants at which a member did something
(`Listings.isNewest_comment`, `Listings.isNewest_activity`), so that the order of the lists does not
matter, nor do rows of users who are not trusted. A resolver gives these signals, and looking one of
them up gives the same as looking up both (`member_signals`).
-/

namespace Upkeep.GitHub

open Instant

/-! ## Rows that count -/

/-- The user is there, is a member, and is no program. -/
def IsTrusted (logins : List String) : Option User → Prop
  | some u => u.login ∈ logins ∧ u.kind ≠ "Bot" ∧ ¬ "[bot]".toList <:+ u.login.toList
  | none => False

theorem isMember_iff {logins : List String} {user : Option User} :
    User.isMember logins user = true ↔ IsTrusted logins user := by
  cases user with
  | none => simp [User.isMember, IsTrusted]
  | some u =>
    simp only [User.isMember, User.isBot, IsTrusted, Bool.and_eq_true, Bool.not_eq_true',
      ← Bool.not_eq_true, Bool.or_eq_true, not_or, beq_iff_eq, List.contains_iff_mem,
      List.isSuffixOf_iff_suffix]
    exact and_comm

/-- The lists that signals are taken from. -/
structure Listings where
  members : List User
  comments : List Comment
  reviews : List Review
  events : List IssueEvent

namespace Listings

def logins (l : Listings) : List String := l.members.map User.login

/-- A member commented at an instant, and the comment is none of the manager's. On a pull request
the submission of a review counts as a comment. -/
def CommentedAt (l : Listings) (isPullRequest : Bool) (t : Instant) : Prop :=
  (∃ c ∈ l.comments, IsTrusted l.logins c.user ∧
    ¬ plainSignature.toList <:+: (c.body.getD "").toList ∧ c.createdAt = t) ∨
  isPullRequest = true ∧ ∃ r ∈ l.reviews, IsTrusted l.logins r.user ∧ r.submittedAt = some t

/-- A member commented at an instant, or caused an event. -/
def ActedAt (l : Listings) (isPullRequest : Bool) (t : Instant) : Prop :=
  (∃ e ∈ l.events, IsTrusted l.logins e.actor ∧ e.createdAt = t) ∨ l.CommentedAt isPullRequest t

/-- The signal of comments. -/
def comment (l : Listings) (isPullRequest : Bool) : Option Instant :=
  let commented := newestComment? l.logins l.comments
  if isPullRequest then later? commented (newestReview? l.logins l.reviews) else commented

/-- The signal of activity of any kind. -/
def activity (l : Listings) (isPullRequest : Bool) : Option Instant :=
  later? (newestEvent? l.logins l.events) (l.comment isPullRequest)

theorem isNewest_newestComment? (l : Listings) :
    IsNewest (fun t => ∃ c ∈ l.comments, IsTrusted l.logins c.user ∧
      ¬ plainSignature.toList <:+: (c.body.getD "").toList ∧ c.createdAt = t)
      (newestComment? l.logins l.comments) := by
  refine (isNewest_newest? _).congr fun t => ?_
  simp only [List.mem_map, List.mem_filter, Comment.counts, Bool.and_eq_true, isMember_iff,
    Bool.not_eq_true', ← Bool.not_eq_true, String.hasText, containsText_iff, and_assoc]

theorem isNewest_newestReview? (l : Listings) :
    IsNewest (fun t => ∃ r ∈ l.reviews, IsTrusted l.logins r.user ∧ r.submittedAt = some t)
      (newestReview? l.logins l.reviews) := by
  refine (isNewest_newest? _).congr fun t => ?_
  simp only [List.mem_filterMap, List.mem_filter, isMember_iff, and_assoc]

theorem isNewest_newestEvent? (l : Listings) :
    IsNewest (fun t => ∃ e ∈ l.events, IsTrusted l.logins e.actor ∧ e.createdAt = t)
      (newestEvent? l.logins l.events) := by
  refine (isNewest_newest? _).congr fun t => ?_
  simp only [List.mem_map, List.mem_filter, isMember_iff, and_assoc]

theorem isNewest_comment (l : Listings) (isPullRequest : Bool) :
    IsNewest (l.CommentedAt isPullRequest) (l.comment isPullRequest) := by
  unfold comment CommentedAt
  cases isPullRequest with
  | true =>
    refine (l.isNewest_newestComment?.later? l.isNewest_newestReview?).congr fun t => ?_
    simp only [true_and]
  | false =>
    refine l.isNewest_newestComment?.congr fun t => ?_
    simp only [Bool.false_eq_true, false_and, or_false]

theorem isNewest_activity (l : Listings) (isPullRequest : Bool) :
    IsNewest (l.ActedAt isPullRequest) (l.activity isPullRequest) :=
  l.isNewest_newestEvent?.later? (l.isNewest_comment isPullRequest)

/-! ## Rows that do not count -/

/-- A list with the rows of another one in any order, and rows among them that do not count. -/
def IsPadded {α : Type} (counts : α → Prop) (rows padded : List α) : Prop :=
  ∃ extra, (∀ row ∈ extra, ¬ counts row) ∧ padded.Perm (rows ++ extra)

theorem IsPadded.exists_iff {α : Type} {counts Q : α → Prop} {rows padded : List α}
    (h : IsPadded counts rows padded) :
    (∃ row ∈ padded, counts row ∧ Q row) ↔ ∃ row ∈ rows, counts row ∧ Q row := by
  obtain ⟨extra, hextra, hperm⟩ := h
  constructor
  · rintro ⟨row, hmem, hcounts, hQ⟩
    rcases List.mem_append.1 (hperm.mem_iff.1 hmem) with hmem | hmem
    · exact ⟨row, hmem, hcounts, hQ⟩
    · exact absurd hcounts (hextra row hmem)
  · rintro ⟨row, hmem, hrow⟩
    exact ⟨row, hperm.mem_iff.2 (List.mem_append_left extra hmem), hrow⟩

/-- The lists have the same members in any order, and the rows of the others in any order with rows
of users among them who are not trusted. -/
structure Padded (l padded : Listings) : Prop where
  members : ∀ login, login ∈ padded.logins ↔ login ∈ l.logins
  comments : IsPadded (fun c => IsTrusted l.logins c.user) l.comments padded.comments
  reviews : IsPadded (fun r => IsTrusted l.logins r.user) l.reviews padded.reviews
  events : IsPadded (fun e => IsTrusted l.logins e.actor) l.events padded.events

namespace Padded

variable {l padded : Listings}

theorem isTrusted_iff (h : l.Padded padded) (user : Option User) :
    IsTrusted padded.logins user ↔ IsTrusted l.logins user := by
  cases user with
  | none => exact Iff.rfl
  | some u => exact and_congr_left fun _ => h.members u.login

theorem commentedAt_iff (h : l.Padded padded) (isPullRequest : Bool) (t : Instant) :
    padded.CommentedAt isPullRequest t ↔ l.CommentedAt isPullRequest t := by
  simp only [CommentedAt, h.isTrusted_iff]
  exact or_congr h.comments.exists_iff (and_congr_right fun _ => h.reviews.exists_iff)

theorem comment_eq (h : l.Padded padded) (isPullRequest : Bool) :
    padded.comment isPullRequest = l.comment isPullRequest :=
  ((padded.isNewest_comment isPullRequest).congr (h.commentedAt_iff isPullRequest)).unique
    (l.isNewest_comment isPullRequest)

theorem activity_eq (h : l.Padded padded) (isPullRequest : Bool) :
    padded.activity isPullRequest = l.activity isPullRequest := by
  refine ((padded.isNewest_activity isPullRequest).congr fun t => ?_).unique
    (l.isNewest_activity isPullRequest)
  simp only [ActedAt, h.isTrusted_iff]
  exact or_congr h.events.exists_iff (h.commentedAt_iff isPullRequest t)

end Padded

end Listings

/-! ## Lookups -/

section Lookups

open WithMemory

variable {σ α : Type}

/-- Nothing else is remembered of an organization than these members. -/
def Remembers (org : String) (logins : List String) (s : WithMemory σ) : Prop :=
  ∀ known, s.members.lookup org = some known → known = logins

/-- Whenever a client asks for them, it gets these lists. The reviews are asked for only on a pull
request. -/
structure Listings.GivenBy (l : Listings) (c : Client (StateM σ)) (issue : IssueRef)
    (isPullRequest : Bool) : Prop where
  members : ∀ s, ((c.getPages "list org members" ("/orgs/" ++ issue.repository.org ++ "/members") []
    User.ofValue).run s).1 = .ok l.members
  comments : ∀ s, ((c.comments issue).run s).1 = .ok l.comments
  reviews : isPullRequest = true → ∀ s, ((c.getPages "list reviews"
    (MemberResolver.pullPath issue "reviews") [] Review.ofValue).run s).1 = .ok l.reviews
  events : ∀ s, ((c.getPages "list events" (issuePath issue ++ "/events") []
    IssueEvent.ofValue).run s).1 = .ok l.events

variable {c : Client (StateM σ)} {issue : IssueRef} {isPullRequest : Bool} {l : Listings}
  {org : String} {logins : List String}

theorem gives_atServer {x : StateM σ α} {a : α} (h : ∀ s, (x.run s).1 = a) :
    Gives (Remembers org logins) (atServer x) a :=
  fun s hs => ⟨h s.server, hs⟩

theorem gives_getPages {operation path : String} {d : Decoder α} {rows : List α}
    (h : ∀ s, ((c.getPages operation path [] d).run s).1 = .ok rows) :
    Gives (Remembers org logins) ((resolver c).client.getPages operation path [] d)
      (.ok rows) := by
  show Gives _ ((client c).getPages operation path [] d) _
  rw [getPages_client]
  exact gives_atServer h

theorem gives_insert :
    Gives (Remembers org logins) ((resolver c).members.insert org logins) () := by
  refine fun s _ => ⟨rfl, fun known hknown => ?_⟩
  have hfound : ((org, logins) :: s.members).lookup org = some known := hknown
  rw [List.lookup_cons_self] at hfound
  exact (Option.some.inj hfound).symm

theorem gives_membersOf (h : l.GivenBy c issue isPullRequest) :
    Gives (Remembers issue.repository.org l.logins)
      ((resolver c).membersOf issue.repository.org) (.ok l.logins) := by
  intro s hs
  have hfind : ((resolver c).members.find? issue.repository.org).run s =
      (s.members.lookup issue.repository.org, s) := rfl
  unfold MemberResolver.membersOf
  rw [StateT.run_bind, hfind]
  cases hknown : s.members.lookup issue.repository.org with
  | some known =>
    rw [hs known hknown]
    exact ⟨rfl, hs⟩
  | none =>
    have hnoted : Gives (Remembers issue.repository.org l.logins)
        ((resolver c).members.insert issue.repository.org l.logins >>= fun _ => pure (.ok l.logins))
        (.ok l.logins : Except ServiceError (List String)) := gives_insert.bind (gives_pure _)
    exact (gives_getPages h.members).bind hnoted s hs

theorem gives_latestComment (h : l.GivenBy c issue isPullRequest) :
    Gives (Remembers issue.repository.org l.logins)
      ((resolver c).latestComment issue isPullRequest) (.ok (l.comment isPullRequest)) := by
  refine (gives_membersOf h).bind ((gives_getPages h.comments).bind ?_)
  cases isPullRequest with
  | false => exact gives_pure _
  | true => exact (gives_getPages (h.reviews rfl)).bind (gives_pure _)

theorem gives_latestEvent (h : l.GivenBy c issue isPullRequest) :
    Gives (Remembers issue.repository.org l.logins) ((resolver c).latestEvent issue)
      (.ok (newestEvent? l.logins l.events)) :=
  (gives_membersOf h).bind ((gives_getPages h.events).bind (gives_pure _))

theorem gives_signals (h : l.GivenBy c issue isPullRequest) :
    Gives (Remembers issue.repository.org l.logins) ((resolver c).signals issue isPullRequest)
      (.ok (l.comment isPullRequest, l.activity isPullRequest)) :=
  (gives_latestComment h).bind ((gives_latestEvent h).bind (gives_pure _))

theorem gives_latestActivity (h : l.GivenBy c issue isPullRequest) :
    Gives (Remembers issue.repository.org l.logins)
      ((resolver c).latestActivity issue isPullRequest) (.ok (l.activity isPullRequest)) :=
  (gives_signals h).bind (gives_pure _)

/-- Both signals are looked up one after the other. -/
theorem signals_run (r : MemberResolver (StateM σ)) (s : σ) :
    ((r.signals issue isPullRequest).run s).1 =
      ((r.latestComment issue isPullRequest).run s).1.bind fun comment =>
        ((r.latestEvent issue).run ((r.latestComment issue isPullRequest).run s).2).1.map
          fun event => (comment, later? event comment) := by
  unfold MemberResolver.signals
  rw [StateT.run_bind]
  obtain ⟨⟨comment, s'⟩, hcomment⟩ : ∃ p, (r.latestComment issue isPullRequest).run s = p :=
    ⟨_, rfl⟩
  rw [hcomment]
  cases comment with
  | error e => rfl
  | ok comment =>
    show (((r.latestEvent issue) >>= _).run s').1 = _
    rw [StateT.run_bind]
    obtain ⟨⟨event, s''⟩, hevent⟩ : ∃ p, (r.latestEvent issue).run s' = p := ⟨_, rfl⟩
    rw [hevent]
    cases event <;> rfl

/-- The signal of activity alone is what both signals are looked up for. -/
theorem latestActivity_run (r : MemberResolver (StateM σ)) (s : σ) :
    ((r.latestActivity issue isPullRequest).run s).1 =
      ((r.signals issue isPullRequest).run s).1.map Prod.snd := by
  unfold MemberResolver.latestActivity
  rw [StateT.run_bind]
  obtain ⟨⟨signals, s'⟩, hrun⟩ : ∃ p, (r.signals issue isPullRequest).run s = p := ⟨_, rfl⟩
  rw [hrun]
  cases signals <;> rfl

theorem latestComment_of_signals {r : MemberResolver (StateM σ)} {s : σ}
    {comment activity : Option Instant}
    (h : ((r.signals issue isPullRequest).run s).1 = .ok (comment, activity)) :
    ((r.latestComment issue isPullRequest).run s).1 = .ok comment := by
  rw [signals_run] at h
  obtain ⟨commented, hcommented, h⟩ := exists_of_bind_eq_ok h
  obtain ⟨event, -, h⟩ := exists_of_map_eq_ok h
  rw [hcommented, (Prod.mk.inj h).1]

end Lookups

/-- The signals are the newest instants at which members did something: they are none exactly if
there is no such instant, and the activity is not older than the comment. The order of the lists
does not matter, nor do rows of users who are not trusted. A resolver that gets the same lists
whenever it asks gives the same signals, together or one by one, however much it remembers; and from
one state of whatever server, each of them alone is what both together say. -/
theorem member_signals :
    (∀ (l : Listings) (isPullRequest : Bool),
      IsNewest (l.CommentedAt isPullRequest) (l.comment isPullRequest) ∧
      IsNewest (l.ActedAt isPullRequest) (l.activity isPullRequest) ∧
      (∀ t, l.comment isPullRequest = some t → ∃ u, l.activity isPullRequest = some u ∧ t ≤ u) ∧
      ∀ padded, l.Padded padded → padded.comment isPullRequest = l.comment isPullRequest ∧
        padded.activity isPullRequest = l.activity isPullRequest) ∧
    (∀ (σ : Type) (c : Client (StateM σ)) (issue : IssueRef) (isPullRequest : Bool) (l : Listings),
      l.GivenBy c issue isPullRequest →
      ∀ s, Remembers issue.repository.org l.logins s →
        (((WithMemory.resolver c).signals issue isPullRequest).run s).1 =
          .ok (l.comment isPullRequest, l.activity isPullRequest) ∧
        (((WithMemory.resolver c).latestComment issue isPullRequest).run s).1 =
          .ok (l.comment isPullRequest) ∧
        (((WithMemory.resolver c).latestActivity issue isPullRequest).run s).1 =
          .ok (l.activity isPullRequest)) ∧
    ∀ (σ : Type) (r : MemberResolver (StateM σ)) (issue : IssueRef) (isPullRequest : Bool) (s : σ),
      ((r.latestActivity issue isPullRequest).run s).1 =
        ((r.signals issue isPullRequest).run s).1.map Prod.snd ∧
      ∀ comment activity, ((r.signals issue isPullRequest).run s).1 = .ok (comment, activity) →
        ((r.latestComment issue isPullRequest).run s).1 = .ok comment := by
  refine ⟨fun l isPullRequest => ⟨l.isNewest_comment _, l.isNewest_activity _, ?_, ?_⟩, ?_, ?_⟩
  · intro t ht
    have hcomment := l.isNewest_comment isPullRequest
    rw [ht] at hcomment
    exact hcomment.le_of_imp (l.isNewest_activity isPullRequest) fun u hu => .inr hu
  · exact fun padded h => ⟨h.comment_eq isPullRequest, h.activity_eq isPullRequest⟩
  · intro σ c issue isPullRequest l h s hs
    exact ⟨(gives_signals h s hs).1, (gives_latestComment h s hs).1,
      (gives_latestActivity h s hs).1⟩
  · intro σ r issue isPullRequest s
    exact ⟨latestActivity_run r s, fun _ _ => latestComment_of_signals⟩

/-- A client whose server answers every request with one list of rows. -/
def answering (rows : List Value) : Client (StateM Unit) where
  transport := ⟨fun _ => pure (some ⟨200, [], Json.print (.list rows)⟩), fun _ => pure (),
    pure default⟩
  apiUrl := "http://[::1]"
  headers := []
  maxRateLimitWait := 0

theorem getPages_answering {α : Type} {operation path : String} {d : Decoder α}
    {values : List Value} {rows : List α} (hfits : Json.Fits Json.nestingLimit (.list values))
    (hurl : (Url.parse? ("http://[::1]" ++ path)).isSome)
    (hrows : Decoder.list d (.list values) = .ok rows) (hshort : rows.length < 100) (s : Unit) :
    (((answering values).getPages operation path [] d).run s).1 = .ok rows := by
  let e : Endpoint (StateM Unit) α := ⟨answering values, operation, path, [], d⟩
  let answer : Http.Response := ⟨200, [], Json.print (.list values)⟩
  obtain ⟨url, hurl⟩ := Option.isSome_iff_exists.1 hurl
  have hrequest : e.request? 1 = some ⟨.get, url.addQuery (e.pageQuery 1), [], none⟩ := by
    have haddress : e.client.apiUrl ++ e.path = "http://[::1]" ++ path := rfl
    rw [Endpoint.request?, Client.request?, haddress, hurl]
    rfl
  have hexchange (request : Http.Request) :
      ((answering values).transport.exchange request).run s = (some answer, ()) := rfl
  have hsuccess : answer.isSuccess = true := rfl
  have hdecode : answer.decode (Decoder.list d) = .ok rows := by
    rw [Http.Response.decode, Json.read?_print hfits]
    show (Decoder.list d (.list values)).mapError _ = _
    rw [hrows]
    rfl
  exact e.getPages_of_short s hrequest (hexchange _) hsuccess hdecode hshort

/-- One row that says all that a member did, whatever list it stands in. -/
def annsRow : Value :=
  .table [("login", .text "ann"), ("id", .int 1), ("body", .text "LGTM"),
    ("user", .table [("login", .text "ann")]), ("actor", .table [("login", .text "ann")]),
    ("created_at", .text "2020-01-01T00:00:00Z"), ("submitted_at", .text "2020-02-01T00:00:00Z")]

theorem fits_annsRow (n : Nat) : Json.Fits (n + 2) annsRow := by
  refine .table _ ?_
  simp only [List.forall_mem_cons]
  exact ⟨.text _, .int 1 rfl, .text _, .table _ (by simp [Json.Fits.text]),
    .table _ (by simp [Json.Fits.text]), .text _, .text _, nofun⟩

/-- The beginning of a day, the first of which is that of the year 2020. -/
def day (n : Int) : Instant := .clamp ((1577836800 + n * 86400) * 1000000000)

def annsListings : Listings where
  members := [⟨"ann", ""⟩]
  comments := [⟨1, some "LGTM", some ⟨"ann", ""⟩, day 0⟩]
  reviews := [⟨some ⟨"ann", ""⟩, some (day 31)⟩]
  events := [⟨some ⟨"ann", ""⟩, day 0⟩]

/-- The same with a later comment by an outsider, and a later event of nobody. -/
def busyListings : Listings :=
  { annsListings with
    comments := ⟨2, some "ping?", some ⟨"bob", "User"⟩, day 60⟩ :: annsListings.comments
    events := annsListings.events ++ [⟨none, day 90⟩] }

/-- The review of a member is her last comment and her last activity, whoever else comments later,
and however the signals are looked up. -/
theorem member_signals_ann :
    annsListings.Padded busyListings ∧
    busyListings.comment true = some (day 31) ∧ busyListings.activity true = some (day 31) ∧
    annsListings.GivenBy (answering [annsRow]) ⟨⟨"acme", "tools"⟩, 7⟩ true ∧
    let r := WithMemory.resolver (answering [annsRow])
    ((r.signals ⟨⟨"acme", "tools"⟩, 7⟩ true).run ⟨(), []⟩).1 =
      .ok (some (day 31), some (day 31)) ∧
    ((r.latestActivity ⟨⟨"acme", "tools"⟩, 7⟩ true).run ⟨(), [("acme", ["ann"])]⟩).1 =
      .ok (some (day 31)) ∧
    ((r.latestComment ⟨⟨"acme", "tools"⟩, 7⟩ true).run ⟨(), []⟩).1 = .ok (some (day 31)) := by
  obtain ⟨hlists, hgives, hsame⟩ := member_signals
  have hpadded : annsListings.Padded busyListings := by
    refine ⟨fun _ => Iff.rfl, ?_, ⟨[], by simp, by simp [busyListings]⟩, ?_⟩
    · refine ⟨[⟨2, some "ping?", some ⟨"bob", "User"⟩, day 60⟩], ?_, ?_⟩
      · simp [IsTrusted, Listings.logins, annsListings]
      · exact (List.perm_append_singleton _ _).symm
    · exact ⟨[⟨none, day 90⟩], by simp [IsTrusted], .refl _⟩
  have hcomment : annsListings.comment true = some (day 31) := by decide +kernel
  have hactivity : annsListings.activity true = some (day 31) := by decide +kernel
  obtain ⟨-, -, -, hsteady⟩ := hlists annsListings true
  obtain ⟨hbusyComment, hbusyActivity⟩ := hsteady busyListings hpadded
  have hgiven : annsListings.GivenBy (answering [annsRow]) ⟨⟨"acme", "tools"⟩, 7⟩ true := by
    have hfits : Json.Fits Json.nestingLimit (.list [annsRow]) :=
      .list _ (List.forall_mem_singleton.2 (fits_annsRow 124))
    refine ⟨getPages_answering hfits ?_ ?_ ?_, getPages_answering hfits ?_ ?_ ?_,
      fun _ => getPages_answering hfits ?_ ?_ ?_, getPages_answering hfits ?_ ?_ ?_⟩
    all_goals decide +kernel
  have hgives := hgives Unit (answering [annsRow]) _ true annsListings hgiven
  obtain ⟨hsignals, -, -⟩ := hgives ⟨(), []⟩ nofun
  obtain ⟨-, -, hremembered⟩ := hgives ⟨(), [("acme", ["ann"])]⟩ fun known hknown => by
    rw [List.lookup_cons_self] at hknown
    exact (Option.some.inj hknown).symm
  rw [hcomment, hactivity] at hsignals
  rw [hactivity] at hremembered
  exact ⟨hpadded, hbusyComment.trans hcomment, hbusyActivity.trans hactivity, hgiven, hsignals,
    hremembered, (hsame _ _ _ _ _).2 _ _ hsignals⟩

end Upkeep.GitHub
