import Upkeep.Proofs.GitHub.RateLimit
import Upkeep.Proofs.Services.Recall
/-!
# Lookups that share a memory

A lookup needs the members of an organization or the number of a repository, and goes on from there
without the memory (`Connections.knowing`). Of services whose answers do not change, what a lookup
finds is what clients find that remember nothing (`Connections.ask_finds`).
-/

namespace Upkeep

open Upkeep.Fiber

/-- Goes on with what could be had. -/
def thenOk {m : Type → Type} {ε α β : Type} [Monad m] (x : m (Except ε α))
    (k : α → m (Except ε β)) : m (Except ε β) := do
  match ← x with
  | .error e => pure (.error e)
  | .ok a => k a

theorem Fiber.Leaves.thenOk {σ τ ε α β : Type} {sound : σ → Prop} {part : σ → τ}
    {f : Fiber σ (Except ε α)} {k : α → Fiber σ (Except ε β)} {truth : Except ε α}
    {next : α → Except ε β} (hf : f.Leaves sound part (Truly truth))
    (hk : ∀ a, (k a).Leaves sound part (Truly (next a))) :
    (Upkeep.thenOk f k).Leaves sound part (Truly (Upkeep.thenOk (m := Id) truth next)) := by
  refine hf.bind fun r hr => ?_
  cases r with
  | error e => exact leaves_pure (truly_error e)
  | ok a =>
    rw [hr a rfl]
    exact hk a

/-! ## Lookups -/

/-- A lookup of what members did, or of where an item is on the board. -/
inductive Query
  | comment (issue : IssueRef) (isPullRequest : Bool)
  | activity (issue : IssueRef) (isPullRequest : Bool)
  | signals (issue : IssueRef) (isPullRequest : Bool)
  | pipeline (issue : IssueRef)

/-- What is found. -/
inductive Finding
  | instant (instant? : Option Instant)
  | signals (commentAndActivity : Option Instant × Option Instant)
  | pipeline (pipeline? : Option Pipeline)

/-- What a lookup has to know before anything else. -/
def Query.key : Query → Key
  | .comment issue _ | .activity issue _ | .signals issue _ => .members issue.repository.org
  | .pipeline issue => .number issue.repository

/-- A memory in which nothing is found. -/
def Memory.blank {m : Type → Type} [Monad m] : Memory m where
  members := ⟨fun _ => pure none, fun _ _ => pure ()⟩
  numbers := ⟨fun _ => pure none, fun _ _ => pure ()⟩

namespace Connections

section

variable {m : Type → Type} [Monad m]

/-- Carries out a lookup. -/
def ask (c : Connections m) (memory : Memory m) : Query → m (Except ServiceError Finding)
  | .comment issue isPullRequest =>
    thenOk ((c.resolver memory).latestComment issue isPullRequest) fun found =>
      pure (.ok (.instant found))
  | .activity issue isPullRequest =>
    thenOk ((c.resolver memory).latestActivity issue isPullRequest) fun found =>
      pure (.ok (.instant found))
  | .signals issue isPullRequest =>
    thenOk ((c.resolver memory).signals issue isPullRequest) fun found =>
      pure (.ok (.signals found))
  | .pipeline issue =>
    thenOk ((c.zenHub memory).classification issue) fun found => pure (.ok (.pipeline found))

/-- The newest comment of one of these members. -/
def commentBy (c : Connections m) (issue : IssueRef) (isPullRequest : Bool)
    (members : List String) : m (Except ServiceError (Option Instant)) :=
  thenOk (c.members.comments issue) fun comments =>
    let commented := GitHub.newestComment? members comments
    if isPullRequest then
      thenOk (c.members.getPages "list reviews" (GitHub.MemberResolver.pullPath issue "reviews") []
        GitHub.Review.ofValue) fun reviews =>
          pure (.ok (Instant.later? commented (GitHub.newestReview? members reviews)))
    else pure (.ok commented)

/-- The newest event caused by one of these members. -/
def eventBy (c : Connections m) (issue : IssueRef) (members : List String) :
    m (Except ServiceError (Option Instant)) :=
  thenOk (c.members.getPages "list events" (GitHub.issuePath issue ++ "/events") []
    GitHub.IssueEvent.ofValue) fun events => pure (.ok (GitHub.newestEvent? members events))

/-- The pipeline of an item in the repository with this number. -/
def pipelineAt (c : Connections m) (issue : IssueRef) (number : Nat) :
    m (Except ServiceError (Option Pipeline)) :=
  match (c.zenHub Memory.blank).issueUrl? number issue with
  | none => pure (.error Http.noResponse)
  | some url => do
    match ← c.board.exchange { method := .get, url, headers := c.boardHeaders } with
    | none => pure (.error Http.noResponse)
    | some response => do
      let now ← c.board.now
      pure (ZenHub.Client.ofResponse response now)

/-- The newest comment and the newest activity, for both of which the members are looked up. -/
def signalsFrom (c : Connections m) (issue : IssueRef) (isPullRequest : Bool)
    (members : m (Except ServiceError (List String))) :
    m (Except ServiceError (Option Instant × Option Instant)) :=
  thenOk (thenOk members (c.commentBy issue isPullRequest)) fun comment =>
    thenOk (thenOk members (c.eventBy issue)) fun event =>
      pure (.ok (comment, Instant.later? event comment))

/-- Carries out a lookup, given how to have what belongs to its key. -/
def askFrom (c : Connections m) :
    (q : Query) → m (Except ServiceError q.key.Value) → m (Except ServiceError Finding)
  | .comment issue isPullRequest, members =>
    thenOk (thenOk members (c.commentBy issue isPullRequest)) fun comment =>
      pure (.ok (.instant comment))
  | .activity issue isPullRequest, members =>
    thenOk (thenOk (c.signalsFrom issue isPullRequest members) fun found => pure (.ok found.2))
      fun activity => pure (.ok (.instant activity))
  | .signals issue isPullRequest, members =>
    thenOk (c.signalsFrom issue isPullRequest members) fun found => pure (.ok (.signals found))
  | .pipeline issue, number =>
    thenOk (thenOk number (c.pipelineAt issue)) fun pipeline? => pure (.ok (.pipeline pipeline?))

section

variable (c : Connections m) (memory : Memory m) (issue : IssueRef) (isPullRequest : Bool)

theorem latestComment_eq : (c.resolver memory).latestComment issue isPullRequest =
    thenOk (c.obtain memory (.members issue.repository.org)) (c.commentBy issue isPullRequest) := by
  refine bind_congr fun members => ?_
  cases members with
  | error e => rfl
  | ok members =>
    refine bind_congr fun comments => ?_
    cases comments with
    | error e => rfl
    | ok comments =>
      cases isPullRequest with
      | false => rfl
      | true => exact bind_congr fun reviews => by cases reviews <;> rfl

theorem latestEvent_eq : (c.resolver memory).latestEvent issue =
    thenOk (c.obtain memory (.members issue.repository.org)) (c.eventBy issue) := by
  refine bind_congr fun members => ?_
  cases members with
  | error e => rfl
  | ok members => exact bind_congr fun events => by cases events <;> rfl

theorem signals_eq : (c.resolver memory).signals issue isPullRequest =
    c.signalsFrom issue isPullRequest (c.obtain memory (.members issue.repository.org)) := by
  rw [GitHub.MemberResolver.signals, latestComment_eq, latestEvent_eq]
  refine bind_congr fun comment => ?_
  cases comment with
  | error e => rfl
  | ok comment => exact bind_congr fun event => by cases event <;> rfl

theorem latestActivity_eq : (c.resolver memory).latestActivity issue isPullRequest =
    thenOk (c.signalsFrom issue isPullRequest (c.obtain memory (.members issue.repository.org)))
      fun found => pure (.ok found.2) := by
  rw [GitHub.MemberResolver.latestActivity, signals_eq]
  exact bind_congr fun found => by cases found <;> rfl

theorem classification_eq : (c.zenHub memory).classification issue =
    thenOk (c.obtain memory (.number issue.repository)) (c.pipelineAt issue) := by
  refine bind_congr fun number => ?_
  cases number with
  | error e => rfl
  | ok number => rfl

/-- The memory only matters for how to have what belongs to the key. -/
theorem ask_eq (q : Query) : c.ask memory q = c.askFrom q (c.obtain memory q.key) := by
  cases q with
  | comment issue isPullRequest => rw [ask, latestComment_eq]; rfl
  | activity issue isPullRequest => rw [ask, latestActivity_eq]; rfl
  | signals issue isPullRequest => rw [ask, signals_eq]; rfl
  | pipeline issue => rw [ask, classification_eq]; rfl

end

/-- Carries out a lookup that knows what belongs to its key, without any memory. -/
def knowing (c : Connections m) (q : Query) (v : q.key.Value) :
    m (Except ServiceError Finding) := c.askFrom q (pure (.ok v))

end

/-! ## Behind the memory -/

variable {σ : Type} {c : Connections (Fiber σ)} {N : Notebook σ}
  {answer : Http.Request → Http.Response}

theorem commentBy_steady (h : c.Steady N answer) (issue : IssueRef) (isPullRequest : Bool)
    (members : List String) : (c.commentBy issue isPullRequest members).Leaves N.sound N.remembered
      (Truly ((c.answered answer).commentBy issue isPullRequest members)) := by
  refine Leaves.thenOk (GitHub.Client.getPages_steady h.members _ _ _ _) fun comments => ?_
  dsimp only
  split
  · refine Leaves.thenOk (GitHub.Client.getPages_steady h.members _ _ _ _) fun reviews => ?_
    exact leaves_pure fun _ ha => ha
  · exact leaves_pure fun _ ha => ha

theorem eventBy_steady (h : c.Steady N answer) (issue : IssueRef) (members : List String) :
    (c.eventBy issue members).Leaves N.sound N.remembered
      (Truly ((c.answered answer).eventBy issue members)) :=
  Leaves.thenOk (GitHub.Client.getPages_steady h.members _ _ _ _) fun _ =>
    leaves_pure fun _ ha => ha

/-- The board's answers are those that a pipeline is read from, whatever the time is. -/
theorem ofResponse_of_ok {response : Http.Response} {now : Instant} {pipeline? : Option Pipeline}
    (h : ZenHub.Client.ofResponse response now = .ok pipeline?) :
    isBoardAnswer response = true ∧ ∀ response' now', response.Says response' →
      ZenHub.Client.ofResponse response' now' = .ok pipeline? := by
  unfold ZenHub.Client.ofResponse at h
  split at h
  · next hmissing =>
    refine ⟨by simp [isBoardAnswer, hmissing], fun response' now' hsame => ?_⟩
    rw [ZenHub.Client.ofResponse, if_pos (hsame.1 ▸ hmissing)]
    exact h
  · next hfound =>
    split at h
    · cases h
    split at h
    · cases h
    next hsuccess =>
    rw [Bool.not_eq_true', Bool.not_eq_false] at hsuccess
    refine ⟨by simp [isBoardAnswer, hsuccess], fun response' now' hsame => ?_⟩
    rw [ZenHub.Client.ofResponse, if_neg (hsame.1 ▸ hfound), ← hsame.1,
      RateLimit.reset?_of_isSuccess hsuccess, ← hsame.isSuccess_eq, ← hsame.decode_eq]
    dsimp only
    rw [hsuccess]
    exact h

theorem pipelineAt_steady (h : c.Steady N answer) (issue : IssueRef) (number : Nat) :
    (c.pipelineAt issue number).Leaves N.sound N.remembered
      (Truly ((c.answered answer).pipelineAt issue number)) := by
  unfold pipelineAt
  have hurl : ((c.answered answer).zenHub Memory.blank).issueUrl? number issue =
    (c.zenHub Memory.blank).issueUrl? number issue := rfl
  rw [hurl]
  cases (c.zenHub Memory.blank).issueUrl? number issue with
  | none => exact leaves_pure (truly_error _)
  | some url =>
    refine (h.board.exchange _).bind fun response? hresponse => ?_
    cases response? with
    | none => exact leaves_pure (truly_error _)
    | some response =>
      refine h.board.now.bind fun now _ => leaves_pure fun pipeline? hok => ?_
      obtain ⟨hanswer, hall⟩ := ofResponse_of_ok hok
      exact hall _ _ (hresponse response rfl hanswer)

/-! ## What is found -/

variable {asked : Key → Prop} {k : Key} {α β : Type} {s : σ}

/-- The fiber finds nothing but what is true, and has a key remembered if it finds something. -/
def Finds (c : Connections (Fiber σ)) (N : Notebook σ) (answer : Http.Request → Http.Response)
    (asked : Key → Prop) (k : Key) (truth : Except ServiceError α)
    (f : Fiber σ (Except ServiceError α)) (s : σ) : Prop :=
  f.Assures (c.agreement N answer asked)
    (fun s' r => ∀ a, r = .ok a → truth = .ok a ∧ (N.remembered s').Has k) s

theorem finds_error {truth : Except ServiceError α} (e : ServiceError) :
    c.Finds N answer asked k truth (pure (.error e)) s := assures_pure fun _ _ _ => nofun

theorem finds_ok (hknown : (N.remembered s).Has k) (a : α) :
    c.Finds N answer asked k (.ok a) (pure (.ok a)) s :=
  assures_pure fun _ _ hleads _ ha => ⟨ha, hleads.has hknown⟩

theorem finds_of_leaves {truth : Except ServiceError α} {f : Fiber σ (Except ServiceError α)}
    (hf : f.Leaves N.sound N.remembered (Truly truth)) (hknown : (N.remembered s).Has k) :
    c.Finds N answer asked k truth f s :=
  (assures_of_leaves hf s).imp fun _ _ _ hleads hr a ha => ⟨hr a ha, hleads.has hknown⟩

theorem Finds.thenOk {truth : Except ServiceError α} {next : α → Except ServiceError β}
    {f : Fiber σ (Except ServiceError α)} {l : α → Fiber σ (Except ServiceError β)}
    (hf : c.Finds N answer asked k truth f s)
    (hl : ∀ a s', (N.remembered s').Has k → c.Finds N answer asked k (next a) (l a) s') :
    c.Finds N answer asked k (Upkeep.thenOk (m := Id) truth next) (Upkeep.thenOk f l) s := by
  refine hf.bind fun r s' _ _ hr => ?_
  cases r with
  | error e => exact finds_error e
  | ok a =>
    obtain ⟨htruth, hknown⟩ := hr a rfl
    rw [htruth]
    exact hl a s' hknown

theorem signalsFrom_finds (h : c.Steady N answer) (issue : IssueRef) (isPullRequest : Bool)
    {truth : Except ServiceError (List String)} {x : Fiber σ (Except ServiceError (List String))}
    (hx : ∀ s, c.Finds N answer asked k truth x s) (s : σ) :
    c.Finds N answer asked k ((c.answered answer).signalsFrom issue isPullRequest truth)
      (c.signalsFrom issue isPullRequest x) s := by
  have hcomment : ∀ s, c.Finds N answer asked k
      (Upkeep.thenOk (m := Id) truth ((c.answered answer).commentBy issue isPullRequest))
      (Upkeep.thenOk x (c.commentBy issue isPullRequest)) s := fun s =>
    (hx s).thenOk fun members _ => finds_of_leaves (commentBy_steady h issue isPullRequest members)
  have hevent : ∀ s, c.Finds N answer asked k
      (Upkeep.thenOk (m := Id) truth ((c.answered answer).eventBy issue))
      (Upkeep.thenOk x (c.eventBy issue)) s := fun s =>
    (hx s).thenOk fun members _ => finds_of_leaves (eventBy_steady h issue members)
  exact (hcomment s).thenOk fun comment s' _ =>
    (hevent s').thenOk fun event _ hknown => finds_ok hknown _

/-- A lookup finds what is true if it has for its key what is true. -/
theorem askFrom_finds (h : c.Steady N answer) (q : Query)
    {truth : Except ServiceError q.key.Value} {x : Fiber σ (Except ServiceError q.key.Value)}
    (hx : ∀ s, c.Finds N answer asked k truth x s) (s : σ) :
    c.Finds N answer asked k ((c.answered answer).askFrom q truth) (c.askFrom q x) s := by
  cases q with
  | comment issue isPullRequest =>
    have hcomment := (hx s).thenOk fun members _ =>
      finds_of_leaves (commentBy_steady h issue isPullRequest members)
    exact hcomment.thenOk fun comment _ hknown => finds_ok hknown _
  | activity issue isPullRequest =>
    have hactivity := (signalsFrom_finds h issue isPullRequest hx s).thenOk
      fun found _ hknown => finds_ok hknown found.2
    exact hactivity.thenOk fun activity _ hknown => finds_ok hknown _
  | signals issue isPullRequest =>
    exact (signalsFrom_finds h issue isPullRequest hx s).thenOk fun found _ hknown =>
      finds_ok hknown _
  | pipeline issue =>
    have hpipeline := (hx s).thenOk fun number _ =>
      finds_of_leaves (pipelineAt_steady h issue number)
    exact hpipeline.thenOk fun pipeline? _ hknown => finds_ok hknown _

/-- Without a memory all is asked for. -/
theorem obtain_blank {m : Type → Type} [Monad m] [LawfulMonad m] (c : Connections m) (k : Key) :
    c.obtain Memory.blank k = c.fetch k := by
  have hconsult : (Memory.blank : Memory m).consult k = pure none := by cases k <;> rfl
  have hnote (v : k.Value) : (Memory.blank : Memory m).note k v = pure () := by cases k <;> rfl
  rw [obtain_eq, hconsult, pure_bind]
  dsimp only
  calc _ = c.fetch k >>= pure := bind_congr fun fetched => by
        cases fetched with
        | error e => rfl
        | ok v =>
          dsimp only
          rw [hnote, pure_bind]
    _ = c.fetch k := bind_pure _

/-- What a lookup finds where every request is answered and nothing is remembered. -/
def fresh (c : Connections (Fiber σ)) (answer : Http.Request → Http.Response) (q : Query) :
    Except ServiceError Finding :=
  (c.answered answer).ask Memory.blank q

theorem fresh_eq (q : Query) :
    c.fresh answer q = (c.answered answer).askFrom q (c.truth answer q.key) := by
  rw [fresh, ask_eq, obtain_blank]
  rfl

/-- Whatever others do, a lookup finds nothing but what clients find that remember nothing. -/
theorem ask_finds (h : c.Steady N answer) (q : Query) (hq : asked q.key) (s : σ) :
    c.Finds N answer asked q.key (c.fresh answer q) (c.ask N.memory q) s := by
  rw [ask_eq, fresh_eq]
  refine askFrom_finds h q (fun s => (obtain_assures h hq s).imp fun r s' _ _ hr v hv => ?_) s
  exact (hr v hv).imp_right fun hfound => ⟨v, hfound⟩

end Connections

end Upkeep
