import Upkeep.Proofs.Fiber.Logs
import Upkeep.Proofs.Sweep.Trail
/-!
# What the manager and a tracker say to each other

`Tracker.journaled` writes down what a tracker is asked and what it answers, whatever tracker it is
and however long its answers take. What the manager does then shows in the journal: the actions
on an item up to the first that fails (`Applied`), the turn of an item (`Turn`), and the sweep of a
repository (`Conversed`). Since each repository adds only to its own part of the journal, this holds
however the repositories are interleaved (`sweepRepository_writes`).
-/

namespace Upkeep

/-- Something that a tracker was asked or told, with its answer. -/
inductive TrackerExchange
  | listing (repository : RepositoryId) (answer : Except ServiceError (List Issue))
  | lookup (issue : IssueRef) (answer : Except ServiceError (Option Issue))
  /-- The signals about an item were asked for. -/
  | signals (issue : IssueRef) (answer : Except LifecycleError Signals)
  | change (issue : IssueRef) (mutation : Mutation) (answer : Except ServiceError Unit)
  | report (event : Event)

namespace TrackerExchange

/-- The repository that an entry of the journal belongs to. -/
def repository : TrackerExchange → RepositoryId
  | listing r _ => r
  | lookup ref _ => ref.repository
  | signals ref _ => ref.repository
  | change ref _ _ => ref.repository
  | report event => event.repository

def event? : TrackerExchange → Option Event
  | report event => some event
  | _ => none

end TrackerExchange

/-- A state, and what was said to the tracker that works on it. -/
structure Journaled (σ : Type) where
  state : σ
  journal : List TrackerExchange := []

namespace Journaled

variable {σ α β ι : Type}

/-- The timeline of the state without the journal. -/
def bare (t : Timeline (Journaled σ)) : Timeline σ := ⟨t.state.state, t.clock, t.tickets⟩

/-- The timeline after a change of the state. The journal is kept. -/
def follow (change : Timeline σ → Timeline σ) (t : Timeline (Journaled σ)) :
    Timeline (Journaled σ) :=
  ⟨⟨(change (bare t)).state, t.state.journal⟩, (change (bare t)).clock, (change (bare t)).tickets⟩

/-- A fiber that leaves the journal alone. -/
def lift : Fiber σ α → Fiber (Journaled σ) α
  | .done a => .done a
  | .act change next => .act (follow change) fun t => lift (next (bare t))
  | .wait timer f => .wait timer (lift f)

/-- Writes down an entry. -/
def note (entry : TrackerExchange) : Fiber (Journaled σ) Unit :=
  .update fun s => ((), { s with journal := s.journal ++ [entry] })

/-- A fiber whose result is written down. -/
def noting (f : Fiber σ α) (entry : α → TrackerExchange) : Fiber (Journaled σ) α := do
  let a ← lift f
  note (entry a)
  pure a

/-- The entries of the journal that are put down to an owner. -/
def journalOf [DecidableEq ι] (owner : TrackerExchange → ι) (r : ι) (s : Journaled σ) :
    List TrackerExchange :=
  s.journal.filter fun entry => decide (owner entry = r)

end Journaled

open Journaled

/-- The tracker with a journal of what it is asked and what it answers. -/
def Tracker.journaled {σ : Type} (tracker : Tracker (Fiber σ)) :
    Tracker (Fiber (Journaled σ)) where
  openIssues r := noting (tracker.openIssues r) (.listing r)
  issue ref := noting (tracker.issue ref) (.lookup ref)
  signals limit i := noting (tracker.signals limit i) (.signals i.reference)
  mutate ref mutation := noting (tracker.mutate ref mutation) (.change ref mutation)
  now := lift tracker.now
  observe event := noting (tracker.observe event) fun _ => .report event

/-- Whatever a tracker finds in its state, the items that it lists for a repository are items of
the repository. -/
def Tracker.ListsOwn {σ : Type} (tracker : Tracker (Fiber σ)) : Prop :=
  ∀ r, (tracker.openIssues r).Ensures fun answer =>
    ∀ issues, answer = .ok issues → ∀ i ∈ issues, i.reference.repository = r

theorem World.listsOwn_steps : World.tracker.steps.ListsOwn := by
  intro r t issues hlist i hi
  exact repository_of_mem_listed (listed_of_openIssues hlist ▸ hi)

/-! ## Writing down -/

namespace Fiber

variable {σ α β ι : Type}

/-- With a journal a fiber does what another does without. -/
def DoesBare (f : Fiber (Journaled σ) α) (g : Fiber σ α) : Prop :=
  ∀ t, (f.run t).1 = (g.run (bare t)).1 ∧ bare (f.run t).2 = (g.run (bare t)).2

theorem doesBare_pure (a : α) : DoesBare (pure a : Fiber (Journaled σ) α) (pure a) :=
  fun _ => ⟨rfl, rfl⟩

theorem DoesBare.bind {f : Fiber (Journaled σ) α} {g : Fiber σ α}
    {k : α → Fiber (Journaled σ) β} {l : α → Fiber σ β} (hf : f.DoesBare g)
    (hk : ∀ a, (k a).DoesBare (l a)) : (f >>= k).DoesBare (g >>= l) := by
  intro t
  rw [run_bind, run_bind, ← (hf t).1, ← (hf t).2]
  exact hk _ _

theorem doesBare_lift (f : Fiber σ α) : (lift f).DoesBare f := by
  intro t
  induction f generalizing t with
  | done a => exact ⟨rfl, rfl⟩
  | act change next ih => exact ih (bare t) (follow change t)
  | wait timer f ih => exact ih { t with clock := max t.clock timer.deadline }

theorem doesBare_noting (f : Fiber σ α) (entry : α → TrackerExchange) :
    (noting f entry).DoesBare f := by
  intro t
  rw [noting, run_bind]
  exact doesBare_lift f t

variable [DecidableEq ι] {owner : TrackerExchange → ι} {r : ι} {f : Fiber σ α}

/-- What leaves the journal alone adds nothing. -/
theorem writes_lift {holds : α → Prop} (hf : f.Ensures holds) :
    (lift f).Writes (journalOf owner) r fun entries a => entries = [] ∧ holds a := by
  induction f with
  | done a => exact ⟨rfl, hf⟩
  | act change next ih =>
    intro t
    exact ⟨[], (List.append_nil _).symm, fun _ _ => rfl, ih _ (hf _)⟩
  | wait timer f ih => exact ih hf

theorem writes_note {entry : TrackerExchange} (h : owner entry = r) :
    (note entry : Fiber (Journaled σ) Unit).Writes (journalOf owner) r
      fun entries _ => entries = [entry] := by
  intro t
  refine ⟨[entry], ?_, ?_, rfl⟩
  · simp [journalOf, List.filter_append, h]
  · intro q hq
    simp [journalOf, List.filter_append, h, Ne.symm hq]

/-- What is asked and answered is the entry that is added. -/
theorem writes_noting {entry : α → TrackerExchange} {holds : α → Prop}
    (howner : ∀ a, owner (entry a) = r) (hf : f.Ensures holds) :
    (noting f entry).Writes (journalOf owner) r
      fun entries a => entries = [entry a] ∧ holds a := by
  refine (writes_lift hf).bind ?_
  rintro _ a ⟨rfl, ha⟩
  refine (writes_note (howner a)).bind ?_
  rintro _ _ rfl
  exact ⟨rfl, ha⟩

variable (tracker : Tracker (Fiber σ)) {ref : IssueRef}

theorem writes_observe {event : Event} (h : owner (.report event) = r) :
    (tracker.journaled.observe event).Writes (journalOf owner) r
      fun entries _ => entries = [.report event] :=
  (writes_noting (fun _ => h) (ensures_true _)).mono fun _ _ h => h.1

theorem writes_mutate {m : Mutation} (h : ∀ answer, owner (.change ref m answer) = r) :
    (tracker.journaled.mutate ref m).Writes (journalOf owner) r
      fun entries answer => entries = [.change ref m answer] :=
  (writes_noting h (ensures_true _)).mono fun _ _ h => h.1

theorem writes_signals {limit : Nat} {i : Issue}
    (h : ∀ answer, owner (.signals i.reference answer) = r) :
    (tracker.journaled.signals limit i).Writes (journalOf owner) r
      fun entries answer => entries = [.signals i.reference answer] :=
  (writes_noting h (ensures_true _)).mono fun _ _ h => h.1

theorem writes_report (event : Event) {q : RepositoryId} (h : event.repository = q) :
    (tracker.journaled.observe event).Writes (journalOf TrackerExchange.repository) q
      fun entries _ => entries = [.report event] :=
  writes_observe tracker h

theorem writes_openIssues {tracker : Tracker (Fiber σ)} (hlists : tracker.ListsOwn)
    (q : RepositoryId) :
    (tracker.journaled.openIssues q).Writes (journalOf TrackerExchange.repository) q
      fun entries answer => entries = [.listing q answer] ∧
        ∀ issues, answer = .ok issues → ∀ i ∈ issues, i.reference.repository = q :=
  writes_noting (fun _ => rfl) (hlists q)

end Fiber

/-! ## Actions on an item -/

namespace Manager

open Upkeep.Fiber

variable {σ ι : Type} [DecidableEq ι] {owner : TrackerExchange → ι} {r : ι}

/-- What is said about an action that succeeds. In a dry run it is only reported. -/
def carriedOut (ref : IssueRef) (dryRun : Bool) (a : Action) : List TrackerExchange :=
  if dryRun then [.report (.action ref a true)]
  else [.change ref (.ofAction a) (.ok ()), .report (.action ref a false)]

/-- What is said about actions: each is carried out, or those before the first that fails. -/
inductive Applied (ref : IssueRef) : Bool → List Action → List TrackerExchange →
    Except LifecycleError Unit → Prop
  | all (dryRun : Bool) (as : List Action) :
    Applied ref dryRun as (as.flatMap (carriedOut ref dryRun)) (.ok ())
  | upTo (done : List Action) (a : Action) (rest : List Action) (e : ServiceError) :
    Applied ref false (done ++ a :: rest)
      (done.flatMap (carriedOut ref false) ++ [.change ref (.ofAction a) (.error e)])
      (.error (.actionApply ref a e))

theorem Applied.cons {ref : IssueRef} {dryRun : Bool} {as : List Action}
    {entries : List TrackerExchange} {result : Except LifecycleError Unit}
    (h : Applied ref dryRun as entries result) (a : Action) :
    Applied ref dryRun (a :: as) (carriedOut ref dryRun a ++ entries) result := by
  cases h with
  | all => exact .all dryRun (a :: as)
  | upTo done b rest e =>
    rw [← List.append_assoc, ← List.flatMap_cons]
    exact .upTo (a :: done) b rest e

variable (tracker : Tracker (Fiber σ)) {ref : IssueRef}

theorem applyActions_writes (hchange : ∀ m answer, owner (.change ref m answer) = r)
    (hreport : ∀ a dryRun, owner (.report (.action ref a dryRun)) = r) (dryRun : Bool)
    (as : List Action) :
    (applyActions tracker.journaled ref dryRun as).Writes (journalOf owner) r
      (Applied ref dryRun as) := by
  induction as with
  | nil => exact writes_pure (.all dryRun [])
  | cons a as ih =>
    -- An action that succeeded is reported, and the others follow.
    have hdone : (tracker.journaled.observe (.action ref a dryRun) >>= fun _ =>
        applyActions tracker.journaled ref dryRun as).Writes (journalOf owner) r fun entries out =>
          ∃ more, entries = .report (.action ref a dryRun) :: more ∧
            Applied ref dryRun as more out := by
      refine (writes_observe tracker (hreport a dryRun)).bind ?_
      rintro _ _ rfl
      exact ih.mono fun more out h => ⟨more, rfl, h⟩
    rw [applyActions]
    cases dryRun with
    | true =>
      refine hdone.mono ?_
      rintro _ out ⟨more, rfl, h⟩
      exact h.cons a
    | false =>
      refine (writes_mutate tracker (hchange (.ofAction a))).bind ?_
      rintro _ answer rfl
      cases answer with
      | error e => exact writes_pure (.upTo [] a as e)
      | ok _ =>
        refine hdone.mono ?_
        rintro _ out ⟨more, rfl, h⟩
        exact h.cons a

theorem applyActions_doesBare (dryRun : Bool) (as : List Action) :
    (applyActions tracker.journaled ref dryRun as).DoesBare (applyActions tracker ref dryRun as) := by
  induction as with
  | nil => exact doesBare_pure _
  | cons a as ih =>
    rw [applyActions, applyActions]
    cases dryRun with
    | true => exact (doesBare_noting _ _).bind fun _ => ih
    | false =>
      refine (doesBare_noting _ _).bind fun answer => ?_
      cases answer with
      | error e => exact doesBare_pure _
      | ok _ => exact (doesBare_noting _ _).bind fun _ => ih

/-- Actions are applied up to the first that fails. Whatever the tracker makes of the changes, it
is asked for one change for each action, in their order, as long as none has failed, and for none
after that. Each change that succeeds is reported right after it, and the one that fails is what
the manager ends with. The journal has no part in this. -/
theorem apply_stops_at_first_failure (tracker : Tracker (Fiber σ)) (ref : IssueRef)
    (as : List Action) (t : Timeline (Journaled σ)) :
    let run := (applyActions tracker.journaled ref false as).run t
    let applied := fun a : Action =>
      [TrackerExchange.change ref (.ofAction a) (.ok ()), .report (.action ref a false)]
    ((run.2.state.journal = t.state.journal ++ as.flatMap applied ∧ run.1 = .ok ()) ∨
      ∃ done a rest e, as = done ++ a :: rest ∧
        run.2.state.journal = t.state.journal ++ done.flatMap applied ++
          [.change ref (.ofAction a) (.error e)] ∧
        ∃ error, run.1 = .error error ∧ error = .actionApply ref a e ∧ error.source? = some e ∧
          error.message =
            "Unable to " ++ a.text ++ " on issue/PR " ++ ref.text ++ ": " ++ e.message) ∧
      (∀ label, Mutation.ofAction (.addLabel label) = .addLabel label ∧
        Mutation.ofAction (.removeLabel label) = .removeLabel label) ∧
      (∀ kind body, Mutation.ofAction (.postComment kind body) =
        .upsertComment (body ++ botSignature) botSignature) ∧
      Mutation.ofAction .removeComment = .removeComment botSignature ∧
      Mutation.ofAction .close = .close ∧
      (run.1 = ((applyActions tracker ref false as).run (bare t)).1 ∧
        bare run.2 = ((applyActions tracker ref false as).run (bare t)).2) := by
  intro run applied
  -- The whole journal is one log here.
  let owner : TrackerExchange → Unit := fun _ => ()
  have hwrites : (applyActions tracker.journaled ref false as).Writes (journalOf owner) ()
      (Applied ref false as) :=
    applyActions_writes tracker (fun _ _ => rfl) (fun _ _ => rfl) false as
  obtain ⟨entries, hlog, -, happlied⟩ := hwrites.run t
  have hwhole (s : Journaled σ) : journalOf owner () s = s.journal := by
    simp [journalOf]
  rw [hwhole, hwhole] at hlog
  refine ⟨?_, fun _ => ⟨rfl, rfl⟩, fun _ _ => rfl, rfl, rfl,
    applyActions_doesBare tracker false as t⟩
  change run.2.state.journal = _ at hlog
  change Applied ref false as entries run.1 at happlied
  generalize run.1 = result at happlied ⊢
  cases happlied with
  | all => exact .inl ⟨hlog, rfl⟩
  | upTo done a rest e =>
    refine .inr ⟨done, a, rest, e, rfl, ?_, _, rfl, rfl, rfl, rfl⟩
    rw [hlog, List.append_assoc]
    rfl

/-! ## The turn of an item -/

/-- Evaluates an item under known signals and applies the decision. -/
def processKnown {m : Type → Type} [Monad m] (tracker : Tracker m) (p : PolicyRecord)
    (now : Instant) (dryRun : Bool) (issue : Issue) (signals : Signals) :
    m (Except LifecycleError Decision) := do
  let decision := evaluate issue p signals now
  tracker.observe (.evaluated issue.reference decision.disposition)
  match ← applyActions tracker issue.reference dryRun decision.actions with
  | .error e => pure (.error e)
  | .ok () => pure (.ok decision)

/-- The signals that a decision is taken on, and what is said to have them: nothing about an item
that is closed. -/
inductive Asked (i : Issue) : List TrackerExchange → Signals → Prop
  | closed (h : i.state = .closed) : Asked i [] .unknown
  | answered (h : i.state ≠ .closed) (s : Signals) : Asked i [.signals i.reference (.ok s)] s

/-- What is said about an item, and the result: either the signals about it are not to be had, or
it is evaluated and the actions are applied. -/
inductive Processed (p : PolicyRecord) (now : Instant) (dryRun : Bool) (i : Issue) :
    List TrackerExchange → Except LifecycleError Decision → Prop
  | unknown (h : i.state ≠ .closed) (e : LifecycleError) :
    Processed p now dryRun i [.signals i.reference (.error e)] (.error e)
  | decided {asked applied : List TrackerExchange} {s : Signals}
    {result : Except LifecycleError Unit} (hasked : Asked i asked s)
    (happlied : Applied i.reference dryRun (evaluate i p s now).actions applied result) :
    Processed p now dryRun i
      (asked ++ .report (.evaluated i.reference (evaluate i p s now).disposition) :: applied)
      (result.map fun _ => evaluate i p s now)

/-- What came of an item when it had its turn. -/
structure Turn where
  issue : Issue
  /-- What was said about the item. The report of a failure comes after that. -/
  entries : List TrackerExchange
  result : Except LifecycleError Decision

namespace Turn

/-- The report on an item that is given up. -/
def ending (turn : Turn) : List TrackerExchange :=
  match turn.result with
  | .ok _ => []
  | .error e => [.report (.failed turn.issue.reference e)]

/-- All that was said in the turn. -/
def all (turn : Turn) : List TrackerExchange := turn.entries ++ turn.ending

/-- The turn went as it may go. -/
def Proper (p : PolicyRecord) (now : Instant) (dryRun : Bool) (turn : Turn) : Prop :=
  Processed p now dryRun turn.issue turn.entries turn.result

end Turn

section

variable (settings : Settings) (p : PolicyRecord) (now : Instant) (dryRun : Bool)
  {repository : RepositoryId}

/-- Evaluating the item and applying the decision, once the signals are there. -/
theorem processKnown_writes {i : Issue} (hi : i.reference.repository = repository)
    {asked : List TrackerExchange} {s : Signals} (hasked : Asked i asked s) :
    (processKnown tracker.journaled p now dryRun i s).Writes
      (journalOf TrackerExchange.repository) repository
      fun entries out => Processed p now dryRun i (asked ++ entries) out := by
  refine (writes_report tracker (.evaluated i.reference _) hi).bind ?_
  rintro _ _ rfl
  refine (applyActions_writes tracker (fun _ _ => hi) (fun _ _ => hi) dryRun
    (evaluate i p s now).actions).bind ?_
  intro applied result happlied
  have hturn : Processed p now dryRun i _ (result.map fun _ => evaluate i p s now) :=
    .decided hasked happlied
  rw [← List.append_nil applied] at hturn
  cases result with
  | error e => exact writes_pure hturn
  | ok _ => exact writes_pure hturn

theorem processIssue_writes {i : Issue} (hi : i.reference.repository = repository) :
    (processIssue tracker.journaled settings p now dryRun i).Writes
      (journalOf TrackerExchange.repository) repository (Processed p now dryRun i) := by
  rw [processIssue, signalsFor]
  split
  · next hclosed => exact processKnown_writes tracker p now dryRun hi (.closed hclosed)
  · next hopen =>
    refine (writes_signals tracker fun _ => hi).bind ?_
    rintro _ answer rfl
    cases answer with
    | error e => exact writes_pure (.unknown hopen e)
    | ok s => exact processKnown_writes tracker p now dryRun hi (.answered hopen s)

/-- The items of a repository have their turns in order, and are counted by what came of them. -/
theorem processIssues_writes (report : RepositoryReport) {issues : List Issue}
    (hissues : ∀ i ∈ issues, i.reference.repository = repository) :
    (processIssues tracker.journaled settings p now dryRun report issues).Writes
      (journalOf TrackerExchange.repository) repository fun entries out =>
        ∃ turns : List Turn, turns.map Turn.issue = issues ∧
          (∀ turn ∈ turns, turn.Proper p now dryRun) ∧ entries = turns.flatMap Turn.all ∧
          out = (turns.map Turn.result).foldl RepositoryReport.count report := by
  induction issues generalizing report with
  | nil => exact writes_pure ⟨[], rfl, List.forall_mem_nil _, rfl, rfl⟩
  | cons i rest ih =>
    obtain ⟨hi, hrest⟩ := List.forall_mem_cons.1 hissues
    rw [processIssues]
    refine (processIssue_writes tracker settings p now dryRun hi).bind ?_
    intro entries result hprocessed
    let turn : Turn := ⟨i, entries, result⟩
    have hgo : (processIssues tracker.journaled settings p now dryRun (report.count result)
        rest).Writes (journalOf TrackerExchange.repository) repository fun more out =>
          ∃ turns : List Turn, turns.map Turn.issue = i :: rest ∧
            (∀ turn ∈ turns, turn.Proper p now dryRun) ∧
            turn.all ++ more = turns.flatMap Turn.all ∧
            out = (turns.map Turn.result).foldl RepositoryReport.count report := by
      refine (ih (report.count result) hrest).mono ?_
      rintro more out ⟨turns, hmap, hproper, rfl, rfl⟩
      refine ⟨turn :: turns, by rw [List.map_cons, hmap], ?_, by rw [List.flatMap_cons], ?_⟩
      · exact List.forall_mem_cons.2 ⟨hprocessed, hproper⟩
      · rw [List.map_cons, List.foldl_cons]
    cases result with
    | ok d => simpa [turn, Turn.all, Turn.ending, RepositoryReport.count] using hgo
    | error e =>
      refine (writes_report tracker (.failed i.reference e) hi).bind ?_
      rintro _ _ rfl
      simpa [turn, Turn.all, Turn.ending, RepositoryReport.count] using hgo

end

/-! ## The sweep of a repository -/

/-- What is said about a repository in a sweep, and what comes of it. -/
inductive Conversed (registry : Registry) (now : Instant) (dryRun : Bool) (r : RepositoryId) :
    List TrackerExchange → RepositoryOutcome → Prop
  | unmanaged (h : registry.recordFor r = none) :
    Conversed registry now dryRun r [.report (.skipped r (.policyMissing r))] (.skipped r)
  | unlisted {p : PolicyRecord} (h : registry.recordFor r = some p) (e : ServiceError) :
    Conversed registry now dryRun r
      [.listing r (.error e), .report (.skipped r (.structural r e))] (.failed (.structural r e))
  | swept {p : PolicyRecord} (h : registry.recordFor r = some p) (turns : List Turn)
    (hown : ∀ turn ∈ turns, turn.issue.reference.repository = r)
    (hproper : ∀ turn ∈ turns, turn.Proper p now dryRun) :
    Conversed registry now dryRun r
      (.listing r (.ok (turns.map Turn.issue)) :: turns.flatMap Turn.all ++
        [.report (.summary r (RepositoryReport.tally r (turns.map Turn.result)).stats)])
      (.swept (.tally r (turns.map Turn.result)))

theorem sweepRepository_writes {tracker : Tracker (Fiber σ)} (hlists : tracker.ListsOwn)
    (settings : Settings) (registry : Registry) (now : Instant) (dryRun : Bool) (r : RepositoryId) :
    (sweepRepository tracker.journaled settings registry now dryRun r).Writes
      (journalOf TrackerExchange.repository) r (Conversed registry now dryRun r) := by
  rw [sweepRepository]
  cases hrecord : registry.recordFor r with
  | none =>
    dsimp only
    refine (writes_report tracker (.skipped r _) rfl).bind ?_
    rintro _ _ rfl
    exact writes_pure (.unmanaged hrecord)
  | some p =>
    dsimp only
    refine (writes_openIssues hlists r).bind ?_
    rintro _ answer ⟨rfl, hown⟩
    cases answer with
    | error e =>
      refine (writes_report tracker (.skipped r _) rfl).bind ?_
      rintro _ _ rfl
      exact writes_pure (.unlisted hrecord e)
    | ok issues =>
      have hissues := hown issues rfl
      refine (processIssues_writes tracker settings p now dryRun { repository := r }
        hissues).bind ?_
      rintro _ report ⟨turns, rfl, hproper, rfl, rfl⟩
      refine (writes_report tracker (.summary r _) rfl).bind ?_
      rintro _ _ rfl
      refine writes_pure (.swept hrecord turns (fun turn hturn => ?_) hproper)
      exact hissues _ (List.mem_map_of_mem hturn)

end Manager

end Upkeep
