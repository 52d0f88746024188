import Mathlib.Algebra.GroupWithZero.Nat
import Upkeep.Proofs.Sweep.Conversation
import Upkeep.Proofs.Sweep.OneByOne
/-!
# The books of a sweep balance

What a sweep reports about a repository is what the events and the answers of the tracker say about
it (`Balances`): every listed item is counted once, as processed or as failed, the failures are the
items that were given up, and the statistics are those of the decisions on the others. This holds
for every tracker, whatever fails, and however the repositories are interleaved
(`sweepAll_balances`).
-/

namespace Upkeep

/-! ## Sums -/

/-- Counts that are the sums of others, field by field. -/
structure Stats.SumsUp (total : Stats) (parts : List Stats) : Prop where
  markedStale : total.markedStale = (parts.map Stats.markedStale).sum
  closed : total.closed = (parts.map Stats.closed).sum
  markedNeedsTriage : total.markedNeedsTriage = (parts.map Stats.markedNeedsTriage).sum
  markedNeedsEscalation :
    total.markedNeedsEscalation = (parts.map Stats.markedNeedsEscalation).sum

theorem Stats.sumsUp_sum (parts : List Stats) : (Stats.sum parts).SumsUp parts := by
  have hfield (field : Stats → Nat) (hzero : field .zero = 0)
      (hadd : ∀ a b : Stats, field a + field b = field (a.add b)) :
      field (Stats.sum parts) = (parts.map field).sum := by
    have hfold : parts.foldl (fun n s => n + field s) (field .zero) =
        field (parts.foldl Stats.add .zero) := List.foldl_hom field hadd
    rw [Stats.sum, ← hfold, hzero, List.sum_eq_foldl, List.foldl_map]
  constructor <;> exact hfield _ rfl fun _ _ => rfl

/-- The decision of a verdict that is no failure. -/
def decision? : Except LifecycleError Decision → Option Decision
  | .ok d => some d
  | .error _ => none

@[simp] theorem decision?_ok (d : Decision) : decision? (.ok d) = some d := rfl

@[simp] theorem decision?_error (e : LifecycleError) : decision? (.error e) = none := rfl

/-- What a report says after more verdicts. -/
theorem RepositoryReport.foldl_count (report : RepositoryReport)
    (verdicts : List (Except LifecycleError Decision)) :
    let decisions := verdicts.filterMap decision?
    verdicts.foldl RepositoryReport.count report =
      { repository := report.repository
        stats := (decisions.map Decision.stats).foldl Stats.add report.stats
        processed := report.processed + decisions.length
        failed := report.failed + (verdicts.length - decisions.length) } := by
  intro decisions
  induction verdicts generalizing report with
  | nil => rfl
  | cons verdict verdicts ih =>
    have hle : (verdicts.filterMap decision?).length ≤ verdicts.length :=
      List.length_filterMap_le _ _
    rw [List.foldl_cons, ih]
    cases verdict with
    | ok d => simp [decisions, count, Nat.add_assoc, Nat.add_comm 1]
    | error e =>
      simp only [decisions, count, List.filterMap_cons, decision?_error, List.length_cons]
      rw [Nat.add_assoc, Nat.add_comm 1, Nat.succ_sub hle]

theorem RepositoryOutcome.report?_eq_some {outcome : RepositoryOutcome}
    {report : RepositoryReport} : outcome.report? = some report ↔ outcome = .swept report := by
  cases outcome <;> simp [report?]

namespace SweepReport

theorem totals_sumsUp (report : SweepReport) :
    report.totals.SumsUp (report.repositories.map RepositoryReport.stats) :=
  Stats.sumsUp_sum _

theorem failedIssues_eq_sum (report : SweepReport) :
    report.failedIssues = (report.repositories.map RepositoryReport.failed).sum := by
  rw [failedIssues, List.sum_eq_foldl, List.foldl_map]

end SweepReport

/-! ## Events -/

namespace Event

/-- The event says that an item was given up. -/
def isFailure : Event → Bool
  | .failed _ _ => true
  | _ => false

/-- The event says that an item was evaluated. -/
def evaluates (ref : IssueRef) : Event → Bool
  | .evaluated issue _ => issue == ref
  | _ => false

end Event

namespace Manager

/-- What a journal says that was reported. -/
def eventsOf (entries : List TrackerExchange) : List Event :=
  entries.filterMap TrackerExchange.event?

@[simp] theorem eventsOf_append (entries more : List TrackerExchange) :
    eventsOf (entries ++ more) = eventsOf entries ++ eventsOf more :=
  List.filterMap_append

@[simp] theorem eventsOf_report (event : Event) (entries : List TrackerExchange) :
    eventsOf (.report event :: entries) = event :: eventsOf entries := rfl

@[simp] theorem eventsOf_listing (r : RepositoryId) (answer : Except ServiceError (List Issue))
    (entries : List TrackerExchange) :
    eventsOf (.listing r answer :: entries) = eventsOf entries := rfl

theorem eventsOf_flatMap {α : Type} (f : α → List TrackerExchange) (l : List α) :
    eventsOf (l.flatMap f) = l.flatMap fun a => eventsOf (f a) :=
  List.filterMap_flatMap

variable {ref : IssueRef} {dryRun : Bool} {p : PolicyRecord} {now : Instant} {turn : Turn}
  {turns : List Turn} {r : RepositoryId}

theorem eventsOf_carriedOut (ref : IssueRef) (dryRun : Bool) (as : List Action) :
    eventsOf (as.flatMap (carriedOut ref dryRun)) = as.map (.action ref · dryRun) := by
  have hone (a : Action) : eventsOf (carriedOut ref dryRun a) = [.action ref a dryRun] := by
    cases dryRun <;> rfl
  rw [eventsOf_flatMap, List.map_eq_flatMap]
  exact List.flatMap_congr fun a _ => hone a

/-- The actions that are reported are those before the first that fails. -/
theorem Applied.events {as : List Action} {entries : List TrackerExchange}
    {result : Except LifecycleError Unit} (h : Applied ref dryRun as entries result) :
    ∃ done, done <+: as ∧ eventsOf entries = done.map (.action ref · dryRun) := by
  cases h with
  | all => exact ⟨as, List.prefix_refl as, eventsOf_carriedOut ref dryRun as⟩
  | upTo done a rest e =>
    refine ⟨done, List.prefix_append done _, ?_⟩
    rw [eventsOf_append, eventsOf_carriedOut]
    exact List.append_nil _

theorem Asked.events {i : Issue} {asked : List TrackerExchange} {s : Signals}
    (h : Asked i asked s) : eventsOf asked = [] := by
  cases h <;> rfl

/-! ## The events of a turn -/

namespace Turn

/-- What is reported about the item. -/
def events (turn : Turn) : List Event := eventsOf turn.all

/-- The decision on the item, if it was not given up. -/
def decision? (turn : Turn) : Option Decision := Upkeep.decision? turn.result

/-- What is reported about an item: the evaluation and then actions, if it came to that, and in the
end that the item is given up, if it is. -/
theorem Proper.events_eq (h : turn.Proper p now dryRun) :
    ∃ decided, turn.events = decided ++ eventsOf turn.ending ∧
      (decided = [] ∨ ∃ disposition done, decided =
        .evaluated turn.issue.reference disposition ::
          List.map (Event.action turn.issue.reference · dryRun) done) := by
  refine ⟨eventsOf turn.entries, eventsOf_append _ _, ?_⟩
  obtain ⟨i, entries, result⟩ := turn
  change Processed p now dryRun i entries result at h
  cases h with
  | unknown hopen e => exact .inl rfl
  | @decided asked applied s out hasked happlied =>
    obtain ⟨done, -, hevents⟩ := happlied.events
    refine .inr ⟨(evaluate i p s now).disposition, done, ?_⟩
    rw [eventsOf_append, eventsOf_report, hasked.events, hevents]
    rfl

theorem eventsOf_ending (turn : Turn) :
    (turn.decision?.isSome ∧ eventsOf turn.ending = []) ∨
      ∃ e, turn.decision? = none ∧ eventsOf turn.ending = [.failed turn.issue.reference e] := by
  obtain ⟨i, entries, result⟩ := turn
  cases result with
  | ok d => exact .inl ⟨rfl, rfl⟩
  | error e => exact .inr ⟨e, rfl, rfl⟩

/-- Whatever is reported in the turn of an item is about the item. -/
theorem Proper.issue?_of_mem (h : turn.Proper p now dryRun) {event : Event}
    (hevent : event ∈ turn.events) : event.issue? = some turn.issue.reference := by
  obtain ⟨decided, hevents, hdecided⟩ := h.events_eq
  rw [hevents, List.mem_append] at hevent
  rcases hevent with hevent | hevent
  · rcases hdecided with rfl | ⟨disposition, done, rfl⟩
    · cases hevent
    · rcases List.mem_cons.1 hevent with rfl | hevent
      · rfl
      · obtain ⟨a, -, rfl⟩ := List.mem_map.1 hevent
        rfl
  · rcases turn.eventsOf_ending with ⟨-, hending⟩ | ⟨e, -, hending⟩
    · rw [hending] at hevent
      cases hevent
    · rw [hending] at hevent
      obtain rfl := List.mem_singleton.1 hevent
      rfl

/-- An item is given up at most once, and only if no decision on it counts. -/
theorem Proper.countP_isFailure (h : turn.Proper p now dryRun) :
    turn.events.countP Event.isFailure = if turn.decision?.isSome then 0 else 1 := by
  obtain ⟨decided, hevents, hdecided⟩ := h.events_eq
  have hnone : decided.countP Event.isFailure = 0 := by
    rcases hdecided with rfl | ⟨disposition, done, rfl⟩
    · rfl
    · simp [List.countP_eq_zero, Event.isFailure]
  rw [hevents, List.countP_append, hnone, Nat.zero_add]
  rcases turn.eventsOf_ending with ⟨hsome, hending⟩ | ⟨e, hfailed, hending⟩
  · rw [hending, if_pos hsome]
    rfl
  · rw [hending, hfailed]
    rfl

theorem Proper.countP_evaluates (h : turn.Proper p now dryRun) (ref : IssueRef) :
    turn.events.countP (Event.evaluates ref) ≤ if turn.issue.reference == ref then 1 else 0 := by
  obtain ⟨decided, hevents, hdecided⟩ := h.events_eq
  have hending : (eventsOf turn.ending).countP (Event.evaluates ref) = 0 := by
    rcases turn.eventsOf_ending with ⟨-, hending⟩ | ⟨e, -, hending⟩ <;> rw [hending] <;> rfl
  rw [hevents, List.countP_append, hending, Nat.add_zero]
  rcases hdecided with rfl | ⟨disposition, done, rfl⟩
  · exact Nat.zero_le _
  · have hactions : (done.map (Event.action turn.issue.reference · dryRun)).countP
        (Event.evaluates ref) = 0 := by
      simp [List.countP_eq_zero, Event.evaluates]
    rw [List.countP_cons, hactions, Nat.zero_add]
    exact Nat.le_refl _

/-- The evaluation of an item is reported before every action on it. -/
theorem Proper.evaluated_first (h : turn.Proper p now dryRun) {before after : List Event}
    {ref : IssueRef} {a : Action} {dry : Bool}
    (hsplit : turn.events = before ++ .action ref a dry :: after) :
    ∃ disposition, .evaluated ref disposition ∈ before := by
  have hmem : .action ref a dry ∈ turn.events := by
    rw [hsplit]
    exact List.mem_append_right before List.mem_cons_self
  have href : some ref = some turn.issue.reference := h.issue?_of_mem hmem
  obtain rfl := Option.some.inj href
  obtain ⟨decided, hevents, hdecided⟩ := h.events_eq
  rw [hevents] at hsplit
  rcases hdecided with rfl | ⟨disposition, done, rfl⟩
  -- An item that is not evaluated is given up, and no action on it is reported.
  · exfalso
    have hmem : Event.action turn.issue.reference a dry ∈ eventsOf turn.ending := by
      rw [List.nil_append] at hsplit
      simp [hsplit]
    rcases turn.eventsOf_ending with ⟨-, hending⟩ | ⟨e, -, hending⟩
    · simp [hending] at hmem
    · simp [hending] at hmem
  · refine ⟨disposition, ?_⟩
    cases before with
    | nil => cases hsplit
    | cons first before =>
      rw [List.cons_append, List.cons_append] at hsplit
      obtain rfl := (List.cons.inj hsplit).1
      exact List.mem_cons_self

end Turn

/-! ## The books of a repository -/

/-- The report on a repository is borne out by what was said about it: a listing of items, a turn
for each of the items in order, and a summary. -/
structure Balances (p : PolicyRecord) (now : Instant) (dryRun : Bool) (report : RepositoryReport)
    (issues : List Issue) (turns : List Turn) (entries : List TrackerExchange) : Prop where
  said : entries = .listing report.repository (.ok issues) ::
    (turns.flatMap Turn.all ++ [.report (.summary report.repository report.stats)])
  items : turns.map Turn.issue = issues
  proper : ∀ turn ∈ turns, turn.Proper p now dryRun
  counted : report.processed + report.failed = issues.length
  failures : report.failed = (eventsOf entries).countP Event.isFailure
  /-- The items that were not given up are those whose decisions count. -/
  stats : report.stats.SumsUp ((turns.filterMap Turn.decision?).map Decision.stats)
  given_up : ∀ turn ∈ turns, turn.decision? = none ↔
    ∃ e, .failed turn.issue.reference e ∈ turn.events
  summary_last : eventsOf entries =
    turns.flatMap Turn.events ++ [.summary report.repository report.stats]
  about_items : ∀ turn ∈ turns, ∀ event ∈ turn.events, event.issue? = some turn.issue.reference
  evaluated_once : ∀ turn ∈ turns, turn.events.countP (Event.evaluates turn.issue.reference) ≤ 1
  evaluated_as_listed : ∀ ref, (eventsOf entries).countP (Event.evaluates ref) ≤
    issues.countP (·.reference == ref)
  evaluated_first : ∀ turn ∈ turns, ∀ before ref a dry after,
    turn.events = before ++ .action ref a dry :: after →
      ∃ disposition, .evaluated ref disposition ∈ before

/-- Each item is either given up or decided on. -/
theorem length_decisions_add_failures (hproper : ∀ turn ∈ turns, turn.Proper p now dryRun) :
    (turns.filterMap Turn.decision?).length + (turns.flatMap Turn.events).countP Event.isFailure =
      turns.length := by
  induction turns with
  | nil => rfl
  | cons turn turns ih =>
    obtain ⟨hturn, hturns⟩ := List.forall_mem_cons.1 hproper
    have hone := hturn.countP_isFailure
    rw [List.flatMap_cons, List.countP_append, List.filterMap_cons, List.length_cons, ← ih hturns]
    cases hd : turn.decision? with
    | none =>
      rw [hd] at hone
      simp only [Option.isSome_none, Bool.false_eq_true, if_false] at hone
      dsimp only
      omega
    | some d =>
      rw [hd] at hone
      simp only [Option.isSome_some, if_true] at hone
      rw [List.length_cons]
      omega

/-- No item is evaluated more often than it is listed. -/
theorem countP_evaluates_le (hproper : ∀ turn ∈ turns, turn.Proper p now dryRun)
    (ref : IssueRef) : (turns.flatMap Turn.events).countP (Event.evaluates ref) ≤
      (turns.map Turn.issue).countP (·.reference == ref) := by
  induction turns with
  | nil => exact Nat.le_refl 0
  | cons turn turns ih =>
    obtain ⟨hturn, hturns⟩ := List.forall_mem_cons.1 hproper
    have hone := hturn.countP_evaluates ref
    rw [List.flatMap_cons, List.countP_append, List.map_cons, List.countP_cons]
    have hrest := ih hturns
    omega

theorem Turn.Proper.given_up_iff (h : turn.Proper p now dryRun) :
    turn.decision? = none ↔ ∃ e, .failed turn.issue.reference e ∈ turn.events := by
  have hcount := h.countP_isFailure
  constructor
  · intro hnone
    rcases turn.eventsOf_ending with ⟨hsome, -⟩ | ⟨e, -, hending⟩
    · rw [hnone] at hsome
      cases hsome
    · refine ⟨e, ?_⟩
      rw [Turn.events, Turn.all, eventsOf_append, hending]
      simp
  · rintro ⟨e, he⟩
    have hpos : 0 < turn.events.countP Event.isFailure :=
      List.countP_pos_iff.2 ⟨_, he, rfl⟩
    cases hd : turn.decision? with
    | none => rfl
    | some d =>
      rw [hcount, hd] at hpos
      cases hpos

theorem tally_eq (r : RepositoryId) (turns : List Turn) :
    RepositoryReport.tally r (turns.map Turn.result) =
      { repository := r
        stats := Stats.sum ((turns.filterMap Turn.decision?).map Decision.stats)
        processed := (turns.filterMap Turn.decision?).length
        failed := turns.length - (turns.filterMap Turn.decision?).length } := by
  have hcount := RepositoryReport.foldl_count { repository := r } (turns.map Turn.result)
  have hdecisions : (turns.map Turn.result).filterMap Upkeep.decision? =
      turns.filterMap Turn.decision? := List.filterMap_map
  simp only [hdecisions, List.length_map, Nat.zero_add] at hcount
  exact hcount

variable {registry : Registry} {entries : List TrackerExchange}

/-- The books of a repository that was swept balance. -/
theorem Conversed.balances {report : RepositoryReport}
    (h : Conversed registry now dryRun r entries (.swept report)) :
    report.repository = r ∧ ∃ p issues turns, registry.recordFor r = some p ∧
      Balances p now dryRun report issues turns entries := by
  cases h with
  | @swept p hrecord turns hown hproper =>
    have htally := tally_eq r turns
    have htotal := length_decisions_add_failures hproper
    have hevents : eventsOf (.listing r (.ok (turns.map Turn.issue)) ::
        turns.flatMap Turn.all ++ [.report (.summary r
          (RepositoryReport.tally r (turns.map Turn.result)).stats)]) =
        turns.flatMap Turn.events ++
          [.summary r (RepositoryReport.tally r (turns.map Turn.result)).stats] := by
      rw [List.cons_append, eventsOf_listing, eventsOf_append, eventsOf_flatMap]
      rfl
    have hrepository : (RepositoryReport.tally r (turns.map Turn.result)).repository = r := by
      rw [htally]
    refine ⟨hrepository, p, turns.map Turn.issue, turns, hrecord, ?_⟩
    constructor
    case said => rw [hrepository, List.cons_append]
    case items => rfl
    case proper => exact hproper
    case counted =>
      rw [htally, List.length_map]
      dsimp only
      omega
    case failures =>
      rw [hevents, List.countP_append, htally]
      dsimp only
      have hsummary : [Event.summary r (Stats.sum
          ((turns.filterMap Turn.decision?).map Decision.stats))].countP Event.isFailure = 0 := rfl
      omega
    case stats =>
      rw [htally]
      exact Stats.sumsUp_sum _
    case given_up => exact fun turn hturn => (hproper turn hturn).given_up_iff
    case summary_last => rw [hevents, hrepository]
    case about_items => exact fun turn hturn event hevent => (hproper turn hturn).issue?_of_mem hevent
    case evaluated_once =>
      intro turn hturn
      have hone := (hproper turn hturn).countP_evaluates turn.issue.reference
      rwa [beq_self_eq_true, if_pos rfl] at hone
    case evaluated_as_listed =>
      intro ref
      rw [hevents, List.countP_append]
      exact countP_evaluates_le hproper ref
    case evaluated_first =>
      exact fun turn hturn before ref a dry after hsplit =>
        (hproper turn hturn).evaluated_first hsplit

/-- A repository that was not swept is reported as skipped, and nothing else is reported of it. -/
theorem Conversed.skipped {outcome : RepositoryOutcome}
    (h : Conversed registry now dryRun r entries outcome) (hnone : outcome.report? = none) :
    ∃ reason, eventsOf entries = [.skipped r reason] ∧
      ((registry.recordFor r = none ∧ outcome = .skipped r ∧ reason = .policyMissing r) ∨
        ∃ e, .listing r (.error e) ∈ entries ∧ outcome = .failed reason ∧
          reason = .structural r e) := by
  cases h with
  | unmanaged hrecord => exact ⟨_, rfl, .inl ⟨hrecord, rfl, rfl⟩⟩
  | unlisted hrecord e => exact ⟨_, rfl, .inr ⟨e, List.mem_cons_self, rfl, rfl⟩⟩
  | swept => cases hnone

theorem Conversed.isOf {outcome : RepositoryOutcome}
    (h : Conversed registry now dryRun r entries outcome) : outcome.IsOf r := by
  cases h with
  | unmanaged => rfl
  | unlisted => trivial
  | swept hrecord turns => exact congrArg RepositoryReport.repository (tally_eq r turns)

/-! ## In a whole sweep -/

open Upkeep.Fiber Journaled

theorem journal_lift {σ α : Type} (f : Fiber σ α) (t : Timeline (Journaled σ)) :
    ((lift f).run t).2.state.journal = t.state.journal := by
  induction f generalizing t with
  | done a => rfl
  | act change next ih => exact ih (bare t) (follow change t)
  | wait timer f ih => exact ih { t with clock := max t.clock timer.deadline }

open Pool in
/-- Results that are had for the places of a list, one for each, are the values of a function on
what stands there. -/
theorem exists_perm_placed {α β : Type} {owner : Nat → α} {rs : List α} {results : List (Nat × β)}
    (howner : ∀ j ∈ placed rs, owner j.1 = j.2) (hrs : rs.Nodup) (fallback : α → β)
    (hplaces : (results.map Prod.fst).Perm ((placed rs).map Prod.fst)) :
    ∃ value : α → β, results.Perm (placed (rs.map value)) ∧ ∀ r ∉ rs, value r = fallback r := by
  have howners : (placed rs).map (fun j => owner j.1) = rs :=
    (List.map_congr_left howner).trans (map_snd_placed rs)
  have hperm : (results.map fun result => owner result.1).Perm rs := by
    have hmap := hplaces.map owner
    rw [List.map_map, List.map_map] at hmap
    exact hmap.trans (.of_eq howners)
  have hex : ∀ r, ∃ b, (r ∈ rs → ∃ n, owner n = r ∧ (n, b) ∈ results) ∧
      (r ∉ rs → b = fallback r) := by
    intro r
    by_cases hr : r ∈ rs
    · obtain ⟨⟨n, b⟩, hmem, hn⟩ := List.mem_map.1 (hperm.mem_iff.2 hr)
      exact ⟨b, fun _ => ⟨n, hn, hmem⟩, fun hnot => absurd hr hnot⟩
    · exact ⟨fallback r, fun hr' => absurd hr' hr, fun _ => rfl⟩
  choose value hvalue using hex
  refine ⟨value, ?_, fun r hr => (hvalue r).2 hr⟩
  -- The result for a place is the value at what stands there.
  have hsame : ∀ result ∈ results, (result.1, value (owner result.1)) = result := by
    intro result hmem
    have hown : owner result.1 ∈ rs := hperm.mem_iff.1 (List.mem_map_of_mem hmem)
    obtain ⟨n, hn, hmem'⟩ := (hvalue (owner result.1)).1 hown
    have heq := List.inj_on_of_nodup_map (hperm.nodup_iff.2 hrs) hmem' hmem hn
    rw [← heq, hn]
  calc results = results.map fun result => (result.1, value (owner result.1)) :=
        ((List.map_congr_left hsame).trans (List.map_id' results)).symm
    _ = (results.map Prod.fst).map fun n => (n, value (owner n)) := by
        rw [List.map_map]
        rfl
    List.Perm _ (((placed rs).map Prod.fst).map fun n => (n, value (owner n))) := hplaces.map _
    _ = (placed rs).map fun j => (j.1, value j.2) := by
        rw [List.map_map]
        exact List.map_congr_left fun j hj => congrArg (fun r => (j.1, value r)) (howner j hj)
    _ = placed (rs.map value) := (placed_map value rs).symm

variable {σ : Type} {tracker : Tracker (Fiber σ)} {pool : Pool (Fiber (Journaled σ))}

/-- The journal of a repository. -/
abbrev journalAbout (r : RepositoryId) (s : Journaled σ) : List TrackerExchange :=
  journalOf TrackerExchange.repository r s

open Pool SweepReport in
/-- However the repositories are interleaved, each has its own conversation with the tracker, and
the result of the sweep is made up of what comes of them. -/
theorem sweepAll_conversed (hr : registry.repositories.Nodup) (hpool : pool.Lawful)
    (hlists : tracker.ListsOwn) (settings : Settings) (dryRun : Bool)
    (t : Timeline (Journaled σ)) :
    let run := (sweepAll tracker.journaled pool settings registry dryRun).run t
    let now := (tracker.journaled.now.run t).1
    ∃ outcome : RepositoryId → RepositoryOutcome,
      run.1 = conclude dryRun (registry.repositories.map outcome) ∧
      (∀ r ∈ registry.repositories, ∃ added,
        journalAbout r run.2.state = journalAbout r t.state ++ added ∧
          Conversed registry now dryRun r added (outcome r)) ∧
      (∀ r ∉ registry.repositories, outcome r = .skipped r) ∧
      ∀ r ∉ registry.repositories, journalAbout r run.2.state = journalAbout r t.state := by
  intro run now
  let began : Timeline (Journaled σ) := (tracker.journaled.now.run t).2
  let job := sweepRepository tracker.journaled settings registry now dryRun
  let ended := (pool.conduct settings.concurrency (registry.repositories.map job)).run began
  have hrun : run = (assemble dryRun ended.1, ended.2) := by
    show (sweepAll tracker.journaled pool settings registry dryRun).run t = _
    rw [sweepAll, run_bind, run_bind]
    rfl
  have hbegan (r : RepositoryId) : journalAbout r began.state = journalAbout r t.state :=
    congrArg (List.filter _) (journal_lift tracker.now t)
  have hjobs := placed_map job registry.repositories
  have hwrites : ∀ j ∈ placed (registry.repositories.map job),
      Writes (journalOf TrackerExchange.repository) (World.ownerAt registry j.1) j.2
        (Conversed registry now dryRun (World.ownerAt registry j.1)) := by
    rw [hjobs]
    intro _ hmem
    obtain ⟨j, hj, rfl⟩ := List.mem_map.1 hmem
    dsimp only
    rw [World.ownerAt_eq hj]
    exact sweepRepository_writes hlists settings registry now dryRun j.2
  have howners : ((placed (registry.repositories.map job)).map
      fun j => World.ownerAt registry j.1) = registry.repositories := by
    rw [hjobs, List.map_map]
    exact (List.map_congr_left fun j hj => World.ownerAt_eq hj).trans (map_snd_placed _)
  have hlogged : Logged (journalOf TrackerExchange.repository) (World.ownerAt registry)
      (fun n => Conversed registry now dryRun (World.ownerAt registry n))
      (placed (registry.repositories.map job)) began ended.1 ended.2 :=
    (hpool settings.concurrency (registry.repositories.map job) began).logged hwrites
      (by rw [howners]; exact hr)
  have hplaces : (ended.1.map Prod.fst).Perm ((placed registry.repositories).map Prod.fst) := by
    have hperm := hlogged.places
    rw [hjobs, List.map_map] at hperm
    exact hperm
  obtain ⟨outcome, hperm, hfallback⟩ := exists_perm_placed (fun j hj => World.ownerAt_eq hj) hr
    RepositoryOutcome.skipped hplaces
  refine ⟨outcome, ?_, ?_, hfallback, ?_⟩
  · rw [hrun]
    exact assemble_of_perm dryRun hperm
  · intro r hmem
    rw [← map_snd_placed registry.repositories] at hmem
    obtain ⟨j, hj, rfl⟩ := List.mem_map.1 hmem
    have harrived : (j.1, outcome j.2) ∈ ended.1 := by
      rw [hperm.mem_iff, placed_map]
      exact List.mem_map_of_mem hj
    obtain ⟨added, hadded, hsaid⟩ := hlogged.own _ harrived
    dsimp only at hadded hsaid
    rw [World.ownerAt_eq hj] at hadded hsaid
    refine ⟨added, ?_, hsaid⟩
    rw [hrun, ← hbegan]
    exact hadded
  · intro r hnot
    rw [hrun, ← hbegan]
    refine hlogged.others r fun job hjob hown => hnot ?_
    rw [← hown, ← howners]
    exact List.mem_map_of_mem hjob

open SweepReport in
/-- The books of a sweep balance, for every tracker that lists the items of a repository for it,
whatever fails and however the repositories are interleaved. Every report is borne out by what was
said about its repository, a repository without a report is skipped with one event, nothing is
said about others, and the totals are those of the reports. -/
theorem sweepAll_balances {repositories : List RepositoryId} {default? : Option PolicyRecord}
    {overrides : List PolicyOverride}
    (hreg : Registry.build repositories default? overrides = .ok registry) (hpool : pool.Lawful)
    (hlists : tracker.ListsOwn) (settings : Settings) (dryRun : Bool)
    (t : Timeline (Journaled σ)) :
    let run := (sweepAll tracker.journaled pool settings registry dryRun).run t
    let now := (tracker.journaled.now.run t).1
    let report := ofResult run.1
    (report.repositories.map (·.repository)).Sublist registry.repositories ∧
      (∀ books ∈ report.repositories, ∃ p issues turns added,
        registry.recordFor books.repository = some p ∧
          journalAbout books.repository run.2.state =
            journalAbout books.repository t.state ++ added ∧
          Balances p now dryRun books issues turns added) ∧
      (∀ r ∈ registry.repositories, r ∉ report.repositories.map (·.repository) →
        ∃ reason added, journalAbout r run.2.state = journalAbout r t.state ++ added ∧
          eventsOf added = [.skipped r reason] ∧
          ((r ∈ report.skipped ∧ registry.recordFor r = none ∧ reason = .policyMissing r) ∨
            ∃ e, .listing r (.error e) ∈ added ∧ reason = .structural r e)) ∧
      (∀ r ∉ registry.repositories, journalAbout r run.2.state = journalAbout r t.state) ∧
      report.totals.SumsUp (report.repositories.map RepositoryReport.stats) ∧
      report.failedIssues = (report.repositories.map RepositoryReport.failed).sum := by
  intro run now report
  obtain ⟨outcome, hresult, hsaid, hfallback, hothers⟩ := sweepAll_conversed
    (Registry.nodup_of_build hreg) hpool hlists settings dryRun t
  have hreport : report = ofOutcomes dryRun (registry.repositories.map outcome) := by
    rw [← ofResult_conclude, ← hresult]
  have hof : ∀ r, (outcome r).IsOf r := by
    intro r
    by_cases hr : r ∈ registry.repositories
    · obtain ⟨added, -, hconversed⟩ := hsaid r hr
      exact hconversed.isOf
    · rw [hfallback r hr]
      rfl
  have hmem {r : RepositoryId} {books : RepositoryReport} (hr : r ∈ registry.repositories)
      (hbooks : (outcome r).report? = some books) : books ∈ report.repositories := by
    rw [hreport]
    exact List.mem_filterMap.2 ⟨outcome r, List.mem_map_of_mem hr, hbooks⟩
  refine ⟨?_, ?_, ?_, hothers, report.totals_sumsUp, report.failedIssues_eq_sum⟩
  · rw [hreport]
    exact reported_sublist hof dryRun
  · intro books hbooks
    rw [hreport] at hbooks
    obtain ⟨out, hout, hswept⟩ := List.mem_filterMap.1 hbooks
    obtain ⟨r, hr, rfl⟩ := List.mem_map.1 hout
    obtain ⟨added, hadded, hconversed⟩ := hsaid r hr
    rw [RepositoryOutcome.report?_eq_some.1 hswept] at hconversed
    obtain ⟨rfl, p, issues, turns, hrecord, hbalances⟩ := hconversed.balances
    exact ⟨p, issues, turns, added, hrecord, hadded, hbalances⟩
  · intro r hr hnot
    obtain ⟨added, hadded, hconversed⟩ := hsaid r hr
    have hnone : (outcome r).report? = none := by
      cases hbooks : (outcome r).report? with
      | none => rfl
      | some books =>
        rw [RepositoryOutcome.report?_eq_some.1 hbooks] at hconversed
        exact absurd (List.mem_map.2 ⟨books, hmem hr hbooks, hconversed.balances.1⟩) hnot
    obtain ⟨reason, hevents, hreason⟩ := hconversed.skipped hnone
    refine ⟨reason, added, hadded, hevents, ?_⟩
    rcases hreason with ⟨hrecord, hskipped, hmissing⟩ | ⟨e, hlisting, -, hstructural⟩
    · refine .inl ⟨?_, hrecord, hmissing⟩
      rw [hreport]
      exact List.mem_filterMap.2 ⟨outcome r, List.mem_map_of_mem hr, by rw [hskipped]; rfl⟩
    · exact .inr ⟨e, hlisting, hstructural⟩

open SweepReport in
theorem sweepAll_balances_troubled :
    Registry.build [⟨"istio", "istio"⟩] (some {}) [] = .ok troubledRegistry ∧
      (Pool.inTurn [] : Pool (Fiber (Journaled World))).Lawful ∧ World.tracker.steps.ListsOwn ∧
      let run := (sweepAll World.tracker.steps.journaled (Pool.inTurn []) {} troubledRegistry
        false).run { state := { state := troubledWorld } }
      (ofResult run.1).repositories =
          [{ repository := ⟨"istio", "istio"⟩
             stats := { markedNeedsTriage := 1 }
             processed := 1
             failed := 2 }] ∧
        ∃ p issues turns, Balances p troubledWorld.now false
          { repository := ⟨"istio", "istio"⟩
            stats := { markedNeedsTriage := 1 }
            processed := 1
            failed := 2 } issues turns (journalAbout ⟨"istio", "istio"⟩ run.2.state) := by
  have hreg : Registry.build [⟨"istio", "istio"⟩] (some {}) [] = .ok troubledRegistry := rfl
  have hpool : (Pool.inTurn [] : Pool (Fiber (Journaled World))).Lawful := lawful_inTurn []
  refine ⟨hreg, hpool, World.listsOwn_steps, ?_⟩
  intro run
  have hreport : (ofResult run.1).repositories =
      [{ repository := ⟨"istio", "istio"⟩
         stats := { markedNeedsTriage := 1 }
         processed := 1
         failed := 2 }] := by
    have hone : Pool.finishOrder 4 [] (Pool.placed troubledRegistry.repositories) =
        [(0, ⟨"istio", "istio"⟩)] := List.perm_singleton.1 (Pool.finishOrder_perm 4 [] _)
    have hconduct : run = _ := run_bind _ _ _
    rw [run_bind, Pool.inTurn_conduct_map, hone] at hconduct
    rw [hconduct]
    decide +kernel
  obtain ⟨-, hbooks, -⟩ :=
    sweepAll_balances hreg hpool World.listsOwn_steps {} false { state := { state := troubledWorld } }
  obtain ⟨p, issues, turns, added, -, hjournal, hbalances⟩ :=
    hbooks _ (hreport ▸ List.mem_singleton_self _)
  refine ⟨hreport, p, issues, turns, ?_⟩
  rw [show journalAbout ⟨"istio", "istio"⟩ run.2.state = added from hjournal]
  exact hbalances

end Manager

end Upkeep
