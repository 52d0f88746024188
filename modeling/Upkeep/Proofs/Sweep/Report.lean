import Upkeep.Proofs.Policy.Registry
import Upkeep.Proofs.Sweep.Share
import Mathlib.Data.List.Sort
/-!
# The result of a sweep

The result does not depend on the order in which the outcomes arrive (`assemble_of_perm`), and
accounts for each of the configured repositories once (`accounts`).
-/

namespace Upkeep

/-! ## Arrivals -/

namespace SweepReport

open Pool

/-- The order in which outcomes arrive is forgotten. -/
theorem inOrder_of_perm {arrivals : List (Nat × RepositoryOutcome)}
    {outcomes : List RepositoryOutcome} (h : arrivals.Perm (placed outcomes)) :
    inOrder arrivals = outcomes := by
  have hsorted : (arrivals.mergeSort fun a b => decide (a.1 ≤ b.1)).Pairwise
      fun a b => decide (a.1 ≤ b.1) = true :=
    List.pairwise_mergeSort (fun a b c => by simp only [decide_eq_true_eq]; omega)
      (fun a b => by simp only [Bool.or_eq_true, decide_eq_true_eq]; omega) arrivals
  have hplaced : (placed outcomes).Pairwise fun a b => decide (a.1 ≤ b.1) = true :=
    (pairwise_placed outcomes).imp fun hlt => decide_eq_true (Nat.le_of_lt hlt)
  have hperm := (List.mergeSort_perm arrivals fun a b => decide (a.1 ≤ b.1)).trans h
  have heq := hperm.eq_of_pairwise (fun a b ha hb hab hba => ?_) hsorted hplaced
  · rw [inOrder, heq, map_snd_placed]
  -- Sorted by place, both lists are the same since no two outcomes have the same place.
  · have hplace : a.1 = b.1 := Nat.le_antisymm (of_decide_eq_true hab) (of_decide_eq_true hba)
    have hget := mem_placed.1 (hperm.mem_iff.1 ha)
    rw [hplace, mem_placed.1 hb] at hget
    exact Prod.ext hplace (Option.some.inj hget).symm

/-- The result of a sweep from the outcomes in configuration order. -/
def conclude (dryRun : Bool) (outcomes : List RepositoryOutcome) : Except SweepError SweepReport :=
  match outcomes.findSome? RepositoryOutcome.failure? with
  | some source => .error ⟨ofOutcomes dryRun outcomes, source⟩
  | none => .ok (ofOutcomes dryRun outcomes)

theorem assemble_of_perm (dryRun : Bool) {arrivals : List (Nat × RepositoryOutcome)}
    {outcomes : List RepositoryOutcome} (h : arrivals.Perm (placed outcomes)) :
    assemble dryRun arrivals = conclude dryRun outcomes := by
  have hsorted : assemble dryRun arrivals = conclude dryRun (inOrder arrivals) := rfl
  rw [hsorted, inOrder_of_perm h]

/-- The report of a sweep that is complete or not. -/
def ofResult : Except SweepError SweepReport → SweepReport
  | .ok report => report
  | .error e => e.report

/-- The failure that a sweep ends with, if it does. -/
def source? : Except SweepError SweepReport → Option LifecycleError
  | .ok _ => none
  | .error e => some e.source

theorem ofResult_conclude (dryRun : Bool) (outcomes : List RepositoryOutcome) :
    ofResult (conclude dryRun outcomes) = ofOutcomes dryRun outcomes := by
  unfold conclude
  split <;> rfl

theorem source?_conclude (dryRun : Bool) (outcomes : List RepositoryOutcome) :
    source? (conclude dryRun outcomes) = outcomes.findSome? RepositoryOutcome.failure? := by
  unfold conclude
  split <;> next h => rw [h]; rfl

theorem exists_error_iff {result : Except SweepError SweepReport} :
    (∃ e, result = .error e) ↔ (source? result).isSome := by
  cases result <;> simp [source?]

end SweepReport

/-! ## Outcomes -/

/-- An outcome is about a repository. A failure does not say which, except by its reason. -/
def RepositoryOutcome.IsOf (r : RepositoryId) : RepositoryOutcome → Prop
  | .swept report => report.repository = r
  | .skipped q => q = r
  | .failed _ => True

section

variable {outcome : RepositoryId → RepositoryOutcome} {rs : List RepositoryId}

/-- The repositories whose outcome is a failure. -/
def failedAmong (outcome : RepositoryId → RepositoryOutcome) (rs : List RepositoryId) :
    List RepositoryId :=
  rs.filter fun r => (outcome r).failure?.isSome

/-- No repository is lost, and none is reported twice. -/
theorem partition_perm (h : ∀ r, (outcome r).IsOf r) (dryRun : Bool) :
    ((SweepReport.ofOutcomes dryRun (rs.map outcome)).repositories.map (·.repository) ++
      (SweepReport.ofOutcomes dryRun (rs.map outcome)).skipped ++ failedAmong outcome rs).Perm
        rs := by
  unfold SweepReport.ofOutcomes failedAmong
  dsimp only
  induction rs with
  | nil => exact .nil
  | cons r rs ih =>
    have hr := h r
    simp only [List.map_cons, List.filterMap_cons, List.filter_cons]
    cases ho : outcome r with
    | swept report =>
      rw [ho] at hr
      obtain rfl : report.repository = r := hr
      exact ih.cons _
    | skipped q =>
      rw [ho] at hr
      obtain rfl : q = r := hr
      exact (List.perm_middle.append_right _).trans (ih.cons _)
    | failed e => exact List.perm_middle.trans (ih.cons _)

/-- What outcomes say about their own repositories comes in the order of the repositories. -/
theorem filterMap_sublist {name : RepositoryOutcome → Option RepositoryId}
    (hname : ∀ r q, name (outcome r) = some q → q = r) :
    ((rs.map outcome).filterMap name).Sublist rs := by
  induction rs with
  | nil => exact .slnil
  | cons r rs ih =>
    rw [List.map_cons, List.filterMap_cons]
    cases ho : name (outcome r) with
    | none => exact ih.cons _
    | some q =>
      obtain rfl := hname r q ho
      exact ih.cons_cons _

theorem reported_sublist (h : ∀ r, (outcome r).IsOf r) (dryRun : Bool) :
    ((SweepReport.ofOutcomes dryRun (rs.map outcome)).repositories.map (·.repository)).Sublist
      rs := by
  rw [SweepReport.ofOutcomes, List.map_filterMap]
  refine filterMap_sublist fun r q hq => ?_
  have hr := h r
  cases ho : outcome r with
  | swept report =>
    rw [ho] at hr hq
    exact (Option.some.inj hq).symm.trans hr
  | _ => rw [ho] at hq; cases hq

theorem skipped_sublist (h : ∀ r, (outcome r).IsOf r) (dryRun : Bool) :
    (SweepReport.ofOutcomes dryRun (rs.map outcome)).skipped.Sublist rs := by
  refine filterMap_sublist fun r q hq => ?_
  have hr := h r
  cases ho : outcome r with
  | skipped p =>
    rw [ho] at hr hq
    exact (Option.some.inj hq).symm.trans hr
  | _ => rw [ho] at hq; cases hq

theorem findSome?_failure (rs : List RepositoryId) :
    (rs.map outcome).findSome? RepositoryOutcome.failure? =
      (failedAmong outcome rs).head?.bind fun r => (outcome r).failure? := by
  induction rs with
  | nil => rfl
  | cons r rs ih =>
    unfold failedAmong at ih ⊢
    rw [List.map_cons, List.findSome?_cons, List.filter_cons]
    cases ho : (outcome r).failure? with
    | some e => exact ho.symm
    | none => exact ih

end

namespace World

variable {registry : Registry}

/-- What comes of a repository that is swept alone. -/
def outcomeOf (w : World) (settings : Settings) (registry : Registry) (dryRun : Bool)
    (r : RepositoryId) : RepositoryOutcome :=
  (Manager.sweepRepository tracker settings registry w.now dryRun r w).1

theorem processIssues_repository (settings : Settings) (p : PolicyRecord) (now : Instant)
    (dryRun : Bool) (report : RepositoryReport) (issues : List Issue) (w : World) :
    (Manager.processIssues tracker settings p now dryRun report issues w).1.repository =
      report.repository := by
  induction issues generalizing report w with
  | nil => rfl
  | cons i rest ih =>
    rw [Manager.processIssues, bind_apply]
    cases (Manager.processIssue tracker settings p now dryRun i w).1 with
    | error e => exact ih _ _
    | ok d => exact ih _ _

/-- A repository is skipped if it has no record, and fails if its items cannot be listed. -/
theorem outcomeOf_cases (w : World) (settings : Settings) (registry : Registry) (dryRun : Bool)
    (r : RepositoryId) :
    (registry.recordFor r = none ∧ w.outcomeOf settings registry dryRun r = .skipped r) ∨
      (∃ e, (registry.recordFor r).isSome ∧ w.openIssues r = .error e ∧
        w.outcomeOf settings registry dryRun r = .failed (.structural r e)) ∨
      (∃ issues report, (registry.recordFor r).isSome ∧ w.openIssues r = .ok issues ∧
        report.repository = r ∧ w.outcomeOf settings registry dryRun r = .swept report) := by
  unfold outcomeOf Manager.sweepRepository
  cases registry.recordFor r with
  | none => exact .inl ⟨rfl, rfl⟩
  | some p =>
    dsimp only
    rw [bind_apply, show tracker.openIssues r w = (w.openIssues r, w) from rfl]
    cases w.openIssues r with
    | error e => exact .inr (.inl ⟨e, rfl, rfl, rfl⟩)
    | ok issues =>
      exact .inr (.inr ⟨issues, _, rfl, rfl, processIssues_repository settings p w.now dryRun
        { repository := r } issues w, rfl⟩)

theorem outcomeOf_isOf (w : World) (settings : Settings) (registry : Registry) (dryRun : Bool)
    (r : RepositoryId) : (w.outcomeOf settings registry dryRun r).IsOf r := by
  rcases w.outcomeOf_cases settings registry dryRun r with
    ⟨-, h⟩ | ⟨e, -, -, h⟩ | ⟨issues, report, -, -, hr, h⟩ <;> rw [h]
  · rfl
  · trivial
  · exact hr

/-! ## Accounting for the configured repositories -/

/-- The repositories that cannot be listed, in configuration order. -/
def failedRepositories (w : World) (settings : Settings) (registry : Registry) (dryRun : Bool) :
    List RepositoryId :=
  failedAmong (w.outcomeOf settings registry dryRun) registry.repositories

open SweepReport in
/-- What the result of a sweep says about the configured repositories, of which some have failed. -/
structure Accounts (registry : Registry) (w : World) (failed : List RepositoryId)
    (result : Except SweepError SweepReport) : Prop where
  partition : ((ofResult result).repositories.map (·.repository) ++ (ofResult result).skipped ++
    failed).Perm registry.repositories
  reported_in_order : ((ofResult result).repositories.map (·.repository)).Sublist
    registry.repositories
  skipped_in_order : (ofResult result).skipped.Sublist registry.repositories
  failed_in_order : failed.Sublist registry.repositories
  skipped_iff : ∀ r, r ∈ (ofResult result).skipped ↔
    r ∈ registry.repositories ∧ registry.recordFor r = none
  failed_iff : ∀ r, r ∈ failed ↔
    r ∈ registry.repositories ∧ (registry.recordFor r).isSome ∧ ∃ e, w.openIssues r = .error e
  error_iff : (∃ e, result = .error e) ↔ failed ≠ []
  source : ∀ e, result = .error e → ∃ r reason, failed.head? = some r ∧
    w.openIssues r = .error reason ∧ e.source = .structural r reason

theorem skipped?_outcomeOf {w : World} {settings : Settings} {dryRun : Bool} {q r : RepositoryId} :
    (w.outcomeOf settings registry dryRun q).skipped? = some r ↔
      q = r ∧ registry.recordFor q = none := by
  rcases w.outcomeOf_cases settings registry dryRun q with
    ⟨hnone, h⟩ | ⟨e, hsome, -, h⟩ | ⟨issues, report, hsome, -, -, h⟩ <;> rw [h]
  · simp [hnone, RepositoryOutcome.skipped?]
  · simp [RepositoryOutcome.skipped?, Option.isSome_iff_ne_none.1 hsome]
  · simp [RepositoryOutcome.skipped?, Option.isSome_iff_ne_none.1 hsome]

theorem failure?_outcomeOf {w : World} {settings : Settings} {dryRun : Bool} {r : RepositoryId}
    {reason : LifecycleError} :
    (w.outcomeOf settings registry dryRun r).failure? = some reason ↔
      (registry.recordFor r).isSome ∧
        ∃ e, w.openIssues r = .error e ∧ reason = .structural r e := by
  rcases w.outcomeOf_cases settings registry dryRun r with
    ⟨hnone, h⟩ | ⟨e, hsome, he, h⟩ | ⟨issues, report, hsome, hok, -, h⟩ <;> rw [h]
  · simp [hnone, RepositoryOutcome.failure?]
  · simp [hsome, he, RepositoryOutcome.failure?, eq_comm]
  · simp [hok, RepositoryOutcome.failure?]

theorem mem_failedRepositories {w : World} {settings : Settings} {dryRun : Bool}
    {r : RepositoryId} : r ∈ w.failedRepositories settings registry dryRun ↔
      r ∈ registry.repositories ∧ (registry.recordFor r).isSome ∧
        ∃ e, w.openIssues r = .error e := by
  unfold failedRepositories failedAmong
  rw [List.mem_filter, Option.isSome_iff_exists]
  simp only [failure?_outcomeOf]
  refine and_congr_right fun _ => ?_
  constructor
  · rintro ⟨-, hsome, e, he, -⟩
    exact ⟨hsome, e, he⟩
  · rintro ⟨hsome, e, he⟩
    exact ⟨_, hsome, e, he, rfl⟩

/-- The failure that ends a sweep is that of the first repository that failed. -/
theorem source?_conclude_outcomes (w : World) (settings : Settings) (registry : Registry)
    (dryRun : Bool) :
    SweepReport.source? (SweepReport.conclude dryRun
        (registry.repositories.map (w.outcomeOf settings registry dryRun))) =
      (w.failedRepositories settings registry dryRun).head?.bind fun r =>
        (w.outcomeOf settings registry dryRun r).failure? := by
  rw [SweepReport.source?_conclude, findSome?_failure]
  rfl

theorem accounts (w : World) (settings : Settings) (registry : Registry) (dryRun : Bool) :
    Accounts registry w (w.failedRepositories settings registry dryRun)
      (SweepReport.conclude dryRun
        (registry.repositories.map (w.outcomeOf settings registry dryRun))) where
  partition := by
    rw [SweepReport.ofResult_conclude]
    exact partition_perm (w.outcomeOf_isOf settings registry dryRun) dryRun
  reported_in_order := by
    rw [SweepReport.ofResult_conclude]
    exact reported_sublist (w.outcomeOf_isOf settings registry dryRun) dryRun
  skipped_in_order := by
    rw [SweepReport.ofResult_conclude]
    exact skipped_sublist (w.outcomeOf_isOf settings registry dryRun) dryRun
  failed_in_order := List.filter_sublist
  skipped_iff r := by
    rw [SweepReport.ofResult_conclude, SweepReport.ofOutcomes, List.mem_filterMap]
    simp only [List.mem_map, exists_exists_and_eq_and, skipped?_outcomeOf]
    constructor
    · rintro ⟨q, hq, rfl, hnone⟩
      exact ⟨hq, hnone⟩
    · rintro ⟨hr, hnone⟩
      exact ⟨r, hr, rfl, hnone⟩
  failed_iff r := mem_failedRepositories
  error_iff := by
    have hsource := source?_conclude_outcomes w settings registry dryRun
    constructor
    · rintro ⟨e, he⟩ hnil
      rw [he, hnil] at hsource
      cases hsource
    · intro hne
      obtain ⟨r, rest, hr⟩ := List.exists_cons_of_ne_nil hne
      have hmem : r ∈ w.failedRepositories settings registry dryRun := hr ▸ List.mem_cons_self
      obtain ⟨-, hsome, e, he⟩ := mem_failedRepositories.1 hmem
      have hfail : (w.outcomeOf settings registry dryRun r).failure? = some (.structural r e) :=
        failure?_outcomeOf.2 ⟨hsome, e, he, rfl⟩
      rw [hr, List.head?_cons, Option.bind_some, hfail] at hsource
      cases hres : SweepReport.conclude dryRun
          (registry.repositories.map (w.outcomeOf settings registry dryRun)) with
      | ok report => rw [hres] at hsource; cases hsource
      | error e => exact ⟨e, rfl⟩
  source e he := by
    have hsource := source?_conclude_outcomes w settings registry dryRun
    rw [he, eq_comm] at hsource
    obtain ⟨r, hr, hfail⟩ := Option.bind_eq_some_iff.1 hsource
    obtain ⟨-, reason, hreason, hstructural⟩ := failure?_outcomeOf.1 hfail
    exact ⟨r, reason, hr, hreason, hstructural⟩

end World

end Upkeep
