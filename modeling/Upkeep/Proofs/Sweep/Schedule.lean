import Upkeep.Proofs.Sweep.Items
import Upkeep.Proofs.Sweep.Report
/-!
# Sweeps in any schedule

Each repository stays in its share of the world, so that it comes to the same whenever the others
take their steps (`run_sweepAll`). The result of a sweep is that of sweeping the repositories one
by one, and so are the items and what the trail says about each repository.
-/

namespace Upkeep.World

open Upkeep.Fiber Pool SweepReport

variable {registry : Registry}

/-- The repository at a place of the configuration. -/
def ownerAt (registry : Registry) (place : Nat) : RepositoryId :=
  registry.repositories[place]?.getD default

theorem ownerAt_eq {j : Nat × RepositoryId} (h : j ∈ placed registry.repositories) :
    ownerAt registry j.1 = j.2 := by
  rw [ownerAt, mem_placed.1 h]
  rfl

/-- However the repositories are interleaved, each of them comes to what it comes to alone, and
leaves its share of the world as it would alone. -/
theorem run_sweepAll {pool : Pool (Fiber World)} (hpool : pool.Lawful) (settings : Settings)
    (hr : registry.repositories.Nodup) (dryRun : Bool) (t : Timeline World) :
    ((Manager.sweepAll tracker.steps pool settings registry dryRun).run t).1 =
        conclude dryRun
          (registry.repositories.map (t.state.outcomeOf settings registry dryRun)) ∧
      ∀ r, ((Manager.sweepAll tracker.steps pool settings registry dryRun).run t).2.state.share r =
        if r ∈ registry.repositories then
          (Manager.sweepRepository tracker settings registry t.state.now dryRun r t.state).2.share r
        else t.state.share r := by
  let job := Manager.sweepRepository tracker.steps settings registry t.state.now dryRun
  have hdoes (r : RepositoryId) : (job r).run t =
      (t.state.outcomeOf settings registry dryRun r, { t with state :=
        (Manager.sweepRepository tracker settings registry t.state.now dryRun r t.state).2 }) :=
    (sweepRepository_carriesOut settings t.state.now dryRun registry r).does t
  have hjobs := placed_map job registry.repositories
  have hlocal : ∀ j ∈ placed (registry.repositories.map job),
      StaysIn share (ownerAt registry j.1) j.2 := by
    rw [hjobs]
    intro _ hmem
    obtain ⟨j, hj, rfl⟩ := List.mem_map.1 hmem
    show StaysIn share (ownerAt registry j.1) (job j.2)
    rw [ownerAt_eq hj]
    exact (sweepRepository_carriesOut settings t.state.now dryRun registry j.2).stays
  have howners : ((placed (registry.repositories.map job)).map
      fun j => ownerAt registry j.1) = registry.repositories := by
    rw [hjobs, List.map_map]
    exact (List.map_congr_left fun j hj => ownerAt_eq hj).trans (map_snd_placed _)
  have hserial := (hpool settings.concurrency (registry.repositories.map job) t).serialized hlocal
    (by rw [howners]; exact hr)
  have hout : (placed (registry.repositories.map job)).map (outcome share (ownerAt registry) t) =
      (placed registry.repositories).map fun j =>
        (j.1, t.state.outcomeOf settings registry dryRun j.2,
          (Manager.sweepRepository tracker settings registry t.state.now dryRun j.2
            t.state).2.share j.2) := by
    rw [hjobs, List.map_map]
    refine List.map_congr_left fun j hj => ?_
    simp only [Function.comp_apply, outcome, hdoes, ownerAt_eq hj]
  rw [hout] at hserial
  have hsweep : (Manager.sweepAll tracker.steps pool settings registry dryRun).run t =
      (SweepReport.assemble dryRun
          ((pool.conduct settings.concurrency (registry.repositories.map job)).run t).1,
        ((pool.conduct settings.concurrency (registry.repositories.map job)).run t).2) := by
    rw [Manager.sweepAll, run_bind, run_bind]
    rfl
  rw [hsweep]
  refine ⟨assemble_of_perm dryRun ?_, fun r => ?_⟩
  · have hresults := hserial.results
    rw [List.map_map] at hresults
    rw [placed_map]
    exact hresults
  · split
    · next hmem =>
      rw [← map_snd_placed registry.repositories] at hmem
      obtain ⟨j, hj, rfl⟩ := List.mem_map.1 hmem
      have hshare := hserial.shares _ (List.mem_map_of_mem hj)
      rw [ownerAt_eq hj] at hshare
      exact hshare
    · next hnot =>
      refine hserial.others r fun o ho => ?_
      obtain ⟨j, hj, rfl⟩ := List.mem_map.1 ho
      rw [ownerAt_eq hj]
      rintro rfl
      exact hnot (List.mem_of_getElem? (mem_placed.1 hj))

/-- Every item is swept on its own, however the repositories are interleaved. -/
theorem run_sweepAll_items {pool : Pool (Fiber World)} (hpool : pool.Lawful) (settings : Settings)
    (hr : registry.repositories.Nodup) {t : Timeline World} (hw : t.state.DistinctItems) :
    let run := (Manager.sweepAll tracker.steps pool settings registry false).run t
    run.2.state.items = t.state.items.map (t.state.swept settings registry t.state.now) ∧
      run.2.state.setting = t.state.setting := by
  intro run
  have hshares := (run_sweepAll hpool settings hr false t).2
  have halone (r : RepositoryId) := sweepRepository_items settings registry t.state.now r hw
  refine ⟨?_, ?_⟩
  · refine items_eq_of_owned (v := { t.state with
      items := t.state.items.map (t.state.swept settings registry t.state.now) }) fun r => ?_
    -- An item of another repository is in neither share.
    have hout {it : WorldItem} (h : it.issue.reference.repository ≠ r) :
        it.owned? r = (t.state.swept settings registry t.state.now it).owned? r := by
      rw [WorldItem.owned?_eq_none.2 h, eq_comm, WorldItem.owned?_eq_none, swept_reference]
      exact h
    refine (congrArg Share.items (hshares r)).trans ?_
    rw [List.map_map]
    split
    · show (Manager.sweepRepository tracker settings registry t.state.now false r
        t.state).2.items.map (WorldItem.owned? r) = _
      rw [(halone r).1, List.map_map]
      refine List.map_congr_left fun it _ => ?_
      dsimp only [Function.comp_apply]
      split
      · rfl
      · next h => exact hout h
    · next hnot =>
      refine List.map_congr_left fun it _ => ?_
      dsimp only [Function.comp_apply]
      by_cases h : it.issue.reference.repository = r
      · rw [swept_of_notMem (h ▸ hnot)]
      · exact hout h
  · have hset := congrArg Share.setting (hshares default)
    refine hset.trans ?_
    split
    · exact (halone default).2
    · rfl

/-! ## One repository after the other -/

/-- The bound on the repositories under way does not matter to any of them. -/
theorem sweepRepository_concurrency {m : Type → Type} [Monad m] (tracker : Tracker m)
    (settings : Settings) (n : Nat) :
    Manager.sweepRepository tracker { settings with concurrency := n } =
      Manager.sweepRepository tracker settings := by
  have hissues (p : PolicyRecord) (now : Instant) (dryRun : Bool) (report : RepositoryReport)
      (issues : List Issue) :
      Manager.processIssues tracker { settings with concurrency := n } p now dryRun report issues =
        Manager.processIssues tracker settings p now dryRun report issues := by
    induction issues generalizing report with
    | nil => rfl
    | cons i rest ih =>
      unfold Manager.processIssues
      simp only [ih]
      rfl
  funext registry now dryRun r
  unfold Manager.sweepRepository
  simp only [hissues]

theorem does_runAll {γ σ α : Type} {f : γ → Fiber σ α} {g : γ → StateM σ α}
    (h : ∀ c, (f c).Does (g c)) (jobs : List (Nat × γ)) :
    (Pool.runAll (jobs.map fun j => (j.1, f j.2))).Does
      (Pool.runAll (jobs.map fun j => (j.1, g j.2))) := by
  induction jobs with
  | nil => exact does_pure _
  | cons j jobs ih => exact (h j.2).bind fun _ => ih.bind fun _ => does_pure _

/-- Repositories that are swept one after the other are interleaved in one of the possible ways. -/
theorem does_sweepAll (settings : Settings) (registry : Registry) (dryRun : Bool)
    (choices : List Nat) :
    (Manager.sweepAll tracker.steps (Pool.inTurn choices) settings registry dryRun).Does
      (Manager.sweepAll tracker (Pool.inTurn choices) settings registry dryRun) := by
  have hconduct (now : Instant) :
      ((Pool.inTurn choices).conduct settings.concurrency (registry.repositories.map
        (Manager.sweepRepository tracker.steps settings registry now dryRun))).Does
      ((Pool.inTurn choices).conduct settings.concurrency (registry.repositories.map
        (Manager.sweepRepository tracker settings registry now dryRun))) := by
    rw [inTurn_conduct_map, inTurn_conduct_map]
    exact does_runAll
      (fun r => (sweepRepository_carriesOut settings now dryRun registry r).does) _
  exact (does_update _).bind fun now => (hconduct now).bind fun _ => does_pure _

/-- The result of a sweep does not depend on the pool, on its bound or on the order in which the
repositories take their steps and finish: it is that of sweeping them one by one, and accounts for
each of them. -/
theorem sweepAll_eq_one_by_one {repositories : List RepositoryId} {default? : Option PolicyRecord}
    {overrides : List PolicyOverride}
    (hreg : Registry.build repositories default? overrides = .ok registry)
    {pool : Pool (Fiber World)} (hpool : pool.Lawful) (settings : Settings) (dryRun : Bool)
    (t : Timeline World) :
    let run := (Manager.sweepAll tracker.steps pool settings registry dryRun).run t
    let one := Manager.sweepAll tracker (Pool.inTurn []) { settings with concurrency := 1 }
      registry dryRun t.state
    run.1 = one.1 ∧
      (∀ choices, (Manager.sweepAll tracker (Pool.inTurn choices) settings registry dryRun
        t.state).1 = one.1) ∧
      Accounts registry t.state (t.state.failedRepositories settings registry dryRun) run.1 ∧
      run.2.state.items = one.2.items ∧
      ∀ r, run.2.state.trail.filter (·.repository == r) =
        one.2.trail.filter (·.repository == r) := by
  intro run one
  have hnodup := Registry.nodup_of_build hreg
  obtain ⟨hresult, hshares⟩ := run_sweepAll hpool settings hnodup dryRun t
  have hone := run_sweepAll (lawful_inTurn []) { settings with concurrency := 1 } hnodup dryRun t
  rw [does_sweepAll { settings with concurrency := 1 } registry dryRun [] t] at hone
  have houtcome : t.state.outcomeOf { settings with concurrency := 1 } registry dryRun =
      t.state.outcomeOf settings registry dryRun := by
    funext r
    unfold outcomeOf
    rw [sweepRepository_concurrency]
  simp only [houtcome, sweepRepository_concurrency] at hone
  have hshare (r : RepositoryId) : run.2.state.share r = one.2.share r :=
    (hshares r).trans (hone.2 r).symm
  refine ⟨hresult.trans hone.1.symm, fun choices => ?_, ?_,
    items_eq_of_owned fun r => (share_eq_iff.1 (hshare r)).2.1,
    fun r => (share_eq_iff.1 (hshare r)).2.2⟩
  · have hturn := (run_sweepAll (lawful_inTurn choices) settings hnodup dryRun t).1
    rw [does_sweepAll settings registry dryRun choices t] at hturn
    exact hturn.trans hone.1.symm
  · show Accounts registry t.state _ run.1
    rw [show run.1 = _ from hresult]
    exact accounts t.state settings registry dryRun

/-- The items of the second repository cannot be listed. -/
def brokenWorld : World :=
  { failures := [⟨"open_issues", "istio/api", none, .transport "no route"⟩], now := .clamp 0 }

def brokenRegistry : Registry := ⟨[⟨"istio", "istio"⟩, ⟨"istio", "api"⟩], some {}, []⟩

theorem sweepAll_eq_one_by_one_broken :
    Registry.build [⟨"istio", "istio"⟩, ⟨"istio", "api"⟩] (some {}) [] = .ok brokenRegistry ∧
      brokenWorld.openIssues ⟨"istio", "api"⟩ = .error (.transport "no route") ∧
      let run := (Manager.sweepAll tracker.steps ⟨Fiber.pool⟩ {} brokenRegistry false).run
        { state := brokenWorld }
      let one := Manager.sweepAll tracker (Pool.inTurn []) { concurrency := 1 } brokenRegistry
        false brokenWorld
      run.1 = one.1 ∧
        Accounts brokenRegistry brokenWorld
          (brokenWorld.failedRepositories {} brokenRegistry false) run.1 := by
  have hreg : Registry.build [⟨"istio", "istio"⟩, ⟨"istio", "api"⟩] (some {}) [] =
    .ok brokenRegistry := rfl
  obtain ⟨hone, -, haccounts, -⟩ := sweepAll_eq_one_by_one hreg lawful_pool {} false
    { state := brokenWorld }
  exact ⟨hreg, rfl, hone, haccounts⟩

end Upkeep.World
