import Upkeep.Proofs.Sweep.DryRun
import Upkeep.Proofs.Text.Numeral
/-!
# Failures stay where they belong

What a sweep does in a repository is settled by what there is to know about that repository, and
what it does to an item by what there is to know about that item. Two sweeps that agree on it do the
same there, whatever goes wrong elsewhere (`failures_isolated`).
-/

namespace Upkeep

/-- Items of one repository are told apart by their texts. -/
theorem IssueRef.text_injective {ref other : IssueRef} (hr : ref.repository = other.repository)
    (h : ref.text = other.text) : ref = other := by
  obtain ⟨r, m⟩ := ref
  obtain ⟨q, n⟩ := other
  obtain rfl : r = q := hr
  exact congrArg (IssueRef.mk r) (decimalText_injective ((String.append_right_inj _).1 h))

/-! ## What the result says about a repository -/

namespace SweepReport

/-- What the result of a sweep says about a repository is what came of it. -/
structure Tells (result : Except SweepError SweepReport) (r : RepositoryId)
    (o : RepositoryOutcome) : Prop where
  report : (ofResult result).repositories.filter (·.repository == r) = o.report?.toList
  skipped : (ofResult result).skipped.filter (· == r) = o.skipped?.toList
  failure : o.failure?.isSome → (source? result).isSome
  source : ∀ e, source? result = some (.structural r e) → o.failure? = some (.structural r e)

variable {outcome : RepositoryId → RepositoryOutcome} {rs : List RepositoryId} {r : RepositoryId}

/-- Of what the outcomes of different repositories say, the part about one of them comes from its
own outcome. -/
theorem filter_filterMap_outcome {γ : Type} {say : RepositoryOutcome → Option γ}
    (name : γ → RepositoryId) (hname : ∀ q c, say (outcome q) = some c → name c = q)
    (hrs : rs.Nodup) (hr : r ∈ rs) :
    ((rs.map outcome).filterMap say).filter (name · == r) = (say (outcome r)).toList := by
  have hone : rs.filter (· == r) = [r] := by
    rw [List.filter_beq, List.count_eq_one_of_mem hrs hr, List.replicate_one]
  have hown : ((rs.map outcome).filterMap say).filter (name · == r) =
      (rs.filter (· == r)).filterMap fun q => say (outcome q) := by
    rw [List.filterMap_map, List.filter_filterMap, List.filterMap_filter]
    refine List.filterMap_congr fun q _ => ?_
    cases hq : say (outcome q) with
    | none => simp [hq]
    | some c => simp [hq, Option.filter_some, hname q c hq]
  rw [hown, hone, List.filterMap_cons, List.filterMap_nil]
  cases say (outcome r) <;> rfl

end SweepReport

namespace World

variable {w v : World} {registry registry' : Registry} {settings : Settings} {dryRun : Bool}
  {r : RepositoryId} {ref : IssueRef}

theorem tells_conclude (w : World) (settings : Settings) (dryRun : Bool)
    (hnodup : registry.repositories.Nodup) (hr : r ∈ registry.repositories) :
    SweepReport.Tells (SweepReport.conclude dryRun
        (registry.repositories.map (w.outcomeOf settings registry dryRun))) r
      (w.outcomeOf settings registry dryRun r) where
  report := by
    rw [SweepReport.ofResult_conclude]
    refine SweepReport.filter_filterMap_outcome RepositoryReport.repository
      (fun q report hq => ?_) hnodup hr
    have hq' := w.outcomeOf_isOf settings registry dryRun q
    cases ho : w.outcomeOf settings registry dryRun q <;> rw [ho] at hq hq' <;> cases hq
    exact hq'
  skipped := by
    rw [SweepReport.ofResult_conclude]
    exact SweepReport.filter_filterMap_outcome id
      (fun q q' hq => (skipped?_outcomeOf.1 hq).1.symm) hnodup hr
  failure h := by
    rw [SweepReport.source?_conclude, List.findSome?_isSome_iff]
    exact ⟨_, List.mem_map_of_mem hr, h⟩
  source e h := by
    rw [SweepReport.source?_conclude] at h
    obtain ⟨o, ho, hfail⟩ := List.exists_of_findSome?_eq_some h
    obtain ⟨q, -, rfl⟩ := List.mem_map.1 ho
    obtain ⟨-, e', -, he⟩ := failure?_outcomeOf.1 hfail
    cases he
    exact hfail

/-! ## Agreement about a repository -/

/-- Two worlds agree about a repository, but for the answers about some odd items of it. -/
structure AgreeBut (odd : List IssueRef) (r : RepositoryId) (w v : World) : Prop where
  now : w.now = v.now
  listing : w.openIssues r = v.openIssues r
  items : w.items.filter (·.issue.reference.repository == r) =
    v.items.filter (·.issue.reference.repository == r)
  answers : ∀ ref, ref.repository = r → ref ∉ odd → AnswersAlike ref w v

theorem repository_of_mem_openIssues {issues : List Issue} {i : Issue}
    (h : w.openIssues r = .ok issues) (hi : i ∈ issues) : i.reference.repository = r :=
  repository_of_mem_listed (listed_of_openIssues h ▸ hi)

variable {odd : List IssueRef}

/-- Worlds that agree about a repository altogether see the same come of it. -/
theorem AgreeBut.repository (h : AgreeBut [] r w v) (settings : Settings) (dryRun : Bool)
    (hrec : registry.recordFor r = registry'.recordFor r) :
    w.outcome settings registry w.now dryRun r = v.outcome settings registry' v.now dryRun r ∧
      w.repositoryTrail settings registry w.now dryRun r =
        v.repositoryTrail settings registry' v.now dryRun r := by
  unfold outcome repositoryTrail
  rw [← hrec, ← h.listing, ← h.now]
  split
  · exact ⟨rfl, rfl⟩
  split
  · exact ⟨rfl, rfl⟩
  · next issues hlist =>
    have hsame (i : Issue) (hi : i ∈ issues) :=
      h.answers i.reference (repository_of_mem_openIssues hlist hi) List.not_mem_nil
    rw [List.map_congr_left fun i hi => (hsame i hi).verdict,
      List.flatMap_congr fun i hi => (hsame i hi).itemTrail]
    exact ⟨rfl, rfl⟩

/-- What the trail says about an item that is not odd does not depend on the odd ones. -/
theorem AgreeBut.filter_repositoryTrail (h : AgreeBut odd r w v) (settings : Settings)
    (dryRun : Bool) (hrec : registry.recordFor r = registry'.recordFor r) (href : ref ∉ odd) :
    (w.repositoryTrail settings registry w.now dryRun r).filter (·.issue? == some ref) =
      (v.repositoryTrail settings registry' v.now dryRun r).filter (·.issue? == some ref) := by
  unfold repositoryTrail
  rw [← hrec, ← h.listing, ← h.now]
  split
  · rfl
  split
  · rfl
  · next p _ _ issues hlist =>
    rw [List.filter_append, List.filter_append, List.filter_flatMap, List.filter_flatMap]
    have hitem (i : Issue) (hi : i ∈ issues) :
        (w.itemTrail settings p w.now dryRun i).filter (·.issue? == some ref) =
          (v.itemTrail settings p w.now dryRun i).filter (·.issue? == some ref) := by
      by_cases hodd : i.reference ∈ odd
      · have hnone (u : World) :
            (u.itemTrail settings p w.now dryRun i).filter (·.issue? == some ref) = [] := by
          refine List.filter_eq_nil_iff.2 fun entry he heq => href ?_
          rw [issue?_of_mem_itemTrail he, beq_iff_eq] at heq
          exact Option.some.inj heq ▸ hodd
        rw [hnone, hnone]
      · rw [(h.answers i.reference (repository_of_mem_openIssues hlist hi) hodd).itemTrail]
    rw [List.flatMap_congr hitem]
    rfl

/-! ## The items -/

/-- The item after a sweep, which leaves it alone if it is a dry run. -/
def left (w : World) (settings : Settings) (registry : Registry) (dryRun : Bool)
    (it : WorldItem) : WorldItem :=
  if dryRun then it else w.swept settings registry w.now it

theorem left_reference (it : WorldItem) :
    (w.left settings registry dryRun it).issue.reference = it.issue.reference := by
  unfold left
  split
  · rfl
  · exact swept_reference it

theorem filter_left (w v : World) (settings : Settings) (registry : Registry) (dryRun : Bool)
    (r : RepositoryId) :
    (w.items.map (v.left settings registry dryRun)).filter
        (·.issue.reference.repository == r) =
      (w.items.filter (·.issue.reference.repository == r)).map
        (v.left settings registry dryRun) := by
  rw [List.filter_map]
  congr
  funext it
  simp only [Function.comp_apply, left_reference]

theorem of_item?_eq_some {it : WorldItem} (h : w.item? ref = some it) :
    it ∈ w.items ∧ it.issue.reference = ref :=
  ⟨List.mem_of_find?_eq_some h, by simpa using List.find?_some h⟩

theorem item?_of_items_eq {v u : World}
    (h : u.items = w.items.map (v.left settings registry dryRun)) (ref : IssueRef) :
    u.item? ref = (w.item? ref).map (v.left settings registry dryRun) := by
  rw [item?, h, List.find?_map, item?]
  congr
  funext it
  simp only [Function.comp_apply, left_reference]

theorem run_sweepAll_left {pool : Pool (Fiber World)} (hpool : pool.Lawful) (settings : Settings)
    (hr : registry.repositories.Nodup) (dryRun : Bool) {t : Timeline World}
    (ht : t.state.DistinctItems) :
    ((Manager.sweepAll tracker.steps pool settings registry dryRun).run t).2.state.items =
      t.state.items.map (t.state.left settings registry dryRun) := by
  cases dryRun with
  | true => exact (run_sweepAll_items_dry hpool settings hr t).1.trans (List.map_id' _).symm
  | false => exact (run_sweepAll_items hpool settings hr ht).1

/-- The items that are listed are a matter of the listing. -/
theorem lists_iff {it : WorldItem} (hit : it ∈ w.items) :
    w.lists it = true ↔
      ∃ issues, w.openIssues it.issue.reference.repository = .ok issues ∧ it.issue ∈ issues := by
  unfold lists openIssues
  cases w.failureOf .openIssues it.issue.reference.repository.text none with
  | some e => simp
  | none => simp [mem_listed hit]

theorem AgreeBut.mem_items (h : AgreeBut odd r w v) {it : WorldItem}
    (hr : it.issue.reference.repository = r) : it ∈ w.items ↔ it ∈ v.items := by
  have hmem : it ∈ w.items.filter (·.issue.reference.repository == r) ↔
      it ∈ v.items.filter (·.issue.reference.repository == r) := by rw [h.items]
  simpa only [List.mem_filter, beq_iff_eq.2 hr, and_true] using hmem

theorem AgreeBut.left (h : AgreeBut odd r w v) (hrec : registry.recordFor r = registry'.recordFor r)
    {it : WorldItem} (hit : it ∈ w.items) (hr : it.issue.reference.repository = r)
    (hodd : it.issue.reference ∉ odd) :
    w.left settings registry dryRun it = v.left settings registry' dryRun it := by
  have hlists : w.lists it = v.lists it := by
    rw [Bool.eq_iff_iff, lists_iff hit, lists_iff ((h.mem_items hr).1 hit), hr, h.listing]
  unfold World.left swept
  rw [hr, hrec, hlists, h.now]
  simp only [(h.answers _ hr hodd).settled]

/-! ## Two sweeps -/

/-- What the trail of the world says about an item. -/
def trailAbout (w : World) (ref : IssueRef) : List TrailEntry :=
  w.trail.filter (·.issue? == some ref)

/-- What is added about an item is part of what is added about its repository. -/
theorem trailAbout_eq_append {added : List TrailEntry}
    (h : v.trailOf ref.repository = w.trailOf ref.repository ++ added) :
    v.trailAbout ref = w.trailAbout ref ++ added.filter (·.issue? == some ref) := by
  have hpart (u : World) : u.trailAbout ref =
      (u.trailOf ref.repository).filter (·.issue? == some ref) := by
    rw [trailOf, List.filter_filter]
    refine List.filter_congr fun entry _ => ?_
    by_cases hentry : entry.issue? = some ref
    · simp [hentry, TrailEntry.repository_of_issue? hentry]
    · simp [hentry]
  rw [hpart, hpart, h, List.filter_append]

theorem find?_filter_items (w : World) (ref : IssueRef) :
    (w.items.filter (·.issue.reference.repository == ref.repository)).find?
      (·.issue.reference == ref) = w.item? ref := by
  rw [List.find?_filter, item?]
  congr
  funext it
  by_cases h : it.issue.reference = ref <;> simp [h]

/-- Two sweeps, begun in two worlds, do the same in a repository. -/
structure SameIn (r : RepositoryId) (before before' : World)
    (run run' : Except SweepError SweepReport × Timeline World) : Prop where
  outcome : ∃ o, SweepReport.Tells run.1 r o ∧ SweepReport.Tells run'.1 r o
  items : run.2.state.items.filter (·.issue.reference.repository == r) =
    run'.2.state.items.filter (·.issue.reference.repository == r)
  trail : ∃ added, run.2.state.trailOf r = before.trailOf r ++ added ∧
    run'.2.state.trailOf r = before'.trailOf r ++ added

/-- Two sweeps, begun in two worlds, do the same to an item. -/
structure SameTo (ref : IssueRef) (before before' : World)
    (run run' : Except SweepError SweepReport × Timeline World) : Prop where
  item : run.2.state.item? ref = run'.2.state.item? ref
  trail : ∃ added, run.2.state.trailAbout ref = before.trailAbout ref ++ added ∧
    run'.2.state.trailAbout ref = before'.trailAbout ref ++ added

/-- Two sweeps that begin in worlds that agree about a repository do the same in it. Where the
worlds agree about it but for the answers about some odd items, the sweeps make the same of each of
the others, and do the same to it. -/
theorem failures_isolated {repositories repositories' : List RepositoryId}
    {default? default?' : Option PolicyRecord} {overrides overrides' : List PolicyOverride}
    (hreg : Registry.build repositories default? overrides = .ok registry)
    (hreg' : Registry.build repositories' default?' overrides' = .ok registry')
    (hr : r ∈ registry.repositories) (hr' : r ∈ registry'.repositories)
    (hrec : registry.recordFor r = registry'.recordFor r) {pool pool' : Pool (Fiber World)}
    (hpool : pool.Lawful) (hpool' : pool'.Lawful) (settings : Settings) (concurrency : Nat)
    (dryRun : Bool) {t u : Timeline World} (ht : t.state.DistinctItems)
    (hu : u.state.DistinctItems) :
    let settings' := { settings with concurrency }
    let run := (Manager.sweepAll tracker.steps pool settings registry dryRun).run t
    let run' := (Manager.sweepAll tracker.steps pool' settings' registry' dryRun).run u
    (AgreeBut [] r t.state u.state → SameIn r t.state u.state run run') ∧
      ∀ odd, AgreeBut odd r t.state u.state → ∀ ref, ref.repository = r → ref ∉ odd →
        SameTo ref t.state u.state run run' ∧
          -- This is so in whatever state the sweeps have left the items when they come to it.
          ∀ p i w v, i.reference = ref → w.setting = t.state.setting →
            v.setting = u.state.setting →
            (Manager.processIssue tracker settings p t.state.now dryRun i w).1 =
              (Manager.processIssue tracker settings' p u.state.now dryRun i v).1 := by
  intro settings' run run'
  have hnodup := Registry.nodup_of_build hreg
  have hnodup' := Registry.nodup_of_build hreg'
  have hresult : run.1 = _ := (run_sweepAll hpool settings hnodup dryRun t).1
  have hresult' : run'.1 = _ := (run_sweepAll hpool' settings' hnodup' dryRun u).1
  have hitems : run.2.state.items = _ := run_sweepAll_left hpool settings hnodup dryRun ht
  have hitems' : run'.2.state.items = u.state.items.map (u.state.left settings registry' dryRun) :=
    run_sweepAll_left hpool' settings' hnodup' dryRun hu
  have htrail := run_sweepAll_trailOf hpool settings hnodup dryRun t r
  have htrail' := run_sweepAll_trailOf hpool' settings' hnodup' dryRun u r
  rw [if_pos hr] at htrail
  rw [if_pos hr'] at htrail'
  refine ⟨fun h => ?_, fun odd h ref href hodd => ⟨?_, fun p i w v hi hw hv => ?_⟩⟩
  · obtain ⟨hout, hadded⟩ := h.repository settings dryRun hrec
    have hout' : t.state.outcomeOf settings registry dryRun r =
        u.state.outcomeOf settings' registry' dryRun r := by
      rw [outcomeOf_eq, outcomeOf_eq]
      exact hout
    refine ⟨⟨_, hresult ▸ tells_conclude t.state settings dryRun hnodup hr, ?_⟩, ?_,
      ⟨_, htrail, hadded ▸ htrail'⟩⟩
    · rw [hout', hresult']
      exact tells_conclude u.state settings' dryRun hnodup' hr'
    · rw [hitems, hitems', filter_left, filter_left, ← h.items]
      refine List.map_congr_left fun it hit => ?_
      obtain ⟨hmem, hown⟩ := List.mem_filter.1 hit
      exact h.left hrec hmem (beq_iff_eq.1 hown) List.not_mem_nil
  · subst href
    have hsame := h.filter_repositoryTrail settings dryRun hrec hodd
    refine ⟨?_, ⟨_, trailAbout_eq_append htrail, hsame ▸ trailAbout_eq_append htrail'⟩⟩
    rw [item?_of_items_eq hitems, item?_of_items_eq hitems', ← find?_filter_items u.state,
      ← h.items, find?_filter_items]
    refine Option.map_congr fun it hit => ?_
    obtain ⟨hmem, rfl⟩ := of_item?_eq_some hit
    exact h.left hrec hmem rfl hodd
  · subst hi
    rw [(processIssue_yields settings p t.state.now dryRun i w).result,
      (processIssue_yields settings' p u.state.now dryRun i v).result,
      (AnswersAlike.of_setting hw _).verdict, (AnswersAlike.of_setting hv _).verdict, h.now]
    exact (h.answers i.reference href hodd).verdict

/-! ## Two pull requests -/

/-- Two pull requests in a world where all goes well. -/
def calmWorld : World :=
  { items := [{ issue := ⟨⟨⟨"istio", "istio"⟩, 1⟩, true, .clamp 0, .opened, [], ""⟩ },
      { issue := ⟨⟨⟨"istio", "istio"⟩, 2⟩, true, .clamp 0, .opened, [], ""⟩ }]
    now := .clamp (40 * nanosPerDay) }

/-- The items of another repository cannot be listed. -/
def unlistedWorld : World :=
  { calmWorld with failures := [⟨"open_issues", "istio/api", none, .transport "no route"⟩] }

/-- Nothing can be found out about the second pull request. -/
def unknownWorld : World :=
  { calmWorld with failures := [⟨"activity", "istio/istio#2", none, .transport "no route"⟩] }

theorem answersAlike_of_failures {rules : List FailureRule}
    (h : ∀ rule ∈ rules, covers rule.target ref.text = false) :
    AnswersAlike ref { w with failures := [] } { w with failures := rules } := by
  refine ⟨rfl, rfl, rfl, fun operation argument? => ?_, fun _ => rfl⟩
  have hnone : rules.find? (fun rule => rule.operation == operation.name &&
      covers rule.target ref.text && (rule.argument?.isNone || rule.argument? == argument?)) =
        none :=
    List.find?_eq_none.2 fun rule hrule => by simp [h rule hrule]
  unfold failureOf
  dsimp only
  rw [hnone]
  rfl

theorem agreeBut_unlisted : AgreeBut [] ⟨"istio", "istio"⟩ calmWorld unlistedWorld where
  now := rfl
  listing := by decide
  items := rfl
  answers ref href _ := by
    refine answersAlike_of_failures (w := calmWorld) fun rule hrule => ?_
    obtain rfl := List.mem_singleton.1 hrule
    have hother : "istio/api" ≠ ref.text := by
      intro h
      have hsixth := congrArg (fun s => s.toList[6]?) h
      simp [IssueRef.text, RepositoryId.text, href] at hsixth
    simp [covers, hother]

theorem agreeBut_unknown :
    AgreeBut [⟨⟨"istio", "istio"⟩, 2⟩] ⟨"istio", "istio"⟩ calmWorld unknownWorld where
  now := rfl
  listing := by decide
  items := rfl
  answers ref href hodd := by
    refine answersAlike_of_failures (w := calmWorld) fun rule hrule => ?_
    obtain rfl := List.mem_singleton.1 hrule
    have hother : (⟨⟨"istio", "istio"⟩, 2⟩ : IssueRef).text ≠ ref.text := fun h =>
      hodd (List.mem_singleton.2 (IssueRef.text_injective href h.symm))
    have htext : (⟨⟨"istio", "istio"⟩, 2⟩ : IssueRef).text = "istio/istio#2" := by
      rw [IssueRef.text, decimalText, decimal]
      decide
    rw [htext] at hother
    simp [covers, hother]

theorem failures_isolated_calm :
    let registry : Registry := ⟨[⟨"istio", "istio"⟩], some {}, []⟩
    let registry' : Registry := ⟨[⟨"istio", "api"⟩, ⟨"istio", "istio"⟩], some {}, []⟩
    let run := (Manager.sweepAll tracker.steps (Pool.inTurn []) {} registry false).run
      { state := calmWorld }
    let run' (w : World) := (Manager.sweepAll tracker.steps ⟨Fiber.pool⟩ { concurrency := 2 }
      registry' false).run { state := w }
    SameIn ⟨"istio", "istio"⟩ calmWorld unlistedWorld run (run' unlistedWorld) ∧
      SameTo ⟨⟨"istio", "istio"⟩, 1⟩ calmWorld unknownWorld run (run' unknownWorld) := by
  intro registry registry' run run'
  have hreg : Registry.build [⟨"istio", "istio"⟩] (some {}) [] = .ok registry := rfl
  have hreg' : Registry.build [⟨"istio", "api"⟩, ⟨"istio", "istio"⟩] (some {}) [] =
    .ok registry' := rfl
  have hsame {w : World} (hw : w.DistinctItems) := failures_isolated hreg hreg'
    (r := ⟨"istio", "istio"⟩) (by decide) (by decide) (by decide) (Fiber.lawful_inTurn [])
    Fiber.lawful_pool {} 2 false (t := { state := calmWorld }) (u := { state := w }) (by decide) hw
  exact ⟨(hsame (w := unlistedWorld) (by decide)).1 agreeBut_unlisted,
    ((hsame (w := unknownWorld) (by decide)).2 _ agreeBut_unknown _ rfl (by decide)).1⟩

end World

end Upkeep
