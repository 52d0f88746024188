import Upkeep.Proofs.Sweep.Record
import Upkeep.Proofs.Sweep.Trail
/-!
# A sweep takes the items one by one

A sweep works on the items as they were listed, while the manager reads an item anew when it is
asked for that item alone. Where an operation on one item leaves the others as they are
(`Tracker.Itemwise`), this makes no difference: sweeping a repository is managing each of its items,
one after the other and whatever comes of them (`sweep_one_by_one`).
-/

namespace Upkeep

namespace Tracker

variable {σ : Type}

/-- Asked for the item alone, the tracker gives it as it is here. -/
def Finds (tracker : Tracker (StateM σ)) (s : σ) (i : Issue) : Prop :=
  tracker.issue i.reference s = (.ok (some i), s)

/-- The clock shows an instant, and it does no harm to read it. -/
def Shows (tracker : Tracker (StateM σ)) (s : σ) (now : Instant) : Prop :=
  tracker.now s = (now, s)

/-- From one state to the other, the clock has not moved, and the items of other references are as
they were. -/
structure Spares (tracker : Tracker (StateM σ)) (ref : IssueRef) (s s' : σ) : Prop where
  clock : ∀ {now}, tracker.Shows s now → tracker.Shows s' now
  others : ∀ {i : Issue}, ref ≠ i.reference → tracker.Finds s i → tracker.Finds s' i

/-- What is done to an item, and what is looked up about it, spares the clock and the other
items. -/
structure Itemwise (tracker : Tracker (StateM σ)) : Prop where
  signals : ∀ limit (i : Issue) s, tracker.Spares i.reference s (tracker.signals limit i s).2
  mutate : ∀ ref m s, tracker.Spares ref s (tracker.mutate ref m s).2

variable {tracker : Tracker (StateM σ)} {ref : IssueRef} {s s' s'' : σ}

theorem Spares.refl (tracker : Tracker (StateM σ)) (ref : IssueRef) (s : σ) :
    tracker.Spares ref s s := ⟨fun h => h, fun _ h => h⟩

theorem Spares.trans (h : tracker.Spares ref s s') (h' : tracker.Spares ref s' s'') :
    tracker.Spares ref s s'' where
  clock hshows := h'.clock (h.clock hshows)
  others hi hfinds := h'.others hi (h.others hi hfinds)

end Tracker

/-! ## Worlds -/

namespace World

variable {w : World}

theorem find?_updateFirst_of_ne {f : WorldItem → WorldItem}
    (hf : ∀ it, (f it).issue.reference = it.issue.reference) {ref other : IssueRef}
    (hne : ref ≠ other) (items : List WorldItem) :
    ((updateFirst ref f items).map WorldItem.issue).find? (·.reference == other) =
      (items.map WorldItem.issue).find? (·.reference == other) := by
  induction items with
  | nil => rfl
  | cons it rest ih =>
    by_cases h : it.issue.reference = ref
    · have hother : ¬ it.issue.reference = other := fun h' => hne (h.symm.trans h')
      simp [updateFirst, h, hf, hne]
    · simp [updateFirst, h, List.find?_cons, ih]

/-- A change of an item does not show when another is looked up. -/
theorem issue_mutate_of_ne {ref other : IssueRef} (hne : ref ≠ other) (m : Mutation) :
    (w.mutate ref m).2.issue other = w.issue other := by
  unfold World.mutate
  dsimp only
  split
  · rfl
  · unfold World.issue change
    rw [find?_updateFirst_of_ne (fun it => it.mutate_reference m) hne]
    rfl

theorem now_mutate (ref : IssueRef) (m : Mutation) : (w.mutate ref m).2.now = w.now := by
  unfold World.mutate
  dsimp only
  split <;> rfl

theorem tracker_itemwise : tracker.Itemwise where
  signals limit i w := .refl tracker i.reference w
  mutate ref m w := by
    constructor
    · intro now hshows
      have hbefore : w.now = now := congrArg Prod.fst hshows
      exact congrArg (·, (w.mutate ref m).2) ((now_mutate ref m).trans hbefore)
    · intro i hne hfinds
      have hbefore : w.issue i.reference = .ok (some i) := congrArg Prod.fst hfinds
      exact congrArg (·, (w.mutate ref m).2) ((issue_mutate_of_ne hne m).trans hbefore)

/-- Where references are distinct, a listed item is found as it was listed, unless looking it up
fails. -/
theorem finds_of_listed (hw : w.DistinctItems) {r : RepositoryId} {i : Issue} (hi : i ∈ w.listed r)
    (hlookup : w.failureOf .issue i.reference.text none = none) : tracker.Finds w i := by
  obtain ⟨it, hit, rfl⟩ := List.mem_map.1 (List.mem_of_mem_filter hi)
  have hfound : (w.items.map WorldItem.issue).find? (·.reference == it.issue.reference) =
      some it.issue := by
    cases hfind : (w.items.map WorldItem.issue).find? (·.reference == it.issue.reference) with
    | none =>
      have hnot := List.find?_eq_none.1 hfind it.issue (List.mem_map.2 ⟨it, hit, rfl⟩)
      simp at hnot
    | some j =>
      obtain ⟨other, hother, rfl⟩ := List.mem_map.1 (List.mem_of_find?_eq_some hfind)
      have hsame : other.issue.reference = it.issue.reference := by
        simpa using List.find?_some hfind
      rw [List.inj_on_of_nodup_map hw hother hit hsame]
  have hissue : w.issue it.issue.reference = .ok (some it.issue) := by
    unfold World.issue
    rw [hlookup, hfound]
  exact congrArg (·, w) hissue

end World

/-- The use is made while the manager decides on an item and carries the decision out. -/
def TrackerUse.isWork : TrackerUse → Bool
  | .signals _ | .change _ _ | .report (.evaluated _ _) | .report (.action _ _ _) => true
  | _ => false

/-- The item that is reported as given up, and why. -/
def TrackerUse.givenUp? : TrackerUse → Option (IssueRef × LifecycleError)
  | .report (.failed ref e) => some (ref, e)
  | _ => none

theorem TrackerUse.givenUp?_of_isWork {use : TrackerUse} (h : use.isWork = true) :
    use.givenUp? = none := by
  cases use with
  | report event => cases event <;> first | rfl | cases h
  | _ => rfl

namespace Manager

/-- Manages items one after the other, whatever comes of them. -/
def manageEach {m : Type → Type} [Monad m] (tracker : Tracker m) (settings : Settings)
    (registry : Registry) : List IssueRef → m (List (IssueRef × Except LifecycleError Decision))
  | [] => pure []
  | ref :: rest => do
    let result ← manageOne tracker settings registry ref
    let results ← manageEach tracker settings registry rest
    pure ((ref, result) :: results)

/-- The item if the manager could not deal with it, and why. -/
def givenUp? : IssueRef × Except LifecycleError Decision → Option (IssueRef × LifecycleError)
  | (_, .ok _) => none
  | (ref, .error e) => some (ref, e)

section

variable {σ α β : Type} {tracker : Tracker (StateM σ)} {s : σ} {ref : IssueRef}

/-! ## Work on one item -/

/-- From every state, a computation adds work to the record and spares the items of other
references. -/
def WorksOn (tracker : Tracker (StateM σ)) (ref : IssueRef) (x : StateM (Recorded σ) α) : Prop :=
  ∀ s, ∃ a s' uses, Adds x s a s' uses ∧ (∀ use ∈ uses, use.isWork = true) ∧
    tracker.Spares ref s s'

theorem worksOn_pure (a : α) : WorksOn tracker ref (pure a) := by
  intro s
  refine ⟨a, s, [], adds_pure a s, ?_, .refl tracker ref s⟩
  intro use huse
  cases huse

theorem WorksOn.bind {x : StateM (Recorded σ) α} {k : α → StateM (Recorded σ) β}
    (hx : WorksOn tracker ref x) (hk : ∀ a, WorksOn tracker ref (k a)) :
    WorksOn tracker ref (x >>= k) := by
  intro s
  obtain ⟨a, s', uses, hadds, hwork, hspares⟩ := hx s
  obtain ⟨b, s'', uses', hadds', hwork', hspares'⟩ := hk a s'
  refine ⟨b, s'', uses ++ uses', hadds.bind hadds', ?_, hspares.trans hspares'⟩
  intro use huse
  rcases List.mem_append.1 huse with h | h
  · exact hwork use h
  · exact hwork' use h

theorem worksOn_noting {use : TrackerUse} {x : StateM σ α} (hwork : use.isWork = true)
    (hx : ∀ s, tracker.Spares ref s (x s).2) : WorksOn tracker ref (Recorded.noting use x) := by
  intro s
  refine ⟨_, _, [use], adds_noting use x s, ?_, hx s⟩
  intro use' huse'
  rw [List.mem_singleton.1 huse']
  exact hwork

theorem worksOn_report {event : Event} (hwork : (TrackerUse.report event).isWork = true) :
    WorksOn tracker ref (tracker.recorded.observe event) :=
  worksOn_noting hwork (.refl tracker ref)

theorem applyActions_worksOn (hitem : tracker.Itemwise) (ref : IssueRef) (as : List Action) :
    WorksOn tracker ref (applyActions tracker.recorded ref false as) := by
  induction as with
  | nil => exact worksOn_pure _
  | cons a as ih =>
    rw [applyActions]
    refine (worksOn_noting rfl (hitem.mutate ref (.ofAction a))).bind fun result => ?_
    cases result with
    | error e => exact worksOn_pure _
    | ok _ => exact (worksOn_report rfl).bind fun _ => ih

theorem processIssue_worksOn (hitem : tracker.Itemwise) (settings : Settings) (p : PolicyRecord)
    (now : Instant) (i : Issue) :
    WorksOn tracker i.reference (processIssue tracker.recorded settings p now false i) := by
  have hsignals : WorksOn tracker i.reference (signalsFor tracker.recorded settings i) := by
    unfold signalsFor
    split
    · exact worksOn_pure _
    · exact worksOn_noting rfl (hitem.signals _ i)
  rw [processIssue]
  refine hsignals.bind fun result => ?_
  cases result with
  | error e => exact worksOn_pure _
  | ok signals =>
    refine (worksOn_report rfl).bind fun _ => ?_
    refine (applyActions_worksOn hitem i.reference _).bind fun result => ?_
    cases result <;> exact worksOn_pure _

/-! ## All items -/

variable {settings : Settings} {registry : Registry} {p : PolicyRecord} {now : Instant}
  {a : Except LifecycleError Decision} {s' : σ} {uses : List TrackerUse}

/-- Asked for an item, the manager looks it up and then does what a sweep does with the item as it
was listed. -/
theorem manageOne_adds {i : Issue} (hclock : tracker.Shows s now)
    (hrecord : registry.recordFor i.reference.repository = some p) (hfinds : tracker.Finds s i)
    (hone : Adds (processIssue tracker.recorded settings p now false i) s a s' uses) :
    Adds (manageOne tracker.recorded settings registry i.reference) s a s'
      (.lookup i.reference :: uses) := by
  have hlookup := adds_noting (.lookup i.reference) (tracker.issue i.reference) s
  rw [hfinds] at hlookup
  have hnow : Adds tracker.recorded.now s now s [] := by
    have hshows : tracker.now s = (now, s) := hclock
    intro before
    simp [Tracker.recorded, hshows]
  rw [manageOne_of_record tracker.recorded settings hrecord]
  exact hlookup.bind (hnow.bind hone)

/-- Going through listed items, a sweep does the same work as the manager when it is asked for each
of them, and gives up the items that the manager could not deal with. -/
theorem processIssues_manageEach (settings : Settings) (hitem : tracker.Itemwise)
    (hclock : tracker.Shows s now) {issues : List Issue} (report : RepositoryReport)
    (hrecord : ∀ i ∈ issues, registry.recordFor i.reference.repository = some p)
    (hrefs : (issues.map Issue.reference).Nodup) (hfinds : ∀ i ∈ issues, tracker.Finds s i) :
    ∃ outcomes s' swept each,
      Adds (processIssues tracker.recorded settings p now false report issues) s
        ((outcomes.map Prod.snd).foldl RepositoryReport.count report) s' swept ∧
      Adds (manageEach tracker.recorded settings registry (issues.map Issue.reference)) s outcomes
        s' each ∧
      swept.filter TrackerUse.isWork = each.filter TrackerUse.isWork ∧
      swept.filterMap TrackerUse.givenUp? = outcomes.filterMap givenUp? := by
  induction issues generalizing report s with
  | nil => exact ⟨[], s, [], [], adds_pure _ s, adds_pure _ s, rfl, rfl⟩
  | cons i rest ih =>
    obtain ⟨hfresh, hrest⟩ := List.nodup_cons.1 hrefs
    obtain ⟨a, s', uses, hone, hwork, hspares⟩ :=
      processIssue_worksOn hitem settings p now i s
    have hkept : ∀ j ∈ rest, tracker.Finds s' j := by
      intro j hj
      refine hspares.others ?_ (hfinds j (List.mem_cons_of_mem i hj))
      intro hsame
      exact hfresh (List.mem_map.2 ⟨j, hj, hsame.symm⟩)
    obtain ⟨outcomes, s'', swept, each, hswept, heach, hsame, hfailed⟩ := ih (hspares.clock hclock)
      (report.count a) (fun j hj => hrecord j (List.mem_cons_of_mem i hj)) hrest hkept
    have hmanaged := manageOne_adds hclock (hrecord i List.mem_cons_self)
      (hfinds i List.mem_cons_self) hone
    have hnone : uses.filterMap TrackerUse.givenUp? = [] := by
      rw [List.filterMap_eq_nil_iff]
      intro use huse
      exact TrackerUse.givenUp?_of_isWork (hwork use huse)
    -- The event of an item that is given up is all that the sweep adds to the work.
    let ending : List TrackerUse := match a with
      | .ok _ => []
      | .error e => [.report (.failed i.reference e)]
    refine ⟨(i.reference, a) :: outcomes, s'', uses ++ (ending ++ swept),
      .lookup i.reference :: uses ++ (each ++ []), ?_, ?_, ?_, ?_⟩
    · rw [processIssues]
      refine hone.bind ?_
      cases a with
      | ok d => exact hswept
      | error e => exact (adds_noting (.report (.failed i.reference e)) (pure ()) s').bind hswept
    · exact hmanaged.bind (heach.bind (adds_pure _ s''))
    · have hending : ending.filter TrackerUse.isWork = [] := by
        cases a <;> rfl
      simp [hending, hsame, TrackerUse.isWork]
    · have hending : ending.filterMap TrackerUse.givenUp? =
          (givenUp? (i.reference, a)).toList := by
        cases a <;> rfl
      rw [List.filterMap_append, List.filterMap_append, hnone, hending, hfailed]
      cases a <;> rfl

/-- Sweeping a repository is managing each of its items, one after the other and whatever comes of
them: both do the same work and leave the same state, the sweep gives up the items that the manager
could not deal with, for the same reasons, and it counts the decisions of the others. -/
theorem sweep_one_by_one (hitem : tracker.Itemwise) (hclock : tracker.Shows s now)
    (settings : Settings) {r : RepositoryId} (hrecord : registry.recordFor r = some p)
    {issues : List Issue} (hlist : tracker.openIssues r s = (.ok issues, s))
    (hown : ∀ i ∈ issues, i.reference.repository = r)
    (hrefs : (issues.map Issue.reference).Nodup) (hfinds : ∀ i ∈ issues, tracker.Finds s i) :
    let sweep := sweepRepository tracker.recorded settings registry now false r { state := s }
    let each := manageEach tracker.recorded settings registry (issues.map Issue.reference)
      { state := s }
    sweep.2.state = each.2.state ∧
      sweep.2.uses.filter TrackerUse.isWork = each.2.uses.filter TrackerUse.isWork ∧
      sweep.2.uses.filterMap TrackerUse.givenUp? = each.1.filterMap givenUp? ∧
      sweep.1 = .swept (RepositoryReport.tally r (each.1.map Prod.snd)) := by
  have hrecords : ∀ i ∈ issues, registry.recordFor i.reference.repository = some p := by
    intro i hi
    rw [hown i hi, hrecord]
  obtain ⟨outcomes, s', swept, managed, hswept, hmanaged, hsame, hfailed⟩ :=
    processIssues_manageEach settings hitem hclock { repository := r } hrecords hrefs hfinds
  have hlisting := adds_noting (.listing r) (tracker.openIssues r) s
  rw [hlist] at hlisting
  let report := RepositoryReport.tally r (outcomes.map Prod.snd)
  have hsummary := adds_noting (.report (.summary r report.stats)) (pure ()) s'
  have hsweep : Adds (sweepRepository tracker.recorded settings registry now false r) s
      (.swept report) s'
      ([.listing r] ++ (swept ++ ([.report (.summary r report.stats)] ++ []))) := by
    rw [sweepRepository, hrecord]
    exact hlisting.bind (hswept.bind (hsummary.bind (adds_pure _ s')))
  intro sweep each
  have hsweep' : sweep = _ := hsweep.run
  have heach' : each = _ := hmanaged.run
  rw [hsweep', heach']
  refine ⟨rfl, ?_, ?_, rfl⟩
  · simp [hsame, TrackerUse.isWork]
  · simp [List.filterMap_cons, TrackerUse.givenUp?, hfailed]

end

/-! ### A repository with troubles -/

/-- A pull request that nothing can be found out about, one that takes no labels, and an issue that
nobody has triaged. -/
def troubledWorld : World :=
  { items := [{ issue := ⟨⟨⟨"istio", "istio"⟩, 1⟩, true, .clamp 0, .opened, [], ""⟩ },
      { issue := ⟨⟨⟨"istio", "istio"⟩, 2⟩, true, .clamp 0, .opened, [], ""⟩ },
      { issue := ⟨⟨⟨"istio", "istio"⟩, 3⟩, false, .clamp 0, .opened, ["bug"], ""⟩ }]
    pipelines := [(⟨⟨"istio", "istio"⟩, 3⟩, ⟨"New Issues"⟩)]
    failures := [⟨"activity", "istio/istio#1", none, .transport "no route"⟩,
      ⟨"add_label", "istio/istio#2", none, .api 500 "out of order"⟩]
    now := .clamp (40 * nanosPerDay) }

def troubledRegistry : Registry := ⟨[⟨"istio", "istio"⟩], some {}, []⟩

theorem sweep_one_by_one_troubled :
    troubledWorld.DistinctItems ∧ World.tracker.Itemwise ∧
      World.tracker.Shows troubledWorld troubledWorld.now ∧
      troubledRegistry.recordFor ⟨"istio", "istio"⟩ = some {} ∧
      World.tracker.openIssues ⟨"istio", "istio"⟩ troubledWorld =
        (.ok (troubledWorld.listed ⟨"istio", "istio"⟩), troubledWorld) ∧
      (∀ i ∈ troubledWorld.listed ⟨"istio", "istio"⟩, World.tracker.Finds troubledWorld i) ∧
      let sweep := sweepRepository World.tracker.recorded {} troubledRegistry troubledWorld.now
        false ⟨"istio", "istio"⟩ { state := troubledWorld }
      let each := manageEach World.tracker.recorded {} troubledRegistry
        ((troubledWorld.listed ⟨"istio", "istio"⟩).map Issue.reference) { state := troubledWorld }
      sweep.2.state = each.2.state ∧
        sweep.2.uses.filter TrackerUse.isWork = each.2.uses.filter TrackerUse.isWork ∧
        sweep.2.uses.filterMap TrackerUse.givenUp? = each.1.filterMap givenUp? ∧
        sweep.1 = .swept (.tally ⟨"istio", "istio"⟩ (each.1.map Prod.snd)) ∧
        each.1.filterMap givenUp? =
          [(⟨⟨"istio", "istio"⟩, 1⟩, .signalLookup ⟨⟨"istio", "istio"⟩, 1⟩ .memberActivity
              (.transport "no route")),
            (⟨⟨"istio", "istio"⟩, 2⟩, .actionApply ⟨⟨"istio", "istio"⟩, 2⟩
              (.addLabel "lifecycle/stale") (.api 500 "out of order"))] := by
  have hdistinct : troubledWorld.DistinctItems := by decide
  have hclock : World.tracker.Shows troubledWorld troubledWorld.now := rfl
  have hrecord : troubledRegistry.recordFor ⟨"istio", "istio"⟩ = some {} := rfl
  have hlist : World.tracker.openIssues ⟨"istio", "istio"⟩ troubledWorld =
      (.ok (troubledWorld.listed ⟨"istio", "istio"⟩), troubledWorld) := rfl
  have hfinds : ∀ i ∈ troubledWorld.listed ⟨"istio", "istio"⟩,
      World.tracker.Finds troubledWorld i := by
    intro i hi
    exact World.finds_of_listed hdistinct hi rfl
  obtain ⟨hstate, hwork, hfailed, hreport⟩ := sweep_one_by_one World.tracker_itemwise hclock {}
    hrecord hlist (fun i hi => World.repository_of_mem_listed hi) (by decide) hfinds
  exact ⟨hdistinct, World.tracker_itemwise, hclock, hrecord, hlist, hfinds, hstate, hwork, hfailed,
    hreport, by decide +kernel⟩

end Manager

end Upkeep
