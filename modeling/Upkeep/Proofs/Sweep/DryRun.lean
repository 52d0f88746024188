import Upkeep.Proofs.Sweep.Calls
/-!
# Dry runs

A dry run asks for no change and leaves the items alone. Where nothing is refused, a wet run from
the same start comes to the same result and reports the same events, and carries out each action
just before it reports it (`dry_run_foretells`).
-/

namespace Upkeep

/-- What stands in the trail of a wet run where a dry run only reports an event. -/
def Event.carriedOut : Event → List TrailEntry
  | .action ref a _ => [.call ref (.ofAction a), .seen (.action ref a false)]
  | e => [.seen e]

/-- A trail of a wet run where a dry run has only events, none of them of an action carried out. -/
def Foretold (dry wet : List TrailEntry) : Prop :=
  ∃ events : List Event, (∀ ref a, .action ref a false ∉ events) ∧
    dry = events.map .seen ∧ wet = events.flatMap Event.carriedOut

namespace Foretold

variable {dry wet dry' wet' : List TrailEntry}

theorem nil : Foretold [] [] := ⟨[], nofun, rfl, rfl⟩

theorem append (h : Foretold dry wet) (h' : Foretold dry' wet') :
    Foretold (dry ++ dry') (wet ++ wet') := by
  obtain ⟨es, hes, rfl, rfl⟩ := h
  obtain ⟨fs, hfs, rfl, rfl⟩ := h'
  exact ⟨es ++ fs, fun ref a hm => (List.mem_append.1 hm).elim (hes ref a) (hfs ref a),
    List.map_append.symm, List.flatMap_append.symm⟩

theorem single {e : Event} (he : e.carriedOut = [.seen e]) : Foretold [.seen e] [.seen e] := by
  refine ⟨[e], fun ref a hm => ?_, rfl, by rw [List.flatMap_singleton, he]⟩
  obtain rfl := List.mem_singleton.1 hm
  cases he

theorem action (ref : IssueRef) (a : Action) :
    Foretold [.seen (.action ref a true)]
      [.call ref (.ofAction a), .seen (.action ref a false)] :=
  ⟨[.action ref a true], by simp, rfl, rfl⟩

theorem flatMap {α : Type} {l : List α} {f g : α → List TrailEntry}
    (h : ∀ x ∈ l, Foretold (f x) (g x)) : Foretold (l.flatMap f) (l.flatMap g) := by
  induction l with
  | nil => exact nil
  | cons x l ih =>
    rw [List.flatMap_cons, List.flatMap_cons]
    exact (h x List.mem_cons_self).append (ih fun y hy => h y (List.mem_cons_of_mem _ hy))

end Foretold

namespace World

variable {w : World} {ref : IssueRef} {r : RepositoryId}

/-! ## Dry runs change nothing -/

section

variable {settings : Settings} {registry : Registry} {p : PolicyRecord} {now : Instant} {i : Issue}
  {m : Mutation}

theorem call_mem_itemTrail {dryRun : Bool}
    (h : .call ref m ∈ w.itemTrail settings p now dryRun i) :
    ∃ s, w.signalsOf settings i = .ok s ∧
      .call ref m ∈ w.actionTrail i.reference dryRun (evaluate i p s now).actions := by
  rcases List.mem_append.1 h with h | h
  · unfold decisionTrail at h
    split at h
    · cases h
    · next s hs => exact ⟨s, hs, (List.mem_cons.1 h).resolve_left nofun⟩
  · unfold ending at h
    split at h <;> simp at h

/-- A dry run asks for no change. -/
theorem call_notMem_repositoryTrail :
    .call ref m ∉ w.repositoryTrail settings registry now true r := by
  have hactions (i : IssueRef) (as : List Action) : .call ref m ∉ w.actionTrail i true as := by
    induction as with
    | nil => exact List.not_mem_nil
    | cons a as ih => simpa [actionTrail] using ih
  intro h
  obtain ⟨p, issues, i, -, -, -, -, hturn⟩ := listed_of_mem_repositoryTrail h rfl
  obtain ⟨s, -, hcall⟩ := call_mem_itemTrail hturn
  exact hactions _ _ hcall

/-- A dry run leaves all items as they are, however the repositories are interleaved. -/
theorem run_sweepAll_items_dry {pool : Pool (Fiber World)}
    (hpool : pool.Lawful) (settings : Settings) (hr : registry.repositories.Nodup)
    (t : Timeline World) :
    let run := (Manager.sweepAll tracker.steps pool settings registry true).run t
    run.2.state.items = t.state.items ∧ run.2.state.setting = t.state.setting := by
  intro run
  have hshares := (run_sweepAll hpool settings hr true t).2
  refine ⟨items_eq_of_owned fun r => (congrArg Share.items (hshares r)).trans ?_,
    (congrArg Share.setting (hshares default)).trans ?_⟩
  · split
    · have halone := sweepRepository_accountsFor settings t.state.now true registry r t.state
      exact congrArg _ (halone.eq_of_no_call fun _ _ => call_notMem_repositoryTrail)
    · rfl
  · split
    · exact (sweepRepository_yields settings t.state.now true registry _ t.state).setting
    · rfl

/-! ## Where nothing is refused -/

/-- The world refuses none of the changes that the entries ask for. -/
def Accepts (w : World) (entries : List TrailEntry) : Prop :=
  ∀ ref m, .call ref m ∈ entries → w.failureOf (.ofMutation m) ref.text m.argument? = none

theorem Accepts.mono {entries others : List TrailEntry} (h : w.Accepts entries)
    (hsub : others ⊆ entries) : w.Accepts others := fun ref m hm => h ref m (hsub hm)

/-- Of actions of which none is refused, all are carried out. -/
theorem actionTrail_foretold {as : List Action} (h : w.Accepts (w.actionTrail ref false as)) :
    Foretold (w.actionTrail ref true as) (w.actionTrail ref false as) ∧
      w.rejection? ref false as = none := by
  induction as with
  | nil => exact ⟨.nil, rfl⟩
  | cons a as ih =>
    have hcall : .call ref (.ofAction a) ∈ w.actionTrail ref false (a :: as) := by
      rw [actionTrail, if_neg Bool.false_ne_true]
      exact List.mem_cons_self
    have ha : w.refusal ref a = none := h _ _ hcall
    have hcons : w.actionTrail ref false (a :: as) = .call ref (.ofAction a) ::
        .seen (.action ref a false) :: w.actionTrail ref false as := by
      rw [actionTrail, if_neg Bool.false_ne_true, ha]
    rw [hcons] at h ⊢
    obtain ⟨hrest, hnone⟩ :=
      ih (h.mono fun _ he => List.mem_cons_of_mem _ (List.mem_cons_of_mem _ he))
    refine ⟨(Foretold.action ref a).append hrest, ?_⟩
    rw [rejection?, if_neg Bool.false_ne_true] at hnone ⊢
    rw [List.findSome?_cons, ha]
    exact hnone

/-- An item of which no change is refused comes to the same in a dry run. -/
theorem itemTrail_foretold (h : w.Accepts (w.itemTrail settings p now false i)) :
    Foretold (w.itemTrail settings p now true i) (w.itemTrail settings p now false i) ∧
      w.verdict settings p now true i = w.verdict settings p now false i := by
  have hdecision := h.mono (List.subset_append_left _ _)
  unfold itemTrail verdict
  unfold decisionTrail at hdecision ⊢
  split at hdecision
  · exact ⟨.single rfl, rfl⟩
  · next s hs =>
    obtain ⟨hactions, hnone⟩ := actionTrail_foretold (hdecision.mono (List.subset_cons_self _ _))
    dsimp only
    rw [hnone, rejection?, if_pos rfl]
    exact ⟨((Foretold.single rfl).append hactions).append .nil, rfl⟩

/-- A repository of which no change is refused comes to the same in a dry run. -/
theorem repositoryTrail_foretold
    (h : w.Accepts (w.repositoryTrail settings registry now false r)) :
    Foretold (w.repositoryTrail settings registry now true r)
        (w.repositoryTrail settings registry now false r) ∧
      w.outcome settings registry now true r = w.outcome settings registry now false r := by
  unfold repositoryTrail outcome at *
  split
  · exact ⟨.single rfl, rfl⟩
  · next p hp =>
    rw [hp] at h
    dsimp only at h
    split
    · exact ⟨.single rfl, rfl⟩
    · next issues hissues =>
      rw [hissues] at h
      have hitem (i : Issue) (hi : i ∈ issues) := itemTrail_foretold
        (h.mono fun _ he => List.mem_append_left _ (List.mem_flatMap_of_mem hi he))
      have hverdicts := List.map_congr_left fun i hi => (hitem i hi).2
      rw [hverdicts]
      exact ⟨(Foretold.flatMap fun i hi => (hitem i hi).1).append (.single rfl), rfl⟩

end

/-! ## Whole sweeps -/

open SweepReport

/-- A dry run foretells a wet run that began in the same world. -/
structure Foretells (before : World) (dry wet : Except SweepError SweepReport × Timeline World) :
    Prop where
  error_iff : (∃ e, dry.1 = .error e) ↔ ∃ e, wet.1 = .error e
  source : source? dry.1 = source? wet.1
  repositories : (ofResult dry.1).repositories = (ofResult wet.1).repositories
  skipped : (ofResult dry.1).skipped = (ofResult wet.1).skipped
  /-- What the two runs add to the trail about a repository. -/
  trail : ∀ r, ∃ reported applied, Foretold reported applied ∧
    dry.2.state.trailOf r = before.trailOf r ++ reported ∧
    wet.2.state.trailOf r = before.trailOf r ++ applied

/-- What the trail of a later world says about a repository in addition. -/
def trailSince (w before : World) (r : RepositoryId) : List TrailEntry :=
  (w.trailOf r).drop (before.trailOf r).length

/-- A dry run asks for no change and leaves every item as it is. It foretells every wet run from the
same start of which no change is refused. -/
theorem dry_run_foretells {repositories : List RepositoryId} {default? : Option PolicyRecord}
    {overrides : List PolicyOverride} {registry : Registry}
    (hreg : Registry.build repositories default? overrides = .ok registry)
    {pool pool' : Pool (Fiber World)} (hpool : pool.Lawful) (hpool' : pool'.Lawful)
    (settings : Settings) (t : Timeline World) :
    let dry := (Manager.sweepAll tracker.steps pool settings registry true).run t
    let wet := (Manager.sweepAll tracker.steps pool' settings registry false).run t
    dry.2.state.items = t.state.items ∧ dry.2.state.setting = t.state.setting ∧
      (∀ r, ∃ added, dry.2.state.trailOf r = t.state.trailOf r ++ added ∧
        ∀ ref m, .call ref m ∉ added) ∧
      ((∀ r, t.state.Accepts (wet.2.state.trailSince t.state r)) →
        Foretells t.state dry wet) := by
  intro dry wet
  have hnodup := Registry.nodup_of_build hreg
  obtain ⟨hitems, hsetting⟩ := run_sweepAll_items_dry hpool settings hnodup t
  have hdry := run_sweepAll_trailOf hpool settings hnodup true t
  have hwet := run_sweepAll_trailOf hpool' settings hnodup false t
  refine ⟨hitems, hsetting, fun r => ⟨_, hdry r, fun ref m => ?_⟩, fun hacc => ?_⟩
  · split
    · exact call_notMem_repositoryTrail
    · exact List.not_mem_nil
  have hrepository (r : RepositoryId) (hr : r ∈ registry.repositories) := by
    have h := hacc r
    rw [trailSince, hwet r, if_pos hr, List.drop_left] at h
    exact repositoryTrail_foretold h
  have houtcomes : registry.repositories.map (t.state.outcomeOf settings registry true) =
      registry.repositories.map (t.state.outcomeOf settings registry false) :=
    List.map_congr_left fun r hr => by rw [outcomeOf_eq, outcomeOf_eq, (hrepository r hr).2]
  have hdry' : dry.1 = conclude true _ := (run_sweepAll hpool settings hnodup true t).1
  have hwet' : wet.1 = conclude false _ := (run_sweepAll hpool' settings hnodup false t).1
  rw [houtcomes] at hdry'
  have hsource : source? dry.1 = source? wet.1 := by
    rw [hdry', hwet', source?_conclude, source?_conclude]
  refine ⟨?_, hsource, ?_, ?_, fun r => ⟨_, _, ?_, hdry r, hwet r⟩⟩
  · rw [exists_error_iff, exists_error_iff, hsource]
  · rw [hdry', hwet', ofResult_conclude, ofResult_conclude]
    rfl
  · rw [hdry', hwet', ofResult_conclude, ofResult_conclude]
    rfl
  · split
    · next hr => exact (hrepository r hr).1
    · exact .nil

/-- An issue that nobody has triaged, in a world that refuses nothing. -/
def untriagedWorld : World :=
  { items := [{ issue := ⟨⟨⟨"istio", "istio"⟩, 3⟩, false, .clamp 0, .opened, ["bug"], ""⟩ }]
    pipelines := [(⟨⟨"istio", "istio"⟩, 3⟩, ⟨"New Issues"⟩)]
    now := .clamp (3 * nanosPerDay) }

def untriagedRegistry : Registry := ⟨[⟨"istio", "istio"⟩], some {}, []⟩

/-- The dry run reports the triage label that the wet run adds. -/
theorem dry_run_foretells_untriaged :
    let i : IssueRef := ⟨⟨"istio", "istio"⟩, 3⟩
    Registry.build [⟨"istio", "istio"⟩] (some {}) [] = .ok untriagedRegistry ∧
      let dry := (Manager.sweepAll tracker.steps (Pool.inTurn []) {} untriagedRegistry true).run
        { state := untriagedWorld }
      let wet := (Manager.sweepAll tracker.steps ⟨Fiber.pool⟩ {} untriagedRegistry false).run
        { state := untriagedWorld }
      dry.2.state.trailOf i.repository =
          [.seen (.evaluated i .needsTriage),
            .seen (.action i (.addLabel "lifecycle/needs triage") true),
            .seen (.summary i.repository { markedNeedsTriage := 1 })] ∧
        wet.2.state.trailOf i.repository =
          [.seen (.evaluated i .needsTriage),
            .call i (.addLabel "lifecycle/needs triage"),
            .seen (.action i (.addLabel "lifecycle/needs triage") false),
            .seen (.summary i.repository { markedNeedsTriage := 1 })] ∧
        dry.2.state.items = untriagedWorld.items ∧
        Foretells untriagedWorld dry wet := by
  intro i
  have hreg : Registry.build [⟨"istio", "istio"⟩] (some {}) [] = .ok untriagedRegistry := rfl
  have hnodup := Registry.nodup_of_build hreg
  obtain ⟨hitems, -, -, hforetells⟩ := dry_run_foretells hreg (Fiber.lawful_inTurn [])
    Fiber.lawful_pool {} { state := untriagedWorld }
  refine ⟨hreg, ?_, ?_, hitems, hforetells fun _ _ _ _ => rfl⟩
  · rw [run_sweepAll_trailOf (Fiber.lawful_inTurn []) {} hnodup true]
    decide
  · rw [run_sweepAll_trailOf Fiber.lawful_pool {} hnodup false]
    decide

end World

end Upkeep
