import Upkeep.Proofs.Sweep.Items
import Upkeep.Proofs.Sweep.Schedule
/-!
# What comes of a repository, and what the trail says about it

Once the items of a repository are listed, nothing that the sweep changes is read again. What comes
of an item (`World.verdict`) and what the trail says about it (`World.itemTrail`) therefore depend
on the answers of the world as they were in the beginning, dry run or not
(`sweepRepository_yields`).
-/

namespace Upkeep

/-- The report with one more item. -/
def RepositoryReport.count (report : RepositoryReport) :
    Except LifecycleError Decision → RepositoryReport
  | .ok d => { report with stats := report.stats.add d.stats, processed := report.processed + 1 }
  | .error _ => { report with failed := report.failed + 1 }

/-- The report on a repository from what came of its items. -/
def RepositoryReport.tally (r : RepositoryId) (verdicts : List (Except LifecycleError Decision)) :
    RepositoryReport :=
  verdicts.foldl count { repository := r }

/-- The item that an event is about. Summaries and skipped repositories are about none. -/
def Event.issue? : Event → Option IssueRef
  | .action issue _ _ => some issue
  | .evaluated issue _ => some issue
  | .failed issue _ => some issue
  | .summary _ _ => none
  | .skipped _ _ => none

/-- The item that an entry of the trail is about. -/
def TrailEntry.issue? : TrailEntry → Option IssueRef
  | .call issue _ => some issue
  | .seen event => event.issue?

theorem TrailEntry.repository_of_issue? {entry : TrailEntry} {ref : IssueRef}
    (h : entry.issue? = some ref) : entry.repository = ref.repository := by
  cases entry with
  | call issue m => exact congrArg IssueRef.repository (Option.some.inj h)
  | seen event => cases event <;> cases h <;> rfl

namespace World

variable {w v : World} {ref : IssueRef} {r : RepositoryId} {α β : Type}

/-! ## From the answers of the world -/

/-- The first of the actions that is refused. In a dry run none is. -/
def rejection? (w : World) (ref : IssueRef) (dryRun : Bool) (as : List Action) :
    Option LifecycleError :=
  if dryRun then none else as.findSome? fun a => (w.refusal ref a).map (.actionApply ref a)

/-- What the trail says about actions, up to the first that is refused. -/
def actionTrail (w : World) (ref : IssueRef) (dryRun : Bool) : List Action → List TrailEntry
  | [] => []
  | a :: as =>
    if dryRun then .seen (.action ref a true) :: actionTrail w ref dryRun as
    else .call ref (.ofAction a) :: match w.refusal ref a with
      | some _ => []
      | none => .seen (.action ref a false) :: actionTrail w ref dryRun as

/-- What comes of an item: the decision that was applied, or why it was given up. -/
def verdict (w : World) (settings : Settings) (p : PolicyRecord) (now : Instant) (dryRun : Bool)
    (i : Issue) : Except LifecycleError Decision :=
  match w.signalsOf settings i with
  | .error e => .error e
  | .ok s =>
    let d := evaluate i p s now
    match w.rejection? i.reference dryRun d.actions with
    | some e => .error e
    | none => .ok d

/-- What the trail says about deciding on an item. -/
def decisionTrail (w : World) (settings : Settings) (p : PolicyRecord) (now : Instant)
    (dryRun : Bool) (i : Issue) : List TrailEntry :=
  match w.signalsOf settings i with
  | .error _ => []
  | .ok s =>
    let d := evaluate i p s now
    .seen (.evaluated i.reference d.disposition) :: w.actionTrail i.reference dryRun d.actions

/-- What the trail says about the end of an item. -/
def ending (i : Issue) : Except LifecycleError Decision → List TrailEntry
  | .ok _ => []
  | .error e => [.seen (.failed i.reference e)]

/-- What the trail says about an item. -/
def itemTrail (w : World) (settings : Settings) (p : PolicyRecord) (now : Instant) (dryRun : Bool)
    (i : Issue) : List TrailEntry :=
  w.decisionTrail settings p now dryRun i ++ ending i (w.verdict settings p now dryRun i)

/-- What comes of a repository. -/
def outcome (w : World) (settings : Settings) (registry : Registry) (now : Instant)
    (dryRun : Bool) (r : RepositoryId) : RepositoryOutcome :=
  match registry.recordFor r with
  | none => .skipped r
  | some p => match w.openIssues r with
    | .error e => .failed (.structural r e)
    | .ok issues => .swept (.tally r (issues.map (w.verdict settings p now dryRun)))

/-- What the trail says about a repository. -/
def repositoryTrail (w : World) (settings : Settings) (registry : Registry) (now : Instant)
    (dryRun : Bool) (r : RepositoryId) : List TrailEntry :=
  match registry.recordFor r with
  | none => [.seen (.skipped r (.policyMissing r))]
  | some p => match w.openIssues r with
    | .error e => [.seen (.skipped r (.structural r e))]
    | .ok issues => issues.flatMap (w.itemTrail settings p now dryRun) ++
        [.seen (.summary r
          (RepositoryReport.tally r (issues.map (w.verdict settings p now dryRun))).stats)]

/-- Two worlds give the same answers about an item. -/
structure AnswersAlike (ref : IssueRef) (w v : World) : Prop where
  comment : w.comments.lookup ref = v.comments.lookup ref
  activity : w.activity.lookup ref = v.activity.lookup ref
  pipeline : w.pipelines.lookup ref = v.pipelines.lookup ref
  failures : ∀ operation argument?,
    w.failureOf operation ref.text argument? = v.failureOf operation ref.text argument?
  stalls : ∀ operation, w.stallOf operation ref.text = v.stallOf operation ref.text

theorem AnswersAlike.of_setting (h : w.setting = v.setting) (ref : IssueRef) :
    AnswersAlike ref w v := by
  rw [eq_of_setting h]
  exact ⟨rfl, rfl, rfl, fun _ _ => rfl, fun _ => rfl⟩

section

variable {settings : Settings} {p : PolicyRecord} {now : Instant} {dryRun : Bool} {i : Issue}

theorem AnswersAlike.signalsOf (h : AnswersAlike i.reference w v) (settings : Settings) :
    w.signalsOf settings i = v.signalsOf settings i := by
  unfold World.signalsOf World.signals memberSignals World.pipeline look
  simp only [h.comment, h.activity, h.pipeline, h.failures, h.stalls]

theorem AnswersAlike.refusal (h : AnswersAlike ref w v) : w.refusal ref = v.refusal ref :=
  funext fun _ => h.failures _ _

theorem AnswersAlike.actionTrail (h : AnswersAlike ref w v) (dryRun : Bool) (as : List Action) :
    w.actionTrail ref dryRun as = v.actionTrail ref dryRun as := by
  induction as with
  | nil => rfl
  | cons a as ih => rw [World.actionTrail, World.actionTrail, ih, h.refusal]

theorem AnswersAlike.verdict (h : AnswersAlike i.reference w v) :
    w.verdict settings p now dryRun i = v.verdict settings p now dryRun i := by
  unfold World.verdict rejection?
  rw [h.signalsOf, h.refusal]

theorem AnswersAlike.itemTrail (h : AnswersAlike i.reference w v) :
    w.itemTrail settings p now dryRun i = v.itemTrail settings p now dryRun i := by
  unfold World.itemTrail decisionTrail
  simp only [h.verdict, h.signalsOf, h.actionTrail]

/-- What is carried out on an item is a matter of the answers about it. -/
theorem AnswersAlike.settled {it : WorldItem} (h : AnswersAlike it.issue.reference w v) :
    w.settled settings p now it = v.settled settings p now it := by
  unfold World.settled done accepted
  rw [h.signalsOf, h.refusal]

end

/-! ## From carrying it out -/

/-- A computation gives a result and adds entries to the trail. The setting stays as it is. -/
structure Yields (x : StateM World α) (w : World) (a : α) (entries : List TrailEntry) : Prop where
  result : (x w).1 = a
  trail : (x w).2.trail = w.trail ++ entries
  setting : (x w).2.setting = w.setting

theorem yields_pure (a : α) (w : World) : Yields (pure a) w a [] :=
  ⟨rfl, (List.append_nil _).symm, rfl⟩

theorem Yields.bind {x : StateM World α} {k : α → StateM World β} {a : α} {b : β}
    {es fs : List TrailEntry} (hx : Yields x w a es)
    (hk : ∀ u : World, u.setting = w.setting → Yields (k a) u b fs) :
    Yields (x >>= k) w b (es ++ fs) := by
  obtain ⟨hresult, htrail, hsetting⟩ := hk _ hx.setting
  have hrun : (x >>= k) w = k a (x w).2 := by rw [bind_apply, hx.result]
  refine ⟨by rw [hrun, hresult], ?_, by rw [hrun, hsetting, hx.setting]⟩
  rw [hrun, htrail, hx.trail, List.append_assoc]

theorem yields_observe (e : Event) (w : World) : Yields (tracker.observe e) w () [.seen e] :=
  ⟨rfl, rfl, rfl⟩

theorem listed_of_openIssues {issues : List Issue} (h : w.openIssues r = .ok issues) :
    w.listed r = issues := by
  unfold openIssues at h
  split at h
  · cases h
  · exact Except.ok.inj h

theorem yields_openIssues (r : RepositoryId) (w : World) :
    Yields (tracker.openIssues r) w (w.openIssues r) [] :=
  ⟨rfl, (List.append_nil _).symm, rfl⟩

theorem yields_signalsFor (settings : Settings) (i : Issue) (w : World) :
    Yields (Manager.signalsFor tracker settings i) w (w.signalsOf settings i) [] := by
  have hs := signalsFor_apply w settings i
  exact ⟨congrArg Prod.fst hs, (congrArg (·.2.trail) hs).trans (List.append_nil _).symm,
    congrArg (·.2.setting) hs⟩

theorem yields_mutate (ref : IssueRef) (a : Action) (w : World) :
    Yields (tracker.mutate ref (.ofAction a)) w
      (match w.refusal ref a with
        | some e => .error e
        | none => .ok ())
      [.call ref (.ofAction a)] := by
  have hm : tracker.mutate ref (.ofAction a) w = match w.refusal ref a with
      | some e => (.error e, w.note (.call ref (.ofAction a)))
      | none => (.ok (), (w.note (.call ref (.ofAction a))).change ref (.ofAction a)) := rfl
  cases h : w.refusal ref a <;> rw [h] at hm <;>
    exact ⟨congrArg Prod.fst hm, congrArg (·.2.trail) hm, congrArg (·.2.setting) hm⟩

theorem applyActions_yields (ref : IssueRef) (dryRun : Bool) (as : List Action) (w : World) :
    Yields (Manager.applyActions tracker ref dryRun as) w
      (match w.rejection? ref dryRun as with
        | some e => .error e
        | none => .ok ())
      (w.actionTrail ref dryRun as) := by
  induction as generalizing w with
  | nil => cases dryRun <;> exact yields_pure _ w
  | cons a as ih =>
    rw [Manager.applyActions]
    cases dryRun with
    | true =>
      refine (yields_pure (Except.ok ()) w).bind fun u hu => ?_
      refine (yields_observe _ u).bind fun u' hu' => ?_
      rw [← (AnswersAlike.of_setting (hu'.trans hu) ref).actionTrail]
      exact ih u'
    | false =>
      have hm := yields_mutate ref a w
      rw [rejection?, if_neg Bool.false_ne_true, List.findSome?_cons, actionTrail,
        if_neg Bool.false_ne_true]
      cases h : w.refusal ref a with
      | some e =>
        rw [h] at hm
        exact hm.bind fun u _ => yields_pure _ u
      | none =>
        rw [h] at hm
        refine hm.bind fun u hu => ?_
        refine (yields_observe _ u).bind fun u' hu' => ?_
        have hsame := AnswersAlike.of_setting (hu'.trans hu) ref
        rw [← hsame.actionTrail, ← hsame.refusal]
        exact ih u'

section

variable (settings : Settings) (p : PolicyRecord) (now : Instant) (dryRun : Bool)

theorem processIssue_yields (i : Issue) (w : World) :
    Yields (Manager.processIssue tracker settings p now dryRun i) w
      (w.verdict settings p now dryRun i) (w.decisionTrail settings p now dryRun i) := by
  have hsignals := yields_signalsFor settings i w
  rw [verdict, decisionTrail]
  cases h : w.signalsOf settings i with
  | error e =>
    rw [h] at hsignals
    exact hsignals.bind fun u _ => yields_pure _ u
  | ok s =>
    rw [h] at hsignals
    refine hsignals.bind fun u hu => ?_
    refine (yields_observe _ u).bind fun u' hu' => ?_
    have hsame := AnswersAlike.of_setting (hu'.trans hu) i.reference
    have happly := applyActions_yields i.reference dryRun (evaluate i p s now).actions u'
    rw [rejection?, hsame.refusal, ← rejection?, hsame.actionTrail] at happly
    dsimp only
    cases hr : w.rejection? i.reference dryRun (evaluate i p s now).actions <;>
      rw [hr] at happly <;>
      exact (List.append_nil (w.actionTrail _ _ _)) ▸ happly.bind fun u _ => yields_pure _ u

theorem processIssues_yields (report : RepositoryReport) (issues : List Issue) (w : World) :
    Yields (Manager.processIssues tracker settings p now dryRun report issues) w
      ((issues.map (w.verdict settings p now dryRun)).foldl RepositoryReport.count report)
      (issues.flatMap (w.itemTrail settings p now dryRun)) := by
  induction issues generalizing report w with
  | nil => exact yields_pure report w
  | cons i rest ih =>
    have hrest (report : RepositoryReport) {u : World} (hu : u.setting = w.setting) :
        Yields (Manager.processIssues tracker settings p now dryRun report rest) u
          ((rest.map (w.verdict settings p now dryRun)).foldl RepositoryReport.count report)
          (rest.flatMap (w.itemTrail settings p now dryRun)) := by
      have hsame (j : Issue) := AnswersAlike.of_setting hu j.reference
      rw [List.map_congr_left fun j _ => (hsame j).verdict.symm,
        List.flatMap_congr fun j _ => (hsame j).itemTrail.symm]
      exact ih report u
    have hone := processIssue_yields settings p now dryRun i w
    rw [Manager.processIssues, List.map_cons, List.foldl_cons, List.flatMap_cons, itemTrail,
      List.append_assoc]
    refine hone.bind fun u hu => ?_
    cases w.verdict settings p now dryRun i with
    | ok d => exact hrest _ hu
    | error e =>
      exact (yields_observe (.failed i.reference e) u).bind fun u' hu' => hrest _ (hu'.trans hu)

/-- What comes of a repository and what the trail says about it is settled by the answers of the
world as they are before the repository is swept. -/
theorem sweepRepository_yields (registry : Registry) (r : RepositoryId) (w : World) :
    Yields (Manager.sweepRepository tracker settings registry now dryRun r) w
      (w.outcome settings registry now dryRun r)
      (w.repositoryTrail settings registry now dryRun r) := by
  rw [Manager.sweepRepository, outcome, repositoryTrail]
  cases registry.recordFor r with
  | none => exact (yields_observe _ w).bind fun u _ => yields_pure _ u
  | some p =>
    have hlist := yields_openIssues r w
    dsimp only
    cases h : w.openIssues r with
    | error e =>
      rw [h] at hlist
      exact hlist.bind fun u _ => (yields_observe _ u).bind fun u' _ => yields_pure _ u'
    | ok issues =>
      rw [h] at hlist
      refine hlist.bind fun u hu => ?_
      have hsame (j : Issue) := AnswersAlike.of_setting hu j.reference
      have hall := processIssues_yields settings p now dryRun { repository := r } issues u
      rw [List.map_congr_left fun j _ => (hsame j).verdict,
        List.flatMap_congr fun j _ => (hsame j).itemTrail] at hall
      exact hall.bind fun u' _ => (yields_observe _ u').bind fun u'' _ => yields_pure _ u''

end

/-! ## In a whole sweep -/

/-- What the trail of the world says about a repository. -/
def trailOf (w : World) (r : RepositoryId) : List TrailEntry := w.trail.filter (·.repository == r)

section

variable {settings : Settings} {registry : Registry} {p : PolicyRecord} {now : Instant}
  {dryRun : Bool} {entry : TrailEntry}

theorem issue?_of_mem_actionTrail {as : List Action} (h : entry ∈ w.actionTrail ref dryRun as) :
    entry.issue? = some ref := by
  induction as with
  | nil => cases h
  | cons a as ih =>
    rw [actionTrail] at h
    split at h
    · rcases List.mem_cons.1 h with rfl | h
      · rfl
      · exact ih h
    · rcases List.mem_cons.1 h with rfl | h
      · rfl
      split at h
      · cases h
      · rcases List.mem_cons.1 h with rfl | h
        · rfl
        · exact ih h

theorem issue?_of_mem_itemTrail {i : Issue} (h : entry ∈ w.itemTrail settings p now dryRun i) :
    entry.issue? = some i.reference := by
  rcases List.mem_append.1 h with h | h
  · unfold decisionTrail at h
    split at h
    · cases h
    · rcases List.mem_cons.1 h with rfl | h
      · rfl
      · exact issue?_of_mem_actionTrail h
  · unfold ending at h
    split at h
    · cases h
    · obtain rfl := List.mem_singleton.1 h
      rfl

/-- What the trail says about a repository whose items were listed. -/
theorem repositoryTrail_of_listed {issues : List Issue} (hrecord : registry.recordFor r = some p)
    (hlist : w.openIssues r = .ok issues) :
    w.repositoryTrail settings registry now dryRun r =
      issues.flatMap (w.itemTrail settings p now dryRun) ++
        [.seen (.summary r (RepositoryReport.tally r
          (issues.map (w.verdict settings p now dryRun))).stats)] := by
  unfold repositoryTrail
  rw [hrecord]
  dsimp only
  rw [hlist]

/-- What the trail says about an item, it says where one of the listed items had its turn. -/
theorem listed_of_mem_repositoryTrail
    (h : entry ∈ w.repositoryTrail settings registry now dryRun r)
    (hentry : entry.issue? = some ref) :
    ∃ p issues i, registry.recordFor r = some p ∧ w.openIssues r = .ok issues ∧ i ∈ issues ∧
      i.reference = ref ∧ entry ∈ w.itemTrail settings p now dryRun i := by
  cases hrecord : registry.recordFor r with
  | none =>
    obtain rfl : entry = _ := by simpa [repositoryTrail, hrecord] using h
    cases hentry
  | some p =>
    cases hlist : w.openIssues r with
    | error e =>
      obtain rfl : entry = _ := by simpa [repositoryTrail, hrecord, hlist] using h
      cases hentry
    | ok issues =>
      rw [repositoryTrail_of_listed hrecord hlist] at h
      rcases List.mem_append.1 h with h | h
      · obtain ⟨i, hi, hturn⟩ := List.mem_flatMap.1 h
        have href := Option.some.inj ((issue?_of_mem_itemTrail hturn).symm.trans hentry)
        exact ⟨p, issues, i, rfl, rfl, hi, href, hturn⟩
      · obtain rfl := List.mem_singleton.1 h
        cases hentry

theorem repository_of_mem_repositoryTrail
    (h : entry ∈ w.repositoryTrail settings registry now dryRun r) : entry.repository = r := by
  unfold repositoryTrail at h
  split at h
  · obtain rfl := List.mem_singleton.1 h
    rfl
  split at h
  · obtain rfl := List.mem_singleton.1 h
    rfl
  · next issues hlist =>
    rcases List.mem_append.1 h with h | h
    · obtain ⟨i, hi, h⟩ := List.mem_flatMap.1 h
      rw [TrailEntry.repository_of_issue? (issue?_of_mem_itemTrail h),
        repository_of_mem_listed (listed_of_openIssues hlist ▸ hi)]
    · obtain rfl := List.mem_singleton.1 h
      rfl

theorem outcomeOf_eq (w : World) (settings : Settings) (registry : Registry) (dryRun : Bool)
    (r : RepositoryId) :
    w.outcomeOf settings registry dryRun r = w.outcome settings registry w.now dryRun r :=
  (sweepRepository_yields settings w.now dryRun registry r w).result

/-- However the repositories are interleaved, the trail says about each of them what it would say if
it were swept alone. -/
theorem run_sweepAll_trailOf {pool : Pool (Fiber World)} (hpool : pool.Lawful)
    (settings : Settings) (hr : registry.repositories.Nodup) (dryRun : Bool) (t : Timeline World)
    (r : RepositoryId) :
    ((Manager.sweepAll tracker.steps pool settings registry dryRun).run t).2.state.trailOf r =
      t.state.trailOf r ++ if r ∈ registry.repositories then
        t.state.repositoryTrail settings registry t.state.now dryRun r else [] := by
  have hown : (t.state.repositoryTrail settings registry t.state.now dryRun r).filter
      (·.repository == r) = t.state.repositoryTrail settings registry t.state.now dryRun r :=
    List.filter_eq_self.2 fun e he => beq_iff_eq.2 (repository_of_mem_repositoryTrail he)
  have halone := (sweepRepository_yields settings t.state.now dryRun registry r t.state).trail
  refine (congrArg Share.trail ((run_sweepAll hpool settings hr dryRun t).2 r)).trans ?_
  split
  · rw [share, halone, List.filter_append, hown, trailOf]
  · exact (List.append_nil _).symm

end

end World

end Upkeep
