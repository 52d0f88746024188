import Upkeep.Proofs.Sweep.Calls
import Upkeep.Proofs.Sweep.DryRun
import Upkeep.Proofs.Sweep.Record
/-!
# What is not known is left untouched

No change is asked for before all signals about an item are known. An error that is not about a
change itself therefore leaves the world as it was, when the manager is asked for a single item
(`Manager.ChangesKnowingly`) as well as for each item of a sweep (`World.SweptKnowingly`).
-/

namespace Upkeep

/-- The error reports a change that failed. -/
def LifecycleError.isAboutChange : LifecycleError → Bool
  | .actionApply _ _ _ => true
  | _ => false

namespace Manager

/-! ## A single item -/

section

variable {σ : Type} (tracker : Tracker (StateM σ))

/-- Carrying out actions asks for changes of the item and reports them. Only a change can fail. -/
theorem applyActions_adds (ref : IssueRef) (as : List Action) (s : σ) :
    ∃ result s' uses, Adds (applyActions tracker.recorded ref false as) s result s' uses ∧
      (∀ e, result = .error e → e.isAboutChange = true) ∧
      ∀ other m, .change other m ∈ uses → other = ref := by
  induction as generalizing s with
  | nil =>
    refine ⟨.ok (), s, [], adds_pure (Except.ok ()) s, ?_, ?_⟩
    · intro e he
      cases he
    · intro other m hmem
      cases hmem
  | cons a as ih =>
    have hmutate := adds_noting (.change ref (.ofAction a)) (tracker.mutate ref (.ofAction a)) s
    rw [applyActions]
    cases hresult : (tracker.mutate ref (.ofAction a) s).1 with
    | error e =>
      rw [hresult] at hmutate
      refine ⟨.error (.actionApply ref a e), _, _, hmutate.bind (adds_pure _ _), ?_, ?_⟩
      · intro e' he'
        cases he'
        rfl
      · simp
    | ok _ =>
      rw [hresult] at hmutate
      obtain ⟨result, s', uses, hrest, herror, hchange⟩ := ih (tracker.mutate ref (.ofAction a) s).2
      have hreport := adds_noting (.report (.action ref a false)) (pure ())
        (tracker.mutate ref (.ofAction a) s).2
      refine ⟨result, s', _, hmutate.bind (hreport.bind hrest), herror, ?_⟩
      intro other m hmem
      simp at hmem
      rcases hmem with ⟨rfl, -⟩ | hmem
      · rfl
      · exact hchange other m hmem

end

variable (settings : Settings)

/-- The lookups of signals that the manager makes about an item. -/
def signalUses (i : Issue) : List TrackerUse :=
  if i.state = .closed then [] else [.signals i.reference]

theorem change_notMem_signalUses {i : Issue} {ref : IssueRef} {m : Mutation} :
    .change ref m ∉ signalUses i := by
  unfold signalUses
  split <;> simp

theorem signalsFor_adds (i : Issue) (w : World) :
    Adds (signalsFor World.tracker.recorded settings i) w (w.signalsOf settings i) w
      (signalUses i) := by
  unfold signalsFor World.signalsOf signalUses
  split
  · exact adds_pure _ w
  · exact adds_noting (.signals i.reference) (World.tracker.signals settings.signalTimeout i) w

/-- An item whose signals are not known is not worked on. Otherwise nothing but a change can fail,
and the changes are of this item. -/
theorem processIssue_adds (p : PolicyRecord) (now : Instant) (i : Issue) (w : World) :
    (∃ e, w.signalsOf settings i = .error e ∧
      Adds (processIssue World.tracker.recorded settings p now false i) w (.error e) w
        (signalUses i)) ∨
    ∃ signals result w' uses, w.signalsOf settings i = .ok signals ∧
      Adds (processIssue World.tracker.recorded settings p now false i) w result w'
        (signalUses i ++ uses) ∧
      (∀ e, result = .error e → e.isAboutChange = true) ∧
      ∀ ref m, .change ref m ∈ uses → ref = i.reference := by
  have hsignals := signalsFor_adds settings i w
  rw [processIssue]
  cases hknown : w.signalsOf settings i with
  | error e =>
    rw [hknown] at hsignals
    left
    refine ⟨e, rfl, ?_⟩
    rw [← List.append_nil (signalUses i)]
    exact hsignals.bind (adds_pure _ w)
  | ok signals =>
    rw [hknown] at hsignals
    right
    let d := evaluate i p signals now
    obtain ⟨applied, w', uses, happly, herror, hchange⟩ :=
      applyActions_adds World.tracker i.reference d.actions w
    have hreport := adds_noting (.report (.evaluated i.reference d.disposition)) (pure ()) w
    have hchange' : ∀ ref m, .change ref m ∈
        [.report (.evaluated i.reference d.disposition)] ++ (uses ++ []) → ref = i.reference := by
      intro ref m hmem
      simp at hmem
      exact hchange ref m hmem
    cases applied with
    | error e' =>
      refine ⟨signals, .error e', w', _, rfl,
        hsignals.bind (hreport.bind (happly.bind (adds_pure _ w'))), ?_, hchange'⟩
      intro e he
      cases he
      exact herror e' rfl
    | ok _ =>
      refine ⟨signals, .ok d, w', _, rfl,
        hsignals.bind (hreport.bind (happly.bind (adds_pure _ w'))), ?_, hchange'⟩
      intro e he
      cases he

/-- The signals of an open item are looked up before a change is asked for. -/
theorem signals_mem_before_change {i : Issue} {ref other : IssueRef} {m : Mutation}
    {uses before after : List TrackerUse}
    (h : .lookup ref :: (signalUses i ++ uses) = before ++ .change other m :: after) :
    i.state = .closed ∨ .signals i.reference ∈ before := by
  by_cases hclosed : i.state = .closed
  · exact .inl hclosed
  · right
    rw [signalUses, if_neg hclosed] at h
    rcases before with _ | ⟨first, _ | ⟨second, before⟩⟩
    · simp at h
    · simp at h
    · simp only [List.cons_append, List.cons.injEq] at h
      rw [← h.2.1]
      exact List.mem_cons_of_mem _ List.mem_cons_self

theorem reference_of_issue {w : World} {ref : IssueRef} {i : Issue}
    (h : w.issue ref = .ok (some i)) : i.reference = ref := by
  unfold World.issue at h
  split at h
  · cases h
  · simpa using List.find?_some (Except.ok.inj h)

/-- What the manager leaves undone when it is asked for an item of a world. -/
structure ChangesKnowingly (registry : Registry) (ref : IssueRef) (w : World)
    (run : Except LifecycleError Decision × Recorded World) : Prop where
  /-- An error that is not about a change leaves the world as it was, and no change was asked
  for. -/
  of_error : ∀ e, run.1 = .error e → e.isAboutChange = false →
    run.2.state = w ∧ ∀ other m, .change other m ∉ run.2.uses
  /-- About an item of a repository that is not configured or has no record, nothing is looked up
  and nothing is changed. -/
  of_unmanaged : registry.recordFor ref.repository = none →
    run.1 = .ok .empty ∧ run.2.state = w ∧ ∀ use ∈ run.2.uses, ∃ event, use = .report event
  /-- When a change is asked for, it is a change of this item, and all signals about the item as it
  was found are known. -/
  of_change : ∀ before other m after, run.2.uses = before ++ .change other m :: after →
    other = ref ∧ ∃ i signals, w.issue ref = .ok (some i) ∧ w.signalsOf settings i = .ok signals ∧
      (i.state = .closed ∨ .signals ref ∈ before)

section

variable {registry : Registry} {ref : IssueRef}

/-- Asked for an item of a repository that is not configured or has no record, the manager reports
that at most. -/
theorem manageOne_of_unmanaged {σ : Type} (tracker : Tracker (StateM σ))
    (h : registry.recordFor ref.repository = none) (s : σ) :
    ∃ events : List Event, Adds (manageOne tracker.recorded settings registry ref) s
      (.ok .empty) s (events.map .report) := by
  rw [manageOne]
  split
  · exact ⟨[], adds_pure _ s⟩
  · rw [h]
    let event := Event.skipped ref.repository (.policyMissing ref.repository)
    have hreport := adds_noting (.report event) (pure ()) s
    exact ⟨[event], hreport.bind (adds_pure _ s)⟩

/-- Asked for an item of a repository that has a record, the manager gives up before it asks for a
change, or it knows all signals about the item as it was found. -/
theorem manageOne_of_managed {p : PolicyRecord}
    (hrecord : registry.recordFor ref.repository = some p) (w : World) :
    (∃ e uses, Adds (manageOne World.tracker.recorded settings registry ref) w (.error e) w uses ∧
      ∀ other m, .change other m ∉ uses) ∨
    ∃ i signals result w' uses, w.issue ref = .ok (some i) ∧
      w.signalsOf settings i = .ok signals ∧
      Adds (manageOne World.tracker.recorded settings registry ref) w result w'
        (.lookup ref :: (signalUses i ++ uses)) ∧
      (∀ e, result = .error e → e.isAboutChange = true) ∧
      ∀ other m, .change other m ∈ uses → other = ref := by
  have hlookup := adds_noting (.lookup ref) (World.tracker.issue ref) w
  have hissue : World.tracker.issue ref w = (w.issue ref, w) := rfl
  rw [hissue] at hlookup
  rw [manageOne_of_record World.tracker.recorded settings hrecord]
  cases hfound : w.issue ref with
  | error e =>
    rw [hfound] at hlookup
    left
    refine ⟨.signalLookup ref .issue e, _, hlookup.bind (adds_pure _ w), ?_⟩
    simp
  | ok found =>
    rw [hfound] at hlookup
    cases found with
    | none =>
      left
      refine ⟨.issueNotFound ref, _, hlookup.bind (adds_pure _ w), ?_⟩
      simp
    | some i =>
      have hnow : Adds World.tracker.recorded.now w w.now w [] := by
        intro before
        rw [List.append_nil]
        rfl
      rcases processIssue_adds settings p w.now i w with ⟨e, -, hprocess⟩ |
        ⟨signals, result, w', uses, hknown, hprocess, herror, hchange⟩
      · left
        refine ⟨e, _, hlookup.bind (hnow.bind hprocess), ?_⟩
        simp [change_notMem_signalUses]
      · right
        have href := reference_of_issue hfound
        refine ⟨i, signals, result, w', uses, rfl, hknown, hlookup.bind (hnow.bind hprocess),
          herror, ?_⟩
        intro other m hmem
        exact (hchange other m hmem).trans href

end

theorem manageOne_changesKnowingly (registry : Registry) (ref : IssueRef) (w : World) :
    ChangesKnowingly settings registry ref w
      (manageOne World.tracker.recorded settings registry ref { state := w }) := by
  cases hrecord : registry.recordFor ref.repository with
  | none =>
    obtain ⟨events, hadds⟩ := manageOne_of_unmanaged settings World.tracker hrecord w
    rw [hadds.run]
    refine ⟨?_, ?_, ?_⟩
    · intro e he
      cases he
    · intro _
      refine ⟨rfl, rfl, ?_⟩
      intro use huse
      obtain ⟨event, -, rfl⟩ := List.mem_map.1 huse
      exact ⟨event, rfl⟩
    · intro before other m after h
      dsimp only at h
      have hmem : TrackerUse.change other m ∈ events.map .report :=
        h ▸ List.mem_append_cons_self
      simp at hmem
  | some p =>
    rcases manageOne_of_managed settings hrecord w with ⟨e, uses, hadds, hnone⟩ |
      ⟨i, signals, result, w', uses, hfound, hknown, hadds, herror, hchange⟩
    · rw [hadds.run]
      refine ⟨?_, ?_, ?_⟩
      · intro _ _ _
        exact ⟨rfl, hnone⟩
      · intro h
        rw [hrecord] at h
        cases h
      · intro before other m after h
        dsimp only at h
        have hmem : TrackerUse.change other m ∈ uses := h ▸ List.mem_append_cons_self
        exact absurd hmem (hnone other m)
    · rw [hadds.run]
      refine ⟨?_, ?_, ?_⟩
      · intro e he hnot
        rw [herror e he] at hnot
        cases hnot
      · intro h
        rw [hrecord] at h
        cases h
      · intro before other m after h
        dsimp only at h
        have hall : TrackerUse.change other m ∈ .lookup ref :: (signalUses i ++ uses) :=
          h ▸ List.mem_append_cons_self
        have hmem : TrackerUse.change other m ∈ uses := by
          simpa [change_notMem_signalUses] using hall
        refine ⟨hchange other m hmem, i, signals, hfound, hknown, ?_⟩
        rw [← reference_of_issue hfound]
        exact signals_mem_before_change (reference_of_issue hfound ▸ h)

end Manager

namespace World

/-! ## A sweep -/

variable {w : World} {settings : Settings} {registry : Registry} {p : PolicyRecord} {now : Instant}
  {dryRun : Bool} {i : Issue} {ref : IssueRef} {r : RepositoryId} {e : LifecycleError}
  {m : Mutation}

theorem isAboutChange_of_rejection? {as : List Action}
    (h : w.rejection? ref dryRun as = some e) : e.isAboutChange = true := by
  unfold rejection? at h
  split at h
  · cases h
  · obtain ⟨a, -, ha⟩ := List.exists_of_findSome?_eq_some h
    obtain ⟨source, -, rfl⟩ := Option.map_eq_some_iff.1 ha
    rfl

/-- An item is given up for want of signals, unless a change fails. -/
theorem signalsOf_of_verdict (h : w.verdict settings p now dryRun i = .error e)
    (hnot : e.isAboutChange = false) : w.signalsOf settings i = .error e := by
  unfold verdict at h
  split at h
  · next e' hsignals =>
    cases h
    exact hsignals
  · dsimp only at h
    split at h
    · next e' hrejection =>
      cases h
      rw [isAboutChange_of_rejection? hrejection] at hnot
      cases hnot
    · cases h

theorem failed_notMem_actionTrail {other : IssueRef} {as : List Action} :
    .seen (.failed ref e) ∉ w.actionTrail other dryRun as := by
  induction as with
  | nil => exact List.not_mem_nil
  | cons a as ih =>
    intro h
    rw [actionTrail] at h
    split at h
    · simp [ih] at h
    · split at h
      · simp at h
      · simp [ih] at h

theorem failed_mem_itemTrail (h : .seen (.failed ref e) ∈ w.itemTrail settings p now dryRun i) :
    ref = i.reference ∧ w.verdict settings p now dryRun i = .error e := by
  rcases List.mem_append.1 h with h | h
  · unfold decisionTrail at h
    split at h
    · cases h
    · simp [failed_notMem_actionTrail] at h
  · unfold ending at h
    split at h
    · cases h
    · next e' hverdict =>
      simp at h
      obtain ⟨rfl, rfl⟩ := h
      exact ⟨rfl, hverdict⟩

/-- No change of an item is asked for unless its signals are known. -/
theorem call_notMem_itemTrail (h : w.signalsOf settings i = .error e) :
    .call ref m ∉ w.itemTrail settings p now dryRun i := by
  intro hcall
  obtain ⟨s, hknown, -⟩ := call_mem_itemTrail hcall
  rw [h] at hknown
  cases hknown

/-- A change that is asked for in a sweep is one of a listed item whose signals are known. -/
theorem known_of_call (h : .call ref m ∈ w.repositoryTrail settings registry now dryRun r) :
    ∃ p issues i s, registry.recordFor r = some p ∧ w.openIssues r = .ok issues ∧ i ∈ issues ∧
      i.reference = ref ∧ w.signalsOf settings i = .ok s := by
  obtain ⟨p, issues, i, hrecord, hlist, hi, href, hturn⟩ := listed_of_mem_repositoryTrail h rfl
  obtain ⟨s, hknown, -⟩ := call_mem_itemTrail hturn
  exact ⟨p, issues, i, s, hrecord, hlist, hi, href, hknown⟩

/-- An item that is given up in a sweep, but not over a change, is listed and its signals are not
known. -/
theorem unknown_of_failed
    (h : .seen (.failed ref e) ∈ w.repositoryTrail settings registry now dryRun r)
    (hnot : e.isAboutChange = false) :
    ∃ issues i, w.openIssues r = .ok issues ∧ i ∈ issues ∧ i.reference = ref ∧
      w.signalsOf settings i = .error e := by
  obtain ⟨p, issues, i, -, hlist, hi, href, hturn⟩ := listed_of_mem_repositoryTrail h rfl
  obtain ⟨-, hverdict⟩ := failed_mem_itemTrail hturn
  exact ⟨issues, i, hlist, hi, href, signalsOf_of_verdict hverdict hnot⟩

/-- A repository is reported as left out if it has no record or could not be listed. -/
theorem not_listed_of_skipped {reason : LifecycleError}
    (h : .seen (.skipped r reason) ∈ w.repositoryTrail settings registry now dryRun r) :
    registry.recordFor r = none ∨ ∃ e, w.openIssues r = .error e := by
  cases hrecord : registry.recordFor r with
  | none => exact .inl rfl
  | some p =>
    cases hlist : w.openIssues r with
    | error e => exact .inr ⟨e, rfl⟩
    | ok issues =>
      rw [repositoryTrail_of_listed hrecord hlist] at h
      have hitem : .seen (.skipped r reason) ∈
          issues.flatMap (w.itemTrail settings p now dryRun) := by
        simpa using h
      obtain ⟨i, -, hskipped⟩ := List.mem_flatMap.1 hitem
      cases issue?_of_mem_itemTrail hskipped

/-- What a sweep leaves undone in a repository, where it adds some entries to the trail. -/
structure SweptKnowingly (settings : Settings) (registry : Registry) (dryRun : Bool)
    (r : RepositoryId) (w after : World) (added : List TrailEntry) : Prop where
  /-- An item of which no change was asked for is as it was. -/
  untouched : ∀ (k : Nat) (it : WorldItem), w.items[k]? = some it →
    it.issue.reference.repository = r → (∀ m, .call it.issue.reference m ∉ added) →
    after.items[k]? = some it
  /-- Of a repository that is left out, no change is asked for. -/
  of_left_out : registry.recordFor r = none ∨ (∃ e, w.openIssues r = .error e) ∨
    (∃ reason, .seen (.skipped r reason) ∈ added) → ∀ ref m, .call ref m ∉ added
  /-- The listed items stand one after the other in the trail. Where one of them is given up, but
  not over a change, no change is asked for. -/
  one_by_one : ∀ p issues, registry.recordFor r = some p → w.openIssues r = .ok issues →
    ∃ stats, added = issues.flatMap (w.itemTrail settings p w.now dryRun) ++
        [.seen (.summary r stats)] ∧
      ∀ i ∈ issues, (∀ entry ∈ w.itemTrail settings p w.now dryRun i,
          entry.issue? = some i.reference) ∧
        ∀ ref e, .seen (.failed ref e) ∈ w.itemTrail settings p w.now dryRun i →
          e.isAboutChange = false →
          ∀ other m, .call other m ∉ w.itemTrail settings p w.now dryRun i
  /-- Where no two items have the same reference, nothing at all is asked for of an item that is
  given up, but not over a change. -/
  of_failed : w.DistinctItems → ∀ ref e, .seen (.failed ref e) ∈ added →
    e.isAboutChange = false → ∀ m, .call ref m ∉ added

theorem eq_of_listed (hw : w.DistinctItems) {issues : List Issue}
    (hlist : w.openIssues r = .ok issues) {i j : Issue} (hi : i ∈ issues) (hj : j ∈ issues)
    (h : i.reference = j.reference) : i = j := by
  obtain rfl := listed_of_openIssues hlist
  obtain ⟨it, hit, rfl⟩ := List.mem_map.1 (List.mem_of_mem_filter hi)
  obtain ⟨other, hother, rfl⟩ := List.mem_map.1 (List.mem_of_mem_filter hj)
  rw [List.inj_on_of_nodup_map hw hit hother h]

/-- However the repositories are interleaved, each of them is swept knowingly. -/
theorem run_sweepAll_sweptKnowingly {pool : Pool (Fiber World)} (hpool : pool.Lawful)
    (settings : Settings) (hr : registry.repositories.Nodup) (dryRun : Bool) (t : Timeline World)
    (r : RepositoryId) :
    SweptKnowingly settings registry dryRun r t.state
      ((Manager.sweepAll tracker.steps pool settings registry dryRun).run t).2.state
      (if r ∈ registry.repositories then
        t.state.repositoryTrail settings registry t.state.now dryRun r else []) := by
  constructor
  case untouched =>
    intro k it hit hown hnone
    refine run_sweepAll_accountsFor hpool settings hr dryRun t hit hown ?_
    intro hmem
    rwa [if_pos hmem] at hnone
  case of_left_out =>
    intro hleft ref m hcall
    split at hleft
    case isFalse hnot =>
      rw [if_neg hnot] at hcall
      cases hcall
    case isTrue hmem =>
      rw [if_pos hmem] at hcall
      obtain ⟨p, issues, i, s, hrecord, hlist, -, -, -⟩ := known_of_call hcall
      have hcause : registry.recordFor r = none ∨ ∃ e, t.state.openIssues r = .error e := by
        rcases hleft with hnone | herror | ⟨reason, hskipped⟩
        · exact .inl hnone
        · exact .inr herror
        · exact not_listed_of_skipped hskipped
      rcases hcause with hnone | ⟨e, herror⟩
      · rw [hrecord] at hnone
        cases hnone
      · rw [hlist] at herror
        cases herror
  case one_by_one =>
    intro p issues hrecord hlist
    rw [if_pos (Registry.mem_of_recordFor hrecord)]
    refine ⟨_, repositoryTrail_of_listed hrecord hlist, ?_⟩
    intro i hi
    refine ⟨fun entry hentry => issue?_of_mem_itemTrail hentry, ?_⟩
    intro ref e hfailed hnot other m
    obtain ⟨-, hverdict⟩ := failed_mem_itemTrail hfailed
    exact call_notMem_itemTrail (signalsOf_of_verdict hverdict hnot)
  case of_failed =>
    intro hw ref e hfailed hnot m hcall
    split at hfailed
    case isFalse => cases hfailed
    case isTrue hmem =>
      rw [if_pos hmem] at hcall
      obtain ⟨issues, i, hlist, hi, href, hunknown⟩ := unknown_of_failed hfailed hnot
      obtain ⟨p, issues', j, s, -, hlist', hj, href', hknown⟩ := known_of_call hcall
      rw [hlist] at hlist'
      cases hlist'
      obtain rfl := eq_of_listed hw hlist hi hj (href.trans href'.symm)
      rw [hunknown] at hknown
      cases hknown

/-- No change is asked for before all signals about an item are known, and an error that is not
about a change leaves the world as it was, for a single item as well as in a sweep. -/
theorem no_change_without_knowledge :
    (∀ (settings : Settings) (registry : Registry) (ref : IssueRef) (w : World),
      Manager.ChangesKnowingly settings registry ref w
        (Manager.manageOne tracker.recorded settings registry ref { state := w })) ∧
    ∀ (repositories : List RepositoryId) (default? : Option PolicyRecord)
      (overrides : List PolicyOverride) (registry : Registry),
      Registry.build repositories default? overrides = .ok registry →
      ∀ pool : Pool (Fiber World), pool.Lawful →
      ∀ (settings : Settings) (dryRun : Bool) (t : Timeline World) (r : RepositoryId),
        let run := (Manager.sweepAll tracker.steps pool settings registry dryRun).run t
        ∃ added, run.2.state.trailOf r = t.state.trailOf r ++ added ∧
          SweptKnowingly settings registry dryRun r t.state run.2.state added := by
  constructor
  · intro settings registry ref w
    exact Manager.manageOne_changesKnowingly settings registry ref w
  · intro repositories default? overrides registry hreg pool hpool settings dryRun t r run
    have hnodup := Registry.nodup_of_build hreg
    exact ⟨_, run_sweepAll_trailOf hpool settings hnodup dryRun t r,
      run_sweepAll_sweptKnowingly hpool settings hnodup dryRun t r⟩

/-- Looking up the activity on the first of two pull requests takes too long, and the items of
another repository cannot be listed. -/
def slowWorld : World :=
  { items := [{ issue := ⟨⟨⟨"istio", "istio"⟩, 1⟩, true, .clamp 0, .opened, [], ""⟩ },
      { issue := ⟨⟨⟨"istio", "istio"⟩, 2⟩, true, .clamp 0, .opened, [], ""⟩ }]
    stalls := [⟨"activity", "istio/istio#1", 60000⟩]
    failures := [⟨"open_issues", "istio/api", none, .transport "no route"⟩]
    now := .clamp (40 * nanosPerDay) }

def slowRegistry : Registry := ⟨[⟨"istio", "istio"⟩, ⟨"istio", "api"⟩], some {}, []⟩

theorem no_change_without_knowledge_slow :
    let ref : IssueRef := ⟨⟨"istio", "istio"⟩, 1⟩
    let reason : LifecycleError :=
      .signalLookup ref .memberActivity (.timeout (30 * nanosPerSecond))
    let one := Manager.manageOne tracker.recorded {} slowRegistry ref { state := slowWorld }
    let run := (Manager.sweepAll tracker.steps ⟨Fiber.pool⟩ {} slowRegistry false).run
      { state := slowWorld }
    Registry.build [⟨"istio", "istio"⟩, ⟨"istio", "api"⟩] (some {}) [] = .ok slowRegistry ∧
      (one.1 = .error reason ∧ reason.isAboutChange = false ∧ one.2.state = slowWorld ∧
        ∀ other m, .change other m ∉ one.2.uses) ∧
      slowWorld.repositoryTrail {} slowRegistry slowWorld.now false ⟨"istio", "istio"⟩ =
        [.seen (.failed ref reason),
          .seen (.evaluated ⟨⟨"istio", "istio"⟩, 2⟩ .stale),
          .call ⟨⟨"istio", "istio"⟩, 2⟩ (.removeComment botSignature),
          .seen (.action ⟨⟨"istio", "istio"⟩, 2⟩ .removeComment false),
          .call ⟨⟨"istio", "istio"⟩, 2⟩ (.addLabel "lifecycle/stale"),
          .seen (.action ⟨⟨"istio", "istio"⟩, 2⟩ (.addLabel "lifecycle/stale") false),
          .seen (.summary ⟨"istio", "istio"⟩ { markedStale := 1 })] ∧
      slowWorld.DistinctItems ∧
      (∃ added, run.2.state.trailOf ⟨"istio", "istio"⟩ = added ∧
        SweptKnowingly {} slowRegistry false ⟨"istio", "istio"⟩ slowWorld run.2.state added) ∧
      ∃ added, run.2.state.trailOf ⟨"istio", "api"⟩ = added ∧
        SweptKnowingly {} slowRegistry false ⟨"istio", "api"⟩ slowWorld run.2.state added := by
  intro ref reason one run
  have hreg : Registry.build [⟨"istio", "istio"⟩, ⟨"istio", "api"⟩] (some {}) [] =
    .ok slowRegistry := rfl
  obtain ⟨hone, hsweep⟩ := no_change_without_knowledge
  have herror : one.1 = .error reason := by decide +kernel
  obtain ⟨hstate, hnone⟩ := (hone {} slowRegistry ref slowWorld).of_error reason herror rfl
  have hrun (r : RepositoryId) := hsweep _ _ _ _ hreg ⟨Fiber.pool⟩ Fiber.lawful_pool {} false
    { state := slowWorld } r
  exact ⟨hreg, ⟨herror, rfl, hstate, hnone⟩, by decide +kernel, by decide, hrun _, hrun _⟩

end World

end Upkeep
