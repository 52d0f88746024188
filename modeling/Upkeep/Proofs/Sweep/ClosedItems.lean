import Upkeep.Proofs.Sweep.Conversation
/-!
# Closed items need no signals

The manager looks up no signals for an item that is closed. This is sound because the decision on
such an item reads none of them: processing the item does what it would do with any signals, and so
what it would do if they were looked up and found (`closed_needs_no_signals`).
-/

namespace Upkeep

/-! ## What a decision reads of the signals -/

/-- The decision on a closed item does not depend on the signals. -/
theorem evaluate_of_closed {i : Issue} (hclosed : i.state = .closed) (p : PolicyRecord)
    (s s' : Signals) (now : Instant) : evaluate i p s now = evaluate i p s' now := by
  unfold evaluate
  simp only [hclosed, if_true]

/-- Of the newest activity of a member a decision reads only whether there is one. -/
theorem evaluate_memberActivity (i : Issue) (p : PolicyRecord) {s : Signals}
    {activity : Option Instant} (h : activity.isSome = s.memberActivity.isSome) (now : Instant) :
    evaluate i p { s with memberActivity := activity } now = evaluate i p s now := by
  have hnone : activity.isNone = s.memberActivity.isNone := by
    rw [← Option.not_isSome, ← Option.not_isSome, h]
  have htriage : Signals.needsTriage { s with memberActivity := activity } = s.needsTriage := by
    unfold Signals.needsTriage
    dsimp only
    rw [hnone]
  have hawaits : Decision.awaitsTriage i p { s with memberActivity := activity } now =
      Decision.awaitsTriage i p s now := by
    unfold Decision.awaitsTriage
    rw [htriage]
  have hactions (labels : LabelScan) :
      Decision.triageActions i p labels { s with memberActivity := activity } =
        Decision.triageActions i p labels s := by
    unfold Decision.triageActions
    rw [htriage]
  have hopen (labels : LabelScan) :
      Decision.openItem i p labels { s with memberActivity := activity } now =
        Decision.openItem i p labels s now := by
    unfold Decision.openItem
    rw [hactions]
    rfl
  unfold evaluate
  simp only [hawaits, hopen]

namespace Manager

variable {m : Type → Type} [Monad m] (tracker : Tracker m) (settings : Settings)
  (p : PolicyRecord) (now : Instant) (dryRun : Bool) {i : Issue}

/-- Processes an item with its signals looked up, whether or not it is closed. -/
def processLookingUp (issue : Issue) : m (Except LifecycleError Decision) := do
  match ← tracker.signals settings.signalTimeout issue with
  | .error e => pure (.error e)
  | .ok signals => processKnown tracker p now dryRun issue signals

theorem processKnown_of_closed (hclosed : i.state = .closed) (s s' : Signals) :
    processKnown tracker p now dryRun i s = processKnown tracker p now dryRun i s' := by
  unfold processKnown
  rw [evaluate_of_closed hclosed p s s' now]

theorem processIssue_of_closed [LawfulMonad m] (hclosed : i.state = .closed) (s : Signals) :
    processIssue tracker settings p now dryRun i = processKnown tracker p now dryRun i s := by
  have hsignals : signalsFor tracker settings i = pure (.ok .unknown) := if_pos hclosed
  rw [processIssue, hsignals, pure_bind, ← processKnown_of_closed tracker p now dryRun hclosed]
  rfl

/-- The signals of any other item are looked up. -/
theorem processIssue_of_open (hopen : i.state = .opened) :
    processIssue tracker settings p now dryRun i =
      processLookingUp tracker settings p now dryRun i := by
  have hsignals : signalsFor tracker settings i =
      tracker.signals settings.signalTimeout i := if_neg (by rw [hopen]; nofun)
  rw [processIssue, hsignals]
  rfl

theorem applyActions_lookups
    (signals : Nat → Issue → m (Except LifecycleError Signals)) (ref : IssueRef)
    (as : List Action) :
    applyActions { tracker with signals } ref dryRun as = applyActions tracker ref dryRun as := by
  induction as with
  | nil => rfl
  | cons a as ih =>
    rw [applyActions, applyActions, ih]

/-- A closed item is processed in the same way whatever the lookups of signals would do. -/
theorem processIssue_lookups (hclosed : i.state = .closed)
    (signals : Nat → Issue → m (Except LifecycleError Signals)) :
    processIssue { tracker with signals } settings p now dryRun i =
      processIssue tracker settings p now dryRun i := by
  have hsignals : signalsFor { tracker with signals } settings i = pure (.ok .unknown) :=
    if_pos hclosed
  have hsignals' : signalsFor tracker settings i = pure (.ok .unknown) := if_pos hclosed
  rw [processIssue, processIssue, hsignals, hsignals']
  simp only [applyActions_lookups]

/-- What comes of a closed item in a world: only a change that is refused can make it fail. -/
theorem processIssue_of_closed_result (hclosed : i.state = .closed) (s : Signals) (w : World) :
    (processIssue World.tracker settings p now dryRun i w).1 =
      match w.rejection? i.reference dryRun (evaluate i p s now).actions with
      | some e => .error e
      | none => .ok (evaluate i p s now) := by
  have hsignals : w.signalsOf settings i = .ok .unknown := if_pos hclosed
  have hresult := (World.processIssue_yields settings p now dryRun i w).result
  rw [World.verdict, hsignals] at hresult
  rw [evaluate_of_closed hclosed p s .unknown now]
  exact hresult

/-- Leaving out the lookups for closed items is sound. The decision on a closed item is the same
for all signals. Processing it does what would be done if the signals were looked up and found,
whatever the tracker is, and does that too where the lookups would fail or never end. In a world it
comes to the same result and leaves the same calls, events and items as if the signals had been
looked up, and fails only if a change is refused. The signals of an open item are looked up, and of
the newest activity of a member its decision reads only whether there is one. -/
theorem closed_needs_no_signals (i : Issue) (p : PolicyRecord) (now : Instant)
    (settings : Settings) (dryRun : Bool) :
    (i.state = .closed →
      (∀ s s', evaluate i p s now = evaluate i p s' now) ∧
      (∀ {m : Type → Type} [Monad m] [LawfulMonad m] (tracker : Tracker m),
        processLookingUp tracker settings p now dryRun i = (do
          match ← tracker.signals settings.signalTimeout i with
          | .error e => pure (.error e)
          | .ok _ => processIssue tracker settings p now dryRun i) ∧
        ∀ signals, processIssue { tracker with signals } settings p now dryRun i =
          processIssue tracker settings p now dryRun i) ∧
      ∀ w : World,
        ((∃ s, w.signals settings.signalTimeout i.reference = .ok s) →
          processLookingUp World.tracker settings p now dryRun i w =
            processIssue World.tracker settings p now dryRun i w) ∧
        ∀ s, (processIssue World.tracker settings p now dryRun i w).1 =
          match w.rejection? i.reference dryRun (evaluate i p s now).actions with
          | some e => .error e
          | none => .ok (evaluate i p s now)) ∧
    (i.state = .opened →
      (∀ {m : Type → Type} [Monad m] (tracker : Tracker m),
        processIssue tracker settings p now dryRun i =
          processLookingUp tracker settings p now dryRun i) ∧
      ∀ (s : Signals) (activity : Option Instant),
        activity.isSome = s.memberActivity.isSome →
          evaluate i p { s with memberActivity := activity } now = evaluate i p s now) := by
  refine ⟨fun hclosed => ⟨fun s s' => evaluate_of_closed hclosed p s s' now, ?_, ?_⟩,
    fun hopen => ⟨?_, fun s activity h => evaluate_memberActivity i p h now⟩⟩
  · intro m _ _ tracker
    refine ⟨?_, fun signals => processIssue_lookups tracker settings p now dryRun hclosed signals⟩
    unfold processLookingUp
    refine bind_congr fun answer => ?_
    cases answer with
    | error e => rfl
    | ok s => exact (processIssue_of_closed tracker settings p now dryRun hclosed s).symm
  · intro w
    refine ⟨?_, fun s => processIssue_of_closed_result settings p now dryRun hclosed s w⟩
    rintro ⟨s, hs⟩
    have hanswer : World.tracker.signals settings.signalTimeout i w = (.ok s, w) :=
      congrArg (·, w) hs
    rw [processLookingUp, World.bind_apply, hanswer]
    exact congrFun (processIssue_of_closed World.tracker settings p now dryRun hclosed s).symm w
  · intro m _ tracker
    exact processIssue_of_open tracker settings p now dryRun hopen

/-- A closed issue that still waits for triage, and an open one. -/
def untriagedIssue (state : IssueState) : Issue :=
  ⟨⟨⟨"istio", "istio"⟩, 1⟩, false, .clamp 0, state, ["lifecycle/needs triage"], ""⟩

/-- Nothing can be found out about the issue. -/
def silentWorld : World :=
  { items := [{ issue := untriagedIssue .closed }]
    failures := [⟨"comment", "*", none, .transport "no route"⟩]
    stalls := [⟨"pipeline", "*", 60000⟩]
    now := .clamp (40 * nanosPerDay) }

theorem closed_needs_no_signals_silent :
    (untriagedIssue .closed).state = .closed ∧
      (∃ e, silentWorld.signals ({} : Settings).signalTimeout ⟨⟨"istio", "istio"⟩, 1⟩ = .error e) ∧
      (processIssue World.tracker {} {} silentWorld.now false (untriagedIssue .closed)
        silentWorld).1 = .ok ⟨[.removeLabel "lifecycle/needs triage"], .zero, .closed⟩ ∧
      (untriagedIssue .opened).state = .opened ∧
      evaluate (untriagedIssue .opened) {} ⟨none, some (.clamp 0), none⟩ silentWorld.now =
        evaluate (untriagedIssue .opened) {} ⟨none, some silentWorld.now, none⟩ silentWorld.now := by
  have hclosed : (untriagedIssue .closed).state = .closed := rfl
  have hopen : (untriagedIssue .opened).state = .opened := rfl
  obtain ⟨-, -, hworld⟩ :=
    (closed_needs_no_signals (untriagedIssue .closed) {} silentWorld.now {} false).1 hclosed
  obtain ⟨-, hactivity⟩ :=
    (closed_needs_no_signals (untriagedIssue .opened) {} silentWorld.now {} false).2 hopen
  refine ⟨hclosed, ⟨.signalLookup _ .memberActivity (.transport "no route"), rfl⟩, ?_, hopen, ?_⟩
  · rw [(hworld silentWorld).2 .unknown]
    decide +kernel
  · exact hactivity ⟨none, some silentWorld.now, none⟩ (some (.clamp 0)) rfl

end Manager

end Upkeep
