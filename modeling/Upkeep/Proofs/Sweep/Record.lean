import Upkeep.Proofs.Policy.Registry
import Upkeep.Sweep.Manager
/-!
# What the manager asks of a tracker

`Tracker.recorded` writes down every use that is made of a tracker, readings of its clock apart.
Nothing that the manager does depends on what is written down, so that a computation adds the same
uses to every record (`Adds`).
-/

namespace Upkeep

/-- A use that is made of a tracker. -/
inductive TrackerUse
  | listing (repository : RepositoryId)
  | lookup (issue : IssueRef)
  /-- The activity of members and the pipeline of an item are looked up. -/
  | signals (issue : IssueRef)
  | change (issue : IssueRef) (mutation : Mutation)
  | report (event : Event)
deriving DecidableEq

/-- A state, and the uses that have been made of its tracker. -/
structure Recorded (σ : Type) where
  state : σ
  uses : List TrackerUse := []

section

variable {σ α β : Type}

/-- An operation that is written down. -/
def Recorded.noting (use : TrackerUse) (x : StateM σ α) : StateM (Recorded σ) α := fun s =>
  ((x s.state).1, ⟨(x s.state).2, s.uses ++ [use]⟩)

/-- The tracker with a record of the uses that are made of it. Events go to the record and nowhere
else. -/
def Tracker.recorded (tracker : Tracker (StateM σ)) : Tracker (StateM (Recorded σ)) where
  openIssues r := Recorded.noting (.listing r) (tracker.openIssues r)
  issue ref := Recorded.noting (.lookup ref) (tracker.issue ref)
  signals limit issue := Recorded.noting (.signals issue.reference) (tracker.signals limit issue)
  mutate ref mutation := Recorded.noting (.change ref mutation) (tracker.mutate ref mutation)
  now := fun s => ((tracker.now s.state).1, ⟨(tracker.now s.state).2, s.uses⟩)
  observe event := Recorded.noting (.report event) (pure ())

/-- From a state, a computation gives a result, leaves another state and adds uses to the record,
whatever stands there already. -/
def Adds (x : StateM (Recorded σ) α) (s : σ) (a : α) (s' : σ) (uses : List TrackerUse) : Prop :=
  ∀ before, x ⟨s, before⟩ = (a, ⟨s', before ++ uses⟩)

variable {s s' s'' : σ} {a : α} {b : β} {uses uses' : List TrackerUse}

theorem adds_pure (a : α) (s : σ) : Adds (pure a) s a s [] := by
  intro before
  rw [List.append_nil]
  rfl

theorem adds_noting (use : TrackerUse) (x : StateM σ α) (s : σ) :
    Adds (Recorded.noting use x) s (x s).1 (x s).2 [use] := fun _ => rfl

theorem Adds.bind {x : StateM (Recorded σ) α} {k : α → StateM (Recorded σ) β}
    (hx : Adds x s a s' uses) (hk : Adds (k a) s' b s'' uses') :
    Adds (x >>= k) s b s'' (uses ++ uses') := by
  intro before
  have hrun : (x >>= k) ⟨s, before⟩ = k (x ⟨s, before⟩).1 (x ⟨s, before⟩).2 := rfl
  rw [hrun, hx before, hk (before ++ uses), List.append_assoc]

/-- The run from an empty record. -/
theorem Adds.run {x : StateM (Recorded σ) α} (hx : Adds x s a s' uses) :
    x { state := s } = (a, ⟨s', uses⟩) := hx []

end

/-- Asked for an item of a repository that has a record, the manager looks it up and processes it as
it is found. -/
theorem Manager.manageOne_of_record {m : Type → Type} [Monad m] (tracker : Tracker m)
    (settings : Settings) {registry : Registry} {ref : IssueRef} {p : PolicyRecord}
    (hrecord : registry.recordFor ref.repository = some p) :
    manageOne tracker settings registry ref = (do
      match ← tracker.issue ref with
      | .error e => pure (.error (.signalLookup ref .issue e))
      | .ok none => pure (.error (.issueNotFound ref))
      | .ok (some issue) => do
        let now ← tracker.now
        processIssue tracker settings p now false issue) := by
  rw [manageOne, if_neg (not_not_intro (Registry.mem_of_recordFor hrecord))]
  split
  · next hnone =>
    rw [hrecord] at hnone
    cases hnone
  · next p' hsome =>
    rw [hrecord] at hsome
    cases hsome
    rfl

end Upkeep
