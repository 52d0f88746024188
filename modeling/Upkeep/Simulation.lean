import Upkeep.Decision.Apply
import Upkeep.Decision.Evaluate
/-!
One item followed through time.

A simulation holds an item, its policy record, the signals about it and the clock. Its steps are
what can happen to the item, and evaluations of it, whose actions may be applied.
-/

namespace Upkeep

/-- An item and all that a decision on it depends on. -/
structure Simulation where
  issue : Issue
  policy : PolicyRecord
  signals : Signals
  now : Instant
  /-- The statistics of all evaluations so far. -/
  total : Stats := .zero

namespace Simulation

/-- What can happen in a simulation. -/
inductive Step
  | advance (delay : Delay)
  | rewind (delay : Delay)
  /-- A member comments on the item now. -/
  | comment
  /-- A member touches the item now. -/
  | activity
  | pipeline (pipeline : Option Pipeline)
  | label (name : String)
  | unlabel (name : String)
  | state (state : IssueState)
  | policy (record : PolicyRecord)
  /-- The item is evaluated, and the decision applied if asked for. -/
  | evaluate (apply : Bool)

/-- The simulation after a step, and the decision if the step was an evaluation. -/
def step (s : Simulation) : Step → Simulation × Option Decision
  | .advance d => ({ s with now := s.now.plus d }, none)
  | .rewind d => ({ s with now := s.now.minus d }, none)
  | .comment => ({ s with signals := { s.signals with memberComment := some s.now } }, none)
  | .activity => ({ s with signals := { s.signals with memberActivity := some s.now } }, none)
  | .pipeline p => ({ s with signals := { s.signals with pipeline := p } }, none)
  | .label name => ({ s with issue := s.issue.apply (.addLabel name) }, none)
  | .unlabel name => ({ s with issue := s.issue.apply (.removeLabel name) }, none)
  | .state state => ({ s with issue := { s.issue with state } }, none)
  | .policy record => ({ s with policy := record }, none)
  | .evaluate apply =>
    let decision := Upkeep.evaluate s.issue s.policy s.signals s.now
    let issue := if apply then s.issue.applyAll decision.actions else s.issue
    ({ s with issue, total := s.total.add decision.stats }, some decision)

/-- The states after each of a list of steps. -/
def run (s : Simulation) : List Step → List (Simulation × Option Decision)
  | [] => []
  | step :: steps =>
    let (s, decision) := s.step step
    (s, decision) :: run s steps

end Simulation

end Upkeep
