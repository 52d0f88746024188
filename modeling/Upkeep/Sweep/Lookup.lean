import Upkeep.Failure
import Upkeep.Issue.Snapshot
/-!
Lookups that take time.

A `Lookup` is an answer together with the time that it took. `within` puts a bound on a lookup, and
`both` waits for two lookups that run side by side, of which the earliest failure counts. Together
they make up `Lookup.signals`, which gathers what is known about an item.
-/

namespace Upkeep

/-- What a lookup gives, and after how many nanoseconds. -/
structure Lookup (ε α : Type) where
  elapsed : Nat
  result : Except ε α

namespace Lookup

variable {ε α β : Type}

/-- A second lookup that starts when the first has succeeded. -/
def andThen (a : Lookup ε α) (b : Lookup ε β) : Lookup ε (α × β) :=
  match a.result with
  | .error e => ⟨a.elapsed, .error e⟩
  | .ok x => ⟨a.elapsed + b.elapsed, b.result.map fun y => (x, y)⟩

/-- The lookup with another form of failure. -/
def mapError {δ : Type} (f : ε → δ) (l : Lookup ε α) : Lookup δ α :=
  ⟨l.elapsed, l.result.mapError f⟩

/-- The lookup with a bound on its time. One that takes exactly that long still counts. -/
def within (limit : Nat) (l : Lookup ServiceError α) : Lookup ServiceError α :=
  if l.elapsed ≤ limit then l else ⟨limit, .error (.timeout limit)⟩

/-- Two lookups side by side. The failure that comes first ends both, and of two at the same time
the first lookup's counts. -/
def both (a : Lookup ε α) (b : Lookup ε β) : Lookup ε (α × β) :=
  match a.result, b.result with
  | .ok x, .ok y => ⟨max a.elapsed b.elapsed, .ok (x, y)⟩
  | .error e, .ok _ => ⟨a.elapsed, .error e⟩
  | .ok _, .error e => ⟨b.elapsed, .error e⟩
  | .error e, .error f =>
    if a.elapsed ≤ b.elapsed then ⟨a.elapsed, .error e⟩ else ⟨b.elapsed, .error f⟩

/-- The newest comment and the newest activity of a member. -/
abbrev MemberSignals := Lookup ServiceError (Option Instant × Option Instant)

/-- The signals about an item from the lookups of its members' activity and of its pipeline, each
bounded by the same time. -/
def signals (limit : Nat) (issue : IssueRef) (member : MemberSignals)
    (pipeline : Lookup ServiceError (Option Pipeline)) : Lookup LifecycleError Signals :=
  let found := both
    ((member.within limit).mapError (.signalLookup issue .memberActivity))
    ((pipeline.within limit).mapError (.signalLookup issue .pipeline))
  ⟨found.elapsed, found.result.map fun ((comment, activity), pipeline) =>
    ⟨comment, activity, pipeline⟩⟩

end Lookup

end Upkeep
