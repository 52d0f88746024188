import Upkeep.Fiber.Basic
/-!
Two fibers side by side, and a fiber with a bound on its time.

`Fiber.both` lets two fibers take turns: each runs until it has to wait, the first one first, and
whoever waits for the earlier time goes on next. The failure that comes first ends both.
`Fiber.within` ends a fiber that would have to wait beyond a deadline; one that comes to its end
just at the deadline counts.
-/

namespace Upkeep.Fiber

variable {σ α β ε : Type}

/-- The second of two fibers goes on while the first, which is `first` after its timer, waits. When
the timer of the first goes off sooner, or at the same time, `go` goes on with the first. -/
def besideWaiting (timer : Timer) (first : Fiber σ (Except ε α))
    (go : Fiber σ (Except ε β) → Fiber σ (Except ε (α × β))) :
    Fiber σ (Except ε β) → Fiber σ (Except ε (α × β))
  | done (.error e) => done (.error e)
  | done (.ok b) => wait timer ((fun r => r.map fun a => (a, b)) <$> first)
  | act change next => act change fun t => besideWaiting timer first go (next t)
  | wait other second =>
    if timer.deadline ≤ other.deadline then wait (timer.beside other) (go (wait other second))
    else wait other (besideWaiting timer first go second)

/-- Two fibers side by side. -/
def both : Fiber σ (Except ε α) → Fiber σ (Except ε β) → Fiber σ (Except ε (α × β))
  | done (.error e), _ => done (.error e)
  | done (.ok a), second => (fun r => r.map fun b => (a, b)) <$> second
  | act change next, second => act change fun t => both (next t) second
  | wait timer first, second => besideWaiting timer first (both first) second

/-- A fiber up to the deadline of a timer. A deadline that has come is not waited for. -/
def endingAt (timer : Timer) : Fiber σ α → Fiber σ (Option α)
  | done a => done (some a)
  | act change next => act change fun t => endingAt timer (next t)
  | wait other rest =>
    if other.deadline ≤ timer.deadline then wait (other.beside timer) (endingAt timer rest)
    else act id fun t => if timer.deadline ≤ t.clock then done none else wait timer (done none)

/-- A fiber with a number of ticks to come to its end. -/
def within (limit : Nat) (f : Fiber σ α) : Fiber σ (Option α) := do
  let now ← clock
  let ticket ← takeTicket
  endingAt ⟨now + limit, ticket⟩ f

end Upkeep.Fiber
