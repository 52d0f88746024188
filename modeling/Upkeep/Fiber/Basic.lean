/-!
Computations that take time.

A `Fiber` works on a state that it shares with others, and waits for points of time in between.
Time is counted in ticks of a `Timeline`, whose clock moves only when there is nothing left to do
at once. `Fiber.run` carries a fiber out, which always comes to an end, because a fiber is a tree of
what may still happen and each step goes down in it.
-/

namespace Upkeep

/-- A point of time to wait for. Tickets are handed out in order, so that of two timers for the same
time the one with the lower ticket was set first. -/
structure Timer where
  deadline : Nat
  ticket : Nat
deriving DecidableEq, Repr

namespace Timer

/-- The timer goes off before another, or could do so. -/
def goesFirst (a b : Timer) : Bool :=
  decide (a.deadline < b.deadline) || (a.deadline == b.deadline && decide (a.ticket ≤ b.ticket))

/-- A timer beside another that goes off no sooner. At the same time the lower ticket counts. -/
def beside (a b : Timer) : Timer :=
  if a.deadline = b.deadline then ⟨a.deadline, min a.ticket b.ticket⟩ else a

end Timer

/-- A state in time. -/
structure Timeline (σ : Type) where
  state : σ
  /-- The ticks that have passed. -/
  clock : Nat := 0
  /-- The tickets that have been handed out. -/
  tickets : Nat := 0

/-- A computation on a state in time. -/
inductive Fiber (σ α : Type)
  | done (a : α)
  /-- Changes the timeline, and goes on as the timeline before the change says. -/
  | act (change : Timeline σ → Timeline σ) (next : Timeline σ → Fiber σ α)
  | wait (timer : Timer) (next : Fiber σ α)

namespace Fiber

variable {σ α β : Type}

/-- Goes on with another fiber after the end of this one. -/
def bind (f : Fiber σ α) (k : α → Fiber σ β) : Fiber σ β :=
  match f with
  | done a => k a
  | act change next => act change fun t => (next t).bind k
  | wait timer next => wait timer (next.bind k)

instance : Monad (Fiber σ) where
  pure := done
  bind := bind

/-- Works on the state at once. -/
def update (x : StateM σ α) : Fiber σ α :=
  act (fun t => { t with state := (x t.state).2 }) fun t => done (x t.state).1

/-- The ticks that have passed. -/
def clock : Fiber σ Nat := act id fun t => done t.clock

/-- Takes a ticket. -/
def takeTicket : Fiber σ Nat :=
  act (fun t => { t with tickets := t.tickets + 1 }) fun t => done t.tickets

/-- Waits for a number of ticks. -/
def sleep (ticks : Nat) : Fiber σ Unit :=
  if ticks = 0 then done ()
  else do
    let now ← clock
    let ticket ← takeTicket
    wait ⟨now + ticks, ticket⟩ (done ())

/-- Carries out a fiber. The clock moves on to what it waits for. -/
def run : Fiber σ α → Timeline σ → α × Timeline σ
  | done a, t => (a, t)
  | act change next, t => run (next t) (change t)
  | wait timer next, t => run next { t with clock := max t.clock timer.deadline }

end Fiber

end Upkeep
