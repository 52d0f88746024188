import Upkeep.Fiber.Join
import Upkeep.Fiber.Pool
import Upkeep.Sweep.Pool
/-!
Doing things at the same time.

`Concurrency` lists what the manager needs for that from the monad that it runs in. Fibers provide
it with a clock that counts in units of a given length.
-/

namespace Upkeep

/-- The ways of doing things at the same time. -/
structure Concurrency (m : Type → Type) where
  /-- Carries out a computation that has the given number of nanoseconds, and gives it up after
  them. -/
  within : {α : Type} → Nat → m α → m (Option α)
  /-- Carries out two computations side by side. The failure that comes first ends both. -/
  both : {ε α β : Type} → m (Except ε α) → m (Except ε β) → m (Except ε (α × β))
  pool : Pool m

/-- The ticks of a length that cover a span, both in nanoseconds. -/
def ticksFor (tick nanos : Nat) : Nat := (nanos + (tick - 1)) / tick

/-- Fibers under a clock of which a tick has the given number of nanoseconds. -/
def Fiber.concurrency {σ : Type} (tick : Nat) : Concurrency (Fiber σ) where
  within limit f := f.within (ticksFor tick limit)
  both := Fiber.both
  pool := ⟨Fiber.pool⟩

end Upkeep
