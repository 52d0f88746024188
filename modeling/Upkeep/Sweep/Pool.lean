/-!
A pool of workers.

Jobs are started in their order, and at most a given number of them is under way at a time; a bound
of zero acts as one. A `Pool` is a way of carrying out jobs under such a bound. Which of the jobs
under way finishes next is not settled, so `Pool.finishOrder` takes a list of choices and gives the
order in which the jobs finish under these choices, and `Pool.inTurn` carries them out one at a time
in that order.
-/

namespace Upkeep

/-- A way of carrying out jobs. -/
structure Pool (m : Type → Type) where
  /-- Carries out jobs of which at most the given number are under way at a time. Gives the results
  with the places of the jobs, in the order in which the jobs finish. -/
  conduct : {α : Type} → Nat → List (m α) → m (List (Nat × α))

namespace Pool

variable {α : Type}

/-- The number of jobs that may be under way. -/
def workers (bound : Nat) : Nat := max bound 1

/-- The place, among the unfinished jobs, of the one that finishes next: a job under way. -/
def nextIndex (bound : Nat) (choice : Nat) (unfinished : Nat) : Nat :=
  choice % min (workers bound) unfinished

/-- The order in which jobs finish. Without choices left, the oldest job under way is next. -/
def finishOrder (bound : Nat) (choices : List Nat) (jobs : List α) : List α :=
  match _h : jobs[nextIndex bound (choices.headD 0) jobs.length]? with
  | none => []
  | some job =>
    job :: finishOrder bound choices.tail
      (jobs.eraseIdx (nextIndex bound (choices.headD 0) jobs.length))
termination_by jobs.length
decreasing_by
  have hlt := (List.getElem?_eq_some_iff.1 _h).1
  rw [List.length_eraseIdx_of_lt hlt]
  omega

variable {m : Type → Type} [Monad m]

/-- Carries out jobs one after the other. -/
def runAll : List (Nat × m α) → m (List (Nat × α))
  | [] => pure []
  | (place, job) :: rest => do
    let a ← job
    let finished ← runAll rest
    pure ((place, a) :: finished)

/-- Carries out jobs one at a time, in the order in which they finish under the given choices. -/
def inTurn (choices : List Nat) : Pool m where
  conduct bound jobs := runAll (finishOrder bound choices (jobs.zipIdx.map fun (j, i) => (i, j)))

end Pool

end Upkeep
