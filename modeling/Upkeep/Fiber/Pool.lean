import Upkeep.Fiber.Basic
/-!
A pool of fibers.

`Fiber.pool` carries out jobs of which at most a given number are under way at a time. A job that is
under way runs until it has to wait; the next to go on is the one whose timer goes off first. When a
job has come to its end the next one that was not started yet gets its place.

The pool comes to an end because each of its turns takes a job out of the list of those that are
left, or goes down in what one of them may still do (`Fiber.Fewer`).
-/

namespace Upkeep.Fiber

variable {σ α γ : Type}

/-! ## Later parts of fibers -/

/-- The first fiber is what may be left of the second after some steps. -/
inductive Later : Fiber σ α → Fiber σ α → Prop
  | act {change next t} : Later (next t) (act change next)
  | wait {timer f} : Later f (wait timer f)
  | behindAct {change next t f} : Later f (next t) → Later f (Fiber.act change next)
  | behindWait {timer f g} : Later f g → Later f (Fiber.wait timer g)

theorem acc_later (f : Fiber σ α) : Acc Later f := by
  induction f with
  | done a => exact ⟨_, fun _ h => nomatch h⟩
  | act change next ih =>
    refine ⟨_, fun g h => ?_⟩
    cases h with
    | act => exact ih _
    | behindAct h => exact (ih _).inv h
  | wait timer f ih =>
    refine ⟨_, fun g h => ?_⟩
    cases h with
    | wait => exact ih
    | behindWait h => exact ih.inv h

/-- The first list of fibers is the second with one fiber gone, or gone on. -/
inductive Fewer : List (Fiber σ α) → List (Fiber σ α) → Prop
  | gone {f fs} : Fewer fs (f :: fs)
  | later {f g fs} : Later g f → Fewer (g :: fs) (f :: fs)
  | behind {f fs gs} : Fewer gs fs → Fewer (f :: gs) (f :: fs)

theorem Fewer.append_left {fs gs : List (Fiber σ α)} (h : Fewer gs fs) :
    ∀ es : List (Fiber σ α), Fewer (es ++ gs) (es ++ fs)
  | [] => h
  | _ :: es => .behind (h.append_left es)

theorem acc_cons {f : Fiber σ α} (hf : Acc Later f) :
    ∀ {fs : List (Fiber σ α)}, Acc Fewer fs → Acc Fewer (f :: fs) := by
  induction hf with
  | intro f _ ihf =>
    intro fs hfs
    induction hfs with
    | intro fs hfs ihfs =>
      refine ⟨_, fun gs h => ?_⟩
      cases h with
      | gone => exact ⟨_, hfs⟩
      | later h => exact ihf _ h ⟨_, hfs⟩
      | behind h => exact ihfs _ h

theorem acc_fewer : ∀ fs : List (Fiber σ α), Acc Fewer fs
  | [] => ⟨_, fun _ h => nomatch h⟩
  | f :: fs => acc_cons (acc_later f) (acc_fewer fs)

/-- The fibers that a pool still has to carry out. -/
structure Workload (σ α : Type) where
  fibers : List (Fiber σ α)

instance : WellFoundedRelation (Workload σ α) where
  rel a b := Fewer a.fibers b.fibers
  wf := InvImage.wf Workload.fibers ⟨acc_fewer⟩

/-! ## Turns -/

/-- Runs a fiber until it ends or has to wait for a time to come, and goes on accordingly. -/
def turn (whenDone : α → Fiber σ γ) :
    (f : Fiber σ α) → (Timer → (rest : Fiber σ α) → Later rest f → Fiber σ γ) → Fiber σ γ
  | done a, _ => whenDone a
  | act change next, whenWaiting =>
    act change fun t =>
      turn whenDone (next t) fun timer rest h => whenWaiting timer rest (.behindAct h)
  | wait timer f, whenWaiting =>
    act id fun t =>
      if timer.deadline ≤ t.clock then
        turn whenDone f fun timer rest h => whenWaiting timer rest (.behindWait h)
      else whenWaiting timer f .wait

/-- A job that is under way: its place among the jobs, what it waits for, and what is left of it. -/
structure Worker (σ α : Type) where
  place : Nat
  timer : Timer
  rest : Fiber σ α

/-- The worker whose timer goes off first, with those before and behind it. -/
def nextWorker? : List (Worker σ α) →
    Option (List (Worker σ α) × Worker σ α × List (Worker σ α))
  | [] => none
  | w :: ws =>
    match nextWorker? ws with
    | none => some ([], w, ws)
    | some (before, v, behind) =>
      if w.timer.goesFirst v.timer then some ([], w, ws) else some (w :: before, v, behind)

theorem eq_of_nextWorker? {ws before behind : List (Worker σ α)} {w : Worker σ α}
    (h : nextWorker? ws = some (before, w, behind)) : ws = before ++ w :: behind := by
  induction ws generalizing before w behind with
  | nil => simp [nextWorker?] at h
  | cons v ws ih =>
    rw [nextWorker?] at h
    split at h
    · cases h; rfl
    · next hn =>
      split at h
      · cases h; rfl
      · cases h; rw [ih hn]; rfl

/-- Carries out the jobs of the workers and those that are waiting for a place. `finished` holds the
results so far. -/
def serve (workers : List (Worker σ α)) (waiting : List (Nat × Fiber σ α))
    (finished : List (Nat × α)) : Fiber σ (List (Nat × α)) :=
  match _hw : nextWorker? workers with
  | none => done finished
  | some (before, w, behind) =>
    wait w.timer
      (turn
        (fun a =>
          match waiting with
          | [] => serve (before ++ behind) [] (finished ++ [(w.place, a)])
          | (place, f) :: waiting => do
            let now ← clock
            let ticket ← takeTicket
            serve (before ++ behind ++ [⟨place, ⟨now, ticket⟩, f⟩]) waiting
              (finished ++ [(w.place, a)]))
        w.rest
        fun timer rest _ =>
          serve (before ++ ⟨w.place, timer, rest⟩ :: behind) waiting finished)
termination_by (⟨workers.map Worker.rest ++ waiting.map Prod.snd⟩ : Workload σ α)
decreasing_by
  all_goals
    show Fewer _ _
    rw [eq_of_nextWorker? _hw]
    simp only [List.map_append, List.map_cons, List.map_nil, List.append_assoc, List.cons_append,
      List.nil_append]
    refine Fewer.append_left ?_ _
  · exact .gone
  · exact .gone
  · exact .later ‹_›

/-- Carries out jobs of which at most a given number, and at least one, are under way at a time.
Gives the results with the places of the jobs, in the order in which they were had. -/
def pool (bound : Nat) (jobs : List (Fiber σ α)) : Fiber σ (List (Nat × α)) :=
  let placed := jobs.zipIdx.map fun (f, place) => (place, f)
  let first := placed.take (max bound 1)
  act (fun t => { t with tickets := t.tickets + first.length }) fun t =>
    let workers := first.zipIdx.map fun ((place, f), i) => ⟨place, ⟨t.clock, t.tickets + i⟩, f⟩
    serve workers (placed.drop (max bound 1)) []

end Upkeep.Fiber
