import Upkeep.Fiber.Pool
import Upkeep.Proofs.Sweep.FinishOrder
/-!
# Every way in which a pool may carry out its jobs

`Interleaving` leaves open which of the jobs under way takes the next step and how the time passes
in between, so that it holds of far more runs than any one pool has. A pool is lawful if its runs
are among them. The pool that carries out one job at a time, in whatever order, is lawful
(`lawful_inTurn`), and so is the one that lets the jobs take turns (`lawful_pool`).
-/

namespace Upkeep

namespace Fiber

variable {σ α β γ : Type}

theorem run_bind (f : Fiber σ α) (k : α → Fiber σ β) (t : Timeline σ) :
    (f >>= k).run t = (k (f.run t).1).run (f.run t).2 := by
  show (f.bind k).run t = _
  induction f generalizing t with
  | done a => rfl
  | act change next ih => exact ih t (change t)
  | wait timer f ih => exact ih _

/-- A way of carrying out jobs of which at most `bound` are under way: from a timeline to results
and the timeline in the end. A job under way takes its next step or hands in its result, or the
time passes. -/
inductive Interleaving (bound : Nat) :
    List (Nat × Fiber σ α) → Timeline σ → List (Nat × α) → Timeline σ → Prop
  | finished {t} : Interleaving bound [] t [] t
  | time {jobs t u results v} (same : u.state = t.state) :
    Interleaving bound jobs u results v → Interleaving bound jobs t results v
  | done {before place a behind t results v} (under : before.length < Pool.workers bound) :
    Interleaving bound (before ++ behind) t results v →
      Interleaving bound (before ++ (place, .done a) :: behind) t ((place, a) :: results) v
  | act {before place change next behind t results v} (under : before.length < Pool.workers bound) :
    Interleaving bound (before ++ (place, next t) :: behind) (change t) results v →
      Interleaving bound (before ++ (place, .act change next) :: behind) t results v
  | wait {before place timer f behind t results v} (under : before.length < Pool.workers bound) :
    Interleaving bound (before ++ (place, f) :: behind) t results v →
      Interleaving bound (before ++ (place, .wait timer f) :: behind) t results v

end Fiber

/-- Whatever the pool is given to do, it does in one of the possible ways. -/
def Pool.Lawful {σ : Type} (pool : Pool (Fiber σ)) : Prop :=
  ∀ {α : Type} (bound : Nat) (jobs : List (Fiber σ α)) (t : Timeline σ),
    Fiber.Interleaving bound (Pool.placed jobs) t ((pool.conduct bound jobs).run t).1
      ((pool.conduct bound jobs).run t).2

namespace Fiber

variable {σ α β γ : Type} {bound : Nat}

/-! ## One job at a time -/

/-- A job under way may be carried out as a whole. -/
theorem Interleaving.whole {before behind : List (Nat × Fiber σ α)} {f : Fiber σ α}
    {t v : Timeline σ} {results : List (Nat × α)} (place : Nat)
    (h : Interleaving bound (before ++ behind) (f.run t).2 results v)
    (under : before.length < Pool.workers bound) :
    Interleaving bound (before ++ (place, f) :: behind) t ((place, (f.run t).1) :: results) v := by
  induction f generalizing t with
  | done a => exact .done under h
  | act change next ih => exact .act under (ih t h)
  | wait timer f ih =>
    refine .wait under (.time ?_ (ih h))
    rfl

theorem runAll_finishOrder (choices : List Nat) (jobs : List (Nat × Fiber σ α)) (t : Timeline σ) :
    Interleaving bound jobs t ((Pool.runAll (Pool.finishOrder bound choices jobs)).run t).1
      ((Pool.runAll (Pool.finishOrder bound choices jobs)).run t).2 := by
  induction choices, jobs using Pool.finishOrder.induct bound generalizing t with
  | case1 choices jobs h =>
    rw [Pool.eq_nil_of_getElem?_nextIndex h, Pool.finishOrder_nil]
    exact .finished
  | case2 choices jobs job h ih =>
    obtain ⟨hlt, hjob⟩ := List.getElem?_eq_some_iff.1 h
    have hunder := Pool.nextIndex_lt bound (choices.headD 0) (Nat.zero_lt_of_lt hlt)
    rw [Pool.finishOrder_of_next h, Pool.runAll, run_bind, run_bind]
    generalize Pool.nextIndex bound (choices.headD 0) jobs.length = n at *
    have hsplit : jobs = jobs.take n ++ job :: jobs.drop (n + 1) := by
      rw [← hjob, ← List.drop_eq_getElem_cons hlt, List.take_append_drop]
    rw [List.eraseIdx_eq_take_drop_succ] at ih ⊢
    have hwhole := (ih (job.2.run t).2).whole job.1 (by rw [List.length_take]; omega)
    rw [← hsplit] at hwhole
    exact hwhole

/-- Carrying out one job at a time is lawful, in whatever order they finish. -/
theorem lawful_inTurn (choices : List Nat) : (Pool.inTurn choices : Pool (Fiber σ)).Lawful :=
  fun _ jobs t => runAll_finishOrder choices (Pool.placed jobs) t

/-! ## Taking turns -/

/-- The fiber carries out jobs, and adds their results to those that are there. -/
def Serves (bound : Nat) (jobs : List (Nat × Fiber σ α)) (finished : List (Nat × α))
    (f : Fiber σ (List (Nat × α))) : Prop :=
  ∀ t, ∃ results, (f.run t).1 = finished ++ results ∧
    Interleaving bound jobs t results (f.run t).2

section

variable {jobs before behind : List (Nat × Fiber σ α)} {place : Nat} {finished : List (Nat × α)}

theorem Serves.wait {f : Fiber σ (List (Nat × α))} (h : Serves bound jobs finished f)
    (timer : Timer) : Serves bound jobs finished (.wait timer f) := by
  intro t
  obtain ⟨results, hr, hi⟩ := h { t with clock := max t.clock timer.deadline }
  refine ⟨results, hr, .time ?_ hi⟩
  rfl

theorem Serves.clock {k : Nat → Fiber σ (List (Nat × α))}
    (h : ∀ n, Serves bound jobs finished (k n)) :
    Serves bound jobs finished (Fiber.clock >>= k) :=
  fun t => h t.clock t

theorem Serves.takeTicket {k : Nat → Fiber σ (List (Nat × α))}
    (h : ∀ n, Serves bound jobs finished (k n)) :
    Serves bound jobs finished (Fiber.takeTicket >>= k) := by
  intro t
  obtain ⟨results, hr, hi⟩ := h t.tickets { t with tickets := t.tickets + 1 }
  refine ⟨results, hr, .time ?_ hi⟩
  rfl

theorem turn_serves (under : before.length < Pool.workers bound) {f : Fiber σ α}
    {whenDone : α → Fiber σ (List (Nat × α))}
    {whenWaiting : Timer → (rest : Fiber σ α) → Later rest f → Fiber σ (List (Nat × α))}
    (hdone : ∀ a, Serves bound (before ++ behind) (finished ++ [(place, a)]) (whenDone a))
    (hwait : ∀ timer rest h, Serves bound (before ++ (place, rest) :: behind) finished
      (whenWaiting timer rest h)) :
    Serves bound (before ++ (place, f) :: behind) finished (turn whenDone f whenWaiting) := by
  induction f with
  | done a =>
    intro t
    obtain ⟨results, hr, hi⟩ := hdone a t
    rw [List.append_assoc] at hr
    exact ⟨_, hr, .done under hi⟩
  | act change next ih =>
    intro t
    obtain ⟨results, hr, hi⟩ :=
      ih t (fun timer rest h => hwait timer rest (.behindAct h)) (change t)
    exact ⟨results, hr, .act under hi⟩
  | wait timer f ih =>
    intro t
    have hgo : Serves bound (before ++ (place, f) :: behind) finished
        (if timer.deadline ≤ t.clock then
          turn whenDone f fun timer rest h => whenWaiting timer rest (.behindWait h)
        else whenWaiting timer f .wait) := by
      split
      · exact ih fun timer rest h => hwait timer rest (.behindWait h)
      · exact hwait timer f .wait
    obtain ⟨results, hr, hi⟩ := hgo t
    exact ⟨results, hr, .wait under hi⟩

/-- The jobs that a pool still has to carry out. -/
def unfinished (workers : List (Worker σ α)) (waiting : List (Nat × Fiber σ α)) :
    List (Nat × Fiber σ α) :=
  (workers.map fun w => (w.place, w.rest)) ++ waiting

theorem eq_nil_of_nextWorker? {workers : List (Worker σ α)} (h : nextWorker? workers = none) :
    workers = [] := by
  cases workers with
  | nil => rfl
  | cons w ws =>
    rw [nextWorker?] at h
    split at h
    · cases h
    · split at h <;> cases h

/-- The workers of a pool take turns until nobody is left. No job waits for a place while none is
under way. -/
theorem serve_serves (workers : List (Worker σ α)) (waiting : List (Nat × Fiber σ α))
    (finished : List (Nat × α)) (hbound : workers.length ≤ Pool.workers bound)
    (hidle : workers = [] → waiting = []) :
    Serves bound (unfinished workers waiting) finished (serve workers waiting finished) := by
  have hacc := acc_fewer (workers.map Worker.rest ++ waiting.map Prod.snd)
  generalize hfs : workers.map Worker.rest ++ waiting.map Prod.snd = fs at hacc
  induction hacc generalizing workers waiting finished with
  | intro fs _ ih =>
    subst hfs
    rw [serve]
    split
    -- Nobody is under way.
    · next hnone =>
      obtain rfl := eq_nil_of_nextWorker? hnone
      obtain rfl := hidle rfl
      exact fun t => ⟨[], (List.append_nil _).symm, .finished⟩
    · next before w behind hnext =>
      obtain rfl := eq_of_nextWorker? hnext
      rw [List.length_append, List.length_cons] at hbound
      have hunder : (before.map fun w => (w.place, w.rest)).length < Pool.workers bound := by
        rw [List.length_map]
        omega
      have hjobs : unfinished (before ++ w :: behind) waiting =
          before.map (fun w => (w.place, w.rest)) ++
            (w.place, w.rest) :: unfinished behind waiting := by
        simp [unfinished]
      rw [hjobs]
      refine (turn_serves hunder (fun a => ?_) fun timer rest h => ?_).wait _
      -- The worker finishes, and hands its place to the first job that waits for one.
      · cases waiting with
        | nil =>
          have hfewer : Fewer ((before ++ behind).map Worker.rest ++ [])
              ((before ++ w :: behind).map Worker.rest ++ []) := by
            simp only [List.map_append, List.map_cons, List.append_assoc, List.cons_append]
            exact Fewer.append_left .gone _
          have hserves := ih _ hfewer (before ++ behind) [] (finished ++ [(w.place, a)])
            (by rw [List.length_append]; omega) (fun _ => rfl) rfl
          simpa [unfinished] using hserves
        | cons job waiting =>
          refine Serves.clock fun now => Serves.takeTicket fun ticket => ?_
          have hfewer : Fewer
              ((before ++ behind ++ [(⟨job.1, ⟨now, ticket⟩, job.2⟩ : Worker σ α)]).map
                Worker.rest ++ waiting.map Prod.snd)
              ((before ++ w :: behind).map Worker.rest ++ (job :: waiting).map Prod.snd) := by
            simp only [List.map_append, List.map_cons, List.map_nil, List.append_assoc,
              List.cons_append, List.nil_append]
            exact Fewer.append_left .gone _
          have hserves := ih _ hfewer (before ++ behind ++ [⟨job.1, ⟨now, ticket⟩, job.2⟩]) waiting
            (finished ++ [(w.place, a)])
            (by rw [List.length_append, List.length_append, List.length_singleton]; omega)
            (by simp) rfl
          simpa [unfinished] using hserves
      -- The worker has to wait, and less of its job is left.
      · have hfewer : Fewer
            ((before ++ ⟨w.place, timer, rest⟩ :: behind).map Worker.rest ++ waiting.map Prod.snd)
            ((before ++ w :: behind).map Worker.rest ++ waiting.map Prod.snd) := by
          simp only [List.map_append, List.map_cons, List.append_assoc, List.cons_append]
          exact Fewer.append_left (.later h) _
        have hserves := ih _ hfewer (before ++ ⟨w.place, timer, rest⟩ :: behind) waiting finished
          (by rw [List.length_append, List.length_cons]; exact hbound) (by simp) rfl
        simpa [unfinished] using hserves

/-- Letting the jobs under way take turns, each until it has to wait, is lawful. -/
theorem lawful_pool : (⟨Fiber.pool⟩ : Pool (Fiber σ)).Lawful := by
  intro α bound jobs t
  let first := (Pool.placed jobs).take (max bound 1)
  let workers : List (Worker σ α) :=
    first.zipIdx.map fun x => ⟨x.1.1, ⟨t.clock, t.tickets + x.2⟩, x.1.2⟩
  have hplaces : workers.map (fun w => (w.place, w.rest)) = first := by
    rw [List.map_map]
    exact List.zipIdx_map_fst 0 first
  have hlength : workers.length = first.length :=
    (List.length_map _).symm.trans (congrArg List.length hplaces)
  have hidle : workers = [] → (Pool.placed jobs).drop (max bound 1) = [] := by
    intro h
    rw [h, List.length_nil, List.length_take] at hlength
    rw [List.drop_eq_nil_iff]
    omega
  have hserves : Serves bound _ [] (serve workers _ []) :=
    serve_serves workers _ [] (by rw [hlength]; exact List.length_take_le _ _) hidle
  obtain ⟨results, hr, hi⟩ := hserves { t with tickets := t.tickets + first.length }
  rw [unfinished, hplaces, List.take_append_drop] at hi
  rw [List.nil_append] at hr
  refine .time ?_ (hr ▸ hi)
  rfl

end

end Fiber

end Upkeep
