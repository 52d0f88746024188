import Upkeep.Proofs.Fiber.Arrival
import Upkeep.Services
/-!
# The signals about an item, or the failure that comes first

The newest comment and the newest activity of a member are looked up one after the other under one
bound, and beside them the pipeline under another of the same length. Either all of them are found
in time, or the failure that comes first is reported, when it comes (`gather_earliest_failure`).
-/

namespace Upkeep

namespace Lookup

variable {ε δ α β : Type} {limit time : Nat} {issue : IssueRef}

/-! ## Failing in time -/

/-- Under a bound, a lookup fails at a time: with its own failure, or because it has not come to an
end by the bound. -/
inductive FailsAt (limit : Nat) (l : Lookup ServiceError α) : Nat → ServiceError → Prop
  | error (e : ServiceError) (h : l.result = .error e) (hle : l.elapsed ≤ limit) :
    FailsAt limit l l.elapsed e
  | late (h : limit < l.elapsed) : FailsAt limit l limit (.timeout limit)

/-- Under one bound, two lookups of which the second begins when the first has succeeded fail at a
time. -/
inductive PairFailsAt (limit : Nat) (a : Lookup ServiceError α) (b : Lookup ServiceError β) :
    Nat → ServiceError → Prop
  | first {time : Nat} {e : ServiceError} (h : FailsAt limit a time e) :
    PairFailsAt limit a b time e
  | second (x : α) (e : ServiceError) (ha : a.result = .ok x) (hb : b.result = .error e)
    (hle : a.elapsed + b.elapsed ≤ limit) : PairFailsAt limit a b (a.elapsed + b.elapsed) e
  | late (x : α) (ha : a.result = .ok x) (hle : a.elapsed ≤ limit)
    (h : limit < a.elapsed + b.elapsed) : PairFailsAt limit a b limit (.timeout limit)

/-- Of a comment, an activity that is looked up after it, and a pipeline beside both, the failure
that comes first, if one does. At the same time that of the comment or activity counts. -/
inductive EarliestFailure (limit : Nat) (comment activity : Lookup ServiceError (Option Instant))
    (pipeline : Lookup ServiceError (Option Pipeline)) : LookupTarget → Nat → ServiceError → Prop
  | member {time : Nat} {e : ServiceError} (h : PairFailsAt limit comment activity time e)
    (hfirst : ∀ other e', FailsAt limit pipeline other e' → time ≤ other) :
    EarliestFailure limit comment activity pipeline .memberActivity time e
  | pipeline {time : Nat} {e : ServiceError} (h : FailsAt limit pipeline time e)
    (hfirst : ∀ other e', PairFailsAt limit comment activity other e' → time < other) :
    EarliestFailure limit comment activity pipeline .pipeline time e

/-! ## Failing lookups -/

theorem within_eq_error_iff {l : Lookup ServiceError α} {e : ServiceError} :
    l.within limit = ⟨time, .error e⟩ ↔ FailsAt limit l time e := by
  unfold within
  constructor
  · intro h
    split at h
    · next hle =>
      obtain ⟨elapsed, result⟩ := l
      cases h
      exact .error e rfl hle
    · next hlt =>
      cases h
      exact .late (Nat.lt_of_not_le hlt)
  · rintro (⟨_, herror, hle⟩ | hlt)
    · rw [if_pos hle, ← herror]
    · rw [if_neg (Nat.not_le_of_lt hlt)]

theorem failsAt_andThen_iff {a : Lookup ServiceError α} {b : Lookup ServiceError β}
    {e : ServiceError} : FailsAt limit (a.andThen b) time e ↔ PairFailsAt limit a b time e := by
  obtain ⟨elapsed, result⟩ := a
  cases result with
  | error e' =>
    constructor
    · rintro (⟨_, herror, hle⟩ | hlt)
      · obtain rfl : e' = e := Except.error.inj herror
        exact .first (.error e' rfl hle)
      · exact .first (.late hlt)
    · rintro ((⟨_, herror, hle⟩ | hlt) | ⟨_, _, ha⟩ | ⟨_, ha⟩)
      · obtain rfl : e' = e := Except.error.inj herror
        exact .error e' rfl hle
      · exact .late hlt
      · cases ha
      · cases ha
  | ok x =>
    have hresult : ((⟨elapsed, .ok x⟩ : Lookup ServiceError α).andThen b).result =
        b.result.map fun y => (x, y) := rfl
    constructor
    · rintro (⟨_, herror, hle⟩ | hlt)
      · cases hb : b.result with
        | error e' =>
          rw [hresult, hb] at herror
          obtain rfl : e' = e := Except.error.inj herror
          exact .second x e' rfl hb hle
        | ok y =>
          rw [hresult, hb] at herror
          cases herror
      · by_cases hle : elapsed ≤ limit
        · exact .late x rfl hle hlt
        · exact .first (.late (Nat.lt_of_not_le hle))
    · rintro ((⟨_, herror, -⟩ | hlt) | ⟨x', _, -, hb, hle⟩ | ⟨x', -, -, hlt⟩)
      · cases herror
      · exact .late (Nat.lt_of_lt_of_le hlt (Nat.le_add_right elapsed b.elapsed))
      · exact .error e (by rw [hresult, hb]; rfl) hle
      · exact .late hlt

theorem mapError_eq_error_iff {f : ε → δ} {l : Lookup ε α} {e : δ} :
    l.mapError f = ⟨time, .error e⟩ ↔ ∃ e', l = ⟨time, .error e'⟩ ∧ e = f e' := by
  obtain ⟨elapsed, result⟩ := l
  cases result <;> simp [mapError, Except.mapError, eq_comm]

/-! ## Side by side -/

/-- Two lookups side by side fail with the failure that comes first. -/
theorem both_eq_error_iff {a : Lookup ε α} {b : Lookup ε β} {e : ε} :
    a.both b = ⟨time, .error e⟩ ↔
      (a = ⟨time, .error e⟩ ∧ ∀ other e', b = ⟨other, .error e'⟩ → time ≤ other) ∨
        (b = ⟨time, .error e⟩ ∧ ∀ other e', a = ⟨other, .error e'⟩ → time < other) := by
  obtain ⟨elapsed, result⟩ := a
  obtain ⟨elapsed', result'⟩ := b
  cases result with
  | ok x => cases result' <;> simp [both]
  | error e₁ =>
    cases result' with
    | ok y => simp [both]
    | error e₂ =>
      simp only [both, mk.injEq, Except.error.injEq]
      split
      · next hle =>
        constructor
        · rintro ⟨⟩
          exact .inl ⟨⟨rfl, rfl⟩, fun other e' h => h.1 ▸ hle⟩
        · rintro (⟨⟨rfl, rfl⟩, -⟩ | ⟨⟨rfl, rfl⟩, hlt⟩)
          · rfl
          · exact absurd (hlt elapsed e₁ ⟨rfl, rfl⟩) (Nat.not_lt_of_le hle)
      · next hlt =>
        constructor
        · rintro ⟨⟩
          exact .inr ⟨⟨rfl, rfl⟩, fun other e' h => h.1 ▸ Nat.lt_of_not_le hlt⟩
        · rintro (⟨⟨rfl, rfl⟩, hle⟩ | ⟨⟨rfl, rfl⟩, -⟩)
          · exact absurd (hle elapsed' e₂ ⟨rfl, rfl⟩) hlt
          · rfl

theorem both_eq_ok_iff {a : Lookup ε α} {b : Lookup ε β} {x : α} {y : β} :
    (a.both b).result = .ok (x, y) ↔ a.result = .ok x ∧ b.result = .ok y := by
  obtain ⟨elapsed, result⟩ := a
  obtain ⟨elapsed', result'⟩ := b
  cases result with
  | ok x => cases result' <;> simp [both]
  | error e₁ =>
    cases result' with
    | ok y => simp [both]
    | error e₂ =>
      simp only [both]
      split <;> simp

/-! ## The signals -/

variable {comment activity : Lookup ServiceError (Option Instant)}
  {pipeline : Lookup ServiceError (Option Pipeline)}

/-- The lookups about an item side by side, each under the bound. -/
def sideBySide (limit : Nat) (issue : IssueRef) (member : MemberSignals)
    (pipeline : Lookup ServiceError (Option Pipeline)) :
    Lookup LifecycleError ((Option Instant × Option Instant) × Option Pipeline) :=
  both ((member.within limit).mapError (.signalLookup issue .memberActivity))
    ((pipeline.within limit).mapError (.signalLookup issue .pipeline))

theorem signals_eq (limit : Nat) (issue : IssueRef) (member : MemberSignals)
    (pipeline : Lookup ServiceError (Option Pipeline)) :
    signals limit issue member pipeline =
      ⟨(sideBySide limit issue member pipeline).elapsed,
        (sideBySide limit issue member pipeline).result.map fun found =>
          ⟨found.1.1, found.1.2, found.2⟩⟩ := rfl

theorem signals_eq_error_iff {error : LifecycleError} :
    signals limit issue (comment.andThen activity) pipeline = ⟨time, .error error⟩ ↔
      ∃ target e, EarliestFailure limit comment activity pipeline target time e ∧
        error = .signalLookup issue target e := by
  have hmember {other : Nat} {error : LifecycleError} :
      ((comment.andThen activity).within limit).mapError (.signalLookup issue .memberActivity) =
          ⟨other, .error error⟩ ↔
        ∃ e, PairFailsAt limit comment activity other e ∧
          error = .signalLookup issue .memberActivity e := by
    rw [mapError_eq_error_iff]
    simp only [within_eq_error_iff, failsAt_andThen_iff]
  have hpipeline {other : Nat} {error : LifecycleError} :
      (pipeline.within limit).mapError (.signalLookup issue .pipeline) = ⟨other, .error error⟩ ↔
        ∃ e, FailsAt limit pipeline other e ∧ error = .signalLookup issue .pipeline e := by
    rw [mapError_eq_error_iff]
    simp only [within_eq_error_iff]
  have hfound : signals limit issue (comment.andThen activity) pipeline = ⟨time, .error error⟩ ↔
      sideBySide limit issue (comment.andThen activity) pipeline = ⟨time, .error error⟩ := by
    rw [signals_eq]
    generalize sideBySide limit issue (comment.andThen activity) pipeline = found
    obtain ⟨elapsed, result⟩ := found
    cases result <;> simp [Except.map]
  rw [hfound, sideBySide, both_eq_error_iff, hmember, hpipeline]
  constructor
  · rintro (⟨⟨e, he, rfl⟩, hfirst⟩ | ⟨⟨e, he, rfl⟩, hfirst⟩)
    · refine ⟨.memberActivity, e, .member he fun other e' h => ?_, rfl⟩
      exact hfirst other _ (hpipeline.2 ⟨e', h, rfl⟩)
    · refine ⟨.pipeline, e, .pipeline he fun other e' h => ?_, rfl⟩
      exact hfirst other _ (hmember.2 ⟨e', h, rfl⟩)
  · rintro ⟨_, e, ⟨he, hfirst⟩ | ⟨he, hfirst⟩, rfl⟩
    · refine .inl ⟨⟨e, he, rfl⟩, fun other error h => ?_⟩
      obtain ⟨e', he', -⟩ := hpipeline.1 h
      exact hfirst other e' he'
    · refine .inr ⟨⟨e, he, rfl⟩, fun other error h => ?_⟩
      obtain ⟨e', he', -⟩ := hmember.1 h
      exact hfirst other e' he'

theorem within_elapsed_le {l : Lookup ServiceError α} : (l.within limit).elapsed ≤ limit := by
  unfold within
  split
  · assumption
  · exact Nat.le_refl limit

theorem both_elapsed_le (a : Lookup ε α) (b : Lookup ε β) :
    (a.both b).elapsed ≤ max a.elapsed b.elapsed := by
  unfold both
  split
  · exact Nat.le_refl _
  · exact Nat.le_max_left _ _
  · exact Nat.le_max_right _ _
  · split
    · exact Nat.le_max_left _ _
    · exact Nat.le_max_right _ _

/-- The signals are there, or are given up, within the bound. -/
theorem signals_elapsed_le {member : MemberSignals} :
    (signals limit issue member pipeline).elapsed ≤ limit := by
  refine Nat.le_trans (both_elapsed_le _ _) ?_
  exact Nat.max_le.2 ⟨within_elapsed_le, within_elapsed_le⟩

theorem within_result_eq_ok_iff {l : Lookup ServiceError α} {x : α} :
    (l.within limit).result = .ok x ↔ l.result = .ok x ∧ l.elapsed ≤ limit := by
  unfold within
  split
  · next hle => exact ⟨fun h => ⟨h, hle⟩, And.left⟩
  · next hlt =>
    constructor
    · intro h
      cases h
    · rintro ⟨-, hle⟩
      exact absurd hle hlt

theorem mapError_result_eq_ok_iff {f : ε → δ} {l : Lookup ε α} {x : α} :
    (l.mapError f).result = .ok x ↔ l.result = .ok x := by
  obtain ⟨elapsed, result⟩ := l
  cases result <;> simp [mapError, Except.mapError]

theorem andThen_within_eq_ok_iff {a : Lookup ServiceError α} {b : Lookup ServiceError β} {x : α}
    {y : β} : ((a.andThen b).within limit).result = .ok (x, y) ↔
      a.result = .ok x ∧ b.result = .ok y ∧ a.elapsed + b.elapsed ≤ limit := by
  rw [within_result_eq_ok_iff]
  obtain ⟨elapsed, result⟩ := a
  obtain ⟨elapsed', result'⟩ := b
  cases result with
  | error e => simp [andThen]
  | ok x' => cases result' <;> simp [andThen, Except.map, and_assoc]

theorem signals_eq_ok_iff {s : Signals} :
    (signals limit issue (comment.andThen activity) pipeline).result = .ok s ↔
      comment.result = .ok s.memberComment ∧ activity.result = .ok s.memberActivity ∧
        comment.elapsed + activity.elapsed ≤ limit ∧
        pipeline.result = .ok s.pipeline ∧ pipeline.elapsed ≤ limit := by
  have hfound : (signals limit issue (comment.andThen activity) pipeline).result = .ok s ↔
      (sideBySide limit issue (comment.andThen activity) pipeline).result =
        .ok ((s.memberComment, s.memberActivity), s.pipeline) := by
    rw [signals_eq]
    generalize sideBySide limit issue (comment.andThen activity) pipeline = found
    obtain ⟨elapsed, result⟩ := found
    obtain ⟨memberComment, memberActivity, onBoard⟩ := s
    cases result with
    | error e => simp [Except.map]
    | ok x =>
      obtain ⟨⟨x, y⟩, z⟩ := x
      simp [Except.map, and_assoc]
  rw [hfound, sideBySide, both_eq_ok_iff, mapError_result_eq_ok_iff, mapError_result_eq_ok_iff,
    andThen_within_eq_ok_iff, within_result_eq_ok_iff]
  simp only [and_assoc]

end Lookup

/-! ## Carried out -/

namespace Fiber

variable {σ α β ε : Type}

/-- Whenever it sets off, and whatever it finds in the state, the fiber comes to the result of the
lookup after the time that the lookup takes. -/
def Takes (f : Fiber σ (Except ε α)) (l : Lookup ε α) : Prop :=
  ∀ start, Arrives (· < ·) start f (start + l.elapsed) l.result

/-- Sleeps for the time of a lookup and gives its result. -/
def ofLookup (l : Lookup ε α) : Fiber σ (Except ε α) := do
  sleep l.elapsed
  pure l.result

theorem takes_ofLookup (l : Lookup ε α) : (ofLookup l : Fiber σ (Except ε α)).Takes l :=
  fun start => (Arrives.sleep start l.elapsed).bind .done

/-- A second lookup after the first has succeeded. -/
def inSequence (first : Fiber σ (Except ε α)) (second : Fiber σ (Except ε β)) :
    Fiber σ (Except ε (α × β)) := do
  match ← first with
  | .error e => pure (.error e)
  | .ok a => do
    match ← second with
    | .error e => pure (.error e)
    | .ok b => pure (.ok (a, b))

theorem Takes.inSequence {f : Fiber σ (Except ε α)} {g : Fiber σ (Except ε β)}
    {a : Lookup ε α} {b : Lookup ε β} (hf : f.Takes a) (hg : g.Takes b) :
    (inSequence f g).Takes (a.andThen b) := by
  intro start
  refine (hf start).bind ?_
  obtain ⟨elapsed, result⟩ := a
  cases result with
  | error e => exact .done
  | ok x =>
    show Arrives (· < ·) (start + elapsed) _ (start + (elapsed + b.elapsed)) _
    rw [← Nat.add_assoc]
    refine (hg (start + elapsed)).bind ?_
    obtain ⟨elapsed', result'⟩ := b
    cases result' <;> exact .done

end Fiber

open Upkeep.Fiber

variable {σ α : Type} {limit n : Nat} {issue : IssueRef}

theorem ticksFor_one (nanos : Nat) : ticksFor 1 nanos = nanos :=
  Nat.div_one nanos

/-- A lookup under a bound takes the time of the bounded lookup. -/
theorem bounded_takes [Nonempty σ] {f : Fiber σ (Except ServiceError α)}
    {l : Lookup ServiceError α} (hf : f.Takes l) (limit : Nat) (issue : IssueRef)
    (target : LookupTarget) :
    (Services.bounded (Fiber.concurrency 1) limit issue target f).Takes
      ((l.within limit).mapError (.signalLookup issue target)) := by
  intro start
  have helapsed : min (start + l.elapsed) (start + limit) = start + (l.within limit).elapsed := by
    rw [Nat.add_min_add_left]
    unfold Lookup.within
    split
    · next hle => rw [Nat.min_eq_left hle]
    · next hlt => rw [Nat.min_eq_right (Nat.le_of_not_le hlt)]
  have hresult : (if start + l.elapsed ≤ start + limit then some l.result else none).getD
      (.error (.timeout limit)) = (l.within limit).result := by
    simp only [Nat.add_le_add_iff_left]
    unfold Lookup.within
    split <;> rfl
  have hwithin := (hf start).within limit
  rw [helapsed] at hwithin
  show Arrives (· < ·) start (f.within (ticksFor 1 limit) >>= _) _ _
  rw [ticksFor_one]
  refine hwithin.bind ?_
  rw [hresult]
  exact .done

/-- Lookups side by side take the time of the two, whenever they set off. -/
theorem Lookup.both_shift {ε β : Type} (start : Nat) (a : Lookup ε α) (b : Lookup ε β) :
    Lookup.both ⟨start + a.elapsed, a.result⟩ ⟨start + b.elapsed, b.result⟩ =
      ⟨start + (a.both b).elapsed, (a.both b).result⟩ := by
  obtain ⟨elapsed, result⟩ := a
  obtain ⟨elapsed', result'⟩ := b
  cases result with
  | ok x =>
    cases result' with
    | ok y => simp only [both, Nat.add_max_add_left]
    | error e => rfl
  | error e =>
    cases result' with
    | ok y => rfl
    | error e' =>
      simp only [both, Nat.add_le_add_iff_left]
      split <;> rfl

/-- What is gathered takes the time of the closed form. -/
theorem gather_arrives [Nonempty σ]
    {member : Fiber σ (Except ServiceError (Option Instant × Option Instant))}
    {pipeline : Fiber σ (Except ServiceError (Option Pipeline))} {a : Lookup.MemberSignals}
    {p : Lookup ServiceError (Option Pipeline)} (hmember : member.Takes a)
    (hpipeline : pipeline.Takes p) (limit : Nat) (issue : IssueRef) (start : Nat) :
    Arrives (· ≤ ·) start (Services.gather (Fiber.concurrency 1) limit issue member pipeline)
      (start + (Lookup.signals limit issue a p).elapsed)
      (Lookup.signals limit issue a p).result := by
  have hfirst := bounded_takes hmember limit issue .memberActivity start
  have hsecond := (bounded_takes hpipeline limit issue .pipeline start).mono fun _ _ =>
    Nat.le_of_lt
  have hboth := hfirst.both hsecond
  rw [Lookup.both_shift] at hboth
  exact hboth.bind .done

open Lookup in
/-- The signals about an item are gathered if the lookups of the comment and then of the activity
succeed within the bound, and the lookup of the pipeline does. Otherwise the failure that comes
first is reported, at the time when it comes. Neither takes longer than the bound, and both are what
the closed form says. A live manager gathers the signals in this way from what its services know. -/
theorem gather_earliest_failure {comment activity : Fiber σ (Except ServiceError (Option Instant))}
    {pipeline : Fiber σ (Except ServiceError (Option Pipeline))}
    {c a : Lookup ServiceError (Option Instant)} {p : Lookup ServiceError (Option Pipeline)}
    (hcomment : comment.Takes c) (hactivity : activity.Takes a) (hpipeline : pipeline.Takes p)
    (limit : Nat) (issue : IssueRef) (t : Timeline σ) :
    let run := (Services.gather (Fiber.concurrency 1) limit issue (inSequence comment activity)
      pipeline).run t
    let took := run.2.clock - t.clock
    (∀ s, run.1 = .ok s ↔ c.result = .ok s.memberComment ∧ a.result = .ok s.memberActivity ∧
        c.elapsed + a.elapsed ≤ limit ∧ p.result = .ok s.pipeline ∧ p.elapsed ≤ limit) ∧
      (∀ error, run.1 = .error error → ∃ target e,
        EarliestFailure limit c a p target took e ∧ error = .signalLookup issue target e) ∧
      (∀ target time e, EarliestFailure limit c a p target time e →
        run.1 = .error (.signalLookup issue target e) ∧ took = time) ∧
      took ≤ limit ∧ run.2.clock = t.clock + took ∧
      signals limit issue (c.andThen a) p = ⟨took, run.1⟩ ∧
      ∀ (services : Services (Fiber σ)) (item : Issue),
        services.signals (Fiber.concurrency 1) limit item =
          Services.gather (Fiber.concurrency 1) limit item.reference
            (services.members.signals item.reference item.isPullRequest)
            (services.pipelineOf item.reference) := by
  intro run took
  have : Nonempty σ := ⟨t.state⟩
  have harrives := gather_arrives (hcomment.inSequence hactivity) hpipeline limit issue t.clock
  obtain ⟨hresult, hclock⟩ := harrives.run (fun _ _ => id) rfl
  have htook : took = (signals limit issue (c.andThen a) p).elapsed := by
    show run.2.clock - t.clock = _
    rw [hclock, Nat.add_sub_cancel_left]
  have hclosed : signals limit issue (c.andThen a) p = ⟨took, run.1⟩ := by
    rw [htook, hresult]
  refine ⟨fun s => ?_, fun error herror => ?_, fun target time e he => ?_, ?_, ?_, hclosed,
    fun _ _ => rfl⟩
  · have hrun : run.1 = (signals limit issue (c.andThen a) p).result := hresult
    rw [hrun]
    exact signals_eq_ok_iff
  · rw [herror] at hclosed
    exact signals_eq_error_iff.1 hclosed
  · have hfails : signals limit issue (c.andThen a) p =
        ⟨time, .error (.signalLookup issue target e)⟩ :=
      signals_eq_error_iff.2 ⟨target, e, he, rfl⟩
    rw [hfails] at hclosed
    obtain ⟨htime, herror⟩ := Lookup.mk.inj hclosed
    exact ⟨herror.symm, htime.symm⟩
  · rw [htook]
    exact signals_elapsed_le
  · rw [htook]
    exact hclock

open Lookup in
/-- The activity and the pipeline fail at the same time, which is before the bound. -/
theorem gather_earliest_failure_tie :
    let comment : Lookup ServiceError (Option Instant) := ⟨3, .ok none⟩
    let activity : Lookup ServiceError (Option Instant) := ⟨4, .error (.transport "no route")⟩
    let pipeline : Lookup ServiceError (Option Pipeline) := ⟨7, .error (.api 500 "out of order")⟩
    (ofLookup comment : Fiber Unit _).Takes comment ∧
      (ofLookup activity : Fiber Unit _).Takes activity ∧
      (ofLookup pipeline : Fiber Unit _).Takes pipeline ∧
      let run := (Services.gather (Fiber.concurrency 1) 10 ⟨⟨"istio", "istio"⟩, 1⟩
        (inSequence (ofLookup comment) (ofLookup activity)) (ofLookup pipeline)).run
          { state := () }
      run.1 = .error (.signalLookup ⟨⟨"istio", "istio"⟩, 1⟩ .memberActivity
        (.transport "no route")) ∧ run.2.clock = 7 := by
  intro comment activity pipeline
  have hcomment : (ofLookup comment : Fiber Unit _).Takes comment := takes_ofLookup comment
  have hactivity : (ofLookup activity : Fiber Unit _).Takes activity := takes_ofLookup activity
  have hpipeline : (ofLookup pipeline : Fiber Unit _).Takes pipeline := takes_ofLookup pipeline
  refine ⟨hcomment, hactivity, hpipeline, ?_⟩
  intro run
  obtain ⟨-, -, hfails, -, hclock, -⟩ := gather_earliest_failure hcomment hactivity hpipeline 10
    ⟨⟨"istio", "istio"⟩, 1⟩ { state := () }
  have hmember : PairFailsAt 10 comment activity 7 (.transport "no route") :=
    .second none _ rfl rfl (by decide)
  have hearliest : EarliestFailure 10 comment activity pipeline .memberActivity 7
      (.transport "no route") := by
    refine .member hmember ?_
    rintro _ _ (⟨_, _, -⟩ | hlate)
    · exact Nat.le_refl 7
    · exact absurd hlate (by decide)
  obtain ⟨hresult, htook⟩ := hfails _ _ _ hearliest
  refine ⟨hresult, ?_⟩
  rw [htook] at hclock
  exact hclock

end Upkeep
