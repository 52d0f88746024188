import Upkeep.Proofs.Fiber.Interleaving
/-!
# Jobs that keep to their own part of a state

The state is seen through shares, one for each owner. A fiber stays in a share if what it does
depends on that share only and leaves the other shares as they are. Jobs that stay in different
shares come to the same results in every interleaving, and leave their shares as they would alone
(`Interleaving.serialized`).
-/

namespace Upkeep.Fiber

variable {σ α β ι τ : Type} {share : ι → σ → τ} {r q : ι}

/-- The fiber depends on one share only, and changes no other. -/
def StaysIn (share : ι → σ → τ) (r : ι) : Fiber σ α → Prop
  | done _ => True
  | act change next =>
    (∀ t u, share r t.state = share r u.state →
        next t = next u ∧ share r (change t).state = share r (change u).state) ∧
      (∀ t, ∀ q ≠ r, share q (change t).state = share q t.state) ∧
      ∀ t, StaysIn share r (next t)
  | wait _ f => StaysIn share r f

/-- A step on the state that depends on one share only, and changes no other. -/
structure ActsIn (share : ι → σ → τ) (r : ι) (x : StateM σ α) : Prop where
  own : ∀ s s', share r s = share r s' →
    (x s).1 = (x s').1 ∧ share r (x s).2 = share r (x s').2
  others : ∀ s, ∀ q ≠ r, share q (x s).2 = share q s

theorem staysIn_pure (a : α) : StaysIn share r (pure a : Fiber σ α) := trivial

theorem StaysIn.bind {f : Fiber σ α} {k : α → Fiber σ β} (hf : StaysIn share r f)
    (hk : ∀ a, StaysIn share r (k a)) : StaysIn share r (f >>= k) := by
  show StaysIn share r (f.bind k)
  induction f with
  | done a => exact hk a
  | act change next ih =>
    obtain ⟨hown, hothers, hnext⟩ := hf
    refine ⟨fun t u h => ?_, hothers, fun t => ih t (hnext t)⟩
    obtain ⟨heq, hshare⟩ := hown t u h
    exact ⟨congrArg (Fiber.bind · k) heq, hshare⟩
  | wait timer f ih => exact ih hf

/-- After a step on the state, what follows has to be looked at for its possible results only. -/
theorem ActsIn.update_bind {x : StateM σ α} {k : α → Fiber σ β} (hx : ActsIn share r x)
    (hk : ∀ s, StaysIn share r (k (x s).1)) : StaysIn share r (update x >>= k) :=
  ⟨fun _ _ h => ⟨congrArg k (hx.own _ _ h).1, (hx.own _ _ h).2⟩, fun t => hx.others t.state,
    fun t => hk t.state⟩

theorem ActsIn.update {x : StateM σ α} (hx : ActsIn share r x) :
    StaysIn share r (Fiber.update x) :=
  ⟨fun _ _ h => ⟨congrArg done (hx.own _ _ h).1, (hx.own _ _ h).2⟩, fun t => hx.others t.state,
    fun _ => trivial⟩

theorem StaysIn.run_congr {f : Fiber σ α} (hf : StaysIn share r f) {t u : Timeline σ}
    (h : share r t.state = share r u.state) :
    (f.run t).1 = (f.run u).1 ∧ share r (f.run t).2.state = share r (f.run u).2.state := by
  induction f generalizing t u with
  | done a => exact ⟨rfl, h⟩
  | act change next ih =>
    obtain ⟨hown, -, hnext⟩ := hf
    obtain ⟨heq, hshare⟩ := hown t u h
    show ((next t).run (change t)).1 = ((next u).run (change u)).1 ∧
      share r ((next t).run (change t)).2.state = share r ((next u).run (change u)).2.state
    rw [← heq]
    exact ih t (hnext t) hshare
  | wait timer f ih => exact ih hf h

/-! ## Jobs with shares of their own -/

/-- What a job comes to when it is carried out alone: its place, its result and its share. -/
def outcome (share : ι → σ → τ) (owner : Nat → ι) (t : Timeline σ) (job : Nat × Fiber σ α) :
    Nat × α × τ :=
  (job.1, (job.2.run t).1, share (owner job.1) (job.2.run t).2.state)

/-- The jobs have come to what each of them comes to alone. -/
structure Serialized (share : ι → σ → τ) (owner : Nat → ι) (outcomes : List (Nat × α × τ))
    (t : Timeline σ) (results : List (Nat × α)) (v : Timeline σ) : Prop where
  results : results.Perm (outcomes.map fun o => (o.1, o.2.1))
  shares : ∀ o ∈ outcomes, share (owner o.1) v.state = o.2.2
  others : ∀ q, (∀ o ∈ outcomes, owner o.1 ≠ q) → share q v.state = share q t.state

theorem Serialized.of_others {owner : Nat → ι} {outcomes : List (Nat × α × τ)}
    {t u v : Timeline σ} {results : List (Nat × α)}
    (h : Serialized share owner outcomes u results v)
    (hu : ∀ q, (∀ o ∈ outcomes, owner o.1 ≠ q) → share q u.state = share q t.state) :
    Serialized share owner outcomes t results v :=
  ⟨h.results, h.shares, fun q hq => (h.others q hq).trans (hu q hq)⟩

section

variable {owner : Nat → ι} {t u : Timeline σ}

theorem outcome_congr {job : Nat × Fiber σ α} (hjob : StaysIn share (owner job.1) job.2)
    (h : share (owner job.1) t.state = share (owner job.1) u.state) :
    outcome share owner t job = outcome share owner u job := by
  obtain ⟨hresult, hshare⟩ := hjob.run_congr h
  simp only [outcome, hresult, hshare]

variable {before behind : List (Nat × Fiber σ α)} {place : Nat} {f g : Fiber σ α}

theorem owner_ne (howners : ((before ++ (place, f) :: behind).map fun job => owner job.1).Nodup) :
    ∀ job ∈ before ++ behind, owner job.1 ≠ owner place := by
  have hperm : ((before ++ (place, f) :: behind).map fun job => owner job.1).Perm
      (((place, f) :: (before ++ behind)).map fun job => owner job.1) :=
    List.perm_middle.map _
  have hnot := (List.nodup_cons.1 (hperm.nodup_iff.1 howners)).1
  exact fun job hjob h => hnot (List.mem_map.2 ⟨job, hjob, h⟩)

/-- A step of one job changes nothing of what the jobs come to. -/
theorem map_outcome_step
    (hstep : outcome share owner t (place, f) = outcome share owner u (place, g))
    (hothers : ∀ q ≠ owner place, share q u.state = share q t.state)
    (hlocal : ∀ job ∈ before ++ (place, f) :: behind, StaysIn share (owner job.1) job.2)
    (howners : ((before ++ (place, f) :: behind).map fun job => owner job.1).Nodup) :
    (before ++ (place, f) :: behind).map (outcome share owner t) =
      (before ++ (place, g) :: behind).map (outcome share owner u) := by
  have hsame : ∀ job ∈ before ++ behind, outcome share owner t job = outcome share owner u job := by
    intro job hjob
    refine outcome_congr (hlocal job ?_) (hothers _ (owner_ne howners job hjob)).symm
    rcases List.mem_append.1 hjob with h | h
    · exact List.mem_append_left _ h
    · exact List.mem_append_right _ (List.mem_cons_of_mem _ h)
  rw [List.map_append, List.map_append, List.map_cons, List.map_cons, hstep,
    List.map_congr_left fun job h => hsame job (List.mem_append_left _ h),
    List.map_congr_left fun job h => hsame job (List.mem_append_right _ h)]

theorem staysIn_replace (hg : StaysIn share (owner place) g)
    (hlocal : ∀ job ∈ before ++ (place, f) :: behind, StaysIn share (owner job.1) job.2) :
    ∀ job ∈ before ++ (place, g) :: behind, StaysIn share (owner job.1) job.2 := by
  simp only [List.forall_mem_append, List.forall_mem_cons] at hlocal ⊢
  exact ⟨hlocal.1, hg, hlocal.2.2⟩

theorem nodup_replace
    (howners : ((before ++ (place, f) :: behind).map fun job => owner job.1).Nodup) :
    ((before ++ (place, g) :: behind).map fun job => owner job.1).Nodup := by
  simpa only [List.map_append, List.map_cons] using howners

end

/-- Jobs that stay in different shares come to what they come to alone, in every interleaving. -/
theorem Interleaving.serialized {bound : Nat} {owner : Nat → ι} {jobs : List (Nat × Fiber σ α)}
    {t v : Timeline σ} {results : List (Nat × α)} (h : Interleaving bound jobs t results v)
    (hlocal : ∀ job ∈ jobs, StaysIn share (owner job.1) job.2)
    (howners : (jobs.map fun job => owner job.1).Nodup) :
    Serialized share owner (jobs.map (outcome share owner t)) t results v := by
  -- What the jobs come to from here on is the same after each step as before it.
  induction h with
  | finished => exact ⟨.nil, nofun, fun _ _ => rfl⟩
  | @time jobs t u results v same h ih =>
    have hmap : jobs.map (outcome share owner t) = jobs.map (outcome share owner u) :=
      List.map_congr_left fun job hjob => outcome_congr (hlocal job hjob) (by rw [same])
    rw [hmap]
    exact (ih hlocal howners).of_others fun q _ => by rw [same]
  | @done before place a behind t results v under h ih =>
    have hperm : (before ++ (place, .done a) :: behind).Perm
        ((place, .done a) :: (before ++ behind)) :=
      List.perm_middle
    have hrest := ih (fun job hjob => hlocal job (hperm.mem_iff.2 (List.mem_cons_of_mem _ hjob)))
      (List.nodup_cons.1 ((hperm.map fun job => owner job.1).nodup_iff.1 howners)).2
    have hout := hperm.map (outcome share owner t)
    have hresults := hout.map fun o => (o.1, o.2.1)
    refine ⟨(hrest.results.cons (place, a)).trans hresults.symm, fun o ho => ?_, fun q hq =>
      hrest.others q fun o ho => hq o (hout.mem_iff.2 (List.mem_cons_of_mem _ ho))⟩
    rcases List.mem_cons.1 (hout.mem_iff.1 ho) with rfl | ho
    -- The share of the job that has finished is left alone by the others.
    · refine hrest.others _ fun o ho => ?_
      obtain ⟨job, hjob, rfl⟩ := List.mem_map.1 ho
      exact owner_ne howners job hjob
    · exact hrest.shares o ho
  | @act before place change next behind t results v under h ih =>
    obtain ⟨-, hothers, hnext⟩ := hlocal _ (List.mem_append_right _ List.mem_cons_self)
    have hmap : (before ++ (place, .act change next) :: behind).map (outcome share owner t) =
        (before ++ (place, next t) :: behind).map (outcome share owner (change t)) :=
      map_outcome_step rfl (hothers t) hlocal howners
    rw [hmap]
    refine (ih (staysIn_replace (hnext t) hlocal) (nodup_replace howners)).of_others fun q hq => ?_
    exact hothers t q (hq _ (List.mem_map_of_mem (List.mem_append_right _ List.mem_cons_self))).symm
  | @wait before place timer f behind t results v under h ih =>
    have hf : StaysIn share (owner place) f :=
      hlocal _ (List.mem_append_right _ List.mem_cons_self)
    have hstep : outcome share owner { t with clock := max t.clock timer.deadline } (place, f) =
        outcome share owner t (place, f) := outcome_congr hf rfl
    have hmap : (before ++ (place, .wait timer f) :: behind).map (outcome share owner t) =
        (before ++ (place, f) :: behind).map (outcome share owner t) :=
      map_outcome_step hstep (fun _ _ => rfl) hlocal howners
    rw [hmap]
    exact ih (staysIn_replace hf hlocal) (nodup_replace howners)

end Upkeep.Fiber
