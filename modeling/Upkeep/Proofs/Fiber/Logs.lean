import Upkeep.Proofs.Fiber.Independence
/-!
# Jobs that write to logs of their own

The state holds a log for each owner. A fiber that writes to one log only, whatever it finds in the
state, leaves in it what fits its result (`Writes`). Unlike a fiber that stays in a share, it may
read and change everything else. Jobs that write to different logs do so undisturbed in every
interleaving (`Interleaving.logged`).
-/

namespace Upkeep.Fiber

variable {σ α β ι ε : Type} {log : ι → σ → List ε} {r q : ι}

/-! ## Results -/

/-- Whatever the fiber finds in the state, its result is one of these. -/
def Ensures (holds : α → Prop) : Fiber σ α → Prop
  | done a => holds a
  | act _ next => ∀ t, Ensures holds (next t)
  | wait _ f => Ensures holds f

theorem ensures_pure {holds : α → Prop} {a : α} (h : holds a) :
    (pure a : Fiber σ α).Ensures holds := h

theorem ensures_true (f : Fiber σ α) : f.Ensures fun _ => True := by
  induction f with
  | done a => trivial
  | act change next ih => exact fun t => ih t
  | wait timer f ih => exact ih

theorem Ensures.bind {f : Fiber σ α} {k : α → Fiber σ β} {holds : α → Prop} {goal : β → Prop}
    (hf : f.Ensures holds) (hk : ∀ a, holds a → (k a).Ensures goal) : (f >>= k).Ensures goal := by
  show (f.bind k).Ensures goal
  induction f with
  | done a => exact hk a hf
  | act change next ih => exact fun t => ih t (hf t)
  | wait timer f ih => exact ih hf

/-! ## Entries -/

/-- From every state that the fiber can find before one of its steps, it adds to one log only, and
what it has added in the end fits its result. -/
def Writes (log : ι → σ → List ε) (r : ι) : Fiber σ α → (List ε → α → Prop) → Prop
  | done a, fits => fits [] a
  | act change next, fits => ∀ t, ∃ added,
      log r (change t).state = log r t.state ++ added ∧
      (∀ q ≠ r, log q (change t).state = log q t.state) ∧
      Writes log r (next t) fun entries a => fits (added ++ entries) a
  | wait _ f, fits => Writes log r f fits

variable {fits fits' : List ε → α → Prop} {f : Fiber σ α}

theorem writes_pure {a : α} (h : fits [] a) : Writes log r (pure a : Fiber σ α) fits := h

theorem Writes.mono (hf : Writes log r f fits) (h : ∀ entries a, fits entries a → fits' entries a) :
    Writes log r f fits' := by
  induction f generalizing fits fits' with
  | done a => exact h [] a hf
  | act change next ih =>
    intro t
    obtain ⟨added, hown, hothers, hnext⟩ := hf t
    exact ⟨added, hown, hothers, ih t hnext fun entries a => h (added ++ entries) a⟩
  | wait timer f ih => exact ih hf h

/-- What comes after a fiber adds to what the fiber has added. -/
theorem Writes.bind {k : α → Fiber σ β} {fitsAll : List ε → β → Prop} (hf : Writes log r f fits)
    (hk : ∀ entries a, fits entries a →
      Writes log r (k a) fun more b => fitsAll (entries ++ more) b) :
    Writes log r (f >>= k) fitsAll := by
  show Writes log r (f.bind k) fitsAll
  induction f generalizing fits fitsAll with
  | done a => exact hk [] a hf
  | act change next ih =>
    intro t
    obtain ⟨added, hown, hothers, hnext⟩ := hf t
    refine ⟨added, hown, hothers, ih t hnext ?_⟩
    intro entries a ha
    refine (hk (added ++ entries) a ha).mono fun more b hb => ?_
    rwa [List.append_assoc] at hb
  | wait timer f ih => exact ih hf hk

/-- Carried out alone, the fiber adds to its log what fits its result, and nothing to others. -/
theorem Writes.run (hf : Writes log r f fits) (t : Timeline σ) :
    ∃ added, log r (f.run t).2.state = log r t.state ++ added ∧
      (∀ q ≠ r, log q (f.run t).2.state = log q t.state) ∧ fits added (f.run t).1 := by
  induction f generalizing fits t with
  | done a => exact ⟨[], (List.append_nil _).symm, fun _ _ => rfl, hf⟩
  | act change next ih =>
    obtain ⟨added, hown, hothers, hnext⟩ := hf t
    obtain ⟨more, hmore, hothers', hfits⟩ := ih t hnext (change t)
    refine ⟨added ++ more, ?_, fun q hq => (hothers' q hq).trans (hothers q hq), hfits⟩
    rw [← List.append_assoc, ← hown]
    exact hmore
  | wait timer f ih => exact ih hf { t with clock := max t.clock timer.deadline }

/-! ## Jobs with logs of their own -/

/-- The jobs have come to results that fit what each of them has added to its log. -/
structure Logged (log : ι → σ → List ε) (owner : Nat → ι) (fits : Nat → List ε → α → Prop)
    (jobs : List (Nat × Fiber σ α)) (t : Timeline σ) (results : List (Nat × α))
    (v : Timeline σ) : Prop where
  places : (results.map Prod.fst).Perm (jobs.map Prod.fst)
  own : ∀ result ∈ results, ∃ added,
    log (owner result.1) v.state = log (owner result.1) t.state ++ added ∧
      fits result.1 added result.2
  others : ∀ q, (∀ job ∈ jobs, owner job.1 ≠ q) → log q v.state = log q t.state

section

variable {owner : Nat → ι} {fitsAt : Nat → List ε → α → Prop} {t u v : Timeline σ}
  {before behind : List (Nat × Fiber σ α)} {place : Nat} {g : Fiber σ α}
  {results : List (Nat × α)}

/-- What the jobs are left with after a step of one of them: what it has added counts for it. -/
def advance (fitsAt : Nat → List ε → α → Prop) (place : Nat) (added : List ε) :
    Nat → List ε → α → Prop :=
  Function.update fitsAt place fun entries a => fitsAt place (added ++ entries) a

theorem place_ne
    (howners : ((before ++ (place, f) :: behind).map fun job => owner job.1).Nodup) :
    ∀ job ∈ before ++ behind, job.1 ≠ place :=
  fun job hjob h => owner_ne howners job hjob (congrArg owner h)

theorem writes_advance {added : List ε}
    (hjobs : ∀ job ∈ before ++ (place, f) :: behind,
      Writes log (owner job.1) job.2 (fitsAt job.1))
    (howners : ((before ++ (place, f) :: behind).map fun job => owner job.1).Nodup)
    (hg : Writes log (owner place) g fun entries a => fitsAt place (added ++ entries) a) :
    ∀ job ∈ before ++ (place, g) :: behind,
      Writes log (owner job.1) job.2 (advance fitsAt place added job.1) := by
  have hplaces := place_ne howners
  have hother : ∀ job ∈ before ++ behind,
      Writes log (owner job.1) job.2 (advance fitsAt place added job.1) := by
    intro job hjob
    rw [advance, Function.update_of_ne (hplaces job hjob)]
    apply hjobs
    rcases List.mem_append.1 hjob with h | h
    · exact List.mem_append_left _ h
    · exact List.mem_append_right _ (List.mem_cons_of_mem _ h)
  simp only [List.forall_mem_append, List.forall_mem_cons] at hother ⊢
  refine ⟨hother.1, ?_, hother.2⟩
  rw [advance, Function.update_self]
  exact hg

/-- A step of one job that adds to its log. -/
theorem Logged.step {added : List ε} (hown : log (owner place) u.state =
      log (owner place) t.state ++ added)
    (hothers : ∀ q ≠ owner place, log q u.state = log q t.state)
    (howners : ((before ++ (place, f) :: behind).map fun job => owner job.1).Nodup)
    (h : Logged log owner (advance fitsAt place added) (before ++ (place, g) :: behind) u
      results v) :
    Logged log owner fitsAt (before ++ (place, f) :: behind) t results v := by
  have hsame : (before ++ (place, g) :: behind).map Prod.fst =
      (before ++ (place, f) :: behind).map Prod.fst := by
    simp only [List.map_append, List.map_cons]
  refine ⟨hsame ▸ h.places, ?_, ?_⟩
  · intro result hresult
    obtain ⟨more, hlog, hfits⟩ := h.own result hresult
    by_cases hplace : result.1 = place
    · rw [advance, hplace, Function.update_self] at hfits
      refine ⟨added ++ more, ?_, hplace ▸ hfits⟩
      rw [hlog, hplace, hown, List.append_assoc]
    · rw [advance, Function.update_of_ne hplace] at hfits
      refine ⟨more, ?_, hfits⟩
      -- The place of another result is that of one of the other jobs.
      have hmem : result.1 ∈ (before ++ (place, f) :: behind).map Prod.fst :=
        (hsame ▸ h.places).mem_iff.1 (List.mem_map_of_mem hresult)
      obtain ⟨job, hjob, hfst⟩ := List.mem_map.1 hmem
      have hrest : job ∈ before ++ behind := by
        simp only [List.mem_append, List.mem_cons] at hjob ⊢
        rcases hjob with hjob | rfl | hjob
        · exact .inl hjob
        · exact absurd hfst.symm hplace
        · exact .inr hjob
      rw [hlog, hothers _ (hfst ▸ owner_ne howners job hrest)]
  · intro q hq
    have hne : q ≠ owner place := (hq (place, f) (by simp)).symm
    rw [h.others q ?_, hothers q hne]
    intro job hjob
    have hmem : job.1 ∈ (before ++ (place, f) :: behind).map Prod.fst :=
      hsame ▸ List.mem_map_of_mem hjob
    obtain ⟨job', hjob', hfst⟩ := List.mem_map.1 hmem
    exact hfst ▸ hq job' hjob'

end

/-- Jobs that write to different logs come, in every interleaving, to results that fit what they
have written. -/
theorem Interleaving.logged {bound : Nat} {owner : Nat → ι} {jobs : List (Nat × Fiber σ α)}
    {t v : Timeline σ} {results : List (Nat × α)} {fitsAt : Nat → List ε → α → Prop}
    (h : Interleaving bound jobs t results v)
    (hjobs : ∀ job ∈ jobs, Writes log (owner job.1) job.2 (fitsAt job.1))
    (howners : (jobs.map fun job => owner job.1).Nodup) :
    Logged log owner fitsAt jobs t results v := by
  induction h generalizing fitsAt with
  | finished => exact ⟨.nil, nofun, fun _ _ => rfl⟩
  | @time jobs t u results v same h ih =>
    obtain ⟨hplaces, hown, hothers⟩ := ih hjobs howners
    rw [same] at hown hothers
    exact ⟨hplaces, hown, hothers⟩
  | @done before place a behind t results v under h ih =>
    have hperm : (before ++ (place, .done a) :: behind).Perm
        ((place, .done a) :: (before ++ behind)) := List.perm_middle
    have hrest := ih (fun job hjob => hjobs job (hperm.mem_iff.2 (List.mem_cons_of_mem _ hjob)))
      (List.nodup_cons.1 ((hperm.map fun job => owner job.1).nodup_iff.1 howners)).2
    refine ⟨(hrest.places.cons place).trans (hperm.map Prod.fst).symm, ?_, ?_⟩
    · intro result hresult
      rcases List.mem_cons.1 hresult with rfl | hresult
      -- The log of the job that has finished is left alone by the others.
      · have hfits : fitsAt place [] a := hjobs (place, .done a) (by simp)
        refine ⟨[], ?_, hfits⟩
        rw [List.append_nil, hrest.others _ (owner_ne howners)]
      · exact hrest.own result hresult
    · intro q hq
      exact hrest.others q fun job hjob => hq job (hperm.mem_iff.2 (List.mem_cons_of_mem _ hjob))
  | @act before place change next behind t results v under h ih =>
    obtain ⟨added, hown, hothers, hnext⟩ := hjobs (place, .act change next) (by simp) t
    exact .step hown hothers howners
      (ih (writes_advance hjobs howners hnext) (nodup_replace howners))
  | @wait before place timer f behind t results v under h ih =>
    have hf : Writes log (owner place) f (fitsAt place) := hjobs (place, .wait timer f) (by simp)
    have hleft : ∀ job ∈ before ++ (place, f) :: behind,
        Writes log (owner job.1) job.2 (advance fitsAt place [] job.1) :=
      writes_advance hjobs howners hf
    exact .step (List.append_nil _).symm (fun _ _ => rfl) howners (ih hleft (nodup_replace howners))

end Upkeep.Fiber
