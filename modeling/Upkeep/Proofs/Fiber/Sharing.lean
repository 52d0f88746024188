import Upkeep.Proofs.Fiber.Interleaving
/-!
# Jobs that share a state

Jobs that work on the same part of a state can rely on each other if every step of theirs keeps to
an agreement: what holds of the state still holds, and the state only changes in ways that undo
nothing. What a job has achieved then lasts while the others take their steps, and holds in the end
of every interleaving (`Interleaving.assured`). A fiber that leaves a part of the state alone
(`Leaves`) keeps to every agreement about that part.
-/

namespace Upkeep.Fiber

variable {σ α β τ : Type}

protected theorem bind_assoc {γ : Type} (f : Fiber σ α) (k : α → Fiber σ β) (l : β → Fiber σ γ) :
    (f >>= k) >>= l = f >>= fun a => k a >>= l := by
  show (f.bind k).bind l = f.bind fun a => (k a).bind l
  induction f with
  | done a => rfl
  | act change next ih => exact congrArg (Fiber.act change) (funext ih)
  | wait timer f ih => exact congrArg (Fiber.wait timer) ih

instance : LawfulMonad (Fiber σ) :=
  LawfulMonad.mk' (Fiber σ)
    (fun f => by
      show f.bind done = f
      induction f with
      | done a => rfl
      | act change next ih => exact congrArg (Fiber.act change) (funext ih)
      | wait timer f ih => exact congrArg (Fiber.wait timer) ih)
    (fun _ _ => rfl) Fiber.bind_assoc

/-! ## Parts that are left alone -/

/-- From every sound state that the fiber can find before one of its steps, the step leads to a
sound state with the same part, and the result is one of these. -/
def Leaves (sound : σ → Prop) (part : σ → τ) (holds : α → Prop) : Fiber σ α → Prop
  | done a => holds a
  | act change next => ∀ t : Timeline σ, sound t.state →
      sound (change t).state ∧ part (change t).state = part t.state ∧
        Leaves sound part holds (next t)
  | wait _ f => Leaves sound part holds f

section

variable {sound : σ → Prop} {part : σ → τ} {holds : α → Prop} {goal : β → Prop} {f : Fiber σ α}
  {k : α → Fiber σ β}

theorem leaves_pure {a : α} (h : holds a) : (pure a : Fiber σ α).Leaves sound part holds := h

theorem Leaves.bind (hf : f.Leaves sound part holds)
    (hk : ∀ a, holds a → (k a).Leaves sound part goal) : (f >>= k).Leaves sound part goal := by
  show (f.bind k).Leaves sound part goal
  induction f with
  | done a => exact hk a hf
  | act change next ih =>
    intro t ht
    obtain ⟨hsound, hpart, hnext⟩ := hf t ht
    exact ⟨hsound, hpart, ih t hnext⟩
  | wait timer f ih => exact ih hf

theorem Leaves.mono {holds' : α → Prop} (hf : f.Leaves sound part holds)
    (h : ∀ a, holds a → holds' a) : f.Leaves sound part holds' := by
  induction f with
  | done a => exact h a hf
  | act change next ih =>
    intro t ht
    obtain ⟨hsound, hpart, hnext⟩ := hf t ht
    exact ⟨hsound, hpart, ih t hnext⟩
  | wait timer f ih => exact ih hf

theorem leaves_update {x : StateM σ α}
    (h : ∀ s, sound s → sound (x s).2 ∧ part (x s).2 = part s ∧ holds (x s).1) :
    (update x).Leaves sound part holds := fun t ht => h t.state ht

theorem leaves_look (view : σ → α) :
    (update fun s => (view s, s)).Leaves sound part fun _ => True := fun _ ht => ⟨ht, rfl, trivial⟩

theorem leaves_clock : clock.Leaves sound part fun _ => True := fun _ ht => ⟨ht, rfl, trivial⟩

theorem leaves_sleep (ticks : Nat) : (sleep ticks).Leaves sound part fun _ => True := by
  unfold sleep
  split
  · exact leaves_pure trivial
  · exact leaves_clock.bind fun _ _ _ ht => ⟨ht, rfl, trivial⟩

theorem Leaves.run (hf : f.Leaves sound part holds) {t : Timeline σ} (ht : sound t.state) :
    sound (f.run t).2.state ∧ part (f.run t).2.state = part t.state ∧ holds (f.run t).1 := by
  induction f generalizing t with
  | done a => exact ⟨ht, rfl, hf⟩
  | act change next ih =>
    obtain ⟨hsound, hpart, hnext⟩ := hf t ht
    obtain ⟨hsound', hpart', hholds⟩ := ih t hnext hsound
    exact ⟨hsound', hpart'.trans hpart, hholds⟩
  | wait timer f ih => exact ih hf ht

/-- In the sound states with this part both fibers do the same, and leave the part alone. -/
def Alike (sound : σ → Prop) (part : σ → τ) (p : τ) (f g : Fiber σ α) : Prop :=
  ∀ t : Timeline σ, sound t.state → part t.state = p →
    f.run t = g.run t ∧ sound (f.run t).2.state ∧ part (f.run t).2.state = p

theorem Leaves.alike (hf : f.Leaves sound part holds) (p : τ) : Alike sound part p f f := by
  intro t ht hp
  obtain ⟨hsound, hpart, -⟩ := hf.run ht
  exact ⟨rfl, hsound, hpart.trans hp⟩

theorem Alike.bind {p : τ} {g : Fiber σ α} {l : α → Fiber σ β} (hf : Alike sound part p f g)
    (hk : ∀ a, Alike sound part p (k a) (l a)) : Alike sound part p (f >>= k) (g >>= l) := by
  intro t ht hp
  obtain ⟨heq, hsound, hpart⟩ := hf t ht hp
  rw [run_bind, run_bind, ← heq]
  exact hk _ _ hsound hpart

end

/-! ## Agreements -/

/-- What jobs rely on and keep to: what holds of the state before and after every step, and how a
step may change it. -/
structure Agreement (σ : Type) where
  sound : σ → Prop
  leads : σ → σ → Prop
  refl : ∀ s, leads s s
  trans : ∀ {s s' s''}, leads s s' → leads s' s'' → leads s s''

/-- The fiber keeps to an agreement from a state on, whatever others who keep to it do in between,
and its result fits every state from its end on. -/
def Assures (A : Agreement σ) (fits : σ → α → Prop) : Fiber σ α → σ → Prop
  | done a, s => ∀ s', A.sound s' → A.leads s s' → fits s' a
  | act change next, s => ∀ t : Timeline σ, A.sound t.state → A.leads s t.state →
      A.sound (change t).state ∧ A.leads t.state (change t).state ∧
        Assures A fits (next t) (change t).state
  | wait _ f, s => Assures A fits f s

section

variable {A : Agreement σ} {fits : σ → α → Prop} {goal : σ → β → Prop} {f : Fiber σ α}
  {k : α → Fiber σ β} {s s' : σ}

theorem assures_pure {a : α} (h : ∀ s', A.sound s' → A.leads s s' → fits s' a) :
    (pure a : Fiber σ α).Assures A fits s := h

theorem Assures.later (hf : f.Assures A fits s) (h : A.leads s s') : f.Assures A fits s' := by
  induction f with
  | done a => exact fun s'' hsound hleads => hf s'' hsound (A.trans h hleads)
  | act change next ih => exact fun t hsound hleads => hf t hsound (A.trans h hleads)
  | wait timer f ih => exact ih hf

/-- A fiber need only be looked at from the sound states that are led to. -/
theorem assures_of_forall (h : ∀ s', A.sound s' → A.leads s s' → f.Assures A fits s') :
    f.Assures A fits s := by
  induction f with
  | done a => exact fun s' hsound hleads => h s' hsound hleads s' hsound (A.refl s')
  | act change next ih =>
    exact fun t hsound hleads => h t.state hsound hleads t hsound (A.refl t.state)
  | wait timer f ih => exact ih h

theorem Assures.bind (hf : f.Assures A fits s)
    (hk : ∀ a s', A.sound s' → A.leads s s' → fits s' a → (k a).Assures A goal s') :
    (f >>= k).Assures A goal s := by
  show (f.bind k).Assures A goal s
  induction f generalizing s with
  | done a =>
    exact assures_of_forall fun s' hsound hleads => hk a s' hsound hleads (hf s' hsound hleads)
  | act change next ih =>
    intro t hsound hleads
    obtain ⟨hsound', hleads', hnext⟩ := hf t hsound hleads
    refine ⟨hsound', hleads', ih t hnext fun a s' hs' hfrom => ?_⟩
    exact hk a s' hs' (A.trans (A.trans hleads hleads') hfrom)
  | wait timer f ih => exact ih hf hk

theorem Assures.imp {fits' : σ → α → Prop} (hf : f.Assures A fits s)
    (h : ∀ a s', A.sound s' → A.leads s s' → fits s' a → fits' s' a) : f.Assures A fits' s := by
  induction f generalizing s with
  | done a => exact fun s' hsound hleads => h a s' hsound hleads (hf s' hsound hleads)
  | act change next ih =>
    intro t hsound hleads
    obtain ⟨hsound', hleads', hnext⟩ := hf t hsound hleads
    refine ⟨hsound', hleads', ih t hnext fun a s' hs' hfrom => ?_⟩
    exact h a s' hs' (A.trans (A.trans hleads hleads') hfrom)
  | wait timer f ih => exact ih hf h

theorem Assures.run {t : Timeline σ} (hf : f.Assures A fits t.state) (ht : A.sound t.state) :
    A.sound (f.run t).2.state ∧ A.leads t.state (f.run t).2.state ∧
      fits (f.run t).2.state (f.run t).1 := by
  induction f generalizing t with
  | done a => exact ⟨ht, A.refl _, hf t.state ht (A.refl _)⟩
  | act change next ih =>
    obtain ⟨hsound, hleads, hnext⟩ := hf t ht (A.refl _)
    obtain ⟨hsound', hleads', hfits⟩ := ih t hnext hsound
    exact ⟨hsound', A.trans hleads hleads', hfits⟩
  | wait timer f ih => exact ih hf ht

/-- Who leaves alone what an agreement is about keeps to it. -/
theorem Leaves.assures {sound : σ → Prop} {part : σ → τ} {holds : α → Prop}
    (hf : f.Leaves sound part holds) (hsound : ∀ s, A.sound s → sound s)
    (hkeeps : ∀ s s', A.sound s → sound s' → part s' = part s → A.sound s' ∧ A.leads s s') (s : σ) :
    f.Assures A (fun _ a => holds a) s := by
  induction f generalizing s with
  | done a => exact fun _ _ _ => hf
  | act change next ih =>
    intro t ht _
    obtain ⟨hsound', hpart, hnext⟩ := hf t (hsound _ ht)
    obtain ⟨hstill, hleads⟩ := hkeeps _ _ ht hsound' hpart
    exact ⟨hstill, hleads, ih t hnext _⟩
  | wait timer f ih => exact ih hf s

/-- Jobs that keep to one agreement come, in every interleaving, to results that fit the state in
the end. -/
theorem Interleaving.assured {bound : Nat} {jobs : List (Nat × Fiber σ α)} {t v : Timeline σ}
    {results : List (Nat × α)} {fitsAt : Nat → σ → α → Prop}
    (h : Interleaving bound jobs t results v) (ht : A.sound t.state)
    (hjobs : ∀ job ∈ jobs, job.2.Assures A (fitsAt job.1) t.state) :
    A.sound v.state ∧ A.leads t.state v.state ∧
      ∀ result ∈ results, fitsAt result.1 v.state result.2 := by
  induction h with
  | finished => exact ⟨ht, A.refl _, nofun⟩
  | time same h ih =>
    rw [← same] at ht hjobs ⊢
    exact ih ht hjobs
  | @done before place a behind t results v under h ih =>
    obtain ⟨hsound, hleads, hresults⟩ := ih ht fun job hjob => hjobs job (by
      rw [List.mem_append, List.mem_cons]
      exact (List.mem_append.1 hjob).imp_right .inr)
    have hfits := hjobs (place, .done a) (by simp) v.state hsound hleads
    exact ⟨hsound, hleads, List.forall_mem_cons.2 ⟨hfits, hresults⟩⟩
  | @act before place change next behind t results v under h ih =>
    obtain ⟨hsound, hleads, hnext⟩ := hjobs (place, .act change next) (by simp) t ht (A.refl _)
    simp only [List.forall_mem_append, List.forall_mem_cons] at hjobs ih
    obtain ⟨hsound', hleads', hresults⟩ := ih hsound
      ⟨fun job hjob => (hjobs.1 job hjob).later hleads, hnext,
        fun job hjob => (hjobs.2.2 job hjob).later hleads⟩
    exact ⟨hsound', A.trans hleads hleads', hresults⟩
  | wait under h ih =>
    simp only [List.forall_mem_append, List.forall_mem_cons] at hjobs ih
    exact ih ht hjobs

end

/-- In every interleaving each of the jobs hands in one result. -/
theorem Interleaving.places {bound : Nat} {jobs : List (Nat × Fiber σ α)} {t v : Timeline σ}
    {results : List (Nat × α)} (h : Interleaving bound jobs t results v) :
    (results.map Prod.fst).Perm (jobs.map Prod.fst) := by
  induction h with
  | finished => exact .nil
  | time same h ih => exact ih
  | done under h ih =>
    rw [List.map_append] at ih ⊢
    exact (ih.cons _).trans List.perm_middle.symm
  | act under h ih =>
    rw [List.map_append, List.map_cons] at ih ⊢
    exact ih
  | wait under h ih =>
    rw [List.map_append, List.map_cons] at ih ⊢
    exact ih

end Upkeep.Fiber
