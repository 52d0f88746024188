import Upkeep.Proofs.Services.Lookups
/-!
# How lookups run

A lookup whose key is remembered runs like one that was told what belongs to it
(`Connections.knowing`), and makes no use of the memory. Any other asks for it first, and goes on in
that way if it could be had. `Course` says so of one lookup and `Courses` of lookups one after the
other, with a record of what is asked for; every run is of this form (`exists_courses`). What could
be had is in the memory from then on (`Courses.after`) and is never asked for again
(`Courses.once`).
-/

namespace Upkeep

open Upkeep.Fiber

variable {σ : Type}

/-! ## How a lookup runs -/

section

variable {ε α β : Type} {f : Fiber σ (Except ε α)} {l : α → Fiber σ (Except ε β)}
  {t u : Timeline σ}

theorem thenOk_run_congr (h : f.run t = f.run u) : (thenOk f l).run t = (thenOk f l).run u := by
  rw [thenOk, run_bind, run_bind, h]

theorem thenOk_run_of_error {e : ε} (h : f.run t = (.error e, u)) :
    (thenOk f l).run t = (.error e, u) := by
  rw [thenOk, run_bind, h]
  rfl

theorem Fiber.Alike.thenOk {τ : Type} {sound : σ → Prop} {part : σ → τ} {p : τ}
    {g : Fiber σ (Except ε α)} {l' : α → Fiber σ (Except ε β)} (hf : Alike sound part p f g)
    (hl : ∀ a, Alike sound part p (l a) (l' a)) :
    Alike sound part p (Upkeep.thenOk f l) (Upkeep.thenOk g l') := by
  refine hf.bind fun r => ?_
  cases r with
  | error e =>
    have hleaves : (pure (.error e) : Fiber σ (Except ε β)).Leaves sound part fun _ => True :=
      leaves_pure trivial
    exact hleaves.alike p
  | ok a => exact hl a

end

namespace Notebook

/-- The timeline once an entry was made. -/
def noting (N : Notebook σ) (k : Key) (v : k.Value) (t : Timeline σ) : Timeline σ :=
  { t with state := N.remember ((N.remembered t.state).add k v) t.state }

theorem remembered_noting (N : Notebook σ) (k : Key) (v : k.Value) (t : Timeline σ) :
    N.remembered (N.noting k v t).state = (N.remembered t.state).add k v :=
  N.remembered_remember _ _

end Notebook

namespace Connections

variable {c : Connections (Fiber σ)} {N : Notebook σ} {answer : Http.Request → Http.Response}
  {k : Key} {q : Query} {t u : Timeline σ}

theorem obtain_run (c : Connections (Fiber σ)) (N : Notebook σ) (k : Key) (t : Timeline σ) :
    (c.obtain N.memory k).run t =
      match (N.remembered t.state).find? k with
      | some v => (.ok v, t)
      | none =>
        match (c.fetch k).run t with
        | (.error e, u) => (.error e, u)
        | (.ok v, u) => (.ok v, N.noting k v u) := by
  rw [obtain_eq, N.consult_memory, run_bind]
  show Fiber.run (match (N.remembered t.state).find? k with | some v => _ | none => _) t = _
  cases (N.remembered t.state).find? k with
  | some v => rfl
  | none =>
    dsimp only
    rw [run_bind]
    rcases (c.fetch k).run t with ⟨_ | v, u⟩
    · rfl
    · dsimp only
      rw [N.note_memory]
      rfl

theorem obtain_run_of_known {v : k.Value} (h : (N.remembered t.state).find? k = some v) :
    (c.obtain N.memory k).run t = (.ok v, t) := by
  rw [obtain_run, h]

theorem obtain_alike {v : k.Value} {r : Remembered} (h : r.find? k = some v) :
    Alike N.sound N.remembered r (c.obtain N.memory k) (pure (.ok v)) := by
  intro t ht hr
  rw [obtain_run_of_known (hr.symm ▸ h)]
  exact ⟨rfl, ht, hr⟩

/-! ### Lookups that know what belongs to their keys -/

section

variable {x y : Fiber σ (Except ServiceError q.key.Value)}

theorem askFrom_run_congr (h : x.run t = x.run u) :
    (c.askFrom q x).run t = (c.askFrom q x).run u := by
  cases q with
  | comment issue isPullRequest => exact thenOk_run_congr (thenOk_run_congr h)
  | activity issue isPullRequest =>
    exact thenOk_run_congr (thenOk_run_congr (thenOk_run_congr (thenOk_run_congr h)))
  | signals issue isPullRequest => exact thenOk_run_congr (thenOk_run_congr (thenOk_run_congr h))
  | pipeline issue => exact thenOk_run_congr (thenOk_run_congr h)

theorem askFrom_run_of_error {e : ServiceError} (h : x.run t = (.error e, u)) :
    (c.askFrom q x).run t = (.error e, u) := by
  cases q with
  | comment issue isPullRequest => exact thenOk_run_of_error (thenOk_run_of_error h)
  | activity issue isPullRequest =>
    exact thenOk_run_of_error (thenOk_run_of_error (thenOk_run_of_error (thenOk_run_of_error h)))
  | signals issue isPullRequest =>
    exact thenOk_run_of_error (thenOk_run_of_error (thenOk_run_of_error h))
  | pipeline issue => exact thenOk_run_of_error (thenOk_run_of_error h)

theorem alike_pure {α : Type} (r : Remembered) (a : α) :
    Alike N.sound N.remembered r (pure a : Fiber σ α) (pure a) := fun _ ht hr => ⟨rfl, ht, hr⟩

theorem signalsFrom_alike (hc : c.Steady N answer) (issue : IssueRef) (isPullRequest : Bool)
    {r : Remembered} {x y : Fiber σ (Except ServiceError (List String))}
    (h : Alike N.sound N.remembered r x y) :
    Alike N.sound N.remembered r (c.signalsFrom issue isPullRequest x)
      (c.signalsFrom issue isPullRequest y) := by
  have hcomment := h.thenOk fun members => (commentBy_steady hc issue isPullRequest members).alike r
  have hevent := h.thenOk fun members => (eventBy_steady hc issue members).alike r
  exact hcomment.thenOk fun _ => hevent.thenOk fun _ => alike_pure r _

theorem askFrom_alike (hc : c.Steady N answer) {r : Remembered}
    (h : Alike N.sound N.remembered r x y) :
    Alike N.sound N.remembered r (c.askFrom q x) (c.askFrom q y) := by
  cases q with
  | comment issue isPullRequest =>
    have hcomment := h.thenOk fun members =>
      (commentBy_steady hc issue isPullRequest members).alike r
    exact hcomment.thenOk fun _ => alike_pure r _
  | activity issue isPullRequest =>
    have hactivity := (signalsFrom_alike hc issue isPullRequest h).thenOk fun found =>
      alike_pure r (.ok found.2)
    exact hactivity.thenOk fun _ => alike_pure r _
  | signals issue isPullRequest =>
    exact (signalsFrom_alike hc issue isPullRequest h).thenOk fun _ => alike_pure r _
  | pipeline issue =>
    have hpipeline := h.thenOk fun number => (pipelineAt_steady hc issue number).alike r
    exact hpipeline.thenOk fun _ => alike_pure r _

end

/-- With what belongs to its key remembered, a lookup makes no more use of the memory. -/
theorem ask_alike (hc : c.Steady N answer) {v : q.key.Value} {r : Remembered}
    (h : r.find? q.key = some v) :
    Alike N.sound N.remembered r (c.ask N.memory q) (c.knowing q v) := by
  rw [ask_eq]
  exact askFrom_alike hc (obtain_alike h)

/-! ### Courses -/

/-- A request for what belongs to a key, and whether it could be had. -/
structure Fetch where
  key : Key
  had : Bool
deriving DecidableEq

/-- How a lookup may run: what it asks for that is not remembered, what it finds, and the timeline
in the end. -/
inductive Course (c : Connections (Fiber σ)) (N : Notebook σ) (q : Query) (t : Timeline σ) :
    List Fetch → Except ServiceError Finding → Timeline σ → Prop
  /-- What is remembered is not asked for. -/
  | known {v a u} (found : (N.remembered t.state).find? q.key = some v)
    (rest : (c.knowing q v).run t = (a, u)) : Course c N q t [] a u
  /-- What could not be had is not noted. -/
  | failed {e u} (missing : (N.remembered t.state).find? q.key = none)
    (fetched : (c.fetch q.key).run t = (.error e, u)) : Course c N q t [⟨q.key, false⟩] (.error e) u
  /-- What could be had is noted before anything else. -/
  | had {v a u w} (missing : (N.remembered t.state).find? q.key = none)
    (fetched : (c.fetch q.key).run t = (.ok v, u))
    (rest : (c.knowing q v).run (N.noting q.key v u) = (a, w)) :
    Course c N q t [⟨q.key, true⟩] a w

theorem exists_course (hc : c.Steady N answer) (q : Query) (ht : N.sound t.state) :
    ∃ fetches, Course c N q t fetches ((c.ask N.memory q).run t).1
      ((c.ask N.memory q).run t).2 := by
  cases hfind : (N.remembered t.state).find? q.key with
  | some v =>
    obtain ⟨heq, -⟩ := ask_alike hc hfind t ht rfl
    exact ⟨_, .known hfind heq.symm⟩
  | none =>
    obtain ⟨hsound, hkept, -⟩ := (fetch_steady hc q.key).run ht
    have hobtain := obtain_run c N q.key t
    rw [hfind] at hobtain
    rcases hfetch : (c.fetch q.key).run t with ⟨e | v, u⟩
    · rw [hfetch] at hobtain
      rw [ask_eq, askFrom_run_of_error hobtain]
      exact ⟨_, .failed hfind hfetch⟩
    · rw [hfetch] at hobtain hsound
      -- The lookup goes on as one that begins once the entry was made.
      have hfound : (N.remembered (N.noting q.key v u).state).find? q.key = some v := by
        rw [N.remembered_noting, Remembered.find?_add_self]
      have hagain : (c.obtain N.memory q.key).run t =
          (c.obtain N.memory q.key).run (N.noting q.key v u) :=
        hobtain.trans (obtain_run_of_known hfound).symm
      obtain ⟨heq, -⟩ := ask_alike hc hfound (N.noting q.key v u)
        (N.sound_remember _ _ hsound) rfl
      rw [ask_eq, askFrom_run_congr hagain, ← ask_eq]
      exact ⟨_, .had hfind hfetch heq.symm⟩

section

variable {fetches : List Fetch} {a : Except ServiceError Finding}

/-- Only what could be had is added to the memory. -/
theorem Course.after (h : Course c N q t fetches a u) (hc : c.Steady N answer)
    (ht : N.sound t.state) : N.sound u.state ∧ ∀ k,
      (N.remembered u.state).Has k ↔ (N.remembered t.state).Has k ∨ ⟨k, true⟩ ∈ fetches := by
  cases h with
  | known found rest =>
    obtain ⟨heq, hsound, hkept⟩ := ask_alike hc found t ht rfl
    rw [heq, rest] at hsound hkept
    exact ⟨hsound, fun k => by simp [hkept]⟩
  | failed missing fetched =>
    obtain ⟨hsound, hkept, -⟩ := (fetch_steady hc q.key).run ht
    rw [fetched] at hsound hkept
    exact ⟨hsound, fun k => by simp [hkept]⟩
  | @had v _ u' _ missing fetched rest =>
    obtain ⟨hsound, hkept, -⟩ := (fetch_steady hc q.key).run ht
    rw [fetched] at hsound hkept
    have hnoted := N.remembered_noting q.key v u'
    obtain ⟨heq, hsound', hkept'⟩ := ask_alike hc (Remembered.find?_add_self _ q.key v)
      (N.noting q.key v u') (N.sound_remember _ _ hsound) hnoted
    rw [heq, rest] at hsound' hkept'
    refine ⟨hsound', fun k => ?_⟩
    rw [hkept', Remembered.has_add_iff, hkept, List.mem_singleton, Fetch.mk.injEq, or_comm]
    simp

theorem Course.missing (h : Course c N q t fetches a u) :
    ∀ f ∈ fetches, ¬ (N.remembered t.state).Has f.key := by
  cases h with
  | known => exact nofun
  | failed missing | had missing =>
    intro f hf
    rw [List.mem_singleton.1 hf]
    exact Remembered.not_has_iff.2 missing

theorem Course.pairwise (h : Course c N q t fetches a u) (R : Fetch → Fetch → Prop) :
    fetches.Pairwise R := by
  cases h with
  | known => exact .nil
  | failed | had => exact List.pairwise_singleton R _

end

/-- How lookups may run one after the other. -/
inductive Courses (c : Connections (Fiber σ)) (N : Notebook σ) :
    List Query → Timeline σ → List Fetch → List (Except ServiceError Finding) → Timeline σ → Prop
  | nil {t : Timeline σ} : Courses c N [] t [] [] t
  | cons {q : Query} {qs : List Query} {t u v : Timeline σ} {fetches fetches' : List Fetch}
    {a : Except ServiceError Finding} {as : List (Except ServiceError Finding)}
    (head : Course c N q t fetches a u) (tail : Courses c N qs u fetches' as v) :
    Courses c N (q :: qs) t (fetches ++ fetches') (a :: as) v

/-- Carries out lookups one after the other. -/
def askAll {m : Type → Type} [Monad m] (c : Connections m) (memory : Memory m) (qs : List Query) :
    m (List (Except ServiceError Finding)) := qs.mapM (c.ask memory)

theorem askAll_run_cons (c : Connections (Fiber σ)) (N : Notebook σ) (q : Query)
    (qs : List Query) (t : Timeline σ) : (c.askAll N.memory (q :: qs)).run t =
      let (a, u) := (c.ask N.memory q).run t
      let (as, v) := (c.askAll N.memory qs).run u
      (a :: as, v) := by
  rw [askAll, List.mapM_cons, run_bind, run_bind]
  rfl

section

variable {qs : List Query} {fetches : List Fetch} {results : List (Except ServiceError Finding)}

theorem exists_courses (hc : c.Steady N answer) (qs : List Query) (ht : N.sound t.state) :
    ∃ fetches, Courses c N qs t fetches ((c.askAll N.memory qs).run t).1
      ((c.askAll N.memory qs).run t).2 := by
  induction qs generalizing t with
  | nil => exact ⟨[], .nil⟩
  | cons q qs ih =>
    obtain ⟨fetches, hcourse⟩ := exists_course hc q ht
    obtain ⟨fetches', hcourses⟩ := ih (hcourse.after hc ht).1
    rw [askAll_run_cons]
    exact ⟨fetches ++ fetches', .cons hcourse hcourses⟩

theorem Courses.after (h : Courses c N qs t fetches results u) (hc : c.Steady N answer)
    (ht : N.sound t.state) : ∀ k,
      (N.remembered u.state).Has k ↔ (N.remembered t.state).Has k ∨ ⟨k, true⟩ ∈ fetches := by
  induction h with
  | nil => simp
  | cons head tail ih =>
    intro k
    obtain ⟨hsound, hhead⟩ := head.after hc ht
    rw [ih hsound k, hhead k, List.mem_append, or_assoc]

/-- What was remembered at the start is not asked for. -/
theorem Courses.missing (h : Courses c N qs t fetches results u) (hc : c.Steady N answer)
    (ht : N.sound t.state) : ∀ f ∈ fetches, ¬ (N.remembered t.state).Has f.key := by
  induction h with
  | nil => exact nofun
  | cons head tail ih =>
    obtain ⟨hsound, hhead⟩ := head.after hc ht
    refine List.forall_mem_append.2 ⟨head.missing, fun f hf hhas => ?_⟩
    exact ih hsound f hf ((hhead f.key).2 (.inl hhas))

/-- What could be had is never asked for again. -/
theorem Courses.once (h : Courses c N qs t fetches results u) (hc : c.Steady N answer)
    (ht : N.sound t.state) : fetches.Pairwise fun f g => f.had = true → g.key ≠ f.key := by
  induction h with
  | nil => exact .nil
  | cons head tail ih =>
    obtain ⟨hsound, hhead⟩ := head.after hc ht
    refine List.pairwise_append.2 ⟨head.pairwise _, ih hsound, fun f hf g hg hhad heq => ?_⟩
    refine tail.missing hc hsound g hg ((hhead g.key).2 (.inr ?_))
    rw [heq, ← hhad]
    exact hf

end

end Connections

end Upkeep
