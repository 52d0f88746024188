import Upkeep.Proofs.Services.Courses
import Upkeep.Proofs.Services.Scripted
/-!
# Memories that make no difference

Of services whose answers do not change, lookups that share a memory find what clients find that
remember nothing, one after the other and at the same time, in whatever order they take their steps
(`Connections.lookups_transparent`).
-/

namespace Upkeep

open Upkeep.Fiber

namespace Connections

variable {σ : Type} {c : Connections (Fiber σ)} {N : Notebook σ}
  {answer : Http.Request → Http.Response} {k : Key} {q : Query} {t : Timeline σ}

/-! ## What lookups find -/

/-- The keys of lookups. -/
def Asked (qs : List Query) (k : Key) : Prop := ∃ q ∈ qs, q.key = k

/-- The result of a lookup is what clients find that remember nothing, and its key is remembered. -/
def Settles (c : Connections (Fiber σ)) (N : Notebook σ) (answer : Http.Request → Http.Response)
    (s : σ) (q : Query) (result : Except ServiceError Finding) : Prop :=
  ∀ x, result = .ok x → c.fresh answer q = .ok x ∧ (N.remembered s).Has q.key

theorem Settles.later {asked : Key → Prop} {s s' : σ} {result : Except ServiceError Finding}
    (h : c.Settles N answer s q result) (hgrows : Grows asked (N.remembered s) (N.remembered s')) :
    c.Settles N answer s' q result :=
  fun x hx => (h x hx).imp_right hgrows.has

theorem askAll_assures (hc : c.Steady N answer) {asked : Key → Prop} {qs : List Query}
    (hqs : ∀ q ∈ qs, asked q.key) (s : σ) :
    (c.askAll N.memory qs).Assures (c.agreement N answer asked)
      (fun s' results => List.Forall₂ (c.Settles N answer s') qs results) s := by
  induction qs generalizing s with
  | nil => exact assures_pure fun _ _ _ => .nil
  | cons q qs ih =>
    obtain ⟨hq, hqs⟩ := List.forall_mem_cons.1 hqs
    rw [askAll, List.mapM_cons]
    refine (ask_finds hc q hq s).bind fun a s₁ _ _ ha => ?_
    refine (ih hqs s₁).bind fun as s₂ _ hleads has => ?_
    refine assures_pure fun s₃ _ hleads' => .cons ?_ ?_
    · exact Settles.later (Settles.later ha hleads) hleads'
    · exact has.imp fun q' a' ha' => Settles.later ha' hleads'

/-! ## Transparency -/

/-- What comes of lookups one after the other. -/
structure InTurn (c : Connections (Fiber σ)) (N : Notebook σ)
    (answer : Http.Request → Http.Response) (qs : List Query) (t : Timeline σ)
    (fetches : List Fetch) (results : List (Except ServiceError Finding)) (v : Timeline σ) :
    Prop where
  courses : Courses c N qs t fetches results v
  /-- What is found is what clients find that remember nothing. -/
  found : List.Forall₂ (c.Settles N answer v.state) qs results
  /-- What is remembered is not asked for. -/
  missing : ∀ f ∈ fetches, ¬ (N.remembered t.state).Has f.key
  /-- What could be had is never asked for again. -/
  once : fetches.Pairwise fun f g => f.had = true → g.key ≠ f.key
  /-- Nothing else is noted than what could be had. -/
  noted : ∀ k, (N.remembered v.state).Has k ↔ (N.remembered t.state).Has k ∨ ⟨k, true⟩ ∈ fetches
  grows : Grows (Asked qs) (N.remembered t.state) (N.remembered v.state)
  truthful : c.Truthful answer (N.remembered v.state)
  sound : N.sound v.state

/-- What is so of the result of the lookup at a place. -/
def SettlesAt (c : Connections (Fiber σ)) (N : Notebook σ) (answer : Http.Request → Http.Response)
    (qs : List Query) (place : Nat) (s : σ) (result : Except ServiceError Finding) : Prop :=
  ∃ q, qs[place]? = some q ∧ c.Settles N answer s q result

/-- The lookups as jobs, each with its place. -/
def jobs (c : Connections (Fiber σ)) (N : Notebook σ) (qs : List Query) :
    List (Nat × Fiber σ (Except ServiceError Finding)) := Pool.placed (qs.map (c.ask N.memory))

/-- What comes of lookups at the same time. -/
structure AtOnce (c : Connections (Fiber σ)) (N : Notebook σ)
    (answer : Http.Request → Http.Response) (qs : List Query) (t : Timeline σ)
    (results : List (Nat × Except ServiceError Finding)) (v : Timeline σ) : Prop where
  /-- Each lookup has one result. -/
  places : (results.map Prod.fst).Perm ((Pool.placed qs).map Prod.fst)
  /-- What is found is what clients find that remember nothing. -/
  found : ∀ result ∈ results, c.SettlesAt N answer qs result.1 v.state result.2
  /-- If all lookups find something, all of their keys are remembered. -/
  had : (∀ result ∈ results, ∃ x, result.2 = .ok x) → ∀ q ∈ qs, (N.remembered v.state).Has q.key
  grows : Grows (Asked qs) (N.remembered t.state) (N.remembered v.state)
  truthful : c.Truthful answer (N.remembered v.state)
  sound : N.sound v.state

theorem exists_inTurn (hc : c.Steady N answer) (ht : N.sound t.state)
    (htrue : c.Truthful answer (N.remembered t.state)) (qs : List Query) :
    ∃ fetches, c.InTurn N answer qs t fetches ((c.askAll N.memory qs).run t).1
      ((c.askAll N.memory qs).run t).2 := by
  obtain ⟨fetches, hcourses⟩ := exists_courses hc qs ht
  have hasked : ∀ q ∈ qs, Asked qs q.key := fun q hq => ⟨q, hq, rfl⟩
  obtain ⟨⟨hsound, htruthful⟩, hgrows, hfound⟩ := (askAll_assures hc hasked t.state).run ⟨ht, htrue⟩
  exact ⟨fetches, hcourses, hfound, hcourses.missing hc ht, hcourses.once hc ht,
    hcourses.after hc ht, hgrows, htruthful, hsound⟩

theorem has_of_found {qs : List Query} {results : List (Nat × Except ServiceError Finding)}
    {s : σ} (hplaces : (results.map Prod.fst).Perm ((Pool.placed qs).map Prod.fst))
    (hfound : ∀ result ∈ results, c.SettlesAt N answer qs result.1 s result.2)
    (hall : ∀ result ∈ results, ∃ x, result.2 = .ok x) (hq : q ∈ qs) :
    (N.remembered s).Has q.key := by
  obtain ⟨place, hplace⟩ := List.mem_iff_getElem?.1 hq
  have hmem : place ∈ results.map Prod.fst :=
    hplaces.mem_iff.2 (List.mem_map.2 ⟨(place, q), Pool.mem_placed.2 hplace, rfl⟩)
  obtain ⟨result, hresult, rfl⟩ := List.mem_map.1 hmem
  obtain ⟨x, hx⟩ := hall result hresult
  obtain ⟨q', hq', hsettles⟩ := hfound result hresult
  rw [Option.some.inj (hplace.symm.trans hq')]
  exact (hsettles x hx).2

theorem atOnce_of_interleaving (hc : c.Steady N answer) (ht : N.sound t.state)
    (htrue : c.Truthful answer (N.remembered t.state)) {bound : Nat} {qs : List Query}
    {results : List (Nat × Except ServiceError Finding)} {v : Timeline σ}
    (h : Interleaving bound (c.jobs N qs) t results v) : c.AtOnce N answer qs t results v := by
  have hplaces := h.places
  rw [jobs, Pool.placed_map] at h hplaces
  rw [List.map_map] at hplaces
  have hjobs : ∀ job ∈ (Pool.placed qs).map fun j => (j.1, c.ask N.memory j.2),
      job.2.Assures (c.agreement N answer (Asked qs)) (c.SettlesAt N answer qs job.1)
        t.state := by
    intro job hjob
    obtain ⟨⟨place, q⟩, hmem, rfl⟩ := List.mem_map.1 hjob
    have hq : qs[place]? = some q := Pool.mem_placed.1 hmem
    exact (ask_finds hc q ⟨q, List.mem_of_getElem? hq, rfl⟩ t.state).imp
      fun a s _ _ ha => ⟨q, hq, ha⟩
  obtain ⟨⟨hsound, htruthful⟩, hgrows, hfound⟩ :=
    h.assured (A := c.agreement N answer (Asked qs)) ⟨ht, htrue⟩ hjobs
  exact ⟨hplaces, hfound, fun hall q hq => has_of_found hplaces hfound hall hq, hgrows, htruthful,
    hsound⟩

/-! ### Orders that make no difference -/

section

variable {qs : List Query} {results results' : List (Nat × Except ServiceError Finding)}
  {v v' : Timeline σ}

theorem AtOnce.eq_of_found (h : c.AtOnce N answer qs t results v)
    (h' : c.AtOnce N answer qs t results' v') {place : Nat} {x x' : Finding}
    (hx : (place, .ok x) ∈ results) (hx' : (place, .ok x') ∈ results') : x = x' := by
  obtain ⟨q, hq, hsettles⟩ := h.found _ hx
  obtain ⟨q', hq', hsettles'⟩ := h'.found _ hx'
  have hsame : q = q' := Option.some.inj (hq.symm.trans hq')
  have hfresh' := (hsettles' x' rfl).1
  rw [← hsame] at hfresh'
  exact Except.ok.inj ((hsettles x rfl).1.symm.trans hfresh')

theorem AtOnce.find?_eq_of_not_asked (h : c.AtOnce N answer qs t results v)
    (hk : ¬ Asked qs k) : (N.remembered v.state).find? k = (N.remembered t.state).find? k := by
  refine Option.ext fun x => ⟨fun hx => ?_, h.grows.kept k x⟩
  exact (h.grows.new k x hx).resolve_right hk

theorem AtOnce.find?_eq (h : c.AtOnce N answer qs t results v)
    (h' : c.AtOnce N answer qs t results' v')
    (hhas : ∀ q ∈ qs, (N.remembered v.state).Has q.key)
    (hhas' : ∀ q ∈ qs, (N.remembered v'.state).Has q.key) (k : Key) :
    (N.remembered v.state).find? k = (N.remembered v'.state).find? k := by
  by_cases hk : Asked qs k
  · obtain ⟨q, hq, rfl⟩ := hk
    obtain ⟨x, hx⟩ := hhas q hq
    obtain ⟨x', hx'⟩ := hhas' q hq
    have hsame : x = x' := Except.ok.inj
      ((h.truthful q.key x hx).symm.trans (h'.truthful q.key x' hx'))
    rw [hx, hx', hsame]
  · rw [h.find?_eq_of_not_asked hk, h'.find?_eq_of_not_asked hk]

end

/-! ### All together -/

/-- What is remembered makes no difference to what is found. -/
structure Transparent (c : Connections (Fiber σ)) (N : Notebook σ)
    (answer : Http.Request → Http.Response) (t : Timeline σ) : Prop where
  inTurn : ∀ qs, ∃ fetches, c.InTurn N answer qs t fetches ((c.askAll N.memory qs).run t).1
    ((c.askAll N.memory qs).run t).2
  /-- What could not be had is not noted, and the next to need it asks for it again. -/
  again : ∀ q e u, ¬ (N.remembered t.state).Has q.key → (c.fetch q.key).run t = (.error e, u) →
    (c.ask N.memory q).run t = (.error e, u) ∧ N.remembered u.state = N.remembered t.state ∧
      ∀ q' fetches a v, q'.key = q.key → c.Course N q' u fetches a v →
        ∃ had, fetches = [⟨q.key, had⟩]
  atOnce : ∀ bound qs results v, Interleaving bound (c.jobs N qs) t results v →
    c.AtOnce N answer qs t results v
  /-- The order in which they take their steps makes no difference to what is found, nor to what is
  remembered in the end if all could be had. -/
  anyOrder : ∀ bound bound' qs results results' v v',
    Interleaving bound (c.jobs N qs) t results v → Interleaving bound' (c.jobs N qs) t results' v' →
      (∀ place x x', (place, .ok x) ∈ results → (place, .ok x') ∈ results' → x = x') ∧
        ((∀ q ∈ qs, (N.remembered v.state).Has q.key) →
          (∀ q ∈ qs, (N.remembered v'.state).Has q.key) →
            ∀ k, (N.remembered v.state).find? k = (N.remembered v'.state).find? k)
  /-- Clients that begin with nothing remembered find the same, whenever they find something. -/
  fresh : ∀ q u, N.sound u.state → N.remembered u.state = {} →
    Truly (c.fresh answer q) ((c.ask N.memory q).run u).1

theorem Course.fetches_of_not_has {fetches : List Fetch} {a : Except ServiceError Finding}
    (h : Course c N q t fetches a u) (hmissing : ¬ (N.remembered t.state).Has q.key) :
    ∃ had, fetches = [⟨q.key, had⟩] := by
  cases h with
  | known found => exact absurd ⟨_, found⟩ hmissing
  | failed => exact ⟨false, rfl⟩
  | had => exact ⟨true, rfl⟩

/-- Of services that never change their answers, lookups find what clients find that remember
nothing. What was had is kept as it is and asked for once, and what could not be had is asked for
again. -/
theorem lookups_transparent (hc : c.Steady N answer) (ht : N.sound t.state)
    (htrue : c.Truthful answer (N.remembered t.state)) : c.Transparent N answer t := by
  have hatOnce := @atOnce_of_interleaving σ c N answer t hc ht htrue
  refine ⟨exists_inTurn hc ht htrue, ?_, fun _ _ _ _ h => hatOnce h, ?_, ?_⟩
  · intro q e u hmissing hfetch
    obtain ⟨-, hkept, -⟩ := (fetch_steady hc q.key).run ht
    rw [hfetch] at hkept
    have hobtain := obtain_run c N q.key t
    rw [Remembered.not_has_iff.1 hmissing, hfetch] at hobtain
    refine ⟨?_, hkept, fun q' fetches a v hq' hcourse => ?_⟩
    · rw [ask_eq]
      exact askFrom_run_of_error hobtain
    · rw [← hq']
      refine hcourse.fetches_of_not_has ?_
      rw [hkept, hq']
      exact hmissing
  · intro bound bound' qs results results' v v' h h'
    exact ⟨fun _ _ _ => (hatOnce h).eq_of_found (hatOnce h'), (hatOnce h).find?_eq (hatOnce h')⟩
  · intro q u hu hnothing x hx
    have hasked : Asked [q] q.key := ⟨q, List.mem_singleton_self q, rfl⟩
    obtain ⟨-, -, hfound⟩ := (ask_finds hc q hasked u.state).run ⟨hu, hnothing ▸ truthful_empty⟩
    exact (hfound x hx).1

/-- A service that lists the members of an organization at the second time only. -/
def flakyScript : Http.Script where
  routes :=
    [("GET /orgs/o/members?per_page=100&page=1",
        [⟨⟨500, [], ""⟩, 0, false⟩, ⟨⟨200, [], "[]"⟩, 0, false⟩]),
      ("GET /repos/o/r/issues/1/comments?per_page=100&page=1", [⟨⟨200, [], "[]"⟩, 0, false⟩])]
  start := default

def flakyAnswerOf (name : String) : Http.Response :=
  if name ∈ flakyScript.routes.map Prod.fst then ⟨200, [], "[]"⟩
  else Http.Script.notFound.response

def flakyConnections : Connections (Fiber Http.Script) where
  members := ⟨Http.Script.transport, "https://h", [], 0⟩
  repositories := ⟨Http.Script.transport, "https://h", [], 0⟩
  board := Http.Script.transport
  boardUrl := "https://h"
  boardHeaders := []

theorem settled_flaky : Http.Script.Settled flakyAnswerOf flakyScript.routes where
  listed route hroute := by
    have hanswerOf : flakyAnswerOf route.1 = ⟨200, [], "[]"⟩ :=
      if_pos (List.mem_map_of_mem hroute)
    dsimp only
    rw [hanswerOf]
    obtain rfl | rfl := List.mem_pair.1 hroute
    · refine ⟨List.cons_ne_nil _ _, fun r hr hanswer => ?_⟩
      obtain rfl | rfl := List.mem_pair.1 hr
      · cases hanswer
      · exact ⟨rfl, rfl⟩
    · refine ⟨List.cons_ne_nil _ _, fun r hr _ => ?_⟩
      rw [List.mem_singleton.1 hr]
      exact ⟨rfl, rfl⟩
  absent name hname := by
    rw [flakyAnswerOf, if_neg hname]
    exact ⟨rfl, rfl⟩

/-- Of two lookups the first finds nothing, and the second what it should. -/
theorem lookups_transparent_flaky :
    let N := Http.Script.notebook flakyAnswerOf
    let answer (request : Http.Request) := flakyAnswerOf (Http.Script.routeOf request)
    let q : Query := .comment ⟨⟨"o", "r"⟩, 1⟩ false
    flakyConnections.Steady N answer ∧ N.sound flakyScript ∧
      flakyConnections.Truthful answer (N.remembered flakyScript) ∧
      ((flakyConnections.askAll N.memory [q, q]).run ⟨flakyScript, 0, 0⟩).1.map Except.isOk =
        [false, true] ∧
      flakyConnections.Transparent N answer ⟨flakyScript, 0, 0⟩ :=
  ⟨Http.Script.steady rfl rfl rfl, settled_flaky, truthful_empty, by decide +kernel,
    lookups_transparent (Http.Script.steady rfl rfl rfl) settled_flaky truthful_empty⟩

end Connections

end Upkeep
