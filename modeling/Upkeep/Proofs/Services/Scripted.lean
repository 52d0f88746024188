import Upkeep.Http.Script
import Upkeep.Proofs.Services.Recall
/-!
# Scripts whose answers do not change

A script may let its clients down as often as it likes. As long as what is left of each route
answers in one way only (`Script.Settled`), the script is a service whose answers do not change
(`Script.steady`), and what its clients remember is kept beside its routes (`Script.notebook`).
-/

namespace Upkeep.Http.Script

open Upkeep.Fiber

variable {name : String} {routes : List (String × List ScriptedResponse)}

/-! ## The next response -/

theorem map_fst_next (name : String) (routes : List (String × List ScriptedResponse)) :
    (next name routes).2.map Prod.fst = routes.map Prod.fst := by
  induction routes with
  | nil => rfl
  | cons route routes ih =>
    obtain ⟨name', responses⟩ := route
    unfold next
    split
    · split <;> rfl
    · exact congrArg (name' :: ·) ih

theorem next_of_not_mem (h : name ∉ routes.map Prod.fst) : (next name routes).1 = notFound := by
  induction routes with
  | nil => rfl
  | cons route routes ih =>
    rw [List.map_cons, List.mem_cons, not_or] at h
    unfold next
    rw [if_neg (Ne.symm h.1)]
    exact ih h.2

/-- Every route has responses left, all of which are good ones. -/
def AllGood (good : String → ScriptedResponse → Prop)
    (routes : List (String × List ScriptedResponse)) : Prop :=
  ∀ route ∈ routes, route.2 ≠ [] ∧ ∀ r ∈ route.2, good route.1 r

theorem allGood_next {good : String → ScriptedResponse → Prop} (h : AllGood good routes)
    (name : String) :
    (name ∈ routes.map Prod.fst → good name (next name routes).1) ∧
      AllGood good (next name routes).2 := by
  induction routes with
  | nil => exact ⟨nofun, h⟩
  | cons route routes ih =>
    obtain ⟨name', responses⟩ := route
    obtain ⟨⟨hsome, hgood⟩, hrest⟩ := List.forall_mem_cons.1 h
    unfold next
    split
    · next heq =>
      subst heq
      match responses, hsome, hgood with
      | [r], _, hgood =>
        exact ⟨fun _ => hgood r (List.mem_singleton_self r), h⟩
      | r :: r' :: more, _, hgood =>
        refine ⟨fun _ => hgood r List.mem_cons_self, List.forall_mem_cons.2 ⟨?_, hrest⟩⟩
        exact ⟨List.cons_ne_nil r' more, fun r'' hr'' => hgood r'' (List.mem_cons_of_mem r hr'')⟩
    · next hne =>
      obtain ⟨hnext, hleft⟩ := ih hrest
      refine ⟨fun hmem => hnext ?_, List.forall_mem_cons.2 ⟨⟨hsome, hgood⟩, hleft⟩⟩
      exact (List.mem_cons.1 hmem).resolve_left (Ne.symm hne)

/-! ## Settled scripts -/

/-- Routes that answer in one way, whenever they answer. -/
structure Settled (answerOf : String → Response)
    (routes : List (String × List ScriptedResponse)) : Prop where
  listed : AllGood (fun name r => isBoardAnswer r.response = true → r.response.Says (answerOf name))
    routes
  absent : ∀ name ∉ routes.map Prod.fst, notFound.response.Says (answerOf name)

theorem settled_next {answerOf : String → Response} (h : Settled answerOf routes)
    (name : String) :
    (isBoardAnswer (next name routes).1.response = true →
      (next name routes).1.response.Says (answerOf name)) ∧
        Settled answerOf (next name routes).2 := by
  obtain ⟨hnext, hleft⟩ := allGood_next h.listed name
  refine ⟨?_, hleft, map_fst_next name routes ▸ h.absent⟩
  by_cases hmem : name ∈ routes.map Prod.fst
  · exact hnext hmem
  · rw [next_of_not_mem hmem]
    exact fun _ => h.absent name hmem

/-- Clients remember beside the routes. -/
def notebook (answerOf : String → Response) : Notebook Script where
  sound s := Settled answerOf s.routes
  remembered s := ⟨s.members, s.numbers⟩
  remember r s := { s with members := r.members, numbers := r.numbers }
  remembered_remember _ _ := rfl
  sound_remember _ _ h := h

theorem receive_leaves (answerOf : String → Response) (request : Request) :
    (update (receive request)).Leaves (notebook answerOf).sound (notebook answerOf).remembered
      fun r => isBoardAnswer r.response = true →
        r.response.Says (answerOf (routeOf request)) := by
  refine leaves_update fun s hs => ?_
  obtain ⟨hnext, hleft⟩ := settled_next hs (routeOf request)
  exact ⟨hleft, rfl, hnext⟩

theorem transport_steady (answerOf : String → Response) :
    transport.Steady (notebook answerOf).sound (notebook answerOf).remembered isBoardAnswer
      fun request => answerOf (routeOf request) where
  exchange request := by
    refine (receive_leaves answerOf request).bind fun scripted hscripted => ?_
    refine (leaves_look _).bind fun timeout _ => (leaves_sleep _).bind fun _ _ => ?_
    refine leaves_pure fun response hmem hanswer => ?_
    split at hmem
    · cases hmem
    · cases hmem
      exact hscripted hanswer
  pause nanos := leaves_sleep _
  now := leaves_clock.bind fun ticks _ => leaves_look _

/-- A settled script is a service whose answers do not change. -/
theorem steady {answerOf : String → Response} {c : Connections (Fiber Script)}
    (hmembers : c.members.transport = transport)
    (hrepositories : c.repositories.transport = transport) (hboard : c.board = transport) :
    c.Steady (notebook answerOf) fun request => answerOf (routeOf request) := by
  have hsteady := transport_steady answerOf
  have hsuccess := hsteady.of_imp fun (r : Response) (h : r.isSuccess = true) => by
    rw [isBoardAnswer, h, Bool.true_or]
  exact ⟨hmembers ▸ hsuccess, hrepositories ▸ hsuccess, hboard ▸ hsteady⟩

end Upkeep.Http.Script
