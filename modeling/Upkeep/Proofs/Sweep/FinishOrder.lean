import Upkeep.Sweep.Pool
import Mathlib.Data.List.Basic
import Mathlib.Data.List.InsertIdx
import Mathlib.Data.List.Perm.Basic
/-!
# The order in which jobs finish

Whatever the bound and the choices are, every job finishes once (`finishOrder_perm`), and always
one of those that are under way.
-/

namespace Upkeep.Pool

variable {α β : Type}

/-- The jobs of a list, each with its place. -/
def placed (jobs : List α) : List (Nat × α) := jobs.zipIdx.map fun (job, i) => (i, job)

theorem mem_placed {l : List α} {j : Nat × α} : j ∈ placed l ↔ l[j.1]? = some j.2 := by
  obtain ⟨i, a⟩ := j
  simp [placed, List.mem_zipIdx_iff_getElem?]

theorem map_snd_placed (l : List α) : (placed l).map Prod.snd = l := by
  rw [placed, List.map_map]
  exact List.zipIdx_map_fst 0 l

theorem placed_map (f : α → β) (l : List α) :
    placed (l.map f) = (placed l).map fun j => (j.1, f j.2) := by
  rw [placed, placed, List.zipIdx_map, List.map_map, List.map_map]
  rfl

theorem pairwise_placed (l : List α) : (placed l).Pairwise fun a b => a.1 < b.1 := by
  refine List.pairwise_map.2 (List.pairwise_map.1 ?_)
  rw [List.zipIdx_map_snd]
  exact List.pairwise_lt_range'

/-! ## Finishing -/

theorem workers_pos (bound : Nat) : 0 < workers bound :=
  Nat.lt_of_lt_of_le Nat.one_pos (Nat.le_max_right bound 1)

/-- The next job to finish is one under way. -/
theorem nextIndex_lt (bound choice : Nat) {unfinished : Nat} (h : 0 < unfinished) :
    nextIndex bound choice unfinished < min (workers bound) unfinished :=
  Nat.mod_lt _ (Nat.lt_min.2 ⟨workers_pos bound, h⟩)

theorem eq_nil_of_getElem?_nextIndex {bound choice : Nat} {jobs : List α}
    (h : jobs[nextIndex bound choice jobs.length]? = none) : jobs = [] := by
  by_contra hne
  have hlt := nextIndex_lt bound choice (List.length_pos_iff.2 hne)
  have := List.getElem?_eq_none_iff.1 h
  omega

theorem finishOrder_nil (bound : Nat) (choices : List Nat) :
    finishOrder bound choices ([] : List α) = [] := by
  rw [finishOrder]
  rfl

theorem finishOrder_of_next {bound : Nat} {choices : List Nat} {jobs : List α} {job : α}
    (h : jobs[nextIndex bound (choices.headD 0) jobs.length]? = some job) :
    finishOrder bound choices jobs =
      job :: finishOrder bound choices.tail
        (jobs.eraseIdx (nextIndex bound (choices.headD 0) jobs.length)) := by
  rw [finishOrder]
  split
  · next hn => rw [h] at hn; cases hn
  · next hs => rw [h] at hs; cases hs; rfl

/-- Every job finishes once. -/
theorem finishOrder_perm (bound : Nat) (choices : List Nat) (jobs : List α) :
    (finishOrder bound choices jobs).Perm jobs := by
  induction choices, jobs using finishOrder.induct bound with
  | case1 choices jobs h =>
    rw [eq_nil_of_getElem?_nextIndex h, finishOrder_nil]
  | case2 choices jobs job h ih =>
    obtain ⟨hlt, hjob⟩ := List.getElem?_eq_some_iff.1 h
    rw [finishOrder_of_next h, ← hjob]
    exact (ih.cons _).trans (List.getElem_cons_eraseIdx_perm hlt)

/-- The order does not depend on what the jobs are. -/
theorem finishOrder_map (f : α → β) (bound : Nat) (choices : List Nat) (jobs : List α) :
    finishOrder bound choices (jobs.map f) = (finishOrder bound choices jobs).map f := by
  induction choices, jobs using finishOrder.induct bound with
  | case1 choices jobs h =>
    rw [eq_nil_of_getElem?_nextIndex h, List.map_nil, finishOrder_nil, finishOrder_nil,
      List.map_nil]
  | case2 choices jobs job h ih =>
    have hf : (jobs.map f)[nextIndex bound (choices.headD 0) (jobs.map f).length]? =
        some (f job) := by
      rw [List.length_map, List.getElem?_map, h]
      rfl
    rw [finishOrder_of_next h, finishOrder_of_next hf, List.length_map, List.eraseIdx_map, ih,
      List.map_cons]

theorem inTurn_conduct_map {m : Type → Type} [Monad m] (choices : List Nat) (bound : Nat)
    (f : β → m α) (l : List β) :
    (inTurn choices).conduct bound (l.map f) =
      runAll ((finishOrder bound choices (placed l)).map fun j => (j.1, f j.2)) := by
  rw [← finishOrder_map, ← placed_map]
  rfl

end Upkeep.Pool
