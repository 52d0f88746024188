import Upkeep.Proofs.Policy.Configuration
import Upkeep.Proofs.Sweep.Conversation
import Upkeep.Services
/-!
# Listings of a repository

Whatever GitHub answers, the items that are read from a listing are items of the repository that
was asked for, since a row does not say which repository it belongs to.
-/

namespace Upkeep

namespace GitHub

open Upkeep.Fiber

variable {σ α : Type} {c : Client (Fiber σ)} {d : Decoder α} {holds : α → Prop}

theorem issueOfValue_repository {r : RepositoryId} {v : Value} {i : Issue}
    (h : issueOfValue r v = .ok i) : i.reference.repository = r := by
  obtain ⟨fields, -, h⟩ := exists_of_bind_eq_ok h
  obtain ⟨number, -, h⟩ := exists_of_bind_eq_ok h
  obtain ⟨state, -, h⟩ := exists_of_bind_eq_ok h
  obtain ⟨isPullRequest, -, h⟩ := exists_of_bind_eq_ok h
  obtain ⟨createdAt, -, h⟩ := exists_of_bind_eq_ok h
  obtain ⟨labels, -, h⟩ := exists_of_bind_eq_ok h
  obtain ⟨body, -, h⟩ := exists_of_bind_eq_ok h
  cases h
  rfl

theorem holds_of_decode (hd : ∀ v a, d v = .ok a → holds a) {response : Http.Response}
    {rows : List α} (h : response.decode (Decoder.list d) = .ok rows) : ∀ a ∈ rows, holds a := by
  unfold Http.Response.decode at h
  split at h
  · cases h
  · next v _ =>
    have hlist := eq_ok_of_mapError h
    cases v with
    | list vs =>
      intro a ha
      have hmem : Except.ok a ∈ vs.map d :=
        Decoder.items_eq_ok hlist ▸ List.mem_map_of_mem ha
      obtain ⟨v, -, hv⟩ := List.mem_map.1 hmem
      exact hd v a hv
    | _ => cases hlist

/-- What is true of every row that can be read is true of all rows of a list. -/
theorem getPages_ensures (hd : ∀ v a, d v = .ok a → holds a) (operation path : String)
    (query : List (String × String)) :
    (c.getPages operation path query d).Ensures fun answer =>
      ∀ rows, answer = .ok rows → ∀ a ∈ rows, holds a := by
  have hpages : ∀ (left : Nat) (rows : List α) (page : Nat), (∀ a ∈ rows, holds a) →
      (c.pagesFrom operation path query d rows page left).Ensures fun answer =>
        ∀ rows, answer = .ok rows → ∀ a ∈ rows, holds a := by
    intro left
    induction left with
    | zero =>
      intro rows page hrows
      exact ensures_pure nofun
    | succ left ih =>
      intro rows page hrows
      refine (ensures_true _).bind fun answer _ => ?_
      cases answer with
      | error e => exact ensures_pure nofun
      | ok response =>
        dsimp only
        split
        · exact ensures_pure nofun
        · next chunk hchunk =>
          have hall : ∀ a ∈ rows ++ chunk, holds a :=
            List.forall_mem_append.2 ⟨hrows, holds_of_decode hd hchunk⟩
          split
          · refine ensures_pure ?_
            rintro _ ⟨⟩
            exact hall
          · exact ih (rows ++ chunk) _ hall
  exact hpages Client.lastPage [] 1 (List.forall_mem_nil _)

end GitHub

/-- A live manager is given items of the repository that it asks for. -/
theorem Services.tracker_listsOwn {σ : Type} (s : Services (Fiber σ))
    (concurrency : Concurrency (Fiber σ)) (observe : Event → Fiber σ Unit) :
    (s.tracker concurrency observe).ListsOwn := by
  intro r
  exact GitHub.getPages_ensures (fun v i h => GitHub.issueOfValue_repository h) _ _ _

end Upkeep
