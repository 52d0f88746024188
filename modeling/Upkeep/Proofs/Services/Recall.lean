import Upkeep.Proofs.GitHub.Steady
import Upkeep.Services
/-!
# What clients remember

The members of an organization and the number of a repository are asked for at the first time and
then remembered (`Connections.obtain_eq`). Of services whose answers do not change, only what is
true is remembered, nothing is forgotten or replaced, and what is obtained is true, whatever others
do in between (`Connections.obtain_assures`).
-/

namespace Upkeep

open Upkeep.Fiber

/-! ## Memories -/

/-- What is asked for at the first time only. -/
inductive Key
  | members (org : String)
  | number (repository : RepositoryId)
deriving DecidableEq

/-- What is remembered under a key. -/
abbrev Key.Value : Key → Type
  | members _ => List String
  | number _ => Nat

/-- What clients remember, with the newest entries first. -/
structure Remembered where
  members : List (String × List String) := []
  numbers : List (RepositoryId × Nat) := []

namespace Remembered

variable {r : Remembered} {k k' : Key} {v : k.Value}

def find? (r : Remembered) : (k : Key) → Option k.Value
  | .members org => r.members.lookup org
  | .number repository => r.numbers.lookup repository

def add (r : Remembered) : (k : Key) → k.Value → Remembered
  | .members org, logins => { r with members := (org, logins) :: r.members }
  | .number repository, n => { r with numbers := (repository, n) :: r.numbers }

/-- Something is remembered under a key. -/
def Has (r : Remembered) (k : Key) : Prop := ∃ v, r.find? k = some v

theorem not_has_iff : ¬ r.Has k ↔ r.find? k = none := by
  rw [Has, not_exists, Option.eq_none_iff_forall_ne_some]

theorem find?_add_self (r : Remembered) (k : Key) (v : k.Value) : (r.add k v).find? k = some v := by
  cases k <;> exact List.lookup_cons_self

theorem find?_add_of_ne (h : k' ≠ k) (r : Remembered) (v : k.Value) :
    (r.add k v).find? k' = r.find? k' := by
  cases k <;> cases k'
  · next org org' =>
    have hne : (org' == org) = false := beq_false_of_ne fun heq => h (congrArg Key.members heq)
    simp [find?, add, List.lookup_cons, hne]
  · rfl
  · rfl
  · next repository repository' =>
    have hne : (repository' == repository) = false :=
      beq_false_of_ne fun heq => h (congrArg Key.number heq)
    simp [find?, add, List.lookup_cons, hne]

theorem has_add_iff : (r.add k v).Has k' ↔ k' = k ∨ r.Has k' := by
  by_cases heq : k' = k
  · subst heq
    exact iff_of_true ⟨v, find?_add_self r k' v⟩ (.inl rfl)
  · rw [or_iff_right heq, Has, Has, find?_add_of_ne heq]

end Remembered

namespace Memory

variable {m : Type → Type}

def consult (memory : Memory m) : (k : Key) → m (Option k.Value)
  | .members org => memory.members.find? org
  | .number repository => memory.numbers.find? repository

def note (memory : Memory m) : (k : Key) → k.Value → m Unit
  | .members org, logins => memory.members.insert org logins
  | .number repository, n => memory.numbers.insert repository n

end Memory

/-! ## Asking once -/

/-- What the clients send their requests with. -/
structure Connections (m : Type → Type) where
  /-- Asks for members and for what they did. -/
  members : GitHub.Client m
  /-- Asks for the numbers of repositories. -/
  repositories : GitHub.Client m
  board : Http.Transport m
  boardUrl : String
  boardHeaders : List (String × String)

namespace Connections

section

variable {m : Type → Type}

def resolver (c : Connections m) (memory : Memory m) : GitHub.MemberResolver m :=
  ⟨c.members, memory.members⟩

def zenHub (c : Connections m) (memory : Memory m) : ZenHub.Client m :=
  ⟨c.board, c.repositories, c.boardUrl, c.boardHeaders, memory.numbers⟩

variable [Monad m]

/-- Asks a service for what belongs to a key. -/
def fetch (c : Connections m) : (k : Key) → m (Except ServiceError k.Value)
  | .members org => do
    match ← c.members.getPages "list org members" ("/orgs/" ++ org ++ "/members") []
        GitHub.User.ofValue with
    | .error e => pure (.error e)
    | .ok users => pure (.ok (users.map GitHub.User.login))
  | .number repository =>
    c.repositories.get "get repository" (GitHub.repositoryPath repository)
      GitHub.repositoryNumberOfValue

/-- What the clients do to have what belongs to a key. -/
def obtain (c : Connections m) (memory : Memory m) : (k : Key) → m (Except ServiceError k.Value)
  | .members org => (c.resolver memory).membersOf org
  | .number repository => (c.zenHub memory).numberOf repository

/-- What is not remembered is asked for, and noted if it could be had. -/
theorem obtain_eq [LawfulMonad m] (c : Connections m) (memory : Memory m) (k : Key) :
    c.obtain memory k = (do
      match ← memory.consult k with
      | some v => pure (.ok v)
      | none => do
        match ← c.fetch k with
        | .error e => pure (.error e)
        | .ok v => do
          memory.note k v
          pure (.ok v)) := by
  cases k with
  | members org =>
    refine bind_congr fun known => ?_
    cases known with
    | some logins => rfl
    | none =>
      dsimp only [fetch]
      rw [bind_assoc]
      refine bind_congr fun users => ?_
      cases users with
      | error e =>
        dsimp only
        rw [pure_bind]
      | ok users =>
        dsimp only
        rw [pure_bind]
        rfl
  | number repository =>
    refine bind_congr fun known => ?_
    cases known with
    | some n => rfl
    | none => exact bind_congr fun fetched => by cases fetched <;> rfl

end

/-- The connections where every request is answered. -/
def answered {σ : Type} (c : Connections (Fiber σ)) (answer : Http.Request → Http.Response) :
    Connections Id where
  members := c.members.answered answer
  repositories := c.repositories.answered answer
  board := .answering answer
  boardUrl := c.boardUrl
  boardHeaders := c.boardHeaders

/-- What belongs to a key where every request is answered. -/
def truth {σ : Type} (c : Connections (Fiber σ)) (answer : Http.Request → Http.Response)
    (k : Key) : Except ServiceError k.Value := (c.answered answer).fetch k

end Connections

/-! ## Steady services -/

/-- Where in a state clients write down what they remember. No entry makes a service unsound. -/
structure Notebook (σ : Type) where
  /-- The services are in a state in which their answers do not change. -/
  sound : σ → Prop
  remembered : σ → Remembered
  remember : Remembered → σ → σ
  remembered_remember : ∀ r s, remembered (remember r s) = r
  sound_remember : ∀ r s, sound s → sound (remember r s)

namespace Notebook

variable {σ : Type} (N : Notebook σ)

/-- What clients remember is kept in the state. -/
def consult (k : Key) : Fiber σ (Option k.Value) := .update fun s => ((N.remembered s).find? k, s)

def note (k : Key) (v : k.Value) : Fiber σ Unit :=
  .update fun s => ((), N.remember ((N.remembered s).add k v) s)

def memory : Memory (Fiber σ) where
  members := ⟨fun org => N.consult (.members org), fun org => N.note (.members org)⟩
  numbers := ⟨fun repository => N.consult (.number repository),
    fun repository => N.note (.number repository)⟩

theorem consult_memory (k : Key) : N.memory.consult k = N.consult k := by cases k <;> rfl

theorem note_memory (k : Key) (v : k.Value) : N.memory.note k v = N.note k v := by cases k <;> rfl

end Notebook

/-- The answers of the board: a status that an item is not found is one as well. -/
def isBoardAnswer (response : Http.Response) : Bool := response.isSuccess || response.status == 404

/-- The services may fail, but never change their answers. -/
structure Connections.Steady {σ : Type} (c : Connections (Fiber σ)) (N : Notebook σ)
    (answer : Http.Request → Http.Response) : Prop where
  members : c.members.transport.Steady N.sound N.remembered Http.Response.isSuccess answer
  repositories :
    c.repositories.transport.Steady N.sound N.remembered Http.Response.isSuccess answer
  board : c.board.Steady N.sound N.remembered isBoardAnswer answer

namespace Connections

variable {σ : Type} {c : Connections (Fiber σ)} {N : Notebook σ}
  {answer : Http.Request → Http.Response}

theorem fetch_steady (h : c.Steady N answer) (k : Key) :
    (c.fetch k).Leaves N.sound N.remembered (Truly (c.truth answer k)) := by
  cases k with
  | members org =>
    refine (GitHub.Client.getPages_steady h.members _ _ _ _).bind fun users husers => ?_
    cases users with
    | error e => exact leaves_pure (truly_error e)
    | ok users =>
      refine leaves_pure fun logins hlogins => ?_
      rw [truth, fetch]
      dsimp only [answered]
      rw [husers users rfl]
      exact hlogins
  | number repository => exact GitHub.Client.get_steady h.repositories _ _ _

/-- All that is remembered is true. -/
def Truthful (c : Connections (Fiber σ)) (answer : Http.Request → Http.Response)
    (r : Remembered) : Prop :=
  ∀ k v, r.find? k = some v → c.truth answer k = .ok v

theorem truthful_empty : c.Truthful answer {} := by
  intro k v h
  cases k <;> cases h

theorem Truthful.add {r : Remembered} {k : Key} {v : k.Value} (h : c.Truthful answer r)
    (hv : c.truth answer k = .ok v) : c.Truthful answer (r.add k v) := by
  intro k' v' hfind
  by_cases heq : k' = k
  · subst heq
    rw [Remembered.find?_add_self] at hfind
    rw [hv, Option.some.inj hfind]
  · rw [Remembered.find?_add_of_ne heq] at hfind
    exact h k' v' hfind

/-- Memories grow: nothing is forgotten or replaced, and only some keys are added. -/
structure Grows (added : Key → Prop) (r r' : Remembered) : Prop where
  kept : ∀ k v, r.find? k = some v → r'.find? k = some v
  new : ∀ k v, r'.find? k = some v → r.find? k = some v ∨ added k

/-- What those who ask for some keys rely on and keep to. -/
def agreement (c : Connections (Fiber σ)) (N : Notebook σ) (answer : Http.Request → Http.Response)
    (asked : Key → Prop) : Agreement σ where
  sound s := N.sound s ∧ c.Truthful answer (N.remembered s)
  leads s s' := Grows asked (N.remembered s) (N.remembered s')
  refl _ := ⟨fun _ _ h => h, fun _ _ h => .inl h⟩
  trans h h' := ⟨fun k v hk => h'.kept k v (h.kept k v hk),
    fun k v hk => (h'.new k v hk).elim (h.new k v) .inr⟩

variable {asked : Key → Prop} {α : Type}

theorem Grows.has {r r' : Remembered} {k : Key} (h : Grows asked r r') (hk : r.Has k) :
    r'.Has k := by
  obtain ⟨v, hv⟩ := hk
  exact ⟨v, h.kept k v hv⟩

theorem Grows.add {r : Remembered} {k : Key} {v : k.Value} (hk : asked k)
    (h : ∀ v', r.find? k = some v' → v' = v) : Grows asked r (r.add k v) := by
  constructor
  · intro k' v' hfind
    by_cases heq : k' = k
    · subst heq
      rw [Remembered.find?_add_self, h v' hfind]
    · rwa [Remembered.find?_add_of_ne heq]
  · intro k' v' hfind
    by_cases heq : k' = k
    · exact .inr (heq ▸ hk)
    · rw [Remembered.find?_add_of_ne heq] at hfind
      exact .inl hfind

/-- Requests to the services leave the memory alone. -/
theorem assures_of_leaves {f : Fiber σ α} {holds : α → Prop}
    (hf : f.Leaves N.sound N.remembered holds) (s : σ) :
    f.Assures (c.agreement N answer asked) (fun _ a => holds a) s := by
  refine hf.assures (A := c.agreement N answer asked) (fun s hs => hs.1)
    (fun s s' hs hs' hsame => ?_) s
  show (N.sound s' ∧ c.Truthful answer (N.remembered s')) ∧
    Grows asked (N.remembered s) (N.remembered s')
  rw [hsame]
  exact ⟨⟨hs', hs.2⟩, (c.agreement N answer asked).refl s⟩

theorem consult_assures (k : Key) (s : σ) :
    (N.consult k).Assures (c.agreement N answer asked)
      (fun s' known => ∀ v, known = some v → (N.remembered s').find? k = some v) s := by
  intro t ht _
  refine ⟨ht, (c.agreement N answer asked).refl _, fun s' _ hleads v hv => ?_⟩
  exact hleads.kept k v hv

theorem note_assures {k : Key} {v : k.Value} (hk : asked k) (hv : c.truth answer k = .ok v)
    (s : σ) : (N.note k v).Assures (c.agreement N answer asked)
      (fun s' _ => (N.remembered s').find? k = some v) s := by
  intro t ht _
  have hnoted : N.remembered (N.remember ((N.remembered t.state).add k v) t.state) =
      (N.remembered t.state).add k v := N.remembered_remember _ _
  have hsound : (c.agreement N answer asked).sound
      (N.remember ((N.remembered t.state).add k v) t.state) :=
    ⟨N.sound_remember _ _ ht.1, hnoted.symm ▸ ht.2.add hv⟩
  have hgrows : Grows asked (N.remembered t.state)
      (N.remembered (N.remember ((N.remembered t.state).add k v) t.state)) := by
    rw [hnoted]
    exact .add hk fun v' hv' => Except.ok.inj ((ht.2 k v' hv').symm.trans hv)
  refine ⟨hsound, hgrows, fun s' _ hleads => hleads.kept k v ?_⟩
  exact hnoted.symm ▸ Remembered.find?_add_self _ k v

/-- What is obtained is true, and remembered from then on. -/
theorem obtain_assures (h : c.Steady N answer) {k : Key} (hk : asked k) (s : σ) :
    (c.obtain N.memory k).Assures (c.agreement N answer asked)
      (fun s' result => ∀ v, result = .ok v →
        c.truth answer k = .ok v ∧ (N.remembered s').find? k = some v) s := by
  rw [obtain_eq, N.consult_memory]
  refine (consult_assures k s).bind fun known s₁ _ _ hknown => ?_
  cases known with
  | some v =>
    refine assures_pure fun s₂ hs₂ hleads v' hv' => ?_
    cases hv'
    have hfound := hleads.kept k v (hknown v rfl)
    exact ⟨hs₂.2 k v hfound, hfound⟩
  | none =>
    refine (assures_of_leaves (fetch_steady h k) s₁).bind
      fun fetched s₂ _ _ hfetched => ?_
    cases fetched with
    | error e => exact assures_pure fun _ _ _ => nofun
    | ok v =>
      have htruth := hfetched v rfl
      dsimp only
      rw [N.note_memory]
      refine (note_assures hk htruth s₂).bind fun _ s₃ _ _ hnoted => ?_
      refine assures_pure fun s₄ _ hleads v' hv' => ?_
      cases hv'
      exact ⟨htruth, hleads.kept k v hnoted⟩

end Connections

end Upkeep
