import Upkeep.GitHub.Members
/-!
# A resolver beside its server

A resolver remembers the members of organizations in a place that no request gets at. What its
client does is done at the server alone (`WithMemory.getPages_client`), so that a lookup can be
followed by what it gives and by what is remembered (`Gives`).
-/

namespace Upkeep.GitHub

variable {σ α β : Type}

/-- A server's state, and the members of organizations as far as they are remembered. -/
structure WithMemory (σ : Type) where
  server : σ
  members : List (String × List String) := []

namespace WithMemory

/-- What is done at the server, with nothing remembered or forgotten. -/
def atServer (x : StateM σ α) : StateM (WithMemory σ) α := fun s =>
  let (a, server) := x.run s.server
  (a, { s with server })

theorem atServer_bind (x : StateM σ α) (f : α → StateM σ β) :
    atServer (x >>= f) = atServer x >>= fun a => atServer (f a) := rfl

/-- The transport of a server. -/
def transport (server : Http.Transport (StateM σ)) : Http.Transport (StateM (WithMemory σ)) where
  exchange request := atServer (server.exchange request)
  pause nanos := atServer (server.pause nanos)
  now := atServer server.now

def client (c : Client (StateM σ)) : Client (StateM (WithMemory σ)) :=
  ⟨transport c.transport, c.apiUrl, c.headers, c.maxRateLimitWait⟩

/-- Members are remembered from the first time on. -/
def memo : Http.Memo (StateM (WithMemory σ)) String (List String) where
  find? org s := (s.members.lookup org, s)
  insert org logins s := ((), { s with members := (org, logins) :: s.members })

/-- The resolver of a client. -/
def resolver (c : Client (StateM σ)) : MemberResolver (StateM (WithMemory σ)) := ⟨client c, memo⟩

/-! ## Requests -/

variable {c : Client (StateM σ)} {operation path : String}

theorem attempt_client (request : Http.Request) (retries : Nat) :
    (client c).attempt operation request retries =
      atServer (c.attempt operation request retries) := by
  -- The attempt has to be opened before it is known whether a retry is left.
  induction retries using Nat.strongRecOn with
  | ind retries ih =>
    unfold Client.attempt
    rw [atServer_bind]
    refine bind_congr fun response? => ?_
    cases response? with
    | none => rfl
    | some response =>
      dsimp only
      split
      · rfl
      rw [atServer_bind]
      refine bind_congr fun now => ?_
      split
      · rfl
      rw [atServer_bind]
      refine bind_congr fun later => ?_
      cases retries with
      | zero => rfl
      | succ retries =>
        dsimp only
        rw [show (client c).maxRateLimitWait = c.maxRateLimitWait from rfl]
        split
        · rw [atServer_bind]
          exact bind_congr fun _ => ih retries (Nat.lt_succ_self retries)
        · rfl

theorem send_client (method : Http.Method) (query : List (String × String))
    (body : Option Value) : (client c).send operation method path query body =
      atServer (c.send operation method path query body) := by
  unfold Client.send
  rw [show (client c).request? method path query body = c.request? method path query body from rfl]
  cases c.request? method path query body with
  | none => rfl
  | some request => exact attempt_client request RateLimit.maxRetries

variable {query : List (String × String)} {d : Decoder α}

theorem pagesFrom_client (rows : List α) (page left : Nat) :
    (client c).pagesFrom operation path query d rows page left =
      atServer (c.pagesFrom operation path query d rows page left) := by
  induction left generalizing rows page with
  | zero => rfl
  | succ left ih =>
    rw [Client.pagesFrom, Client.pagesFrom, send_client, atServer_bind]
    refine bind_congr fun sent => ?_
    cases sent with
    | error e => rfl
    | ok response =>
      dsimp only
      split
      · rfl
      · split
        · rfl
        · exact ih _ _

/-- A list is asked for at the server alone. -/
theorem getPages_client : (client c).getPages operation path query d =
    atServer (c.getPages operation path query d) :=
  pagesFrom_client [] 1 Client.lastPage

end WithMemory

/-! ## What comes of a program -/

/-- In every state with a property, the program gives one result, and leaves a state with the
property. -/
def Gives (P : σ → Prop) (x : StateM σ α) (a : α) : Prop :=
  ∀ s, P s → (x.run s).1 = a ∧ P (x.run s).2

variable {P : σ → Prop} {x : StateM σ α} {f : α → StateM σ β} {a : α} {b : β}

theorem gives_pure (a : α) : Gives P (pure a) a := fun _ hs => ⟨rfl, hs⟩

theorem Gives.bind (hx : Gives P x a) (hf : Gives P (f a) b) : Gives P (x >>= f) b := by
  intro s hs
  obtain ⟨hresult, hkept⟩ := hx s hs
  have hnext := hf _ hkept
  rw [← hresult] at hnext
  exact hnext

end Upkeep.GitHub
