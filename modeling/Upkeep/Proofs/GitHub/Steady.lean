import Upkeep.GitHub.Client
import Upkeep.Proofs.Fiber.Sharing
/-!
# Services whose answers do not change

A request may fail as often as it likes, but whenever a service answers it, the answer says the
same (`Http.Transport.Steady`). What a client then gives, if it gives anything, is what it gives
where every request is answered (`Client.get_steady`, `Client.getPages_steady`).
-/

namespace Upkeep

open Upkeep.Fiber

variable {σ τ α : Type} {sound : σ → Prop} {part : σ → τ} {isAnswer : Http.Response → Bool}
  {answer : Http.Request → Http.Response}

/-! ## Answers -/

namespace Http

/-- Two responses say the same; their headers may differ. -/
def Response.Says (r r' : Response) : Prop := r.status = r'.status ∧ r.body = r'.body

theorem Response.Says.isSuccess_eq {r r' : Response} (h : r.Says r') :
    r.isSuccess = r'.isSuccess := by
  rw [isSuccess, isSuccess, h.1]

theorem Response.Says.decode_eq {r r' : Response} (h : r.Says r') (d : Decoder α) :
    r.decode d = r'.decode d := by
  rw [decode, decode, h.2]

/-- Whenever a request is answered, the answer is this one. Sending and waiting keep the service
sound and leave a part of the state alone. -/
structure Transport.Steady (transport : Transport (Fiber σ)) (sound : σ → Prop) (part : σ → τ)
    (isAnswer : Response → Bool) (answer : Request → Response) : Prop where
  exchange : ∀ request, (transport.exchange request).Leaves sound part fun response? =>
    ∀ response ∈ response?, isAnswer response = true → response.Says (answer request)
  pause : ∀ nanos, (transport.pause nanos).Leaves sound part fun _ => True
  now : transport.now.Leaves sound part fun _ => True

theorem Transport.Steady.of_imp {transport : Transport (Fiber σ)}
    {isAnswer' : Response → Bool} (h : transport.Steady sound part isAnswer answer)
    (himp : ∀ response, isAnswer' response = true → isAnswer response = true) :
    transport.Steady sound part isAnswer' answer where
  exchange request := (h.exchange request).mono fun _ hresponse response hmem hanswer =>
    hresponse response hmem (himp response hanswer)
  pause := h.pause
  now := h.now

/-- The transport to a service that answers every request. -/
def Transport.answering (answer : Request → Response) : Transport Id where
  exchange request := some (answer request)
  pause _ := ()
  now := default

end Http

/-- If there is a result at all, it is this one. -/
def Truly {ε : Type} (truth r : Except ε α) : Prop := ∀ a, r = .ok a → truth = .ok a

theorem truly_error {ε : Type} {truth : Except ε α} (e : ε) : Truly truth (.error e) := nofun

/-! ## Clients -/

namespace GitHub.Client

/-- The client with another transport. -/
def withTransport {m n : Type → Type} (c : Client m) (transport : Http.Transport n) : Client n :=
  ⟨transport, c.apiUrl, c.headers, c.maxRateLimitWait⟩

/-- The client where every request is answered. -/
def answered (c : Client (Fiber σ)) (answer : Http.Request → Http.Response) : Client Id :=
  c.withTransport (.answering answer)

variable {c : Client (Fiber σ)} {operation path : String} {query : List (String × String)}
  {d : Decoder α}

theorem attempt_answered {request : Http.Request} (h : (answer request).isSuccess = true)
    (retries : Nat) :
    (c.answered answer).attempt operation request retries = .ok (answer request) := by
  unfold attempt
  show (if (answer request).isSuccess then (.ok (answer request) : Id (Except _ _)) else _) = _
  rw [if_pos h]

theorem pagesFrom_of_send {c : Client Id} {rows : List α} {page left : Nat}
    {response : Http.Response}
    (h : c.send operation .get path
      (query ++ [("per_page", decimalText pageSize), ("page", decimalText page)]) none =
        .ok response) :
    c.pagesFrom operation path query d rows page (left + 1) =
      match response.decode (Decoder.list d) with
      | .error e => .error e
      | .ok chunk =>
        if chunk.length < pageSize then .ok (rows ++ chunk)
        else c.pagesFrom operation path query d (rows ++ chunk) (min (page + 1) lastPage) left := by
  rw [pagesFrom, h]
  rfl

section

variable (h : c.transport.Steady sound part Http.Response.isSuccess answer)

include h

theorem attempt_steady (operation : String) (request : Http.Request) (retries : Nat) :
    (c.attempt operation request retries).Leaves sound part fun result =>
      ∀ response, result = .ok response →
        response.isSuccess = true ∧ response.Says (answer request) := by
  -- The attempt has to be opened before it is known whether a retry is left.
  induction retries using Nat.strongRecOn with
  | ind retries ih =>
    unfold attempt
    refine (h.exchange request).bind fun response? hresponse => ?_
    cases response? with
    | none => exact leaves_pure nofun
    | some response =>
      dsimp only
      split
      · next hsuccess =>
        refine leaves_pure fun response' heq => ?_
        cases heq
        exact ⟨hsuccess, hresponse response rfl hsuccess⟩
      refine h.now.bind fun now _ => ?_
      split
      · exact leaves_pure nofun
      refine h.now.bind fun later _ => ?_
      cases retries with
      | zero => exact leaves_pure nofun
      | succ retries =>
        dsimp only
        split
        · exact (h.pause _).bind fun _ _ => ih retries (Nat.lt_succ_self retries)
        · exact leaves_pure nofun

theorem send_steady (operation : String) (method : Http.Method) (path : String)
    (query : List (String × String)) (body : Option Value) :
    (c.send operation method path query body).Leaves sound part fun result =>
      ∀ response, result = .ok response → ∃ response', response.Says response' ∧
        (c.answered answer).send operation method path query body = .ok response' := by
  have hrequest : (c.answered answer).request? method path query body =
      c.request? method path query body := rfl
  unfold send
  rw [hrequest]
  cases c.request? method path query body with
  | none => exact leaves_pure nofun
  | some request =>
    refine (attempt_steady h operation request RateLimit.maxRetries).mono fun result hresult => ?_
    intro response heq
    obtain ⟨hsuccess, hsame⟩ := hresult response heq
    exact ⟨answer request, hsame, attempt_answered (hsame.isSuccess_eq ▸ hsuccess) _⟩

theorem get_steady (operation path : String) (d : Decoder α) :
    (c.get operation path d).Leaves sound part
      (Truly ((c.answered answer).get operation path d)) := by
  unfold get
  refine (send_steady h operation .get path [] none).bind fun result hresult => ?_
  cases result with
  | error e => exact leaves_pure (truly_error e)
  | ok response =>
    obtain ⟨response', hsame, hsend⟩ := hresult response rfl
    refine leaves_pure fun a ha => ?_
    rw [hsend]
    exact (hsame.decode_eq d).symm.trans ha

theorem pagesFrom_steady (operation path : String) (query : List (String × String))
    (d : Decoder α) (rows : List α) (page left : Nat) :
    (c.pagesFrom operation path query d rows page left).Leaves sound part
      (Truly ((c.answered answer).pagesFrom operation path query d rows page left)) := by
  induction left generalizing rows page with
  | zero => exact leaves_pure nofun
  | succ left ih =>
    generalize htruth :
      (c.answered answer).pagesFrom operation path query d rows page (left + 1) = truth
    rw [pagesFrom]
    refine (send_steady h operation .get path _ none).bind fun result hresult => ?_
    cases result with
    | error e => exact leaves_pure (truly_error e)
    | ok response =>
      obtain ⟨response', hsame, hsend⟩ := hresult response rfl
      rw [← htruth, pagesFrom_of_send hsend, ← hsame.decode_eq]
      dsimp only
      cases response.decode (Decoder.list d) with
      | error e => exact leaves_pure (truly_error e)
      | ok chunk =>
        dsimp only
        split
        · exact leaves_pure fun _ hrows => hrows
        · exact ih _ _

theorem getPages_steady (operation path : String) (query : List (String × String))
    (d : Decoder α) : (c.getPages operation path query d).Leaves sound part
      (Truly ((c.answered answer).getPages operation path query d)) :=
  pagesFrom_steady h operation path query d [] 1 lastPage

end

end GitHub.Client

end Upkeep
