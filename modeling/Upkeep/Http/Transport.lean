import Upkeep.Decode
import Upkeep.Failure
import Upkeep.Http.Message
import Upkeep.Json.Parser
/-!
What a web client needs from its surroundings: a way to send requests, to wait, and to tell the
time. A `Memo` keeps answers that need not be asked for again.
-/

namespace Upkeep.Http

/-- The operations that web clients are built on. -/
structure Transport (m : Type → Type) where
  /-- Sends a request. There is no response when the connection breaks or the time is up. -/
  exchange : Request → m (Option Response)
  /-- Waits for a number of nanoseconds. -/
  pause : Nat → m Unit
  now : m Instant

/-- A store of answers by their keys, of which none is ever removed. -/
structure Memo (m : Type → Type) (κ α : Type) where
  find? : κ → m (Option α)
  insert : κ → α → m Unit

/-- Reads the body of a response. Parts of it that the decoder does not look at need not be
readable. -/
def Response.decode {α : Type} (d : Decoder α) (r : Response) : Except ServiceError α :=
  match Json.read? r.body with
  | none => .error (.decode "the body is not JSON")
  | some v => (d v).mapError fun _ => .decode "the body has another shape"

/-- The failure of a request that got no response. -/
def noResponse : ServiceError := .transport "no response"

end Upkeep.Http
