import Upkeep.GitHub.Client
import Upkeep.Proofs.Http.Address
/-!
# The pages of a list

A client asks for the pages of a list one after the other until one is not full, or cannot be had.
What comes of it is decided by that page alone (`pagesFrom_run`), whatever the server does. From a
server that keeps a list and serves it page by page, the client gets the list, with one request for
each page and none for another (`getPages_complete`).
-/

namespace Upkeep.GitHub

/-- A list that a client can ask for. -/
structure Endpoint (m : Type → Type) (α : Type) where
  client : Client m
  operation : String
  path : String
  query : List (String × String)
  decoder : Decoder α

namespace Endpoint

variable {m : Type → Type} {σ α : Type}

/-- What is asked for besides the query of the list. -/
def pageQuery (e : Endpoint m α) (page : Nat) : List (String × String) :=
  e.query ++ [("per_page", decimalText Client.pageSize), ("page", decimalText page)]

/-- The request for a page. -/
def request? (e : Endpoint m α) (page : Nat) : Option Http.Request :=
  e.client.request? .get e.path (e.pageQuery page) none

/-- Asks for a page and reads its rows. -/
def fetch [Monad m] (e : Endpoint m α) (page : Nat) : m (Except ServiceError (List α)) := do
  match ← e.client.send e.operation .get e.path (e.pageQuery page) none with
  | .error failure => pure (.error failure)
  | .ok response => pure (response.decode (Decoder.list e.decoder))

/-- What a client does when a page has been read: it returns the failure, or the list, or asks for
the next page. -/
def goOn [Monad m] (e : Endpoint m α) (rows : List α) (page left : Nat) :
    Except ServiceError (List α) → m (Except ServiceError (List α))
  | .error failure => pure (.error failure)
  | .ok chunk =>
    if chunk.length < 100 then pure (.ok (rows ++ chunk))
    else e.client.pagesFrom e.operation e.path e.query e.decoder (rows ++ chunk)
      (min (page + 1) 0xFFFFFFFF) left

/-- The number of the page that is asked for behind `n` others. The last page is asked for again and
again. -/
def pageAfter (n : Nat) : Nat := min (n + 1) 0xFFFFFFFF

/-! ## Whatever the server does -/

section Run

variable (e : Endpoint (StateM σ) α) (s : σ)

/-- The state of the server when `n` pages have been asked for. -/
def stateAfter : Nat → σ
  | 0 => s
  | n + 1 => ((e.fetch (pageAfter n)).run (stateAfter n)).2

/-- What comes of the page that is asked for behind `n` others. -/
def answer (n : Nat) : Except ServiceError (List α) :=
  ((e.fetch (pageAfter n)).run (e.stateAfter s n)).1

/-- The page behind `n` others has as many rows as a page can have. -/
def FullAt (n : Nat) : Prop := ∃ rows, e.answer s n = .ok rows ∧ 100 ≤ rows.length

/-- The rows of the first `n` pages. -/
def rowsBefore (n : Nat) : List α :=
  (List.range n).flatMap fun k => (e.answer s k).toOption.getD []

theorem run_fetch (n : Nat) :
    (e.fetch (pageAfter n)).run (e.stateAfter s n) = (e.answer s n, e.stateAfter s (n + 1)) := by
  exact Prod.ext rfl rfl

theorem not_fullAt_of_error {n : Nat} {failure : ServiceError}
    (h : e.answer s n = .error failure) : ¬ e.FullAt s n := by
  rintro ⟨rows, hrows, -⟩
  rw [h] at hrows
  cases hrows

theorem fullAt_iff_of_ok {n : Nat} {rows : List α} (h : e.answer s n = .ok rows) :
    e.FullAt s n ↔ 100 ≤ rows.length := by
  constructor
  · rintro ⟨rows', hrows', hlong⟩
    rw [h] at hrows'
    obtain rfl := Except.ok.inj hrows'
    exact hlong
  · exact fun hlong => ⟨rows, h, hlong⟩

theorem rowsBefore_succ {n : Nat} {rows : List α} (h : e.answer s n = .ok rows) :
    e.rowsBefore s (n + 1) = e.rowsBefore s n ++ rows := by
  simp [rowsBefore, List.range_succ, h, Except.toOption]

theorem run_fetch_of_send {page : Nat} {t u : σ} {sent : Except ServiceError Http.Response}
    (h : (e.client.send e.operation .get e.path (e.pageQuery page) none).run t = (sent, u)) :
    (e.fetch page).run t = (sent.bind (Http.Response.decode (Decoder.list e.decoder)), u) := by
  rw [fetch, StateT.run_bind, h]
  cases sent <;> rfl

theorem run_fetch_of_exchange {page : Nat} {request : Http.Request} {response : Http.Response}
    {t u : σ} (hrequest : e.request? page = some request)
    (hexchange : (e.client.transport.exchange request).run t = (some response, u))
    (hsuccess : response.isSuccess = true) :
    (e.fetch page).run t = (response.decode (Decoder.list e.decoder), u) := by
  have hsend : (e.client.send e.operation .get e.path (e.pageQuery page) none).run t =
      (.ok response, u) := by
    rw [Client.send, ← request?, hrequest]
    dsimp only
    rw [Client.attempt, StateT.run_bind, hexchange]
    show StateT.run (if response.isSuccess then _ else _) _ = _
    rw [if_pos hsuccess]
    rfl
  rw [e.run_fetch_of_send hsend]
  rfl

/-- The pages from one on are that page and, if it is full, those behind it. -/
theorem pagesFrom_succ (rows : List α) (page left : Nat) :
    e.client.pagesFrom e.operation e.path e.query e.decoder rows page (left + 1) =
      e.fetch page >>= e.goOn rows page left := by
  rw [Client.pagesFrom, fetch, bind_assoc]
  refine bind_congr fun sent => ?_
  cases sent with
  | error failure => rfl
  | ok response =>
    show _ = e.goOn rows page left (response.decode (Decoder.list e.decoder))
    dsimp only
    cases response.decode (Decoder.list e.decoder) with
    | error failure => rfl
    | ok chunk => rfl

theorem pageAfter_succ (n : Nat) : pageAfter (n + 1) = min (pageAfter n + 1) 0xFFFFFFFF := by
  unfold pageAfter
  omega

/-- When `k` pages have been taken, the next one decides how to go on. -/
theorem pagesFrom_run_succ (k left : Nat) :
    (e.client.pagesFrom e.operation e.path e.query e.decoder (e.rowsBefore s k) (pageAfter k)
      (left + 1)).run (e.stateAfter s k) =
      (e.goOn (e.rowsBefore s k) (pageAfter k) left (e.answer s k)).run (e.stateAfter s (k + 1)) := by
  rw [pagesFrom_succ, StateT.run_bind, run_fetch]
  rfl

theorem pagesFrom_run_of_full {k left : Nat} (hfull : e.FullAt s k) :
    (e.client.pagesFrom e.operation e.path e.query e.decoder (e.rowsBefore s k) (pageAfter k)
      (left + 1)).run (e.stateAfter s k) =
      (e.client.pagesFrom e.operation e.path e.query e.decoder (e.rowsBefore s (k + 1))
        (pageAfter (k + 1)) left).run (e.stateAfter s (k + 1)) := by
  obtain ⟨rows, hrows, hlong⟩ := hfull
  rw [pagesFrom_run_succ, hrows, goOn, if_neg (Nat.not_lt.2 hlong), ← rowsBefore_succ e s hrows,
    ← pageAfter_succ]

theorem pagesFrom_run_of_not_full {k left : Nat} (hlast : ¬ e.FullAt s k) :
    (e.client.pagesFrom e.operation e.path e.query e.decoder (e.rowsBefore s k) (pageAfter k)
      (left + 1)).run (e.stateAfter s k) =
      ((e.answer s k).map (e.rowsBefore s k ++ ·), e.stateAfter s (k + 1)) := by
  rw [pagesFrom_run_succ]
  cases hanswer : e.answer s k with
  | error failure => rfl
  | ok rows =>
    rw [fullAt_iff_of_ok e s hanswer] at hlast
    rw [goOn, if_pos (Nat.not_le.1 hlast)]
    rfl

/-- The induction goes over the pages that may still be asked for. The first `k` pages have been
taken. -/
theorem pagesFrom_run_behind {k n : Nat} (hfull : ∀ i < k + n, e.FullAt s i)
    (hlast : ¬ e.FullAt s (k + n)) {left : Nat} (hleft : n < left) :
    (e.client.pagesFrom e.operation e.path e.query e.decoder (e.rowsBefore s k) (pageAfter k)
      left).run (e.stateAfter s k) =
      ((e.answer s (k + n)).map (e.rowsBefore s (k + n) ++ ·), e.stateAfter s (k + n + 1)) := by
  induction left generalizing k n with
  | zero => omega
  | succ left ih =>
    cases n with
    | zero => exact e.pagesFrom_run_of_not_full s hlast
    | succ n =>
      have hnext : k + (n + 1) = k + 1 + n := by omega
      rw [pagesFrom_run_of_full e s (hfull k (by omega))]
      rw [hnext] at hfull hlast ⊢
      exact ih hfull hlast (by omega)

/-- The first page that is not full decides: if it cannot be had, there is the failure and no list,
and if it can, it is the end of the list. -/
theorem pagesFrom_run {n : Nat} (hfull : ∀ k < n, e.FullAt s k) (hlast : ¬ e.FullAt s n)
    {left : Nat} (hleft : n < left) :
    (e.client.pagesFrom e.operation e.path e.query e.decoder [] 1 left).run s =
      ((e.answer s n).map (e.rowsBefore s n ++ ·), e.stateAfter s (n + 1)) := by
  have hrun := pagesFrom_run_behind e s (k := 0) (n := n) (by simpa using hfull)
    (by simpa using hlast) hleft
  rw [Nat.zero_add] at hrun
  exact hrun

/-- A list that is not a full page takes one request. -/
theorem getPages_of_short {request : Http.Request} {response : Http.Response} {rows : List α}
    {u : σ} (hrequest : e.request? 1 = some request)
    (hexchange : (e.client.transport.exchange request).run s = (some response, u))
    (hsuccess : response.isSuccess = true)
    (hdecode : response.decode (Decoder.list e.decoder) = .ok rows) (hshort : rows.length < 100) :
    ((e.client.getPages e.operation e.path e.query e.decoder).run s).1 = .ok rows := by
  have hfetch := e.run_fetch_of_exchange hrequest hexchange hsuccess
  have hanswer : e.answer s 0 = .ok rows := by
    rw [answer, stateAfter, show pageAfter 0 = 1 from rfl, hfetch, hdecode]
  have hlast : ¬ e.FullAt s 0 := by
    rw [fullAt_iff_of_ok e s hanswer]
    exact Nat.not_le.2 hshort
  have hrun := pagesFrom_run e s (fun k hk => absurd hk (Nat.not_lt_zero k)) hlast
    (by decide : 0 < Client.lastPage)
  rw [Client.getPages, hrun, hanswer]
  rfl

theorem pagesFrom_run_full_behind {k left : Nat} (hfull : ∀ i < k + left, e.FullAt s i) :
    (e.client.pagesFrom e.operation e.path e.query e.decoder (e.rowsBefore s k) (pageAfter k)
      left).run (e.stateAfter s k) =
      (.error (.decode "the list does not end"), e.stateAfter s (k + left)) := by
  induction left generalizing k with
  | zero => rfl
  | succ left ih =>
    have hnext : k + (left + 1) = k + 1 + left := by omega
    rw [pagesFrom_run_of_full e s (hfull k (by omega))]
    rw [hnext] at hfull ⊢
    exact ih hfull

/-- As long as all pages are full there is no list. -/
theorem pagesFrom_run_full {left : Nat} (hfull : ∀ k < left, e.FullAt s k) (rows : List α) :
    ((e.client.pagesFrom e.operation e.path e.query e.decoder [] 1 left).run s).1 ≠ .ok rows := by
  have hrun : (e.client.pagesFrom e.operation e.path e.query e.decoder [] 1 left).run s =
      (.error (.decode "the list does not end"), e.stateAfter s (0 + left)) :=
    pagesFrom_run_full_behind e s (k := 0) (by simpa using hfull)
  rw [hrun]
  nofun

end Run

/-! ## A server that keeps a list -/

/-- A server's state, and the requests so far. -/
structure Visit (σ : Type) where
  state : σ
  requests : List Http.Request := []

/-- A server that is watched. -/
def watched (server : Http.Transport (StateM σ)) : Http.Transport (StateM (Visit σ)) where
  exchange request visit :=
    let (response?, state) := (server.exchange request).run visit.state
    (response?, ⟨state, visit.requests ++ [request]⟩)
  pause nanos visit := ((), { visit with state := ((server.pause nanos).run visit.state).2 })
  now visit :=
    let (now, state) := server.now.run visit.state
    (now, { visit with state })

/-- A page of a list: a hundred rows, or what is left of them. -/
def pageOf (rows : List α) (page : Nat) : List α := (rows.drop (100 * (page - 1))).take 100

/-- In every state, the server answers the request for a page with that page of the list. -/
def Serves (e : Endpoint m α) (server : Http.Transport (StateM σ)) (rows : List α) : Prop :=
  ∀ page, 1 ≤ page → page ≤ 0xFFFFFFFF → ∃ request, e.request? page = some request ∧
    ∀ s, ∃ response, ((server.exchange request).run s).1 = some response ∧
      response.isSuccess = true ∧ response.decode (Decoder.list e.decoder) = .ok (pageOf rows page)

theorem pageOf_flatMap (rows : List α) (n : Nat) :
    (List.range n).flatMap (fun k => pageOf rows (k + 1)) = rows.take (100 * n) := by
  induction n with
  | zero => simp
  | succ n ih =>
    rw [List.range_succ, List.flatMap_append, ih, Nat.mul_succ, List.take_add]
    simp [pageOf]

section Served

variable {e : Endpoint (StateM (Visit σ)) α} {server : Http.Transport (StateM σ)} {rows : List α}
  {visit : Visit σ}

/-- Asking for a page of the list takes one request. -/
theorem run_fetch_of_serves (htransport : e.client.transport = watched server)
    (hserves : e.Serves server rows) {page : Nat} (hone : 1 ≤ page) (hlast : page ≤ 0xFFFFFFFF)
    (visit : Visit σ) : ∃ request state, e.request? page = some request ∧
      (e.fetch page).run visit =
        (.ok (pageOf rows page), ⟨state, visit.requests ++ [request]⟩) := by
  obtain ⟨request, hrequest, hanswers⟩ := hserves page hone hlast
  obtain ⟨response, hresponse, hsuccess, hdecode⟩ := hanswers visit.state
  obtain ⟨⟨response?, state⟩, hexchange⟩ : ∃ answer,
    (server.exchange request).run visit.state = answer := ⟨_, rfl⟩
  rw [hexchange] at hresponse
  obtain rfl : response? = some response := hresponse
  refine ⟨request, state, hrequest, ?_⟩
  have hwatched : (e.client.transport.exchange request).run visit =
      (some response, ⟨state, visit.requests ++ [request]⟩) := by
    rw [htransport]
    show (let (response?, state) := (server.exchange request).run visit.state
      (response?, (⟨state, visit.requests ++ [request]⟩ : Visit σ))) = _
    rw [hexchange]
  rw [run_fetch_of_exchange e hrequest hwatched hsuccess, hdecode]

theorem pageAfter_of_lt {k : Nat} (h : k < 0xFFFFFFFF) : pageAfter k = k + 1 := by
  unfold pageAfter
  omega

theorem answer_of_serves (htransport : e.client.transport = watched server)
    (hserves : e.Serves server rows) {k : Nat} (hk : k < 0xFFFFFFFF) :
    e.answer visit k = .ok (pageOf rows (k + 1)) := by
  obtain ⟨_, _, -, hfetch⟩ := run_fetch_of_serves htransport hserves (Nat.le_add_left 1 k) hk
    (e.stateAfter visit k)
  rw [answer, pageAfter_of_lt hk, hfetch]

theorem requests_of_serves (htransport : e.client.transport = watched server)
    (hserves : e.Serves server rows) {n : Nat} (hn : n ≤ 0xFFFFFFFF) :
    (e.stateAfter visit n).requests.map some =
      visit.requests.map some ++ (List.range n).map fun k => e.request? (k + 1) := by
  induction n with
  | zero => simp [stateAfter]
  | succ n ih =>
    obtain ⟨request, state, hrequest, hfetch⟩ := run_fetch_of_serves htransport hserves
      (Nat.le_add_left 1 n) hn (e.stateAfter visit n)
    have hstate : e.stateAfter visit (n + 1) =
        ⟨state, (e.stateAfter visit n).requests ++ [request]⟩ := by
      rw [stateAfter, pageAfter_of_lt hn, hfetch]
    rw [hstate, List.map_append, ih (by omega), List.range_succ, List.map_append,
      List.append_assoc, List.map_singleton, List.map_singleton, hrequest]

theorem fullAt_of_serves_iff (htransport : e.client.transport = watched server)
    (hserves : e.Serves server rows) {k : Nat} (hk : k < 0xFFFFFFFF) :
    e.FullAt visit k ↔ 100 * (k + 1) ≤ rows.length := by
  have hlength : (pageOf rows (k + 1)).length = min 100 (rows.length - 100 * k) := by
    simp [pageOf]
  rw [fullAt_iff_of_ok e visit (answer_of_serves htransport hserves hk), hlength]
  omega

theorem rowsBefore_of_serves (htransport : e.client.transport = watched server)
    (hserves : e.Serves server rows) {n : Nat} (hn : n ≤ 0xFFFFFFFF) :
    e.rowsBefore visit n = rows.take (100 * n) := by
  rw [rowsBefore, ← pageOf_flatMap]
  refine List.flatMap_congr fun k hk => ?_
  have hlt : k < n := List.mem_range.1 hk
  rw [answer_of_serves htransport hserves (by omega)]
  rfl

/-- The list comes as a whole, with one request for each of its pages. -/
theorem getPages_of_serves (htransport : e.client.transport = watched server)
    (hserves : e.Serves server rows) (hlength : rows.length < 100 * 0xFFFFFFFF) :
    let run := (e.client.getPages e.operation e.path e.query e.decoder).run visit
    run.1 = .ok rows ∧ run.2.requests.map some = visit.requests.map some ++
      (List.range (rows.length / 100 + 1)).map fun k => e.request? (k + 1) := by
  have hpages : rows.length / 100 < 0xFFFFFFFF := by omega
  have hfull : ∀ k < rows.length / 100, e.FullAt visit k := by
    intro k hk
    rw [fullAt_of_serves_iff htransport hserves (by omega)]
    omega
  have hlast : ¬ e.FullAt visit (rows.length / 100) := by
    rw [fullAt_of_serves_iff htransport hserves hpages]
    omega
  intro run
  have hrun := pagesFrom_run e visit hfull hlast hpages
  have hall : rows.take (100 * (rows.length / 100)) ++ pageOf rows (rows.length / 100 + 1) =
      rows := by
    rw [← pageOf_flatMap, ← List.flatMap_singleton (fun k => pageOf rows (k + 1)),
      ← List.flatMap_append, ← List.range_succ, pageOf_flatMap]
    exact List.take_of_length_le (by omega)
  rw [answer_of_serves htransport hserves hpages,
    rowsBefore_of_serves htransport hserves (by omega), Except.map, hall] at hrun
  have hresult : run = (.ok rows, e.stateAfter visit (rows.length / 100 + 1)) := hrun
  rw [hresult]
  exact ⟨rfl, requests_of_serves htransport hserves hpages⟩

end Served

end Endpoint

open Endpoint

/-- A client gets the whole list from a server that serves it in pages, with one request for each
page, of which the last is not full. Whatever a server does, the first page that cannot be had is
the last that is asked for, and its failure is the result; what is returned as a list is all the
pages up to one that is not full. This holds however many pages may be asked for (`left`);
`getPages` asks for as many pages at most as pages can be numbered. -/
theorem getPages_complete {σ α : Type} :
    (∀ (server : Http.Transport (StateM σ)) (e : Endpoint (StateM (Visit σ)) α) (rows : List α)
      (s : σ), e.client.transport = watched server → e.Serves server rows →
      rows.length < 100 * 0xFFFFFFFF →
      let run := (e.client.getPages e.operation e.path e.query e.decoder).run ⟨s, []⟩
      run.1 = .ok rows ∧ run.2.requests.map some =
        (List.range (rows.length / 100 + 1)).map fun k => e.request? (k + 1)) ∧
    ∀ (e : Endpoint (StateM σ) α) (s : σ),
      e.client.getPages e.operation e.path e.query e.decoder =
        e.client.pagesFrom e.operation e.path e.query e.decoder [] 1 0xFFFFFFFF ∧
      ∀ left,
        let run := (e.client.pagesFrom e.operation e.path e.query e.decoder [] 1 left).run s
        (∀ n < left, (∀ k < n, e.FullAt s k) →
          (∀ failure, e.answer s n = .error failure →
            run = (.error failure, e.stateAfter s (n + 1))) ∧
          ∀ rows, e.answer s n = .ok rows → rows.length < 100 →
            run = (.ok (e.rowsBefore s n ++ rows), e.stateAfter s (n + 1))) ∧
        ((∀ n < left, e.FullAt s n) → ∀ rows, run.1 ≠ .ok rows) := by
  refine ⟨?_, fun e s => ⟨rfl, fun left => ?_⟩⟩
  · intro server e rows s htransport hserves hlength
    exact getPages_of_serves htransport hserves hlength
  · refine ⟨fun n hleft hfull => ⟨?_, ?_⟩, pagesFrom_run_full e s⟩
    · intro failure hfailure
      rw [pagesFrom_run e s hfull (not_fullAt_of_error e s hfailure) hleft, hfailure]
      rfl
    · intro rows hrows hshort
      have hlast : ¬ e.FullAt s n := by
        rw [fullAt_iff_of_ok e s hrows]
        exact Nat.not_le.2 hshort
      rw [pagesFrom_run e s hfull hlast hleft, hrows]
      rfl

/-- A list of numbers. -/
def numbers {m : Type → Type} (transport : Http.Transport m) : Endpoint m Nat :=
  ⟨⟨transport, "http://[::1]", [], 0⟩, "list numbers", "/numbers", [], Decoder.nat64⟩

/-- A full page of sevens. -/
def sevens : Http.Response := ⟨200, [], Json.print (.list (List.replicate 100 (.int 7)))⟩

/-- A server whose first page is full of sevens, with another answer to every other request. -/
def sevensThen (base : Url) (other : Http.Response) : Http.Transport (StateM Unit) where
  exchange request :=
    let isFirst := request.url =
      base.addQuery [("per_page", decimalText 100), ("page", decimalText 1)]
    pure (some (if isFirst then sevens else other))
  pause _ := pure ()
  now := pure (.clamp 0)

theorem request?_numbers {m : Type → Type} (transport : Http.Transport m) {base : Url}
    (hbase : Url.parse? "http://[::1]/numbers" = some base) (page : Nat) :
    (numbers transport).request? page = some ⟨.get, base.addQuery
      [("per_page", decimalText 100), ("page", decimalText page)], [], none⟩ := by
  have haddress : (numbers transport).client.apiUrl ++ (numbers transport).path =
      "http://[::1]/numbers" :=
    (by decide : "http://[::1]" ++ "/numbers" = "http://[::1]/numbers")
  rw [Endpoint.request?, Client.request?, haddress, hbase]
  rfl

theorem exchange_sevensThen (base : Url) (other : Http.Response) (page : Nat) (s : Unit) :
    ((sevensThen base other).exchange ⟨.get, base.addQuery
      [("per_page", decimalText 100), ("page", decimalText page)], [], none⟩).run s =
        (some (if page = 1 then sevens else other), s) := by
  refine congrArg (fun response => (some response, s)) (if_congr ⟨fun heq => ?_, ?_⟩ rfl rfl)
  · exact (Url.addQuery_page heq).2
  · rintro rfl
    rfl

theorem decode_sevens :
    sevens.decode (Decoder.list Decoder.nat64) = .ok (List.replicate 100 7) := by
  decide +kernel

theorem serves_sevensThen {base : Url} (hbase : Url.parse? "http://[::1]/numbers" = some base) :
    let server := sevensThen base ⟨200, [], "[]"⟩
    (numbers (watched server)).Serves server (List.replicate 100 7) := by
  intro server page hone _
  refine ⟨_, request?_numbers _ hbase page, fun s => ?_⟩
  refine ⟨_, congrArg Prod.fst (exchange_sevensThen base ⟨200, [], "[]"⟩ page s), ?_⟩
  rcases eq_or_ne page 1 with rfl | hnext
  · exact ⟨rfl, decode_sevens⟩
  · have hempty : pageOf (List.replicate 100 7) page = [] := by
      simp only [pageOf, List.take_eq_nil_iff, List.drop_eq_nil_iff, List.length_replicate]
      omega
    have hdecode : (⟨200, [], "[]"⟩ : Http.Response).decode (Decoder.list Decoder.nat64) =
        .ok [] := by
      decide +kernel
    rw [if_neg hnext, hempty]
    exact ⟨rfl, hdecode⟩

/-- A list of a hundred takes two requests, the second for an empty page. If the second page is no
list, there is no list. -/
theorem getPages_complete_sevens : ∃ base, Url.parse? "http://[::1]/numbers" = some base ∧
    (let server := sevensThen base ⟨200, [], "[]"⟩
      let e := numbers (watched server)
      let run := (e.client.getPages e.operation e.path e.query e.decoder).run ⟨(), []⟩
      e.Serves server (List.replicate 100 7) ∧ run.1 = .ok (List.replicate 100 7) ∧
        run.2.requests.map some = [e.request? 1, e.request? 2]) ∧
    (let e := numbers (sevensThen base ⟨200, [], "{}"⟩)
      let run := (e.client.getPages e.operation e.path e.query e.decoder).run ()
      e.FullAt () 0 ∧ run.1 = .error (.decode "the body has another shape")) := by
  have hparse : (Url.parse? "http://[::1]/numbers").isSome := by decide +kernel
  obtain ⟨base, hbase⟩ := Option.isSome_iff_exists.1 hparse
  refine ⟨base, hbase, ?_, ?_⟩
  · intro server e
    have hserves := serves_sevensThen hbase
    have hrun := getPages_complete.1 server e _ () rfl hserves (by decide)
    dsimp only at hrun ⊢
    exact ⟨hserves, hrun⟩
  · intro e run
    have hanswer (k : Nat) {response : Http.Response}
        (hresponse : (if pageAfter k = 1 then sevens else ⟨200, [], "{}"⟩) = response)
        (hsuccess : response.isSuccess = true) :
        e.answer () k = response.decode (Decoder.list Decoder.nat64) := by
      have hexchange := exchange_sevensThen base ⟨200, [], "{}"⟩ (pageAfter k) (e.stateAfter () k)
      rw [hresponse] at hexchange
      rw [answer, e.run_fetch_of_exchange (request?_numbers _ hbase _) hexchange hsuccess]
      rfl
    have hfull : e.FullAt () 0 :=
      ⟨_, (hanswer 0 (if_pos rfl) rfl).trans decode_sevens, by rw [List.length_replicate]⟩
    have hdecode : (⟨200, [], "{}"⟩ : Http.Response).decode (Decoder.list Decoder.nat64) =
        .error (.decode "the body has another shape") := by
      decide +kernel
    have hfailure := (hanswer 1 (if_neg (by decide)) rfl).trans hdecode
    obtain ⟨hpages, hruns⟩ := getPages_complete.2 e ()
    have hrun := ((hruns 0xFFFFFFFF).1 1 (by decide) fun k hk =>
      (Nat.lt_one_iff.1 hk) ▸ hfull).1 _ hfailure
    rw [← hpages] at hrun
    exact ⟨hfull, congrArg Prod.fst hrun⟩

end Upkeep.GitHub
