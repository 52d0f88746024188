import Upkeep.GitHub.Client
import Upkeep.Proofs.GitHub.RateLimit
/-!
# Requests that are sent again

A `Course` settles everything that a client meets on its way: what comes of each exchange, and what
the clock says each time it is read. Whatever the course, a request is sent again exactly when the
response reports a rate limit that is reset within the ceiling and fewer than three retries were
made (`send_follows_course`), so that a request that was answered in any other way, or got lost, is
never repeated.
-/

namespace Upkeep

/-! ## The message in a body -/

/-- The message in a value: the only entry of its name in a table, or the only item of a list. -/
def Value.message? : Value → Option String
  | .table entries =>
    match entries.filter (·.1 == "message") with
    | [(_, .text message)] => some message
    | _ => none
  | .list [.text message] => some message
  | _ => none

/-- The message in the body of a response. -/
def Http.Response.message? (response : Http.Response) : Option String :=
  (Json.read? response.body).bind Value.message?

namespace FieldShape

variable {α : Type} (name : String) (d : Decoder α)

/-- Once the only field of a lax record has been seen, no other entry of its name may follow. -/
theorem checkEntries_of_seen {seen : List String} (hseen : name ∈ seen)
    (entries : List (String × Value)) :
    checkEntries [.required name d] false seen entries = .ok () ↔
      entries.filter (·.1 == name) = [] := by
  induction entries with
  | nil => simp [checkEntries]
  | cons entry rest ih =>
    obtain ⟨key, v⟩ := entry
    by_cases hkey : key = name
    · subst hkey
      simp [checkEntries, FieldShape.required, hseen]
    · have hkey' : ¬ name = key := fun h => hkey h.symm
      simpa [checkEntries, FieldShape.required, hkey, hkey'] using ih

/-- The entries of a record with one field that pass are those with at most one entry of its name,
which holds a readable value. -/
theorem checkEntries_singleton {seen : List String} (hseen : name ∉ seen)
    (entries : List (String × Value)) :
    checkEntries [.required name d] false seen entries = .ok () ↔
      entries.filter (·.1 == name) = [] ∨
        ∃ v a, entries.filter (·.1 == name) = [(name, v)] ∧ d v = .ok a := by
  induction entries with
  | nil => simp [checkEntries]
  | cons entry rest ih =>
    obtain ⟨key, v⟩ := entry
    by_cases hkey : key = name
    · subst hkey
      cases hd : d v with
      | error e => simp [checkEntries, FieldShape.required, hseen, hd, Except.map]
      | ok a =>
        have hstep : checkEntries [.required key d] false seen ((key, v) :: rest) =
            checkEntries [.required key d] false (key :: seen) rest := by
          simp [checkEntries, FieldShape.required, hseen, hd, Except.map]
        rw [hstep, checkEntries_of_seen key d List.mem_cons_self]
        constructor
        · intro hnone
          exact .inr ⟨v, a, by simp [hnone], hd⟩
        · rintro (hnil | ⟨w, b, hone, -⟩)
          · simp at hnil
          · simp only [List.filter_cons, beq_self_eq_true, if_true, List.cons.injEq] at hone
            exact hone.2
    · have hkey' : ¬ name = key := fun h => hkey h.symm
      simpa [checkEntries, FieldShape.required, hkey, hkey'] using ih

end FieldShape

/-- Looking up a name is asking for the first entry of it. -/
theorem lookup_eq_head_filter (name : String) (entries : List (String × Value)) :
    entries.lookup name = (entries.filter (·.1 == name)).head?.map (·.2) := by
  induction entries with
  | nil => rfl
  | cons entry rest ih =>
    obtain ⟨key, v⟩ := entry
    by_cases hkey : key = name
    · simp [hkey]
    · have hkey' : ¬ name = key := fun h => hkey h.symm
      have hbeq : (name == key) = false := by simpa using hkey'
      simpa [List.lookup_cons, hkey, hbeq] using ih

/-- A value that reads as a text is one. -/
theorem Decoder.text_eq_ok {v : Value} {s : String} : Decoder.text v = .ok s ↔ v = .text s := by
  cases v <;> simp [Decoder.text]

/-- Reading the message of a value gives what stands under its name, and nothing but a text. -/
theorem Value.readMessage_eq (v : Value) :
    (do
      let fields ← v.record [.required "message" Decoder.text] false
      Fields.required fields "message" Decoder.text).toOption = v.message? := by
  cases v with
  | table entries =>
    have hchecked := FieldShape.checkEntries_singleton "message" Decoder.text
      List.not_mem_nil entries
    have hlookup := lookup_eq_head_filter "message" entries
    simp only [Value.message?, Value.record]
    split
    case h_1 key message hone =>
      have hkey : key = "message" := by
        have hmem : (key, Value.text message) ∈ entries.filter (·.1 == "message") := by simp [hone]
        simpa using (List.mem_filter.1 hmem).2
      subst hkey
      have hok := hchecked.2 (.inr ⟨_, message, hone, rfl⟩)
      rw [hone] at hlookup
      simp [hok, hlookup, bind, Except.bind, Except.map, Fields.required, Decoder.text,
        Except.toOption]
    case h_2 hother =>
      cases hcheck :
        FieldShape.checkEntries [.required "message" Decoder.text] false [] entries with
      | error e => rfl
      | ok _ =>
        rcases hchecked.1 hcheck with hnone | ⟨w, a, hone, hw⟩
        · rw [hnone] at hlookup
          simp [hlookup, bind, Except.bind, Except.map, Fields.required, Except.toOption]
        · rw [Decoder.text_eq_ok.1 hw] at hone
          exact absurd hone (hother _ _)
  | list items =>
    rcases items with _ | ⟨v, _ | ⟨w, rest⟩⟩
    · rfl
    · cases v <;> rfl
    · cases v <;> rfl
  | _ => rfl

namespace GitHub.Client

/-- A failure is reported with the message in the body, or else with the phrase of the status. -/
theorem errorMessage_eq (response : Http.Response) :
    errorMessage response = response.message?.getD (Http.reasonPhrase response.status) := by
  unfold errorMessage Http.Response.decode Http.Response.message?
  cases hread : Json.read? response.body with
  | none => rfl
  | some v =>
    rw [Option.bind_some, ← Value.readMessage_eq v]
    dsimp only
    generalize (do
      let fields ← v.record [.required "message" Decoder.text] false
      Fields.required fields "message" Decoder.text : Except DecodeError String) = read
    cases read <;> rfl

end GitHub.Client

namespace GitHub

/-! ## Courses -/

/-- Something that a client does and others can notice. -/
inductive Step
  | send (request : Http.Request)
  | sleep (nanos : Nat)

/-- What a client did so far, and how often it sent a request and read the clock. -/
structure Journal where
  steps : List Step := []
  sent : Nat := 0
  readings : Nat := 0

/-- What a client meets: what comes of each exchange, and what the clock says each time it is
read. -/
structure Course where
  outcome : Nat → Option Http.Response
  reading : Nat → Instant

namespace Course

variable (course : Course)

/-- A transport that takes the course and keeps a journal. -/
def transport : Http.Transport (StateM Journal) where
  exchange request journal :=
    (course.outcome journal.sent,
      { journal with steps := journal.steps ++ [.send request], sent := journal.sent + 1 })
  pause nanos journal := ((), { journal with steps := journal.steps ++ [.sleep nanos] })
  now journal :=
    (course.reading journal.readings, { journal with readings := journal.readings + 1 })

@[simp] theorem run_exchange (request : Http.Request) (journal : Journal) :
    (course.transport.exchange request).run journal =
      pure (course.outcome journal.sent,
        ⟨journal.steps ++ [.send request], journal.sent + 1, journal.readings⟩) := rfl

@[simp] theorem run_pause (nanos : Nat) (journal : Journal) :
    (course.transport.pause nanos).run journal =
      pure ((), ⟨journal.steps ++ [.sleep nanos], journal.sent, journal.readings⟩) := rfl

@[simp] theorem run_now (journal : Journal) :
    course.transport.now.run journal =
      pure (course.reading journal.readings,
        ⟨journal.steps, journal.sent, journal.readings + 1⟩) := rfl

/-- The reset of the rate limit that attempt `k` is told of, if it is told of one. Each such attempt
reads the clock twice: for the reset, and for the time that is left. -/
def reset? (k : Nat) : Option Instant :=
  (course.outcome k).bind fun response =>
    RateLimit.reset? response.status response.headers (course.reading (2 * k))

/-- The nanoseconds that are left after attempt `k` to the reset it is told of; zero if the reset is
past. -/
def left (k : Nat) : Nat :=
  match course.reset? k with
  | some reset => (reset.since (course.reading (2 * k + 1))).toNat
  | none => 0

theorem nanosUntil_eq_left {k : Nat} {reset : Instant} (h : course.reset? k = some reset) :
    (course.reading (2 * k + 1)).nanosUntil reset = course.left k := by
  simp [left, h, Instant.nanosUntil]

/-- Attempt `k` is told of a rate limit whose reset is no further away than `ceiling`. -/
def Waits (ceiling k : Nat) : Prop := (course.reset? k).isSome ∧ course.left k ≤ ceiling

/-- What attempt `k` means to the caller if it is the last. -/
def verdict (operation : String) (k : Nat) : Except ServiceError Http.Response :=
  match course.outcome k with
  | none => .error Http.noResponse
  | some response =>
    if 200 ≤ response.status ∧ response.status < 300 then .ok response
    else
      match course.reset? k with
      | some reset => .error (.rateLimited reset)
      | none =>
        .error (.api response.status
          (operation ++ ": " ++ response.message?.getD (Http.reasonPhrase response.status)))

/-- The steps of `n` attempts from `k` on of which each is followed by another: after each of them
the client sleeps for the time that is left, but at least for a second. -/
def retried (request : Http.Request) (k n : Nat) : List Step :=
  (List.range' k n).flatMap fun i =>
    [.send request, .sleep (max (course.left i) nanosPerSecond)]

theorem retried_succ (request : Http.Request) (k n : Nat) :
    course.retried request k (n + 1) =
      [.send request, .sleep (max (course.left k) nanosPerSecond)] ++
        course.retried request (k + 1) n := rfl

end Course

/-- A response that reports a rate limit is no success. -/
theorem isSuccess_of_reset {response : Http.Response} {now reset : Instant}
    (h : RateLimit.reset? response.status response.headers now = some reset) :
    response.isSuccess = false := by
  refine Bool.eq_false_iff.2 fun hsuccess => ?_
  rw [RateLimit.reset?_of_isSuccess hsuccess] at h
  cases h

/-! ## Attempts -/

/-- The journal of a client that has made `k` attempts and been told of a rate limit by each. -/
def Journal.after (steps : List Step) (k : Nat) : Journal := ⟨steps, k, 2 * k⟩

section Attempt

variable {course : Course} {client : Client (StateM Journal)}

/-- After an attempt that is told of a rate limit within the ceiling, the client sleeps and makes
the next attempt. -/
theorem attempt_again (htransport : client.transport = course.transport) (operation : String)
    (request : Http.Request) (retries : Nat) (steps : List Step) {k : Nat}
    (hwaits : course.Waits client.maxRateLimitWait k) :
    (client.attempt operation request (retries + 1)).run (.after steps k) =
      (client.attempt operation request retries).run (.after
        (steps ++ [.send request, .sleep (max (course.left k) nanosPerSecond)]) (k + 1)) := by
  obtain ⟨hsome, hceiling⟩ := hwaits
  obtain ⟨reset, hreset⟩ := Option.isSome_iff_exists.1 hsome
  obtain ⟨response, houtcome, hlimit⟩ := Option.bind_eq_some_iff.1 hreset
  have hleft := course.nanosUntil_eq_left hreset
  have hfailed := isSuccess_of_reset hlimit
  rw [Client.attempt, htransport]
  simp [Journal.after, houtcome, hfailed, hlimit, hleft, hceiling, RateLimit.minWait, Nat.mul_succ]

/-- An attempt that is not told of a rate limit within the ceiling, or that no retry is left for, is
the last. -/
theorem attempt_last (htransport : client.transport = course.transport) (operation : String)
    (request : Http.Request) (retries : Nat) (steps : List Step) {k : Nat}
    (hlast : retries = 0 ∨ ¬ course.Waits client.maxRateLimitWait k) :
    ∃ readings, (client.attempt operation request retries).run (.after steps k) =
      (course.verdict operation k, ⟨steps ++ [.send request], k + 1, readings⟩) := by
  rw [Client.attempt, htransport]
  cases houtcome : course.outcome k with
  | none =>
    refine ⟨2 * k, ?_⟩
    simp [Course.verdict, houtcome, Journal.after]
    rfl
  | some response =>
    have hlimit : RateLimit.reset? response.status response.headers (course.reading (2 * k)) =
        course.reset? k := by
      simp [Course.reset?, houtcome]
    cases hsuccess : response.isSuccess with
    | true =>
      have hrange := Http.Response.isSuccess_iff.1 hsuccess
      refine ⟨2 * k, ?_⟩
      simp [Course.verdict, houtcome, Journal.after, hsuccess, hrange]
      rfl
    | false =>
      have hrange := Http.Response.isSuccess_eq_false_iff.1 hsuccess
      cases hreset : course.reset? k with
      | none =>
        refine ⟨2 * k + 1, ?_⟩
        simp [Course.verdict, houtcome, Journal.after, hsuccess, hrange, hlimit, hreset,
          Client.apiError, Client.errorMessage_eq]
        rfl
      | some reset =>
        refine ⟨2 * k + 2, ?_⟩
        cases retries with
        | zero =>
          simp [Course.verdict, houtcome, Journal.after, hsuccess, hrange, hlimit, hreset]
          rfl
        | succ retries =>
          have hnot := hlast.resolve_left (Nat.succ_ne_zero retries)
          have hceiling : ¬ course.left k ≤ client.maxRateLimitWait := fun h =>
            hnot ⟨by simp [hreset], h⟩
          simp [Course.verdict, houtcome, Journal.after, hsuccess, hrange, hlimit, hreset,
            course.nanosUntil_eq_left hreset, hceiling]
          rfl

/-- With `retries` left, the attempts from `k` on go on as long as they are told of a rate limit
within the ceiling and retries are left; the last decides. -/
theorem attempt_follows_course (htransport : client.transport = course.transport)
    (operation : String) (request : Http.Request) (retries : Nat) (steps : List Step) (k : Nat) :
    ∃ n ≤ retries,
      (∀ i < n, course.Waits client.maxRateLimitWait (k + i)) ∧
      (n < retries → ¬ course.Waits client.maxRateLimitWait (k + n)) ∧
      ∃ sent readings, (client.attempt operation request retries).run (.after steps k) =
        (course.verdict operation (k + n),
          ⟨steps ++ course.retried request k n ++ [.send request], sent, readings⟩) := by
  induction retries generalizing steps k with
  | zero =>
    obtain ⟨readings, hrun⟩ := attempt_last htransport operation request 0 steps (k := k) (.inl rfl)
    exact ⟨0, Nat.le_refl 0, nofun, nofun, k + 1, readings, by simpa [Course.retried] using hrun⟩
  | succ retries ih =>
    by_cases hwaits : course.Waits client.maxRateLimitWait k
    · obtain ⟨n, hn, hbefore, hafter, sent, readings, hrun⟩ := ih
        (steps ++ [.send request, .sleep (max (course.left k) nanosPerSecond)]) (k + 1)
      refine ⟨n + 1, by omega, ?_, ?_, sent, readings, ?_⟩
      · intro i hi
        cases i with
        | zero => exact hwaits
        | succ i => simpa [Nat.add_comm, Nat.add_left_comm] using hbefore i (by omega)
      · intro hlt
        simpa [Nat.add_comm, Nat.add_left_comm] using hafter (by omega)
      · rw [attempt_again htransport operation request retries steps hwaits, hrun,
          course.retried_succ]
        simp [Nat.add_comm, Nat.add_left_comm]
    · obtain ⟨readings, hrun⟩ := attempt_last htransport operation request (retries + 1)
        steps (.inr hwaits)
      exact ⟨0, by omega, nofun, fun _ => hwaits, k + 1, readings,
        by simpa [Course.retried] using hrun⟩

end Attempt

/-- A request follows its course: it is sent again exactly after an attempt that is told of a rate
limit whose reset is within the ceiling, and at most three times. Before it is sent again, the
client sleeps for the time that is left to that reset, but at least for a second; the outcome of the
last attempt decides. A path that makes no address sends nothing. -/
theorem send_follows_course (course : Course) (apiUrl : String) (headers : List (String × String))
    (ceiling : Nat) (operation : String) (method : Http.Method) (path : String)
    (query : List (String × String)) (body : Option Value) :
    let client : Client (StateM Journal) := ⟨course.transport, apiUrl, headers, ceiling⟩
    let run := (client.send operation method path query body).run {}
    match client.request? method path query body with
    | none => run.1 = .error Http.noResponse ∧ run.2.steps = []
    | some request =>
      ∃ n ≤ 3,
        (∀ k < n, course.Waits ceiling k) ∧ (n < 3 → ¬ course.Waits ceiling n) ∧
        run.1 = course.verdict operation n ∧
        run.2.steps = (List.range n).flatMap (fun k =>
          [.send request, .sleep (max (course.left k) nanosPerSecond)]) ++ [.send request] := by
  intro client run
  cases hrequest : client.request? method path query body with
  | none =>
    have hsend : run = (.error Http.noResponse, {}) := by
      simp only [run, Client.send, hrequest]
      rfl
    simp [hsend]
  | some request =>
    have htransport : client.transport = course.transport := rfl
    obtain ⟨n, hn, hbefore, hafter, sent, readings, hrun⟩ :=
      attempt_follows_course htransport operation request RateLimit.maxRetries [] 0
    simp only [Nat.zero_add, List.nil_append] at hbefore hafter hrun
    have hsend : run = (course.verdict operation n,
        ⟨course.retried request 0 n ++ [.send request], sent, readings⟩) := by
      simp only [run, Client.send, hrequest]
      exact hrun
    refine ⟨n, hn, hbefore, hafter, ?_, ?_⟩
    · rw [hsend]
    · rw [hsend, List.range_eq_range']
      rfl

end GitHub

end Upkeep
