import Upkeep.Proofs.GitHub.Retry
import Upkeep.Proofs.Policy.Fields
import Upkeep.Services
import Mathlib.Data.List.Basic
/-!
# The ceiling of the waits

Before a request is sent again, the client sleeps for a second at least. A reset beyond the ceiling
is not waited for. But what is held against the ceiling is the time that is left to the reset, and
only then it is raised to a second. A sleep therefore exceeds the ceiling exactly if the ceiling is
below a second and no less than the time that is left (`sleeps_beyond_ceiling_iff`), as with the
ceiling `0` that a configuration may ask for (`zero_ceiling_exceeded`).
-/

namespace Upkeep.GitHub

section Send

variable {course : Course} {client : Client (StateM Journal)} {request : Http.Request}
  {method : Http.Method} {path : String} {query : List (String × String)} {body : Option Value}

/-- A request is sent `n` times in vain, with a sleep after each of them, and once more. -/
theorem send_run (htransport : client.transport = course.transport) (operation : String)
    (hrequest : client.request? method path query body = some request) :
    ∃ n, (∀ k < n, course.Waits client.maxRateLimitWait k) ∧
      (n < 3 → ¬ course.Waits client.maxRateLimitWait n) ∧
      ∃ sent readings, (client.send operation method path query body).run {} =
        (course.verdict operation n,
          ⟨course.retried request 0 n ++ [.send request], sent, readings⟩) := by
  obtain ⟨n, -, hbefore, hafter, sent, readings, hrun⟩ :=
    attempt_follows_course htransport operation request RateLimit.maxRetries [] 0
  simp only [Nat.zero_add, List.nil_append] at hbefore hafter hrun
  refine ⟨n, hbefore, hafter, sent, readings, ?_⟩
  rw [Client.send, hrequest]
  exact hrun

theorem sleep_mem_retried_iff {n nanos : Nat} :
    Step.sleep nanos ∈ course.retried request 0 n ++ [.send request] ↔
      ∃ k < n, nanos = max (course.left k) nanosPerSecond := by
  simp [Course.retried, List.mem_range']

/-- The client sleeps once for each attempt that was in vain, and not at all if there is no address
to send the request to. -/
theorem sleep_mem_steps (htransport : client.transport = course.transport) (operation : String) :
    ∃ n, (∀ k < n, course.Waits client.maxRateLimitWait k) ∧
      ((client.request? method path query body).isSome → n = 0 →
        ¬ course.Waits client.maxRateLimitWait 0) ∧
      (0 < n → (client.request? method path query body).isSome) ∧
      ∀ nanos, Step.sleep nanos ∈ ((client.send operation method path query body).run {}).2.steps ↔
        ∃ k < n, nanos = max (course.left k) nanosPerSecond := by
  cases hrequest : client.request? method path query body with
  | none =>
    have hrun : (client.send operation method path query body).run {} =
        (.error Http.noResponse, {}) := by
      rw [Client.send, hrequest]
      rfl
    refine ⟨0, by simp, by simp, by simp, fun nanos => ?_⟩
    simp [hrun]
  | some request =>
    obtain ⟨n, hbefore, hafter, sent, readings, hrun⟩ := send_run htransport operation hrequest
    refine ⟨n, hbefore, ?_, fun _ => rfl, fun nanos => ?_⟩
    · rintro - rfl
      exact hafter (by decide)
    · rw [hrun, sleep_mem_retried_iff]

/-- A sleep lasts a second at least, and no longer than the ceiling or a second. -/
theorem sleep_bounds (htransport : client.transport = course.transport) (operation : String)
    {nanos : Nat}
    (h : Step.sleep nanos ∈ ((client.send operation method path query body).run {}).2.steps) :
    nanosPerSecond ≤ nanos ∧ nanos ≤ max client.maxRateLimitWait nanosPerSecond := by
  obtain ⟨n, hbefore, -, -, hsleep⟩ := sleep_mem_steps htransport operation
  obtain ⟨k, hk, rfl⟩ := (hsleep nanos).1 h
  have hceiling := (hbefore k hk).2
  omega

/-- There is a sleep beyond the ceiling if the ceiling is below a second and the first attempt is
told of a reset within it. -/
theorem exists_long_sleep_iff (htransport : client.transport = course.transport)
    (operation : String) :
    (∃ nanos, Step.sleep nanos ∈ ((client.send operation method path query body).run {}).2.steps ∧
        client.maxRateLimitWait < nanos) ↔
      client.maxRateLimitWait < nanosPerSecond ∧ (client.request? method path query body).isSome ∧
        course.Waits client.maxRateLimitWait 0 := by
  obtain ⟨n, hbefore, hfirst, haddress, hsleep⟩ := sleep_mem_steps htransport operation
  constructor
  · rintro ⟨nanos, hmem, hlong⟩
    have hbound := (sleep_bounds htransport operation hmem).2
    obtain ⟨k, hk, -⟩ := (hsleep nanos).1 hmem
    have hpos : 0 < n := by omega
    exact ⟨by omega, haddress hpos, hbefore 0 hpos⟩
  · rintro ⟨hlow, hsome, hwaits⟩
    have hpos : 0 < n := Nat.pos_of_ne_zero fun hzero => hfirst hsome hzero hwaits
    exact ⟨_, (hsleep _).2 ⟨0, hpos, rfl⟩, by omega⟩

/-- A request whose first attempt is told of a reset beyond the ceiling is given up. -/
theorem send_of_beyond (htransport : client.transport = course.transport) (operation : String)
    (hrequest : client.request? method path query body = some request) {reset : Instant}
    (hreset : course.reset? 0 = some reset) (hbeyond : client.maxRateLimitWait < course.left 0) :
    ((client.send operation method path query body).run {}).1 = .error (.rateLimited reset) ∧
      ((client.send operation method path query body).run {}).2.steps = [.send request] := by
  obtain ⟨n, hbefore, -, sent, readings, hrun⟩ := send_run htransport operation hrequest
  obtain rfl : n = 0 := by
    rcases Nat.eq_zero_or_pos n with hzero | hpos
    · exact hzero
    · have hceiling := (hbefore 0 hpos).2
      omega
  obtain ⟨response, houtcome, hlimit⟩ := Option.bind_eq_some_iff.1 hreset
  have hfailed := Http.Response.isSuccess_eq_false_iff.1 (isSuccess_of_reset hlimit)
  rw [hrun]
  exact ⟨by simp [Course.verdict, houtcome, hfailed, hreset], rfl⟩

end Send

/-- Every sleep lasts a second at least. One exceeds the ceiling exactly if the ceiling is below a
second and the first attempt is told of a reset no further away than the ceiling; it lasts a second
then. A first attempt that is told of a reset further away is the last, and the client does not
sleep. -/
theorem sleeps_beyond_ceiling_iff (course : Course) (apiUrl : String)
    (headers : List (String × String)) (ceiling : Nat) (operation : String) (method : Http.Method)
    (path : String) (query : List (String × String)) (body : Option Value) :
    let client : Client (StateM Journal) := ⟨course.transport, apiUrl, headers, ceiling⟩
    let run := (client.send operation method path query body).run {}
    (∀ nanos, Step.sleep nanos ∈ run.2.steps →
      nanosPerSecond ≤ nanos ∧ nanos ≤ max ceiling nanosPerSecond) ∧
    ((∃ nanos, Step.sleep nanos ∈ run.2.steps ∧ ceiling < nanos) ↔
      ceiling < nanosPerSecond ∧ (client.request? method path query body).isSome ∧
        course.Waits ceiling 0) ∧
    ∀ request reset, client.request? method path query body = some request →
      course.reset? 0 = some reset → ceiling < course.left 0 →
        run.1 = .error (.rateLimited reset) ∧ run.2.steps = [.send request] := by
  intro client run
  have htransport : client.transport = course.transport := rfl
  refine ⟨fun nanos hsleep => sleep_bounds htransport operation hsleep,
    exists_long_sleep_iff htransport operation, ?_⟩
  intro request reset hrequest hreset hbeyond
  exact send_of_beyond htransport operation hrequest hreset hbeyond

/-- A configuration with the ceiling `0`. -/
def impatientText : String :=
  "\n".intercalate ["repos = []", "[github]", "max_rate_limit_wait = '0'"]

/-- A server that turns the first request away with a reset at once, and does not answer again. -/
def hastyCourse : Course where
  outcome k := if k = 0 then some ⟨429, [("retry-after", "0")], ""⟩ else none
  reading _ := .clamp 0

/-- Under the ceiling `0` the client sleeps for a second. -/
theorem zero_ceiling_exceeded : ∃ config, Config.parse impatientText = .ok config ∧
    let ceiling := (Services.gitHubConfig config "t").maxRateLimitWait
    let client : Client (StateM Journal) := ⟨hastyCourse.transport, "http://[::1]", [], ceiling⟩
    let run := (client.send "get issue" .get "/repos/istio/istio/issues/7" [] none).run {}
    ∃ nanos, Step.sleep nanos ∈ run.2.steps ∧ ¬ nanos ≤ ceiling := by
  have hparse : (Config.parse impatientText).map
      (fun config => (Services.gitHubConfig config "t").maxRateLimitWait) = .ok 0 := by
    decide +kernel
  obtain ⟨config, hconfig, hceiling⟩ := exists_of_map_eq_ok hparse
  refine ⟨config, hconfig, ?_⟩
  have hurl : (Url.parse? ("http://[::1]" ++ "/repos/istio/istio/issues/7")).isSome := by
    decide +kernel
  have hwaits : hastyCourse.Waits 0 0 := by
    constructor <;> decide +kernel
  generalize (Services.gitHubConfig config "t").maxRateLimitWait = ceiling at hceiling
  subst hceiling
  intro ceiling client run
  have htransport : client.transport = hastyCourse.transport := rfl
  have haddress : (client.request? .get "/repos/istio/istio/issues/7" [] none).isSome := by
    rwa [Client.request?, Option.isSome_map]
  have hlow : client.maxRateLimitWait < nanosPerSecond := by decide
  obtain ⟨nanos, hsleep, hlong⟩ :=
    (exists_long_sleep_iff htransport "get issue").2 ⟨hlow, haddress, hwaits⟩
  exact ⟨nanos, hsleep, Nat.not_le.2 hlong⟩

end Upkeep.GitHub
