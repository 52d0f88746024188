import Upkeep.GitHub.RateLimit
import Upkeep.Proofs.Text.Blank
import Upkeep.Proofs.Text.Numeral
import Upkeep.Proofs.Time.Agreement
/-!
# Rate limits

A response with status 403 or 429 reports a rate limit by its headers (`limits_classified`).
`retry-after` comes first. Without it, a limit of which nothing remains is reset at the second that
is named, and any other 429 asks for a minute. A limit of which nothing remains and for which no
second is named is taken to be reset at once, so that a 429 can miss its minute
(`spent_limit_due_at_once`).
-/

namespace Upkeep

namespace Http

theorem Response.isSuccess_iff {response : Response} :
    response.isSuccess = true ↔ 200 ≤ response.status ∧ response.status < 300 := by
  simp [Response.isSuccess]

theorem Response.isSuccess_eq_false_iff {response : Response} :
    response.isSuccess = false ↔ ¬ (200 ≤ response.status ∧ response.status < 300) := by
  rw [← isSuccess_iff, Bool.not_eq_true]

/-! ## Numbers in headers -/

variable {headers : List (String × String)} {name : String} {n : Nat}

/-- The first header of a name holds a number of 64 bits with blanks around it. All its characters
are tabs or visible ones of ASCII, spaces included. -/
def HoldsNumber (headers : List (String × String)) (name : String) (n : Nat) : Prop :=
  ∃ value numeral, headers.lookup name = some value ∧
    (∀ c ∈ value.toList, c = '\t' ∨ 0x20 ≤ c.toNat ∧ c.toNat < 0x7F) ∧
    Trims value.toList numeral ∧ DenotesWord numeral n

theorem headerNumber?_eq_some_iff :
    headerNumber? headers name = some n ↔ HoldsNumber headers name n := by
  unfold headerNumber?
  split
  · next hlookup =>
    refine ⟨nofun, fun ⟨value, _, hvalue, _⟩ => ?_⟩
    rw [hlookup] at hvalue
    cases hvalue
  · next value hlookup =>
    have hvisible : (value.toList.all fun c => c.toNat < 0x7F && (0x20 ≤ c.toNat || c == '\t')) ↔
        ∀ c ∈ value.toList, c = '\t' ∨ 0x20 ≤ c.toNat ∧ c.toNat < 0x7F := by
      rw [List.all_eq_true]
      refine forall₂_congr fun c _ => ?_
      have htab : c = '\t' → c.toNat < 0x7F := fun h => h ▸ by decide
      simp only [Bool.and_eq_true, Bool.or_eq_true, decide_eq_true_eq, beq_iff_eq]
      tauto
    rw [Option.ite_none_right_eq_some, hvisible, readNat64?_eq_some_iff]
    constructor
    · rintro ⟨hall, hdenotes⟩
      exact ⟨value, _, hlookup, hall, trims_trimChars _, hdenotes⟩
    · rintro ⟨_, numeral, hvalue, hall, htrims, hdenotes⟩
      obtain rfl := Option.some.inj (hlookup.symm.trans hvalue)
      exact ⟨hall, htrims.trimChars_eq ▸ hdenotes⟩

theorem headerNumber?_eq_none_iff :
    headerNumber? headers name = none ↔ ∀ n, ¬ HoldsNumber headers name n := by
  simp only [Option.eq_none_iff_forall_ne_some, ne_eq, headerNumber?_eq_some_iff]

instance : Decidable (HoldsNumber headers name n) :=
  decidable_of_iff _ headerNumber?_eq_some_iff

example : HoldsNumber [("date", "today"), ("retry-after", " +60\t")] "retry-after" 60 := by
  decide +kernel

end Http

namespace Instant

theorem ofSeconds?_eq_some_iff {n : Int} {t : Instant} :
    ofSeconds? n = some t ↔ t.nanos = n * nanosPerSecond ∧ t.leap = false := by
  unfold ofSeconds? ofNanos? of?
  split
  · rw [Option.some.injEq, Instant.ext_iff, eq_comm, @eq_comm _ _ t.leap]
  · next hrange =>
    constructor
    · intro hnone
      cases hnone
    · rintro ⟨hnanos, -⟩
      have hleap : false = true → t.nanos / 1000000000 % 60 = 59 := fun h =>
        absurd h Bool.false_ne_true
      rw [← hnanos] at hrange
      exact absurd ⟨⟨t.earliest_le, t.le_latest⟩, hleap⟩ hrange

end Instant

namespace RateLimit

open Http (HoldsNumber)
open Instant (latestNanos)

variable {status : Nat} {headers : List (String × String)} {now : Instant}

/-! ## What a response reports -/

theorem canReport_iff : canReport status = true ↔ status = 403 ∨ status = 429 := by
  simp [canReport]

theorem reset?_of_not_canReport (h : canReport status = false) :
    reset? status headers now = none := by
  rw [reset?, h]
  rfl

/-- A success reports no rate limit. -/
theorem reset?_of_isSuccess {response : Http.Response} (h : response.isSuccess = true) :
    reset? response.status headers now = none := by
  refine reset?_of_not_canReport (Bool.eq_false_iff.2 fun hreport => ?_)
  rw [Http.Response.isSuccess_iff] at h
  rw [canReport_iff] at hreport
  omega

theorem reset?_of_retryAfter {n : Nat} (hreport : status = 403 ∨ status = 429)
    (hretry : HoldsNumber headers "retry-after" n) :
    reset? status headers now = some (now.plus ⟨min n maxDelaySeconds⟩) := by
  rw [reset?, canReport_iff.2 hreport, Http.headerNumber?_eq_some_iff.2 hretry]
  rfl

section WithoutRetryAfter

variable (hreport : status = 403 ∨ status = 429)
  (hretry : ∀ n, ¬ HoldsNumber headers "retry-after" n)

include hreport hretry

theorem reset?_of_spent (hspent : HoldsNumber headers "x-ratelimit-remaining" 0) :
    reset? status headers now = some ((namedReset? headers).getD now) := by
  rw [reset?, canReport_iff.2 hreport, Http.headerNumber?_eq_none_iff.2 hretry]
  exact if_pos (Http.headerNumber?_eq_some_iff.2 hspent)

theorem reset?_of_not_spent (hspent : ¬ HoldsNumber headers "x-ratelimit-remaining" 0) :
    reset? status headers now = if status = 429 then some (now.plus ⟨60⟩) else none := by
  rw [reset?, canReport_iff.2 hreport, Http.headerNumber?_eq_none_iff.2 hretry]
  exact if_neg fun h => hspent (Http.headerNumber?_eq_some_iff.1 h)

end WithoutRetryAfter

/-! ## The named second -/

/-- The instant of the reset is outside leap seconds, and its second is the one in the header. -/
theorem namedReset?_eq_some_iff {t : Instant} : namedReset? headers = some t ↔
    ∃ epoch : Nat, HoldsNumber headers "x-ratelimit-reset" epoch ∧
      t.nanos = epoch * nanosPerSecond ∧ t.leap = false := by
  simp only [namedReset?, Option.bind_eq_bind, Option.bind_eq_some_iff,
    Http.headerNumber?_eq_some_iff, Option.ite_none_right_eq_some, Instant.ofSeconds?_eq_some_iff]
  refine exists_congr fun epoch => and_congr_right fun _ => and_iff_right_of_imp fun hnamed => ?_
  -- What fits the range of time fits 63 bits.
  have hlatest := t.le_latest
  rw [hnamed.1] at hlatest
  unfold latestNanos nanosPerSecond at hlatest
  omega

/-- A second in range is the reset as it is named. -/
theorem exists_namedReset? {epoch : Nat} (hnamed : HoldsNumber headers "x-ratelimit-reset" epoch)
    (hrange : (epoch * nanosPerSecond : Int) ≤ latestNanos) : ∃ t, namedReset? headers = some t ∧
      t.nanos = epoch * nanosPerSecond ∧ t.leap = false := by
  have hnanos : (Instant.clamp (epoch * nanosPerSecond)).nanos = epoch * nanosPerSecond := by
    have hearliest : Instant.earliestNanos ≤ 0 := by decide
    have hepoch : (0 : Int) ≤ epoch * nanosPerSecond := Int.natCast_nonneg (epoch * nanosPerSecond)
    rw [Instant.clamp_nanos]
    omega
  have hleap := Instant.clamp_leap (epoch * nanosPerSecond)
  exact ⟨_, namedReset?_eq_some_iff.2 ⟨epoch, hnamed, hnanos, hleap⟩, hnanos, hleap⟩

/-- No time is named: there is no number of seconds to wait, and no second of the reset that is in
range. -/
def Untimed (headers : List (String × String)) : Prop :=
  (∀ n, ¬ HoldsNumber headers "retry-after" n) ∧
    ∀ epoch : Nat, HoldsNumber headers "x-ratelimit-reset" epoch →
      latestNanos < epoch * nanosPerSecond

theorem Untimed.namedReset?_eq_none (h : Untimed headers) : namedReset? headers = none := by
  refine Option.eq_none_iff_forall_ne_some.2 fun t ht => ?_
  obtain ⟨epoch, hnamed, hnanos, -⟩ := namedReset?_eq_some_iff.1 ht
  have hbeyond := h.2 epoch hnamed
  have hlatest := t.le_latest
  omega

/-! ## Delays -/

/-- A header may ask for more seconds than a delay counts. -/
theorem plus_min_maxDelaySeconds (now : Instant) (n : Nat) :
    now.plus ⟨min n maxDelaySeconds⟩ = now.plus ⟨min n Delay.maxSeconds⟩ := by
  have hclamped : Delay.clampedSeconds ⟨min n maxDelaySeconds⟩ =
      Delay.clampedSeconds ⟨min n Delay.maxSeconds⟩ := by
    unfold Delay.clampedSeconds maxDelaySeconds Delay.maxSeconds
    dsimp only
    omega
  unfold Instant.plus Instant.shift
  rw [hclamped]

theorem nanos_plus_min (now : Instant) (n : Nat) :
    (now.plus ⟨min n Delay.maxSeconds⟩).nanos =
      min (now.nanos + (min n Delay.maxSeconds * nanosPerSecond : Nat)) latestNanos := by
  rw [Instant.nanos_plus, Instant.shift_eq (Nat.min_le_right _ _)]

/-! ## Classification -/

/-- The two statuses report a rate limit if a header says so, and 429 always does. -/
theorem reset?_isSome_iff (hreport : status = 403 ∨ status = 429) :
    (reset? status headers now).isSome = true ↔
      (∃ n, HoldsNumber headers "retry-after" n) ∨
        HoldsNumber headers "x-ratelimit-remaining" 0 ∨ status = 429 := by
  by_cases hretry : ∃ n, HoldsNumber headers "retry-after" n
  · obtain ⟨n, hn⟩ := hretry
    rw [reset?_of_retryAfter hreport hn]
    exact iff_of_true rfl (.inl ⟨n, hn⟩)
  have hnone := not_exists.1 hretry
  by_cases hspent : HoldsNumber headers "x-ratelimit-remaining" 0
  · rw [reset?_of_spent hreport hnone hspent]
    exact iff_of_true rfl (.inr (.inl hspent))
  rw [reset?_of_not_spent hreport hnone hspent, or_iff_right hretry, or_iff_right hspent]
  split
  · next hmany => exact iff_of_true rfl hmany
  · next hmany => exact iff_of_false nofun hmany

theorem Untimed.reset?_of_spent (h : Untimed headers) (hreport : status = 403 ∨ status = 429)
    (hspent : HoldsNumber headers "x-ratelimit-remaining" 0) :
    reset? status headers now = some now := by
  rw [RateLimit.reset?_of_spent hreport h.1 hspent, h.namedReset?_eq_none, Option.getD_none]

theorem reset?_of_many (hretry : ∀ n, ¬ HoldsNumber headers "retry-after" n)
    (hspent : ¬ HoldsNumber headers "x-ratelimit-remaining" 0) :
    reset? 429 headers now = some (now.plus ⟨60⟩) := by
  rw [reset?_of_not_spent (.inr rfl) hretry hspent, if_pos rfl]

/-- Where no time is named, a 429 asks for a minute unless nothing remains. -/
theorem Untimed.minute_iff (h : Untimed headers) (now : Instant) :
    ∃ reset, reset? 429 headers now = some reset ∧ (now.plus ⟨60⟩ ≤ reset ↔
      ¬ HoldsNumber headers "x-ratelimit-remaining" 0 ∨ Instant.latest ≤ now) := by
  by_cases hspent : HoldsNumber headers "x-ratelimit-remaining" 0
  · refine ⟨now, h.reset?_of_spent (.inr rfl) hspent, ?_⟩
    rw [Instant.plus_le_self_iff (by decide), or_iff_right (not_not_intro hspent)]
  · exact ⟨now.plus ⟨60⟩, reset?_of_many h.1 hspent,
      iff_of_true (Instant.le_refl _) (.inl hspent)⟩

/-- What is made of a response. Sums of time stop at the last instant. -/
structure Classified (status : Nat) (headers : List (String × String)) (now : Instant) : Prop where
  other : status ≠ 403 → status ≠ 429 → reset? status headers now = none
  isSome_iff : status = 403 ∨ status = 429 → ((reset? status headers now).isSome = true ↔
    (∃ n, HoldsNumber headers "retry-after" n) ∨
      HoldsNumber headers "x-ratelimit-remaining" 0 ∨ status = 429)
  /-- The seconds to wait come before all else. -/
  delayed : status = 403 ∨ status = 429 → ∀ n, HoldsNumber headers "retry-after" n →
    reset? status headers now = some (now.plus ⟨min n 3153600000⟩) ∧
      (now.plus ⟨min n 3153600000⟩).nanos =
        min (now.nanos + (min n 3153600000 * nanosPerSecond : Nat)) latestNanos
  named : status = 403 ∨ status = 429 → (∀ n, ¬ HoldsNumber headers "retry-after" n) →
    HoldsNumber headers "x-ratelimit-remaining" 0 →
    ∀ epoch : Nat, HoldsNumber headers "x-ratelimit-reset" epoch →
      (epoch * nanosPerSecond : Int) ≤ latestNanos →
      ∃ reset, reset? status headers now = some reset ∧ reset.nanos = epoch * nanosPerSecond ∧
        reset.leap = false
  many : status = 429 → (∀ n, ¬ HoldsNumber headers "retry-after" n) →
    ¬ HoldsNumber headers "x-ratelimit-remaining" 0 →
    reset? status headers now = some (now.plus ⟨60⟩) ∧
      (now.plus ⟨60⟩).nanos = min (now.nanos + (60 * nanosPerSecond : Nat)) latestNanos
  /-- A limit of which nothing remains is taken to be reset at once if no time is named. -/
  spent : status = 403 ∨ status = 429 → Untimed headers →
    HoldsNumber headers "x-ratelimit-remaining" 0 → reset? status headers now = some now
  minute_iff : status = 429 → Untimed headers → ∃ reset, reset? status headers now = some reset ∧
    (now.plus ⟨60⟩ ≤ reset ↔
      ¬ HoldsNumber headers "x-ratelimit-remaining" 0 ∨ Instant.latest ≤ now)

/-- Every response is classified. A reset is reported exactly for the two statuses where a header
or the status says so, and it is the one that the headers name. Where they name none, the reset of
a 429 lies a minute ahead, but for the limit of which nothing remains: it is reset at once. -/
theorem limits_classified (status : Nat) (headers : List (String × String)) (now : Instant) :
    Classified status headers now where
  other hforbidden hmany := by
    refine reset?_of_not_canReport (Bool.eq_false_iff.2 fun hreport => ?_)
    exact (canReport_iff.1 hreport).elim hforbidden hmany
  isSome_iff := reset?_isSome_iff
  delayed hreport n hretry := by
    refine ⟨?_, nanos_plus_min now n⟩
    rw [reset?_of_retryAfter hreport hretry, plus_min_maxDelaySeconds]
    rfl
  named hreport hretry hspent epoch hnamed hrange := by
    obtain ⟨reset, hreset, hnanos, hleap⟩ := exists_namedReset? hnamed hrange
    refine ⟨reset, ?_, hnanos, hleap⟩
    rw [reset?_of_spent hreport hretry hspent, hreset, Option.getD_some]
  many hmany hretry hspent := by
    subst hmany
    exact ⟨reset?_of_many hretry hspent, Instant.nanos_plus now ⟨60⟩⟩
  spent hreport huntimed hspent := huntimed.reset?_of_spent hreport hspent
  minute_iff hmany huntimed := by
    subst hmany
    exact huntimed.minute_iff now

/-- A 429 that says that nothing remains and names no time is reset at once, and not after a
minute. -/
theorem spent_limit_due_at_once :
    let headers := [("x-ratelimit-remaining", "0")]
    let now : Instant := .clamp 1590969600000000000
    Untimed headers ∧ ∃ reset, reset? 429 headers now = some reset ∧
      reset.since now < 60 * nanosPerSecond ∧ ¬ now.plus ⟨60⟩ ≤ reset := by
  intro headers now
  have hretry : Http.headerNumber? headers "retry-after" = none := by decide
  have hnamed : Http.headerNumber? headers "x-ratelimit-reset" = none := by decide
  refine ⟨⟨Http.headerNumber?_eq_none_iff.1 hretry, fun epoch hepoch => ?_⟩, now, ?_⟩
  · exact absurd hepoch (Http.headerNumber?_eq_none_iff.1 hnamed epoch)
  · decide

end RateLimit

end Upkeep
