import Upkeep.Concurrency
import Upkeep.Proofs.Fiber.Interleaving
import Upkeep.Sweep.Lookup
/-!
# When fibers come to their ends

A fiber arrives at a time with a result if it does so whatever it finds in the state and does to it
(`Arrives`). What a bound and two fibers side by side make of that is what the lookups that take
time say (`Arrives.within`, `Arrives.both`).
-/

namespace Upkeep.Fiber

variable {σ α β ε : Type} {ahead : Nat → Nat → Prop} {n m d : Nat} {a : α} {b : β} {f : Fiber σ α}

/-- Set off at a time, the fiber comes to its end at another with a result. What it waits for lies
ahead of the time at which it begins to wait. -/
inductive Arrives (ahead : Nat → Nat → Prop) : Nat → Fiber σ α → Nat → α → Prop
  | done {n : Nat} {a : α} : Arrives ahead n (done a) n a
  | act {n d : Nat} {a : α} {change : Timeline σ → Timeline σ} {next : Timeline σ → Fiber σ α}
    (stays : ∀ t, t.clock = n → (change t).clock = n)
    (goesOn : ∀ t, t.clock = n → Arrives ahead n (next t) d a) : Arrives ahead n (act change next) d a
  | wait {n d : Nat} {a : α} {timer : Timer} {f : Fiber σ α} (comes : ahead n timer.deadline)
    (goesOn : Arrives ahead timer.deadline f d a) : Arrives ahead n (wait timer f) d a

namespace Arrives

/-- No fiber arrives before it sets off. -/
theorem le [Nonempty σ] (h : Arrives ahead n f d a) (hle : ∀ n m, ahead n m → n ≤ m) : n ≤ d := by
  induction h with
  | done => exact Nat.le_refl _
  | act _ _ ih =>
    obtain ⟨s⟩ := ‹Nonempty σ›
    exact ih ⟨s, _, 0⟩ rfl
  | wait comes _ ih => exact Nat.le_trans (hle _ _ comes) ih

theorem mono {behind : Nat → Nat → Prop} (h : Arrives ahead n f d a)
    (himp : ∀ n m, ahead n m → behind n m) : Arrives behind n f d a := by
  induction h with
  | done => exact .done
  | act stays _ ih => exact .act stays ih
  | wait comes _ ih => exact .wait (himp _ _ comes) ih

/-- Carried out, the fiber gives the result, and the clock shows the time of its arrival. -/
theorem run (h : Arrives ahead n f d a) (hle : ∀ n m, ahead n m → n ≤ m) {t : Timeline σ}
    (ht : t.clock = n) : (f.run t).1 = a ∧ (f.run t).2.clock = d := by
  induction h generalizing t with
  | done => exact ⟨rfl, ht⟩
  | act stays _ ih => exact ih t ht (stays t ht)
  | wait comes _ ih =>
    refine ih ?_
    show max t.clock _ = _
    rw [ht]
    exact Nat.max_eq_right (hle _ _ comes)

theorem bind {k : α → Fiber σ β} (hf : Arrives ahead n f m a) (hk : Arrives ahead m (k a) d b) :
    Arrives ahead n (f >>= k) d b := by
  show Arrives ahead n (f.bind k) d b
  induction hf with
  | done => exact hk
  | act stays _ ih => exact .act stays fun t ht => ih t ht hk
  | wait comes _ ih => exact .wait comes (ih hk)

theorem map (g : α → β) (hf : Arrives ahead n f d a) : Arrives ahead n (g <$> f) d (g a) :=
  hf.bind (.done : Arrives ahead d (pure (g a)) d (g a))

theorem clock_bind {k : Nat → Fiber σ β} (hk : Arrives ahead n (k n) d b) :
    Arrives ahead n (clock >>= k) d b :=
  .act (fun _ ht => ht) fun t ht => by
    rw [← ht] at hk ⊢
    exact hk

theorem takeTicket_bind {k : Nat → Fiber σ β} (hk : ∀ ticket, Arrives ahead n (k ticket) d b) :
    Arrives ahead n (takeTicket >>= k) d b :=
  .act (fun _ ht => ht) fun t _ => hk t.tickets

/-- Sleeping takes its time. -/
theorem sleep (n ticks : Nat) :
    Arrives (· < ·) n (Fiber.sleep ticks : Fiber σ Unit) (n + ticks) () := by
  unfold Fiber.sleep
  split
  · next h =>
    subst h
    exact .done
  · next h =>
    refine .clock_bind (.takeTicket_bind fun ticket => .wait ?_ .done)
    show n < n + ticks
    omega

/-! ## Under a bound -/

theorem endingAt [Nonempty σ] {timer : Timer} (h : Arrives (· < ·) n f d a)
    (hn : n ≤ timer.deadline) :
    Arrives (· < ·) n (endingAt timer f) (min d timer.deadline)
      (if d ≤ timer.deadline then some a else none) := by
  induction h with
  | done =>
    rw [if_pos hn, Nat.min_eq_left hn]
    exact .done
  | act stays _ ih => exact .act stays fun t ht => ih t ht hn
  | @wait n d a other f comes goesOn ih =>
    rw [Fiber.endingAt]
    split
    · next hle =>
      have hbeside : (other.beside timer).deadline = other.deadline := by
        unfold Timer.beside
        split <;> rfl
      refine .wait ?_ ?_
      · rw [hbeside]
        exact comes
      · rw [hbeside]
        exact ih hle
    -- The fiber is still under way when the bound is reached.
    · next hlt =>
      have hd : other.deadline ≤ d := goesOn.le fun _ _ => Nat.le_of_lt
      rw [if_neg (by omega), Nat.min_eq_right (by omega)]
      refine .act (fun _ ht => ht) fun t ht => ?_
      rw [ht]
      split
      · next hcome =>
        obtain rfl : n = timer.deadline := Nat.le_antisymm hn hcome
        exact .done
      · next hahead => exact .wait (Nat.lt_of_not_le hahead) .done

/-- A fiber under a bound arrives at the bound at the latest. One that arrives just then counts. -/
theorem within [Nonempty σ] (h : Arrives (· < ·) n f d a) (limit : Nat) :
    Arrives (· < ·) n (f.within limit) (min d (n + limit))
      (if d ≤ n + limit then some a else none) :=
  .clock_bind (.takeTicket_bind fun _ => h.endingAt (Nat.le_add_right n limit))

/-! ## Side by side -/

section

variable {ra : Except ε α} {rb : Except ε β} {d' : Nat}

/-- The first fiber waits for a time ahead, and the second goes on. -/
theorem besideWaiting [Nonempty σ] {timer : Timer} {first : Fiber σ (Except ε α)}
    {second : Fiber σ (Except ε β)}
    {go : Fiber σ (Except ε β) → Fiber σ (Except ε (α × β))} (hn : n < timer.deadline)
    (hfirst : Arrives (· < ·) timer.deadline first d ra)
    (hgo : ∀ {g : Fiber σ (Except ε β)} {d' : Nat} {rb : Except ε β},
      Arrives (· ≤ ·) timer.deadline g d' rb →
        Arrives (· ≤ ·) timer.deadline (go g) (Lookup.both ⟨d, ra⟩ ⟨d', rb⟩).elapsed
          (Lookup.both ⟨d, ra⟩ ⟨d', rb⟩).result)
    (hsecond : Arrives (· ≤ ·) n second d' rb) :
    Arrives (· ≤ ·) n (besideWaiting timer first go second)
      (Lookup.both ⟨d, ra⟩ ⟨d', rb⟩).elapsed (Lookup.both ⟨d, ra⟩ ⟨d', rb⟩).result := by
  have hd : timer.deadline ≤ d := hfirst.le fun _ _ => Nat.le_of_lt
  induction hsecond with
  | @done n rb =>
    cases rb with
    | error e =>
      cases ra with
      | error e' =>
        have hlate : ¬ d ≤ n := by omega
        have hboth : Lookup.both ⟨d, .error e'⟩ ⟨n, .error e⟩ =
            (⟨n, .error e⟩ : Lookup ε (α × β)) := if_neg hlate
        rw [hboth]
        exact .done
      | ok a => exact .done
    | ok b =>
      have hleft := (hfirst.mono fun _ _ => Nat.le_of_lt).map
        fun r : Except ε α => r.map fun a => (a, b)
      refine .wait (Nat.le_of_lt hn) ?_
      cases ra with
      | error e => exact hleft
      | ok a =>
        have hmax : max d n = d := Nat.max_eq_left (by omega)
        simp only [Lookup.both, hmax]
        exact hleft
  | act stays _ ih => exact .act stays fun t ht => ih t ht hn
  | @wait n d' rb other second comes goesOn ih =>
    rw [Fiber.besideWaiting]
    split
    · next hle =>
      have hbeside : (timer.beside other).deadline = timer.deadline := by
        unfold Timer.beside
        split <;> rfl
      refine .wait ?_ ?_
      · rw [hbeside]
        exact Nat.le_of_lt hn
      · rw [hbeside]
        exact hgo (.wait hle goesOn)
    · next hlt => exact .wait comes (ih (Nat.lt_of_not_le hlt))

/-- Two fibers side by side arrive as two lookups side by side do. -/
theorem both [Nonempty σ] {first : Fiber σ (Except ε α)} {second : Fiber σ (Except ε β)}
    (hfirst : Arrives (· < ·) n first d ra) (hsecond : Arrives (· ≤ ·) n second d' rb) :
    Arrives (· ≤ ·) n (Fiber.both first second) (Lookup.both ⟨d, ra⟩ ⟨d', rb⟩).elapsed
      (Lookup.both ⟨d, ra⟩ ⟨d', rb⟩).result := by
  induction hfirst generalizing second d' rb with
  | @done n ra =>
    have hn : n ≤ d' := hsecond.le fun _ _ => id
    cases ra with
    | error e =>
      have hboth : Lookup.both ⟨n, .error e⟩ ⟨d', rb⟩ =
          (⟨n, .error e⟩ : Lookup ε (α × β)) := by
        cases rb with
        | error e' => exact if_pos hn
        | ok b => rfl
      rw [hboth]
      exact .done
    | ok a =>
      have hright := hsecond.map fun r : Except ε β => r.map fun b => (a, b)
      cases rb with
      | error e => exact hright
      | ok b =>
        have hmax : max n d' = d' := Nat.max_eq_right hn
        simp only [Lookup.both, hmax]
        exact hright
  | act stays _ ih => exact .act stays fun t ht => ih t ht hsecond
  | @wait n d ra timer first comes goesOn ih => exact besideWaiting comes goesOn ih hsecond

end

end Arrives

end Upkeep.Fiber
