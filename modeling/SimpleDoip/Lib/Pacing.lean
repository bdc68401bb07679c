import Mathlib.Data.List.Basic

/-!
# Backing off

A loop that never gives up sleeps for a while after each failure. `Backoff` is when such a loop goes
on and when it has failed, and `Paced` that its failures are as far apart as it sleeps. A loop that
is paced fails a bounded number of times in any stretch of time.
-/

namespace Pacing

/-- When a loop wakes, if it sleeps, and when it has failed. The failures are kept as a history; the
loop does not look at them. -/
structure Backoff where
  wake : Option Nat
  failures : List Nat
deriving DecidableEq

namespace Backoff

/-- A loop that has not failed, and does not sleep. -/
def new : Backoff := ⟨none, []⟩

/-- The loop fails, and sleeps for `delay` from now on. -/
def fail (delay now : Nat) (b : Backoff) : Backoff where
  wake := some (now + delay)
  failures := b.failures ++ [now]

/-- The loop wakes, where its time has come. It may do so later than that, but not before. -/
def awaken (now : Nat) (b : Backoff) : Option Backoff :=
  match b.wake with
  | none => none
  | some wake => if wake ≤ now then some { b with wake := none } else none

/-- The failures are `delay` apart, and the loop does not go on before the last one is over. -/
structure Paced (delay now : Nat) (b : Backoff) : Prop where
  spaced : b.failures.Pairwise fun s t => s + delay ≤ t
  elapsed : ∀ t ∈ b.failures, t + delay ≤ b.wake.getD now

section
variable {delay now : Nat} {b b' : Backoff}

theorem paced_new : new.Paced delay now :=
  ⟨.nil, fun _ h => absurd h List.not_mem_nil⟩

theorem Paced.fail (h : b.Paced delay now) (hwake : b.wake = none) :
    (b.fail delay now).Paced delay now := by
  have hover : ∀ t ∈ b.failures, t + delay ≤ now := by
    intro t ht
    have := h.elapsed t ht
    rwa [hwake] at this
  refine ⟨?_, ?_⟩
  · refine List.pairwise_append.mpr ⟨h.spaced, List.pairwise_singleton _ _, ?_⟩
    intro s hs t ht
    rw [List.mem_singleton.mp ht]
    exact hover s hs
  · intro t ht
    change t + delay ≤ now + delay
    rcases List.mem_append.mp ht with ht | ht
    · exact Nat.le_trans (hover t ht) (Nat.le_add_right _ _)
    · exact Nat.le_of_eq (congrArg (· + delay) (List.mem_singleton.mp ht))

theorem Paced.awaken (h : b.Paced delay now) (hb : b.awaken now = some b') :
    b'.Paced delay now := by
  rw [Backoff.awaken] at hb
  cases hwake : b.wake with
  | none =>
    rw [hwake] at hb
    cases hb
  | some wake =>
    simp only [hwake] at hb
    split at hb
    · next hpast =>
      cases hb
      refine ⟨h.spaced, fun t ht => ?_⟩
      have := h.elapsed t ht
      rw [hwake] at this
      exact Nat.le_trans this hpast
    · cases hb

theorem Paced.wait (h : b.Paced delay now) (duration : Nat) : b.Paced delay (now + duration) := by
  refine ⟨h.spaced, fun t ht => Nat.le_trans (h.elapsed t ht) ?_⟩
  cases b.wake with
  | none => exact Nat.le_add_right _ _
  | some wake => exact Nat.le_refl _

/-- Times that are `delay` apart are few in any stretch: one more than the stretch has room for at
most. -/
theorem countP_spaced {times : List Nat} (hdelay : 0 < delay)
    (h : times.Pairwise fun s t => s + delay ≤ t) (a e : Nat) :
    times.countP (fun t => decide (a ≤ t ∧ t < e)) * delay < e - a + delay := by
  induction times generalizing a with
  | nil =>
    rw [List.countP_nil, Nat.zero_mul]
    exact Nat.add_pos_right _ hdelay
  | cons x times ih =>
    obtain ⟨hx, htimes⟩ := List.pairwise_cons.mp h
    by_cases hin : a ≤ x ∧ x < e
    · -- what follows in the stretch lies behind the sleep
      have hrest : times.countP (fun t => decide (a ≤ t ∧ t < e)) =
          times.countP (fun t => decide (x + delay ≤ t ∧ t < e)) := by
        refine List.countP_congr fun t ht => ?_
        have := hx t ht
        simp only [decide_eq_true_eq]
        omega
      have hih := ih htimes (x + delay)
      rw [List.countP_cons, if_pos (by simpa using hin), hrest, Nat.add_mul, Nat.one_mul]
      by_cases hlast : x + delay ≤ e
      · omega
      · rw [Nat.sub_eq_zero_of_le (by omega), Nat.zero_add] at hih
        have hnone : times.countP (fun t => decide (x + delay ≤ t ∧ t < e)) < 1 := by
          refine Nat.lt_of_mul_lt_mul_right (a := delay) ?_
          rwa [Nat.one_mul]
        rw [Nat.lt_one_iff.mp hnone, Nat.zero_mul]
        omega
    · rw [List.countP_cons, if_neg (by simpa using hin), Nat.add_zero]
      exact ih htimes a

/-- **A loop that is paced** fails at most once per `delay` in any stretch of time. -/
theorem Paced.countP_failures (h : b.Paced delay now) (hdelay : 0 < delay) (a e : Nat) :
    b.failures.countP (fun t => decide (a ≤ t ∧ t < e)) * delay < e - a + delay :=
  countP_spaced hdelay h.spaced a e

end

end Backoff

end Pacing
