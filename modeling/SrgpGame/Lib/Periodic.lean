import Mathlib.Algebra.Order.Ring.Int
import Mathlib.Tactic.Linarith
import Mathlib.Tactic.Ring

set_option autoImplicit false

/-!
# Periodic ticks

From some start on there is a tick after every period. This file has the last tick that is not after
an instant, as a division computes it, and says that it does not matter from which tick it is
computed.

## Main definitions

* `Periodic.IsTick` — an instant is a tick.
* `Periodic.tick` — the last tick that is not after an instant.

## Main results

* `Periodic.tick_le`, `Periodic.lt_tick_add` — the instant is in the period of its last tick.
* `Periodic.tick_eq_of_isTick` — the last tick, computed from another tick.
-/

namespace Periodic

/-- A tick: some whole number of periods after the start. -/
def IsTick (start period t : ℤ) : Prop := ∃ n : ℕ, t = start + n * period

/-- The last tick that is not after `t`. -/
def tick (start period t : ℤ) : ℤ := start + (t - start) / period * period

variable {start period t r : ℤ}

lemma isTick_start : IsTick start period start := ⟨0, by simp⟩

lemma tick_le (hperiod : 0 < period) : tick start period t ≤ t := by
  have h := Int.ediv_mul_le (t - start) hperiod.ne'
  unfold tick
  linarith

lemma lt_tick_add (hperiod : 0 < period) : t < tick start period t + period := by
  have h := Int.lt_ediv_add_one_mul_self (t - start) hperiod
  unfold tick
  linarith

/-- The last tick is one if the start is not after the instant. -/
lemma isTick_tick (hperiod : 0 < period) (hstart : start ≤ t) :
    IsTick start period (tick start period t) := by
  have hnonneg : 0 ≤ (t - start) / period := Int.ediv_nonneg (by omega) hperiod.le
  refine ⟨((t - start) / period).toNat, ?_⟩
  rw [Int.toNat_of_nonneg hnonneg]
  rfl

/-- **The last tick** is the same, computed from whatever tick. -/
lemma tick_eq_of_isTick (hperiod : 0 < period) (hr : IsTick start period r) :
    tick r period t = tick start period t := by
  obtain ⟨n, rfl⟩ := hr
  have hdiv : (t - (start + n * period)) / period = (t - start) / period - n := by
    rw [show t - (start + n * period) = t - start - n * period by ring]
    exact Int.sub_mul_ediv_right _ _ hperiod.ne'
  unfold tick
  rw [hdiv]
  ring

/-- A tick of which the period is over is before the last one. -/
lemma lt_tick (hperiod : 0 < period) (hr : IsTick start period r) (hover : r + period ≤ t) :
    r < tick start period t := by
  have hlt : t < tick r period t + period := lt_tick_add hperiod
  rw [← tick_eq_of_isTick hperiod hr]
  omega

end Periodic
