import SrgpGame.Lib.Runs
import Mathlib.Algebra.Order.Group.Int
import Mathlib.Algebra.Order.Ring.Int
import Mathlib.Tactic.Ring

set_option autoImplicit false

/-!
# Choosing a fixed number of every block

Of every `total` things that come up one after another `quota` are to be chosen, and which ones is
left to chance. It is enough to watch two numbers: how many things have come up in the present
block, and how many of them were chosen. Nothing is chosen once the quota is reached, and everything
is chosen once no more things are left in the block than are owed.

## Main definitions

* `Quota.Allowed` — a choice that follows the two rules.
* `Quota.next` — the two numbers after a choice.
* `Quota.OnTrack` — the quota of the block can still be met, and is not exceeded.

## Main results

* `Quota.count_block` — of a whole block exactly `quota` things are chosen, or all of them if there
  are no more.
* `Quota.run_blocks` — after whole blocks both numbers are zero.
-/

namespace Quota

variable (total quota : ℤ)

/-- **A choice that follows the rules**, after `c.1` things of the block of which `c.2` were
chosen. -/
structure Allowed (c : ℤ × ℤ) (chosen : Bool) : Prop where
  due : chosen = true → c.2 < quota
  owed : c.2 < quota → total - c.1 ≤ quota - c.2 → chosen = true

/-- The two numbers after a choice: a block that is full starts anew. -/
def next (c : ℤ × ℤ) (chosen : Bool) : ℤ × ℤ :=
  if total ≤ c.1 + 1 then (0, 0) else (c.1 + 1, if chosen then c.2 + 1 else c.2)

/-- **The quota can be met** by the rest of the block. -/
structure OnTrack (c : ℤ × ℤ) : Prop where
  nonneg : 0 ≤ c.2
  le_count : c.2 ≤ c.1
  lt_total : c.1 < total
  le_quota : c.2 ≤ quota
  enough : min quota total ≤ c.2 + (total - c.1)

variable {total quota} {c : ℤ × ℤ} {chosen : Bool}

lemma onTrack_zero (htotal : 0 < total) (hquota : 0 ≤ quota) : OnTrack total quota (0, 0) := by
  refine ⟨le_rfl, le_rfl, htotal, hquota, ?_⟩
  show min quota total ≤ 0 + (total - 0)
  omega

/-- A choice within the block keeps it on track. -/
lemma OnTrack.next (h : OnTrack total quota c) (hallowed : Allowed total quota c chosen)
    (hlt : c.1 + 1 < total) : OnTrack total quota (next total c chosen) := by
  obtain ⟨hnonneg, hcount, htotal, hquota, henough⟩ := h
  obtain ⟨hdue, howed⟩ := hallowed
  rw [Quota.next, if_neg (by omega)]
  cases chosen with
  | true =>
    have hroom := hdue rfl
    exact ⟨by show 0 ≤ c.2 + 1; omega, by show c.2 + 1 ≤ c.1 + 1; omega, hlt,
      by show c.2 + 1 ≤ quota; omega,
      by show min quota total ≤ c.2 + 1 + (total - (c.1 + 1)); omega⟩
  | false =>
    have hfree : ¬(c.2 < quota ∧ total - c.1 ≤ quota - c.2) := fun hboth =>
      Bool.noConfusion (howed hboth.1 hboth.2)
    exact ⟨hnonneg, by show c.2 ≤ c.1 + 1; omega, hlt, hquota,
      by show min quota total ≤ c.2 + (total - (c.1 + 1)); omega⟩

/-- The last choice of a block meets the quota. -/
lemma OnTrack.last (h : OnTrack total quota c) (hallowed : Allowed total quota c chosen)
    (hlast : c.1 + 1 = total) : c.2 + (if chosen then 1 else 0) = min quota total := by
  obtain ⟨hnonneg, hcount, htotal, hquota, henough⟩ := h
  obtain ⟨hdue, howed⟩ := hallowed
  cases chosen with
  | true =>
    have hroom := hdue rfl
    show c.2 + 1 = min quota total
    omega
  | false =>
    have hfree : ¬(c.2 < quota ∧ total - c.1 ≤ quota - c.2) := fun hboth =>
      Bool.noConfusion (howed hboth.1 hboth.2)
    show c.2 + 0 = min quota total
    omega

/-- **A choice that follows the rules** keeps the count on track, over the end of a block too. -/
lemma OnTrack.step (h : OnTrack total quota c) (hquota : 0 ≤ quota)
    (hallowed : Allowed total quota c chosen) :
    OnTrack total quota (Quota.next total c chosen) := by
  have hlt := h.lt_total
  by_cases hlast : c.1 + 1 < total
  · exact h.next hallowed hlast
  · have hnonneg := h.nonneg
    have hcount := h.le_count
    rw [Quota.next, if_pos (by omega)]
    exact onTrack_zero (by omega) hquota

/-- The rest of a block, by induction on how much of it is left. -/
lemma count_rest {choices : List Bool} (h : OnTrack total quota c)
    (hallowed : Runs.EveryStep (next total) (Allowed total quota) c choices)
    (hlength : c.1 + choices.length = total) :
    c.2 + (choices.count true : ℤ) = min quota total ∧
      Runs.run (next total) c choices = (0, 0) := by
  induction choices generalizing c with
  | nil =>
    have hlt := h.lt_total
    simp only [List.length_nil, Nat.cast_zero] at hlength
    omega
  | cons chosen choices ih =>
    obtain ⟨hhead, htail⟩ := hallowed
    rw [List.length_cons, Nat.cast_succ] at hlength
    have hcount : (((chosen :: choices).count true : ℕ) : ℤ) =
        (choices.count true : ℤ) + if chosen then 1 else 0 := by
      cases chosen <;> simp
    rw [hcount, Runs.run_cons]
    cases choices with
    | nil =>
      simp only [List.length_nil, Nat.cast_zero, zero_add] at hlength
      have hlast := h.last hhead hlength
      refine ⟨by simpa using hlast, ?_⟩
      rw [Runs.run_nil, next, if_pos (by omega)]
    | cons chosen' choices' =>
      rw [List.length_cons, Nat.cast_succ] at hlength
      have hlt : c.1 + 1 < total := by omega
      have hfst : (next total c chosen).1 = c.1 + 1 := by rw [next, if_neg (by omega)]
      have hsnd : (next total c chosen).2 = c.2 + if chosen then 1 else 0 := by
        rw [next, if_neg (by omega)]
        cases chosen <;> simp
      obtain ⟨hsum, hrun⟩ := ih (h.next hhead hlt) htail (by
        rw [hfst, List.length_cons, Nat.cast_succ]
        omega)
      refine ⟨?_, hrun⟩
      rw [hsnd] at hsum
      omega

/-- **Of a whole block** exactly the quota is chosen. -/
theorem count_block (htotal : 0 < total) (hquota : 0 ≤ quota) {choices : List Bool}
    (hallowed : Runs.EveryStep (next total) (Allowed total quota) (0, 0) choices)
    (hlength : (choices.length : ℤ) = total) :
    (choices.count true : ℤ) = min quota total ∧ Runs.run (next total) (0, 0) choices = (0, 0) := by
  obtain ⟨hcount, hrun⟩ := count_rest (onTrack_zero htotal hquota) hallowed (by simpa using hlength)
  exact ⟨by simpa using hcount, hrun⟩

/-- **After whole blocks** both numbers are zero. -/
theorem run_blocks (htotal : 0 < total) (hquota : 0 ≤ quota) {choices : List Bool}
    (hallowed : Runs.EveryStep (next total) (Allowed total quota) (0, 0) choices)
    (hdvd : total ∣ choices.length) : Runs.run (next total) (0, 0) choices = (0, 0) := by
  obtain ⟨blocks, hblocks⟩ := hdvd
  have hnonneg : 0 ≤ blocks := by
    by_contra hneg
    have hmul := Int.mul_neg_of_pos_of_neg htotal (not_le.mp hneg)
    omega
  obtain ⟨n, rfl⟩ := Int.eq_ofNat_of_zero_le hnonneg
  clear hnonneg
  induction n generalizing choices with
  | zero =>
    obtain rfl : choices = [] := by
      apply List.eq_nil_of_length_eq_zero
      simpa using hblocks
    rfl
  | succ n ih =>
    have hsplit := List.take_append_drop total.toNat choices
    have hmul : total * ((n + 1 : ℕ) : ℤ) = total * n + total := by
      rw [Nat.cast_succ]
      ring
    have hrest : 0 ≤ total * (n : ℤ) := Int.mul_nonneg htotal.le (Int.natCast_nonneg n)
    rw [hmul] at hblocks
    rw [← hsplit, Runs.everyStep_append] at hallowed
    have htake : ((choices.take total.toNat).length : ℤ) = total := by
      rw [List.length_take]
      omega
    obtain ⟨-, hrun⟩ := count_block htotal hquota hallowed.1 htake
    rw [hrun] at hallowed
    rw [← hsplit, Runs.run_append, hrun]
    refine ih hallowed.2 ?_
    rw [List.length_drop]
    omega

end Quota
