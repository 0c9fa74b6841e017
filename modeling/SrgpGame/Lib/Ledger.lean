import Mathlib.Algebra.Order.BigOperators.Group.List
import Mathlib.Algebra.Order.Group.Unbundled.Abs
import Mathlib.Algebra.Order.Group.Int
import Mathlib.Algebra.Order.Ring.Int
import Mathlib.Tactic.Common

set_option autoImplicit false

/-!
# Ledgers

A ledger books a list of entries on many accounts at once: `amount k e` is what the entry `e`
books on the account `k`. The balance of an account is the sum of what was booked on it, and its
volume is the sum of the absolute values. When the volume of the whole history stays in range, so
does the balance after every part of it; this is how a statement "no sum overflows" reaches the
single additions.

## Main definitions

* `Ledger.total` — the balance of an account after a list of entries.
* `Ledger.volume` — the sum of the absolute values booked on it.

## Main results

* `Ledger.abs_total_le_volume` — a balance is bounded by the volume.
* `Ledger.volume_sublist` — the volume of a part of a history is at most that of the whole.
-/

namespace Ledger

variable {κ ε : Type*} (amount : κ → ε → ℤ)

/-- The balance of account `k` after the entries `es`. -/
def total (k : κ) (es : List ε) : ℤ := (es.map (amount k)).sum

/-- The sum of the absolute values that the entries `es` book on account `k`. -/
def volume (k : κ) (es : List ε) : ℤ := (es.map fun e => |amount k e|).sum

variable {amount} {k : κ}

@[simp] lemma total_nil : total amount k [] = 0 := rfl

@[simp] lemma total_cons (e : ε) (es : List ε) :
    total amount k (e :: es) = amount k e + total amount k es := by
  simp [total]

@[simp] lemma total_append (es fs : List ε) :
    total amount k (es ++ fs) = total amount k es + total amount k fs := by
  simp [total]

@[simp] lemma volume_nil : volume amount k [] = 0 := rfl

@[simp] lemma volume_cons (e : ε) (es : List ε) :
    volume amount k (e :: es) = |amount k e| + volume amount k es := by
  simp [volume]

/-- An amount that is booked or not is at most the amount. -/
lemma abs_ite_le (c : Prop) [Decidable c] (x : ℤ) : |if c then x else 0| ≤ |x| := by
  split
  · exact le_rfl
  · simp

/-- **A balance is bounded by the volume.** -/
theorem abs_total_le_volume (amount : κ → ε → ℤ) (k : κ) (es : List ε) :
    |total amount k es| ≤ volume amount k es := by
  induction es with
  | nil => simp
  | cons e es ih =>
    rw [total_cons, volume_cons]
    exact (abs_add_le _ _).trans (by omega)

/-- The volume of a part of a history is at most that of the whole history. -/
theorem volume_sublist {es fs : List ε} (h : es.Sublist fs) :
    volume amount k es ≤ volume amount k fs := by
  induction h with
  | slnil => exact le_rfl
  | cons e _ ih =>
    rw [volume_cons]
    have := abs_nonneg (amount k e)
    omega
  | cons_cons e _ ih =>
    rw [volume_cons, volume_cons]
    omega

/-- Entries that book nothing negative leave no negative balance. -/
lemma total_nonneg {es : List ε} (h : ∀ e ∈ es, 0 ≤ amount k e) : 0 ≤ total amount k es := by
  refine List.sum_nonneg fun x hx => ?_
  obtain ⟨e, he, rfl⟩ := List.mem_map.mp hx
  exact h e he

end Ledger
