import Mathlib.Algebra.BigOperators.Group.Finset.Basic
import Mathlib.Algebra.Order.BigOperators.Group.Finset
import Mathlib.Tactic.Common

set_option autoImplicit false

/-!
# Spending from several stocks

A need is met from stocks in a fixed order: each gives what is still needed, or all it has.

## Main definitions

* `pay` — what is left in the stocks.
* `unpaid` — the part of the need that is not met.
* `total` — all there is in some stocks.

## Main results

* `unpaid_eq` — the need is met as far as there is enough in all stocks together.
* `sum_pay` — what the stocks lose is the part of the need that is met.
-/

namespace Spending

variable {κ : Type*} [DecidableEq κ]

/-- What is left after `need` is taken from the stocks of the keys, in their order. -/
def pay : List κ → ℕ → (κ → ℕ) → κ → ℕ
  | [], _, left => left
  | key :: keys, need, left =>
    pay keys (need - left key) (Function.update left key (left key - need))

/-- What is missing then. -/
def unpaid : List κ → ℕ → (κ → ℕ) → ℕ
  | [], need, _ => need
  | key :: keys, need, left =>
    unpaid keys (need - left key) (Function.update left key (left key - need))

/-- All there is in the stocks of some keys. -/
def total (keys : List κ) (left : κ → ℕ) : ℕ := ∑ key ∈ keys.toFinset, left key

variable {keys : List κ} {need : ℕ} {left : κ → ℕ}

/-- Nothing is needed. -/
lemma pay_zero (keys : List κ) (left : κ → ℕ) : pay keys 0 left = left := by
  induction keys with
  | nil => rfl
  | cons key keys ih => rw [pay, Nat.zero_sub, Nat.sub_zero, Function.update_eq_self, ih]

lemma unpaid_zero (keys : List κ) (left : κ → ℕ) : unpaid keys 0 left = 0 := by
  induction keys with
  | nil => rfl
  | cons key keys ih => rw [unpaid, Nat.zero_sub, Nat.sub_zero, Function.update_eq_self, ih]

/-- No stock grows. -/
lemma pay_le (keys : List κ) (need : ℕ) (left : κ → ℕ) (key : κ) :
    pay keys need left key ≤ left key := by
  induction keys generalizing need left with
  | nil => exact le_rfl
  | cons key' keys ih =>
    refine (ih _ _).trans ?_
    rw [Function.update_apply]
    split_ifs with h
    · rw [h]
      exact Nat.sub_le ..
    · exact le_rfl

/-- One stock is changed. -/
lemma sum_update {s : Finset κ} {key : κ} (hkey : key ∈ s) (left : κ → ℕ) (n : ℕ) :
    ∑ k ∈ s, Function.update left key n k + left key = ∑ k ∈ s, left k + n := by
  have hrest : ∑ k ∈ s.erase key, Function.update left key n k = ∑ k ∈ s.erase key, left k :=
    Finset.sum_congr rfl fun k hk => Function.update_of_ne (Finset.ne_of_mem_erase hk) ..
  rw [← Finset.sum_erase_add s _ hkey, ← Finset.sum_erase_add s left hkey, hrest,
    Function.update_self]
  omega

/-- **The need is met** as far as the stocks are enough together. -/
theorem unpaid_eq (keys : List κ) (need : ℕ) (left : κ → ℕ) :
    unpaid keys need left = need - total keys left := by
  induction keys generalizing need left with
  | nil => rfl
  | cons key keys ih =>
    have hall : total (key :: keys) left = left key + ∑ k ∈ keys.toFinset.erase key, left k := by
      rw [total, ← Finset.add_sum_erase _ _ (List.mem_toFinset.mpr List.mem_cons_self),
        List.toFinset_cons, Finset.erase_insert_eq_erase]
    have hrest : total keys (Function.update left key (left key - need)) =
        (if key ∈ keys then left key - need else 0) + ∑ k ∈ keys.toFinset.erase key, left k := by
      have hsame : ∑ k ∈ keys.toFinset.erase key,
          Function.update left key (left key - need) k = ∑ k ∈ keys.toFinset.erase key, left k :=
        Finset.sum_congr rfl fun k hk => Function.update_of_ne (Finset.ne_of_mem_erase hk) ..
      split_ifs with hkey
      · rw [total, ← Finset.add_sum_erase _ _ (List.mem_toFinset.mpr hkey), hsame,
          Function.update_self]
      · have hkey' : key ∉ keys.toFinset := fun h => hkey (List.mem_toFinset.mp h)
        rw [Finset.erase_eq_of_notMem hkey'] at hsame ⊢
        rw [total, hsame, Nat.zero_add]
    rw [unpaid, ih, hall, hrest]
    split_ifs <;> omega

/-- **What the stocks lose** is what is paid. -/
theorem sum_pay {s : Finset κ} (hs : ∀ key ∈ keys, key ∈ s) (need : ℕ) (left : κ → ℕ) :
    ∑ key ∈ s, pay keys need left key + need =
      ∑ key ∈ s, left key + unpaid keys need left := by
  induction keys generalizing need left with
  | nil => rfl
  | cons key keys ih =>
    obtain ⟨hkey, hs⟩ := List.forall_mem_cons.mp hs
    have hrest := ih hs (need - left key) (Function.update left key (left key - need))
    have hone := sum_update hkey left (left key - need)
    rw [pay, unpaid]
    omega

/-- If the stocks are not enough, they are used up. -/
lemma pay_eq_zero (h : total keys left ≤ need) {key : κ} (hkey : key ∈ keys) :
    pay keys need left key = 0 := by
  have hall : ∀ key ∈ keys, key ∈ keys.toFinset := fun key hkey => List.mem_toFinset.mpr hkey
  have hsum := sum_pay hall need left
  rw [unpaid_eq] at hsum
  have hzero : ∑ key ∈ keys.toFinset, pay keys need left key = 0 := by
    unfold total at h hsum
    omega
  exact Finset.sum_eq_zero_iff.mp hzero key (List.mem_toFinset.mpr hkey)

/-- The other stocks are not touched. -/
lemma pay_of_notMem {key : κ} (hkey : key ∉ keys) (need : ℕ) (left : κ → ℕ) :
    pay keys need left key = left key := by
  induction keys generalizing need left with
  | nil => rfl
  | cons key' keys ih =>
    rw [List.mem_cons, not_or] at hkey
    obtain ⟨hne, hkey⟩ := hkey
    rw [pay, ih hkey, Function.update_of_ne hne]

end Spending
