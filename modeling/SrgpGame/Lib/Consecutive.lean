import Mathlib.Data.List.Chain
import Mathlib.Algebra.Order.Group.Int
import Mathlib.Tactic.Common

set_option autoImplicit false

/-!
# Consecutive numbers

A reliable channel numbers its messages and keeps the ones that were not acknowledged. This file
has the lists whose elements are numbered one after another: in such a list, what lies beyond a
number is what remains after dropping as many elements.

## Main definitions

* `List.Consecutive` — the elements are numbered `k + 1`, `k + 2`, and so on.

## Main results

* `List.Consecutive.dropWhile_eq_drop`, `List.Consecutive.filter_eq_drop` — dropping up to a number,
  and keeping what is beyond it, are both `List.drop`.
* `List.Consecutive.isChain` — each number is the one before plus one.
-/

namespace List

variable {α : Type*} {num : α → ℤ}

/-- The elements are numbered one after another, from `k + 1` on. -/
def Consecutive (num : α → ℤ) : ℤ → List α → Prop
  | _, [] => True
  | k, a :: as => num a = k + 1 ∧ Consecutive num (k + 1) as

namespace Consecutive

/-- One more element continues the numbering. -/
lemma append_singleton {k : ℤ} {as : List α} {a : α} :
    Consecutive num k (as ++ [a]) ↔ Consecutive num k as ∧ num a = k + as.length + 1 := by
  induction as generalizing k with
  | nil => simp [Consecutive]
  | cons b as ih =>
    rw [cons_append, Consecutive, ih, Consecutive, length_cons]
    constructor
    · rintro ⟨hb, has, ha⟩
      exact ⟨⟨hb, has⟩, by push_cast; omega⟩
    · rintro ⟨⟨hb, has⟩, ha⟩
      exact ⟨hb, has, by push_cast at ha; omega⟩

/-- The numbers lie beyond `k` and within the length. -/
lemma bounds {k : ℤ} {as : List α} (h : Consecutive num k as) :
    ∀ a ∈ as, k < num a ∧ num a ≤ k + as.length := by
  induction as generalizing k with
  | nil => simp
  | cons b as ih =>
    obtain ⟨hb, has⟩ := h
    refine forall_mem_cons.mpr ⟨⟨by omega, by simp; omega⟩, fun a ha => ?_⟩
    obtain ⟨hlow, hhigh⟩ := ih has a ha
    rw [length_cons]
    exact ⟨by omega, by push_cast; omega⟩

/-- What remains of a consecutive list is consecutive. -/
lemma drop {k : ℤ} {as : List α} (h : Consecutive num k as) (i : ℕ) :
    Consecutive num (k + i) (as.drop i) := by
  induction i generalizing k as with
  | zero => simpa using h
  | succ i ih =>
    cases as with
    | nil => trivial
    | cons b as =>
      have hrest := ih h.2
      rw [drop_succ_cons]
      have hk : k + ((i + 1 : ℕ) : ℤ) = k + 1 + i := by push_cast; omega
      rwa [hk]

/-- **Dropping the elements up to a number** drops as many. -/
theorem dropWhile_eq_drop {k : ℤ} {as : List α} (h : Consecutive num k as) (x : ℤ) :
    as.dropWhile (fun a => ¬x < num a) = as.drop (x - k).toNat := by
  induction as generalizing k with
  | nil => simp
  | cons b as ih =>
    obtain ⟨hb, has⟩ := h
    by_cases hx : x < num b
    · have hzero : (x - k).toNat = 0 := by omega
      rw [hzero, dropWhile_cons_of_neg (by simpa using hx), drop_zero]
    · have hsucc : (x - k).toNat = (x - (k + 1)).toNat + 1 := by omega
      rw [hsucc, dropWhile_cons_of_pos (by simpa using hx), drop_succ_cons, ih has]

/-- **Keeping the elements beyond a number** drops as many as lie up to it. -/
theorem filter_eq_drop {k : ℤ} {as : List α} (h : Consecutive num k as) (x : ℤ) :
    as.filter (fun a => x < num a) = as.drop (x - k).toNat := by
  induction as generalizing k with
  | nil => simp
  | cons b as ih =>
    obtain ⟨hb, has⟩ := h
    by_cases hx : x < num b
    · have hzero : (x - k).toNat = 0 := by omega
      have hall : ∀ a ∈ b :: as, x < num a := by
        refine forall_mem_cons.mpr ⟨hx, fun a ha => ?_⟩
        have hlow := (has.bounds a ha).1
        omega
      rw [hzero, drop_zero, filter_eq_self]
      simpa using hall
    · have hsucc : (x - k).toNat = (x - (k + 1)).toNat + 1 := by omega
      rw [hsucc, filter_cons_of_neg (by simpa using hx), drop_succ_cons, ih has]

/-- Each number is the one before plus one. -/
lemma isChain {k : ℤ} {as : List α} (h : Consecutive num k as) :
    as.IsChain fun a b => num b = num a + 1 := by
  induction as generalizing k with
  | nil => exact .nil
  | cons b as ih =>
    obtain ⟨hb, has⟩ := h
    cases as with
    | nil => exact .singleton b
    | cons c as =>
      refine isChain_cons_cons.mpr ⟨?_, ih has⟩
      have hc := has.1
      omega

end Consecutive

end List
