import Mathlib.Data.Nat.Init
import Mathlib.Data.Int.Init
import Mathlib.Data.List.InsertIdx
import Mathlib.Tactic.Common
import Mathlib.Order.Basic

set_option autoImplicit false

/-!
# Binary search

A binary search looks for a key in a sorted list by comparing the element in the middle of what is
left with it. Only the outcomes of these comparisons matter: `cmp i` says how the element at `i`
compares with the key.

## Main definitions

* `BinarySearch.binarySearch` — the position of the element that is equal to the key, or
  `-(p + 1)` where the key would have to be inserted at `p`.
* `BinarySearch.Strict` — the elements stand in a strict order.

## Main results

* `BinarySearch.binarySearch_of_eq` — an element that is equal to the key is found.
* `BinarySearch.pairwise_insertIdx` — an insertion there keeps an order.
* `BinarySearch.binarySearch_of_ne` — without such an element the insertion point is found: all
  elements before it are less than the key, all others greater.
-/

namespace BinarySearch

/-- The loop, on the positions from `low` up to `hi`, exclusive. -/
def search (cmp : ℕ → Ordering) (low hi : ℕ) : ℤ :=
  if low < hi then
    let mid := (low + hi - 1) / 2
    match cmp mid with
    | .lt => search cmp (mid + 1) hi
    | .gt => search cmp low mid
    | .eq => mid
  else -(low + 1)
termination_by hi - low

/-- Searches among `size` elements. -/
def binarySearch (cmp : ℕ → Ordering) (size : ℕ) : ℤ := search cmp 0 size

/-- The elements stand in a strict order: after one that is not less than the key all are
greater. -/
def Strict (cmp : ℕ → Ordering) (size : ℕ) : Prop :=
  ∀ i j, i < j → j < size → cmp i ≠ .lt → cmp j = .gt

variable {cmp : ℕ → Ordering} {size low hi : ℕ}

/-- **The invariant of the loop**: what lies before `low` is less than the key, what lies from
`hi` on is greater. -/
theorem search_spec (hstrict : Strict cmp size) (hle : low ≤ hi) (hhi : hi ≤ size)
    (hlow : ∀ i < low, cmp i = .lt) (hhigh : ∀ i, hi ≤ i → i < size → cmp i = .gt) :
    (∃ k < size, cmp k = .eq ∧ search cmp low hi = k) ∨
      ∃ p ≤ size, search cmp low hi = -(p + 1) ∧ (∀ i < p, cmp i = .lt) ∧
        ∀ i, p ≤ i → i < size → cmp i = .gt := by
  fun_induction search cmp low hi with
  | case1 low hi hlt mid hcmp ih =>
    have hmid : mid = (low + hi - 1) / 2 := rfl
    apply ih
    · omega
    · exact hhi
    · -- nothing before the middle is not less, or the middle would be greater
      intro i hi'
      by_contra hne
      rcases Nat.lt_or_ge i mid with h | h
      · have := hstrict i mid h (by omega) hne
        rw [hcmp] at this
        cases this
      · obtain rfl : i = mid := by omega
        exact hne hcmp
    · exact hhigh
  | case2 low hi hlt mid hcmp ih =>
    have hmid : mid = (low + hi - 1) / 2 := rfl
    apply ih
    · omega
    · omega
    · exact hlow
    · intro i hi' hsize
      rcases Nat.lt_or_ge mid i with h | h
      · exact hstrict mid i h hsize (by rw [hcmp]; decide)
      · obtain rfl : i = mid := by omega
        exact hcmp
  | case3 low hi hlt mid hcmp =>
    have hmid : mid = (low + hi - 1) / 2 := rfl
    exact .inl ⟨mid, by omega, hcmp, rfl⟩
  | case4 low hi hlt =>
    refine .inr ⟨low, by omega, rfl, hlow, fun i hi' => hhigh i (by omega)⟩

/-- **An element that is equal to the key is found.** -/
theorem binarySearch_of_eq (hstrict : Strict cmp size) {k : ℕ} (hk : k < size)
    (heq : cmp k = .eq) : binarySearch cmp size = k := by
  have hspec := search_spec hstrict (Nat.zero_le size) (Nat.le_refl size)
    (fun i hi => absurd hi (Nat.not_lt_zero i)) (fun i hi hsize => absurd hsize (by omega))
  rcases hspec with ⟨j, hj, hjeq, hsearch⟩ | ⟨p, hp, -, hlt, hgt⟩
  · -- there is no other
    have hjk : j = k := by
      rcases Nat.lt_trichotomy j k with h | h | h
      · have := hstrict j k h hk (by rw [hjeq]; decide)
        rw [heq] at this
        cases this
      · exact h
      · have := hstrict k j h hj (by rw [heq]; decide)
        rw [hjeq] at this
        cases this
    rw [binarySearch, hsearch, hjk]
  · rcases Nat.lt_or_ge k p with h | h
    · have := hlt k h
      rw [heq] at this
      cases this
    · have := hgt k h hk
      rw [heq] at this
      cases this

/-- **Without an element that is equal to the key** the insertion point is found. -/
theorem binarySearch_of_ne (hstrict : Strict cmp size) (hne : ∀ k < size, cmp k ≠ .eq) :
    ∃ p ≤ size, binarySearch cmp size = -(p + 1) ∧ (∀ i < p, cmp i = .lt) ∧
      ∀ i, p ≤ i → i < size → cmp i = .gt := by
  have hspec := search_spec hstrict (Nat.zero_le size) (Nat.le_refl size)
    (fun i hi => absurd hi (Nat.not_lt_zero i)) (fun i hi hsize => absurd hsize (by omega))
  rcases hspec with ⟨j, hj, hjeq, -⟩ | h
  · exact absurd hjeq (hne j hj)
  · exact h

/-- **An insertion keeps an order** if it comes after what precedes its element and before what
follows. -/
theorem pairwise_insertIdx {α : Type*} {R : α → α → Prop} {l : List α} {p : ℕ} {a : α}
    (hl : l.Pairwise R) (hlow : ∀ i (h : i < l.length), i < p → R l[i] a)
    (hhigh : ∀ i (h : i < l.length), p ≤ i → R a l[i]) : (l.insertIdx p a).Pairwise R := by
  induction l generalizing p with
  | nil =>
    cases p with
    | zero => exact List.pairwise_singleton R a
    | succ p => exact List.Pairwise.nil
  | cons b l ih =>
    cases p with
    | zero =>
      refine List.pairwise_cons.mpr ⟨fun c hc => ?_, hl⟩
      obtain ⟨i, hi, rfl⟩ := List.getElem_of_mem hc
      exact hhigh i hi (Nat.zero_le i)
    | succ p =>
      obtain ⟨hb, hl⟩ := List.pairwise_cons.mp hl
      rw [List.insertIdx_succ_cons]
      refine List.pairwise_cons.mpr ⟨fun c hc => ?_, ?_⟩
      · rcases List.eq_or_mem_of_mem_insertIdx hc with rfl | hc
        · exact hlow 0 (Nat.zero_lt_succ _) (Nat.zero_lt_succ _)
        · exact hb c hc
      · apply ih hl
        · intro i hi hip
          exact hlow (i + 1) (Nat.succ_lt_succ hi) (Nat.succ_lt_succ hip)
        · intro i hi hip
          exact hhigh (i + 1) (Nat.succ_lt_succ hi) (Nat.succ_le_succ hip)

end BinarySearch
