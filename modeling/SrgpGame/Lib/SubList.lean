import Mathlib.Data.List.Infix
import Mathlib.Data.List.Nodup
import Mathlib.Tactic.Common

set_option autoImplicit false

/-!
# Parts of a list

A part of a list, from one position up to another, exclusive.

## Main definitions

* `SubList.subList` — the part.

## Main results

* `SubList.subList_eq_append_cons` — a part is split at each of its elements.
* `SubList.filter_zipIdx` — the elements whose positions lie in an interval are a part.
-/

namespace SubList

variable {α β : Type*} {l : List α} {i j k m : ℕ} {a : α}

/-- **The part of a list** from position `i` up to position `j`, exclusive. -/
def subList (l : List α) (i j : ℕ) : List α := (l.take j).drop i

@[simp] lemma length_subList : (subList l i j).length = min j l.length - i := by
  rw [subList, List.length_drop, List.length_take]

lemma subList_infix : subList l i j <:+: l :=
  (List.drop_suffix i _).isInfix.trans (List.take_prefix j l).isInfix

/-- An empty interval has no elements. -/
lemma subList_of_le (h : j ≤ i) : subList l i j = [] := by
  apply List.drop_of_length_le
  rw [List.length_take]
  omega

/-- **A part is split at each of its elements.** -/
lemma subList_eq_append_cons (hi : i ≤ k) (hj : k < j) (ha : l[k]? = some a) :
    subList l i j = subList l i k ++ a :: subList l (k + 1) j := by
  obtain ⟨hk, rfl⟩ := List.getElem?_eq_some_iff.mp ha
  have hlength : k < (l.take j).length := by
    rw [List.length_take]
    omega
  have hsplit : l.take j = l.take k ++ l[k] :: (l.take j).drop (k + 1) := by
    conv_lhs =>
      rw [← List.take_append_drop k (l.take j), ← List.cons_getElem_drop_succ (h := hlength)]
    rw [List.take_take, Nat.min_eq_left hj.le, List.getElem_take]
  have hi' : i ≤ (l.take k).length := by
    rw [List.length_take]
    omega
  rw [subList, hsplit, List.drop_append_of_le_length hi']
  rfl

/-- The elements whose positions are counted from `m` on and lie in an interval are a part. -/
lemma filter_zipIdx_from (l : List α) (m : ℕ) :
    ((l.zipIdx m).filter fun p => decide (i ≤ p.2 ∧ p.2 < j)).map Prod.fst =
      subList l (i - m) (j - m) := by
  induction l generalizing m with
  | nil => simp [subList]
  | cons a l ih =>
    rw [List.zipIdx_cons, List.filter_cons]
    have hrest := ih (m + 1)
    by_cases hlow : i ≤ m
    · by_cases hhigh : m < j
      · have hi : i - m = 0 := by omega
        have hi' : i - (m + 1) = 0 := by omega
        have hj : j - m = j - (m + 1) + 1 := by omega
        rw [if_pos (decide_eq_true ⟨hlow, hhigh⟩), List.map_cons, hrest, hi, hi', hj]
        rfl
      · have hj : j - (m + 1) = 0 := by omega
        have hj' : j - m = 0 := by omega
        rw [if_neg (by simp [hhigh]), hrest, hj, hj', subList_of_le (Nat.zero_le _),
          subList_of_le (Nat.zero_le _)]
    · have hi : i - m = i - (m + 1) + 1 := by omega
      rw [if_neg (by simp [hlow]), hrest, hi]
      rcases Nat.eq_zero_or_pos (j - m) with hj | hj
      · rw [hj, subList_of_le (Nat.zero_le _), subList_of_le (by omega)]
      · have hj' : j - m = j - (m + 1) + 1 := by omega
        rw [hj']
        rfl

/-- **The elements whose positions lie in an interval are a part.** -/
theorem filter_zipIdx (l : List α) :
    (l.zipIdx.filter fun p => decide (i ≤ p.2 ∧ p.2 < j)).map Prod.fst = subList l i j :=
  filter_zipIdx_from l 0

end SubList
