import Mathlib.Data.List.DropRight
import Mathlib.Data.List.Infix
import Mathlib.Tactic.Common

set_option autoImplicit false

/-!
# The last elements of a growing list

A log that forgets its oldest entry when it is full holds the last entries of all that were ever
added. Two such logs are the same just if nothing differed, or all that differed is forgotten.

## Main definitions

* `List.rtake` of Mathlib — the last elements of a list.
* `Recent.push` — an element is added, and the oldest one forgotten if there are too many.

## Main results

* `foldl_push` — what a log holds.
* `rtake_eq_rtake_iff` — when two logs are the same.
-/

namespace Recent

variable {α : Type}

/-- An element is added; once there are `size` elements the oldest one is forgotten. -/
def push (size : ℕ) (l : List α) (a : α) : List α :=
  let l := l ++ [a]
  if size ≤ l.length then l.drop 1 else l

/-- A log of the last elements stays one. -/
lemma push_rtake (size : ℕ) (l : List α) (a : α) :
    push (size + 1) (l.rtake size) a = (l ++ [a]).rtake size := by
  unfold push List.rtake
  simp only [List.length_append, List.length_drop, List.length_singleton]
  by_cases hsize : size ≤ l.length
  · rw [if_pos (by omega), ← List.drop_append_of_le_length (Nat.sub_le _ _), List.drop_drop]
    congr 1
    omega
  · rw [if_neg (by omega), show l.length - size = 0 by omega,
      show l.length + 1 - size = 0 by omega, List.drop_zero, List.drop_zero]

/-- **What a log holds**: the last elements of all that were added, one fewer than its size. -/
theorem foldl_push (size : ℕ) (as : List α) :
    as.foldl (push (size + 1)) [] = as.rtake size := by
  induction as using List.reverseRecOn with
  | nil => exact (List.rtake_nil size).symm
  | append_singleton as a ih =>
    rw [List.foldl_append, List.foldl_cons, List.foldl_nil, ih, push_rtake]

variable {size : ℕ} {l l' s : List α}

/-- The last elements are those of what comes last, if there are enough of them. -/
lemma rtake_of_suffix (hs : s <:+ l) (hsize : size ≤ s.length) : l.rtake size = s.rtake size := by
  obtain ⟨t, rfl⟩ := hs
  unfold List.rtake
  rw [List.length_append, List.drop_append, List.drop_eq_nil_of_le (by omega), List.nil_append]
  congr 1
  omega

/-- There are as many last elements as asked for, or as many as there are. -/
lemma length_rtake : (l.rtake size).length = min size l.length := by
  unfold List.rtake
  rw [List.length_drop]
  omega

lemma rtake_suffix : l.rtake size <:+ l := List.drop_suffix _ _

/-- A list without enough elements is all its last elements. -/
lemma rtake_of_length_le (h : l.length ≤ size) : l.rtake size = l := by
  unfold List.rtake
  rw [Nat.sub_eq_zero_of_le h, List.drop_zero]

/-- **When two logs are the same**: nothing differs, or enough that does not was added since. -/
theorem rtake_eq_rtake_iff :
    l.rtake size = l'.rtake size ↔
      l = l' ∨ ∃ s, size ≤ s.length ∧ s <:+ l ∧ s <:+ l' := by
  constructor
  · intro h
    have hlength := congrArg List.length h
    rw [length_rtake, length_rtake] at hlength
    by_cases hsize : size ≤ l.length
    · refine .inr ⟨l.rtake size, ?_, rtake_suffix, ?_⟩
      · rw [length_rtake]
        omega
      · rw [h]
        exact rtake_suffix
    · refine .inl ?_
      rwa [rtake_of_length_le (by omega), rtake_of_length_le (by omega)] at h
  · rintro (rfl | ⟨s, hsize, hs, hs'⟩)
    · rfl
    · rw [rtake_of_suffix hs hsize, rtake_of_suffix hs' hsize]

end Recent
