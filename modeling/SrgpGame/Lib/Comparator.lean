import Mathlib.Data.List.Sort
import SrgpGame.Lib.Machine

set_option autoImplicit false

/-!
# Comparators

A comparator answers a negative number, zero or a positive one, as the first element is to come
before the second, at the same place, or after it. Sorting with it is stable. A comparator that is
computed from machine integers may be a total preorder on some elements and not on others.

## Main definitions

* `Comparator.sort` — sorting with a comparator.
* `Comparator.TotalPreorderOn` — the comparator is a total preorder on the elements of a list.
* `Comparator.Sorting` — a method that sorts lists, and may throw where the comparator is none.

## Main results

* `Comparator.pairwise_sort` — the list is sorted by a relation that the comparator decides on its
  elements.
* `Comparator.TotalPreorderOn.exists_least` — there is an element that comes first.

## Design notes

Where the comparator is a total preorder on the list, all stable sorts do the same. Two elements are
exchanged just if the comparator, asked for the second and the first, answers a negative number.
Elsewhere a sorting method may leave the elements in any order, and may throw.
-/

namespace Comparator

variable {α : Type*}

/-- Sorts a list with the comparator. -/
def sort (cmp : α → α → Int32) (l : List α) : List α := l.insertionSort fun a b => 0 ≤ cmp b a

/-- **A total preorder** on the elements of `l`: antisymmetric in sign, and transitive. -/
structure TotalPreorderOn (cmp : α → α → Int32) (l : List α) : Prop where
  antisymm : ∀ a ∈ l, ∀ b ∈ l, (cmp a b).toInt.sign = -(cmp b a).toInt.sign
  trans : ∀ a ∈ l, ∀ b ∈ l, ∀ c ∈ l, cmp a b ≤ 0 → cmp b c ≤ 0 → cmp a c ≤ 0

/-- **A sorting method** of a library. Where the comparator is a total preorder on the list, it
sorts the list; elsewhere it leaves the elements in some order, and it may throw. -/
structure Sorting (α : Type*) where
  sort : (α → α → Int32) → List α → List α
  /-- Whether it throws once it has left the list so. -/
  throws : (α → α → Int32) → List α → Bool
  perm : ∀ cmp l, (sort cmp l).Perm l
  sorted : ∀ cmp l, TotalPreorderOn cmp l →
    sort cmp l = Comparator.sort cmp l ∧ throws cmp l = false

/-- The method that inserts one element after another, and never throws. -/
def Sorting.insertion (α : Type*) : Sorting α where
  sort := Comparator.sort
  throws _ _ := false
  perm _ l := List.perm_insertionSort _ l
  sorted _ _ _ := ⟨rfl, rfl⟩

variable {cmp : α → α → Int32} {l : List α}

/-- **Sorted** by a relation that the comparator decides on the elements. -/
lemma pairwise_sort (r : α → α → Prop) [DecidableRel r] [Std.Total r] [IsTrans α r]
    (h : ∀ a ∈ l, ∀ b ∈ l, 0 ≤ cmp b a ↔ r a b) : (sort cmp l).Pairwise r := by
  have hsort := List.map_insertionSort (fun a b => 0 ≤ cmp b a) r id l h
  rw [List.map_id, List.map_id] at hsort
  rw [sort, hsort]
  exact List.pairwise_insertionSort r l

namespace TotalPreorderOn

lemma mono {l' : List α} (h : TotalPreorderOn cmp l) (hsub : l' ⊆ l) : TotalPreorderOn cmp l' where
  antisymm a ha b hb := h.antisymm a (hsub ha) b (hsub hb)
  trans a ha b hb c hc := h.trans a (hsub ha) b (hsub hb) c (hsub hc)

/-- Of two elements one may come first. -/
lemma total (h : TotalPreorderOn cmp l) {a b : α} (ha : a ∈ l) (hb : b ∈ l) :
    cmp a b ≤ 0 ∨ cmp b a ≤ 0 := by
  have hsign := h.antisymm a ha b hb
  rw [Int32.le_iff_toInt_le, Int32.le_iff_toInt_le, Int32.toInt_zero]
  by_contra hboth
  push Not at hboth
  rw [Int.sign_eq_one_of_pos hboth.1, Int.sign_eq_one_of_pos hboth.2] at hsign
  omega

/-- **An element that comes first.** -/
lemma exists_least (h : TotalPreorderOn cmp l) (hne : l ≠ []) :
    ∃ a ∈ l, ∀ b ∈ l, cmp a b ≤ 0 := by
  induction l with
  | nil => exact absurd rfl hne
  | cons c l ih =>
    have hself : cmp c c ≤ 0 := (h.total (by simp) (by simp)).elim id id
    by_cases hnil : l = []
    · subst hnil
      exact ⟨c, by simp, by simpa using hself⟩
    · obtain ⟨a, ha, hfirst⟩ := ih (h.mono (List.subset_cons_self c l)) hnil
      have ha' : a ∈ c :: l := List.mem_cons_of_mem c ha
      rcases h.total ha' (show c ∈ c :: l by simp) with hac | hca
      · exact ⟨a, ha', List.forall_mem_cons.mpr ⟨hac, hfirst⟩⟩
      · refine ⟨c, by simp, List.forall_mem_cons.mpr ⟨hself, fun b hb => ?_⟩⟩
        exact h.trans c (by simp) a ha' b (List.mem_cons_of_mem c hb) hca (hfirst b hb)

end TotalPreorderOn

end Comparator
