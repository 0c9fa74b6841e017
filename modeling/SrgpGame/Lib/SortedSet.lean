import Mathlib.Data.List.Sort
import Mathlib.Tactic.Common

set_option autoImplicit false

/-!
# Sets in the order of a comparator

A set that is kept in the order of a comparator has at most one of two elements that compare equal.
Here it is the list of its elements. What is in it depends only on which elements compare equal; the
rest of the comparator decides about their order alone.

## Main definitions

* `SortedSet.add`, `SortedSet.remove` — the operations.
* `SortedSet.Distinct` — no two elements compare equal.

## Main results

* `perm_add`, `add_cases` — what an addition does.
* `perm_cons_remove` — what a removal does.
* `Distinct.add`, `Distinct.remove` — they keep the elements distinct.
-/

namespace SortedSet

variable {α : Type*} (cmp : α → α → Ordering)

/-- Adds an element in its place, unless one that compares equal is there. -/
def add (a : α) (s : List α) : List α :=
  if ∃ b ∈ s, cmp a b = .eq then s else s.orderedInsert (fun a b => cmp a b ≠ .gt) a

/-- Removes the element that compares equal. -/
def remove (a : α) (s : List α) : List α := s.eraseP fun b => cmp a b = .eq

/-- No two elements compare equal. -/
def Distinct (s : List α) : Prop := s.Pairwise fun a b => cmp a b ≠ .eq

variable {cmp} {a b : α} {s t : List α}

/-- An element that compares equal to none is added. -/
lemma perm_add (h : ∀ b ∈ s, cmp a b ≠ .eq) : (add cmp a s).Perm (a :: s) := by
  have hnone : ¬∃ b ∈ s, cmp a b = .eq := by
    rintro ⟨b, hb, heq⟩
    exact h b hb heq
  rw [add, if_neg hnone]
  exact List.perm_orderedInsert _ a s

variable (cmp a s) in
lemma add_cases : (∃ b ∈ s, cmp a b = .eq) ∧ add cmp a s = s ∨
    (∀ b ∈ s, cmp a b ≠ .eq) ∧ (add cmp a s).Perm (a :: s) := by
  by_cases h : ∃ b ∈ s, cmp a b = .eq
  · exact .inl ⟨h, if_pos h⟩
  · have hnew : ∀ b ∈ s, cmp a b ≠ .eq := fun b hb heq => h ⟨b, hb, heq⟩
    exact .inr ⟨hnew, perm_add hnew⟩

lemma subset_add : s ⊆ add cmp a s := by
  rcases add_cases cmp a s with ⟨-, heq⟩ | ⟨-, hperm⟩
  · rw [heq]
    exact List.Subset.refl s
  · intro b hb
    exact hperm.mem_iff.mpr (List.mem_cons_of_mem a hb)

lemma mem_of_mem_add (h : b ∈ add cmp a s) : b = a ∨ b ∈ s := by
  rcases add_cases cmp a s with ⟨-, heq⟩ | ⟨-, hperm⟩
  · exact .inr (heq ▸ h)
  · exact List.mem_cons.mp (hperm.mem_iff.mp h)

/-! ## Distinct elements -/

section Distinct

variable (hsymm : ∀ {a b}, cmp a b = .eq → cmp b a = .eq)

include hsymm

lemma Distinct.perm (h : Distinct cmp s) (hperm : s.Perm t) : Distinct cmp t :=
  (hperm.pairwise_iff fun hne heq => hne (hsymm heq)).mp h

lemma Distinct.add (h : Distinct cmp s) (a : α) : Distinct cmp (add cmp a s) := by
  rcases add_cases cmp a s with ⟨-, heq⟩ | ⟨hnew, hperm⟩
  · rw [heq]
    exact h
  · exact Distinct.perm hsymm (List.pairwise_cons.mpr ⟨hnew, h⟩) hperm.symm

omit hsymm in
lemma Distinct.remove (h : Distinct cmp s) (a : α) : Distinct cmp (remove cmp a s) :=
  h.sublist List.eraseP_sublist

variable (hrefl : ∀ a, cmp a a = .eq)

include hrefl

omit hsymm in
/-- Distinct elements are different. -/
lemma Distinct.nodup (h : Distinct cmp s) : s.Nodup := by
  refine h.imp ?_
  rintro a _ hne rfl
  exact hne (hrefl a)

/-- **A removal** takes the element itself, and nothing else. -/
lemma perm_cons_remove (h : Distinct cmp s) (ha : a ∈ s) : s.Perm (a :: remove cmp a s) := by
  induction s with
  | nil => cases ha
  | cons b s ih =>
    obtain ⟨hnew, hrest⟩ := List.pairwise_cons.mp h
    rcases List.mem_cons.mp ha with rfl | ha
    · rw [remove, List.eraseP_cons_of_pos (by simpa using hrefl a)]
    · have hne : cmp a b ≠ .eq := fun heq => hnew a ha (hsymm heq)
      rw [remove, List.eraseP_cons_of_neg (by simpa using hne)]
      exact ((ih hrest ha).cons b).trans (List.Perm.swap a b _)

end Distinct

end SortedSet
