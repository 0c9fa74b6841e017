import Mathlib.Data.List.Nodup
import Mathlib.Tactic.Common

set_option autoImplicit false

/-!
# Lists that are kept beside what they list

A program keeps a list of the elements that have a property, and has to change the list wherever the
property changes.

## Main definitions

* `Listing.Lists` — the list has the elements with the property, each once.
* `Listing.refresh` — an element is added to the list, or removed, as it should be.

## Main results

* `Lists.iff_of_lists` — a list that was not changed is right as long as the property is the same.
* `Lists.refresh` — a list that is right but for one element is right after that is refreshed.
-/

namespace Listing

variable {α : Type*}

/-- **The list has exactly the elements with the property, each once.** -/
structure Lists (p : α → Prop) (l : List α) : Prop where
  nodup : l.Nodup
  mem_iff : ∀ a, a ∈ l ↔ p a

/-- A list that was right is right for another property if and only if that is the same. -/
lemma Lists.iff_of_lists {p q : α → Prop} {l : List α} (h : Lists p l) :
    Lists q l ↔ ∀ a, q a ↔ p a := by
  constructor
  · exact fun hq a => (hq.mem_iff a).symm.trans (h.mem_iff a)
  · exact fun hqp => ⟨h.nodup, fun a => (h.mem_iff a).trans (hqp a).symm⟩

variable [DecidableEq α]

/-- Adds an element unless it is listed already, or removes it. -/
def refresh (a : α) (listed : Bool) (l : List α) : List α :=
  if listed then
    if a ∈ l then l else l ++ [a]
  else l.erase a

lemma nodup_refresh {l : List α} (h : l.Nodup) (a : α) (listed : Bool) :
    (refresh a listed l).Nodup := by
  unfold refresh
  split_ifs with hlisted hmem
  · exact h
  · exact List.nodup_append.mpr ⟨h, List.nodup_singleton a, by
      rintro b hb c hc rfl
      exact hmem (List.mem_singleton.mp hc ▸ hb)⟩
  · exact h.erase a

lemma mem_refresh {l : List α} (h : l.Nodup) (a : α) (listed : Bool) (b : α) :
    b ∈ refresh a listed l ↔ if b = a then listed = true else b ∈ l := by
  unfold refresh
  split_ifs with hlisted hmem heq heq heq
  · exact iff_of_true (heq ▸ hmem) hlisted
  · rfl
  · exact iff_of_true (by simp [heq]) hlisted
  · simp [heq]
  · exact iff_of_false (heq ▸ h.not_mem_erase) hlisted
  · rw [h.mem_erase_iff, and_iff_right heq]

/-- **A list that is right but for one element** is right after that is refreshed. -/
lemma Lists.refresh {p : α → Prop} {l : List α} (hnodup : l.Nodup) {a : α}
    (hothers : ∀ b, b ≠ a → (b ∈ l ↔ p b)) {listed : Bool} (ha : listed = true ↔ p a) :
    Lists p (refresh a listed l) := by
  refine ⟨nodup_refresh hnodup a listed, fun b => ?_⟩
  rw [mem_refresh hnodup]
  split_ifs with heq
  · rw [heq]
    exact ha
  · exact hothers b heq

end Listing
