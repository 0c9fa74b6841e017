import Mathlib.Algebra.BigOperators.Group.Finset.Piecewise
import Mathlib.Data.Finset.Option
import Mathlib.Data.Nat.Count
import Mathlib.Tactic.Common

set_option autoImplicit false

/-!
# Choosing by weight

A list of entries with weights divides the numbers below the sum of the weights into intervals, one
for each entry, as long as its weight. A number drawn from them chooses the entry in whose interval
it lies. So an entry is chosen by exactly as many numbers as its weight says.

## Main definitions

* `Cumulative.total`, `Cumulative.mass` — the sum of all weights, and of those of some entries.
* `Cumulative.pick` — the entry in whose interval a number lies.

## Main results

* `Cumulative.pick_eq_none_iff` — a number chooses nothing just if it is not below the sum.
* `Cumulative.count_pick` — how many numbers choose an entry of some kind.
* `Cumulative.total_eq_of_count` — whoever gives every entry as many numbers as it weighs has as
  many numbers as the sum says.
-/

namespace Cumulative

variable {α : Type*} {entries : List (α × ℕ)}

/-- The sum of the weights. -/
def total : List (α × ℕ) → ℕ
  | [] => 0
  | (_, w) :: entries => w + total entries

/-- The sum of the weights of the entries that satisfy `p`. -/
def mass (p : α → Prop) [DecidablePred p] : List (α × ℕ) → ℕ
  | [] => 0
  | (a, w) :: entries => (if p a then w else 0) + mass p entries

/-- The entry in whose interval the number `d` lies. -/
def pick : List (α × ℕ) → ℕ → Option α
  | [], _ => none
  | (a, w) :: entries, d => if d < w then some a else pick entries (d - w)

@[simp] lemma total_nil : total ([] : List (α × ℕ)) = 0 := rfl

@[simp] lemma total_cons (a : α) (w : ℕ) : total ((a, w) :: entries) = w + total entries := rfl

@[simp] lemma pick_nil (d : ℕ) : pick ([] : List (α × ℕ)) d = none := rfl

/-- **A number chooses nothing** just if it is not below the sum. -/
lemma pick_eq_none_iff (d : ℕ) : pick entries d = none ↔ total entries ≤ d := by
  induction entries generalizing d with
  | nil => simp
  | cons e entries ih =>
    obtain ⟨a, w⟩ := e
    rw [pick, total_cons]
    split_ifs with hd
    · constructor
      · intro h
        cases h
      · intro h
        omega
    · rw [ih]
      omega

/-- What is chosen is one of the entries. -/
lemma mem_of_pick {d : ℕ} {a : α} (h : pick entries d = some a) :
    ∃ w, (a, w) ∈ entries ∧ 0 < w := by
  induction entries generalizing d with
  | nil => cases h
  | cons e entries ih =>
    obtain ⟨b, w⟩ := e
    rw [pick] at h
    split_ifs at h with hd
    · obtain rfl := Option.some.inj h
      exact ⟨w, List.mem_cons_self, by omega⟩
    · obtain ⟨v, hmem, hpos⟩ := ih h
      exact ⟨v, List.mem_cons_of_mem _ hmem, hpos⟩

/-- Renamed entries are chosen by the same numbers. -/
lemma pick_map {β : Type*} (f : α → β) (entries : List (α × ℕ)) (d : ℕ) :
    pick (entries.map fun e => (f e.1, e.2)) d = (pick entries d).map f := by
  induction entries generalizing d with
  | nil => rfl
  | cons e entries ih =>
    rw [List.map_cons, pick, pick]
    split_ifs
    · rfl
    · exact ih (d - e.2)

lemma total_map {β : Type*} (f : α → β) (entries : List (α × ℕ)) :
    total (entries.map fun e => (f e.1, e.2)) = total entries := by
  induction entries with
  | nil => rfl
  | cons e entries ih => rw [List.map_cons, total_cons, ih, total_cons]

/-- The sum does not depend on the order of the entries. -/
lemma total_perm {entries' : List (α × ℕ)} (h : entries.Perm entries') :
    total entries = total entries' := by
  induction h with
  | nil => rfl
  | cons e _ ih => rw [total_cons, total_cons, ih]
  | swap e e' entries =>
    rw [total_cons, total_cons, total_cons, total_cons]
    omega
  | trans _ _ ih ih' => exact ih.trans ih'

section Count

variable (p : α → Prop) [DecidablePred p]

@[simp] lemma mass_nil : mass p ([] : List (α × ℕ)) = 0 := rfl

@[simp] lemma mass_cons (a : α) (w : ℕ) :
    mass p ((a, w) :: entries) = (if p a then w else 0) + mass p entries := rfl

lemma mass_le_total : mass p entries ≤ total entries := by
  induction entries with
  | nil => exact le_rfl
  | cons e entries ih =>
    obtain ⟨a, w⟩ := e
    rw [mass_cons, total_cons]
    split_ifs
    · omega
    · omega

/-- If no entry satisfies `p`, these weigh nothing. -/
lemma mass_eq_zero (h : ∀ e ∈ entries, ¬p e.1) : mass p entries = 0 := by
  induction entries with
  | nil => rfl
  | cons e entries ih =>
    rw [mass_cons, if_neg (h e List.mem_cons_self), ih fun e he => h e (List.mem_cons_of_mem _ he)]

/-- An entry that satisfies `p` counts among those that do. -/
lemma le_mass_of_mem {a : α} {w : ℕ} (h : (a, w) ∈ entries) (ha : p a) : w ≤ mass p entries := by
  induction entries with
  | nil => cases h
  | cons e entries ih =>
    obtain ⟨b, v⟩ := e
    rw [mass_cons]
    rcases List.mem_cons.mp h with heq | hmem
    · obtain ⟨rfl, rfl⟩ := Prod.mk.inj heq
      rw [if_pos ha]
      omega
    · have hle := ih hmem
      omega

/-- Whether the entry chosen by a number satisfies `p`. -/
def Picks (entries : List (α × ℕ)) (d : ℕ) : Prop := ∃ a ∈ pick entries d, p a

instance (d : ℕ) : Decidable (Picks p entries d) :=
  match h : pick entries d with
  | none => isFalse (by rintro ⟨a, ha, -⟩; rw [h] at ha; cases ha)
  | some a =>
    if hp : p a then isTrue ⟨a, h, hp⟩
    else isFalse (by rintro ⟨b, hb, hpb⟩; rw [h] at hb; cases hb; exact hp hpb)

omit [DecidablePred p] in
/-- In the interval of the first entry its own kind decides. -/
lemma picks_of_lt {a : α} {w d : ℕ} (hd : d < w) : Picks p ((a, w) :: entries) d ↔ p a := by
  unfold Picks
  rw [pick, if_pos hd]
  constructor
  · rintro ⟨b, hb, hp⟩
    cases hb
    exact hp
  · intro hp
    exact ⟨a, rfl, hp⟩

omit [DecidablePred p] in
/-- Behind it the other entries are chosen from. -/
lemma picks_add {a : α} {w : ℕ} (d : ℕ) :
    Picks p ((a, w) :: entries) (w + d) ↔ Picks p entries d := by
  unfold Picks
  rw [pick, if_neg (by omega), Nat.add_sub_cancel_left]

/-- **An entry is chosen by as many numbers as its weight says**: of the numbers below the sum, as
many choose an entry that satisfies `p` as these entries weigh. -/
theorem count_pick : Nat.count (Picks p entries) (total entries) = mass p entries := by
  induction entries with
  | nil => rfl
  | cons e entries ih =>
    obtain ⟨a, w⟩ := e
    rw [total_cons, mass_cons, Nat.count_add]
    have hfirst : Nat.count (Picks p ((a, w) :: entries)) w = if p a then w else 0 := by
      split_ifs with hp
      · exact Nat.count_iff_forall.mpr fun d hd => (picks_of_lt p hd).mpr hp
      · exact Nat.count_iff_forall_not.mpr fun d hd => fun h => hp ((picks_of_lt p hd).mp h)
    have hrest : Nat.count (fun d => Picks p ((a, w) :: entries) (w + d)) (total entries) =
        Nat.count (Picks p entries) (total entries) := by
      simp only [picks_add]
    rw [hfirst, hrest, ih]

end Count

/-! ## Other tables -/

section Tables

variable [DecidableEq α]

/-- **A table that chooses like `pick`** gives every value as many numbers as it weighs. -/
theorem count_of_eq_pick {f : ℕ → Option α} (hf : ∀ d < total entries, f d = pick entries d)
    (a : α) :
    Nat.count (fun d => f d = some a) (total entries) = mass (fun b => b = a) entries := by
  rw [← count_pick, Nat.count_eq_card_filter_range, Nat.count_eq_card_filter_range]
  congr 1
  refine Finset.filter_congr fun d hd => ?_
  rw [hf d (Finset.mem_range.mp hd)]
  unfold Picks
  constructor
  · intro h
    exact ⟨a, h, rfl⟩
  · rintro ⟨b, hb, rfl⟩
    exact hb

/-- Where no two entries have the same value, a value weighs what its own entry does. -/
lemma mass_map_of_mem {keys : List α} (hnodup : keys.Nodup) (w : α → ℕ) {a : α} (h : a ∈ keys) :
    mass (fun b => b = a) (keys.map fun a => (a, w a)) = w a := by
  induction keys with
  | nil => cases h
  | cons b keys ih =>
    obtain ⟨hnew, hnodup⟩ := List.nodup_cons.mp hnodup
    rw [List.map_cons, mass_cons]
    rcases List.mem_cons.mp h with rfl | hmem
    · have hrest : mass (fun b => b = a) (keys.map fun a => (a, w a)) = 0 := by
        refine mass_eq_zero _ fun e he heq => hnew ?_
        obtain ⟨b, hb, rfl⟩ := List.mem_map.mp he
        exact heq ▸ hb
      rw [if_pos rfl, hrest, Nat.add_zero]
    · have hne : b ≠ a := by
        rintro rfl
        exact hnew hmem
      rw [if_neg hne, ih hnodup hmem, Nat.zero_add]

/-- The weights of all entries make up the sum. -/
lemma sum_mass {s : Finset α} (hs : ∀ e ∈ entries, e.1 ∈ s) :
    ∑ a ∈ s, mass (fun b => b = a) entries = total entries := by
  induction entries with
  | nil => exact Finset.sum_const_zero
  | cons e entries ih =>
    obtain ⟨a, w⟩ := e
    have ha : a ∈ s := hs (a, w) List.mem_cons_self
    simp only [mass_cons, total_cons, Finset.sum_add_distrib]
    rw [Finset.sum_ite_eq, if_pos ha, ih fun e he => hs e (List.mem_cons_of_mem _ he)]

/-- The numbers that have a value are as many as there are numbers for all values. -/
lemma sum_count {s : Finset α} {f : ℕ → Option α} {n : ℕ} (hf : ∀ d < n, ∃ a ∈ s, f d = some a) :
    ∑ a ∈ s, Nat.count (fun d => f d = some a) n = n := by
  induction n with
  | zero => simp
  | succ n ih =>
    obtain ⟨a, ha, hfa⟩ := hf n (Nat.lt_succ_self n)
    simp only [Nat.count_succ, Finset.sum_add_distrib]
    rw [ih fun d hd => hf d (Nat.lt_succ_of_lt hd)]
    simp only [hfa, Option.some.injEq]
    rw [Finset.sum_ite_eq, if_pos ha]

/-- **A table that gives every entry as many numbers as it weighs**, and has a value for each of its
numbers, has as many numbers as the sum says. -/
theorem total_eq_of_count {f : ℕ → Option α} {n : ℕ} (hsome : ∀ d < n, f d ≠ none)
    (hcount : ∀ a, Nat.count (fun d => f d = some a) n = mass (fun b => b = a) entries) :
    total entries = n := by
  set s := (entries.map Prod.fst).toFinset ∪
    (Finset.range n).biUnion fun d => (f d).toFinset with hs
  have hentries : ∀ e ∈ entries, e.1 ∈ s := by
    intro e he
    exact Finset.mem_union_left _ (List.mem_toFinset.mpr (List.mem_map_of_mem he))
  have hvalues : ∀ d < n, ∃ a ∈ s, f d = some a := by
    intro d hd
    obtain ⟨a, ha⟩ := Option.ne_none_iff_exists'.mp (hsome d hd)
    refine ⟨a, Finset.mem_union_right _ ?_, ha⟩
    exact Finset.mem_biUnion.mpr ⟨d, Finset.mem_range.mpr hd, Option.mem_toFinset.mpr ha⟩
  rw [← sum_mass hentries, ← sum_count hvalues]
  exact Finset.sum_congr rfl fun a _ => (hcount a).symm

end Tables

end Cumulative
