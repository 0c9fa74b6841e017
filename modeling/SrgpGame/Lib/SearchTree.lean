import Mathlib.Data.List.Pairwise
import Mathlib.Data.Tree.Basic
import Mathlib.Order.Lattice
import Mathlib.Tactic.Common

set_option autoImplicit false

/-!
# Search trees whose elements may change their keys

A search tree finds its elements by comparing keys on the way down. The keys belong to the elements
and not to the tree: when an element gets another key, nothing tells the tree, and it may no longer
be in order. So each operation takes the keys of the moment. As long as the tree is in order an
operation is one on the sorted list of elements, whatever shape the tree has.

## Main definitions

* `SearchTree.elems` — the elements, from left to right.
* `SearchTree.add`, `SearchTree.remove`, `SearchTree.pollLast` — the operations.
* `SearchTree.Sorted` — the keys increase from left to right.

## Main results

* `elems_add`, `elems_remove`, `elems_pollLast` — what the operations do to a tree that is in order.
* `Sorted.add`, `Sorted.remove`, `Sorted.pollLast` — they keep it in order.

## Implementation notes

Rebalancing keeps the order of the elements and is left out: where the tree is in order its shape
does not matter.
-/

namespace SearchTree

variable {α κ : Type*}

/-- The elements of a tree, from left to right. -/
def elems : BinaryTree α → List α
  | .nil => []
  | .node a l r => elems l ++ a :: elems r

@[simp] lemma elems_nil : elems (.nil : BinaryTree α) = [] := rfl

@[simp] lemma elems_node (a : α) (l r : BinaryTree α) :
    elems (.node a l r) = elems l ++ a :: elems r := rfl

/-- Takes the first element out of the tree that has `a` at its root. -/
def pollFirst (a : α) : BinaryTree α → BinaryTree α → α × BinaryTree α
  | .nil, r => (a, r)
  | .node b l' r', r =>
    let (first, rest) := pollFirst b l' r'
    (first, .node a rest r)

/-- The tree without its last element. -/
def pollLast : BinaryTree α → BinaryTree α
  | .nil => .nil
  | .node _ l .nil => l
  | .node a l (.node b l' r') => .node a l (pollLast (.node b l' r'))

/-- What is left when the root is removed: its successor takes its place. -/
def merge : BinaryTree α → BinaryTree α → BinaryTree α
  | .nil, r => r
  | l, .nil => l
  | l, .node b l' r' =>
    let (first, rest) := pollFirst b l' r'
    .node first l rest

section Operations

variable [LinearOrder κ] (key : α → κ)

/-- Adds an element, unless there is one with the same key. -/
def add (a : α) : BinaryTree α → BinaryTree α
  | .nil => .node a .nil .nil
  | .node b l r =>
    if key a < key b then .node b (add a l) r
    else if key b < key a then .node b l (add a r)
    else .node b l r

/-- Removes the element with the key of `a`, if the way down leads to one. -/
def remove (a : α) : BinaryTree α → BinaryTree α
  | .nil => .nil
  | .node b l r =>
    if key a < key b then .node b (remove a l) r
    else if key b < key a then .node b l (remove a r)
    else merge l r

end Operations

/-! ## The ends of a tree -/

lemma elems_pollFirst (a : α) (l r : BinaryTree α) :
    (pollFirst a l r).1 :: elems (pollFirst a l r).2 = elems l ++ a :: elems r := by
  induction l generalizing a r with
  | nil => rfl
  | node b l' r' ihl _ =>
    show (pollFirst b l' r').1 :: (elems (pollFirst b l' r').2 ++ a :: elems r) = _
    rw [← List.cons_append, ihl b r']
    rfl

@[simp] lemma elems_merge (l r : BinaryTree α) : elems (merge l r) = elems l ++ elems r := by
  cases l with
  | nil => rfl
  | node a l₁ r₁ =>
    cases r with
    | nil => exact (List.append_nil _).symm
    | node b l₂ r₂ =>
      show elems (.node a l₁ r₁) ++ (pollFirst b l₂ r₂).1 :: elems (pollFirst b l₂ r₂).2 = _
      rw [elems_pollFirst]
      rfl

@[simp] lemma elems_pollLast (t : BinaryTree α) : elems (pollLast t) = (elems t).dropLast := by
  fun_induction pollLast t with
  | case1 => rfl
  | case2 a l => simp
  | case3 a l b l' r' ih =>
    rw [elems_node, ih, elems_node a, List.dropLast_append_of_ne_nil (List.cons_ne_nil _ _),
      List.dropLast_cons_of_ne_nil (by simp)]

/-! ## Trees in order -/

section Order

variable [LinearOrder κ] (key : α → κ)

/-- **In order**: the keys increase from left to right. -/
def Sorted (t : BinaryTree α) : Prop := (elems t).Pairwise fun a b => key a < key b

variable {key} {a : α} {t : BinaryTree α}

lemma sorted_node {l r : BinaryTree α} :
    Sorted key (.node a l r) ↔ Sorted key l ∧ Sorted key r ∧
      (∀ b ∈ elems l, key b < key a) ∧ ∀ b ∈ elems r, key a < key b := by
  unfold Sorted
  rw [elems_node, List.pairwise_append, List.pairwise_cons]
  constructor
  · rintro ⟨hl, ⟨har, hr⟩, hlr⟩
    exact ⟨hl, hr, fun b hb => hlr b hb a List.mem_cons_self, har⟩
  · rintro ⟨hl, hr, hla, har⟩
    refine ⟨hl, ⟨har, hr⟩, fun b hb c hc => ?_⟩
    rcases List.mem_cons.mp hc with rfl | hc
    · exact hla b hb
    · exact lt_trans (hla b hb) (har c hc)

/-- Whether a tree is in order depends on the keys of its elements only. -/
lemma sorted_congr {key' : α → κ} (h : ∀ b ∈ elems t, key' b = key b) :
    Sorted key' t ↔ Sorted key t := by
  unfold Sorted
  apply List.Pairwise.iff_of_mem
  intro b c hb hc
  rw [h b hb, h c hc]

/-- An element is added between those that come before it and those that come after. -/
lemma elems_add (h : Sorted key t) (hnew : ∀ b ∈ elems t, key b ≠ key a) :
    elems (add key a t) =
      (elems t).filter (key · < key a) ++ a :: (elems t).filter (key a < key ·) := by
  induction t with
  | nil => rfl
  | node b l r ihl ihr =>
    obtain ⟨hl, hr, hlb, hbr⟩ := sorted_node.mp h
    have hnewl : ∀ c ∈ elems l, key c ≠ key a := fun c hc => hnew c (by simp [hc])
    have hnewr : ∀ c ∈ elems r, key c ≠ key a := fun c hc => hnew c (by simp [hc])
    rw [add]
    by_cases hab : key a < key b
    · have hbefore : (elems r).filter (key · < key a) = [] := List.filter_eq_nil_iff.mpr
        fun c hc => by simpa using le_of_lt (lt_trans hab (hbr c hc))
      have hafter : (elems r).filter (key a < key ·) = elems r := List.filter_eq_self.mpr
        fun c hc => by simpa using lt_trans hab (hbr c hc)
      rw [if_pos hab, elems_node, ihl hl hnewl, elems_node, List.filter_append,
        List.filter_append, List.filter_cons_of_neg (by simpa using le_of_lt hab),
        List.filter_cons_of_pos (by simpa using hab), hbefore, hafter]
      simp
    · have hba : key b < key a := lt_of_le_of_ne (not_lt.mp hab) (hnew b (by simp))
      have hbefore : (elems l).filter (key · < key a) = elems l := List.filter_eq_self.mpr
        fun c hc => by simpa using lt_trans (hlb c hc) hba
      have hafter : (elems l).filter (key a < key ·) = [] := List.filter_eq_nil_iff.mpr
        fun c hc => by simpa using le_of_lt (lt_trans (hlb c hc) hba)
      rw [if_neg hab, if_pos hba, elems_node, ihr hr hnewr, elems_node, List.filter_append,
        List.filter_append, List.filter_cons_of_pos (by simpa using hba),
        List.filter_cons_of_neg (by simpa using le_of_lt hba), hbefore, hafter]
      simp

lemma length_add (h : Sorted key t) (hnew : ∀ b ∈ elems t, key b ≠ key a) :
    (elems (add key a t)).length = (elems t).length + 1 := by
  have hafter : (elems t).filter (key a < key ·) = (elems t).filter fun b => !(key b < key a) := by
    apply List.filter_congr
    intro b hb
    rw [← decide_not, decide_eq_decide, not_lt]
    exact ⟨le_of_lt, fun hle => lt_of_le_of_ne hle (hnew b hb).symm⟩
  have hparts := (List.filter_append_perm (key · < key a) (elems t)).length_eq
  rw [List.length_append, ← hafter] at hparts
  rw [elems_add h hnew, List.length_append, List.length_cons]
  omega

lemma mem_add_self (h : Sorted key t) (hnew : ∀ b ∈ elems t, key b ≠ key a) :
    a ∈ elems (add key a t) := by
  rw [elems_add h hnew]
  simp

/-- An element that is added is taken out again as the last one if all others come before it. -/
lemma not_mem_pollLast_add (h : Sorted key t) (hnew : ∀ b ∈ elems t, key b ≠ key a) :
    a ∉ elems (pollLast (add key a t)) ↔ ∀ b ∈ elems t, key b < key a := by
  have hlast : (elems t).filter (key a < key ·) = [] ↔ ∀ b ∈ elems t, key b < key a := by
    rw [List.filter_eq_nil_iff]
    apply forall₂_congr
    intro b hb
    rw [decide_eq_true_eq, not_lt]
    exact ⟨fun hle => lt_of_le_of_ne hle (hnew b hb), le_of_lt⟩
  rw [elems_pollLast, elems_add h hnew, ← hlast]
  cases (elems t).filter (key a < key ·) with
  | nil => simp
  | cons c after => simp

/-- An element is not added if there is one with the same key. -/
lemma add_of_mem (h : Sorted key t) {b : α} (hb : b ∈ elems t) (hkey : key b = key a) :
    add key a t = t := by
  induction t with
  | nil => cases hb
  | node c l r ihl ihr =>
    obtain ⟨hl, hr, hlc, hcr⟩ := sorted_node.mp h
    rw [add]
    rcases List.mem_append.mp hb with hbl | hbr
    · have hac : key a < key c := hkey ▸ hlc b hbl
      rw [if_pos hac, ihl hl hbl]
    · rcases List.mem_cons.mp hbr with rfl | hbr
      · rw [if_neg (hkey ▸ lt_irrefl _), if_neg (hkey ▸ lt_irrefl _)]
      · have hca : key c < key a := hkey ▸ hcr b hbr
        rw [if_neg (not_lt.mpr (le_of_lt hca)), if_pos hca, ihr hr hbr]

/-- **Removing** takes out the element with the key. -/
lemma elems_remove (h : Sorted key t) (a : α) :
    elems (remove key a t) = (elems t).filter (key · ≠ key a) := by
  induction t with
  | nil => rfl
  | node b l r ihl ihr =>
    obtain ⟨hl, hr, hlb, hbr⟩ := sorted_node.mp h
    have hleft : key b ≤ key a → (elems l).filter (key · ≠ key a) = elems l := fun hle =>
      List.filter_eq_self.mpr fun c hc => by simpa using ne_of_lt (lt_of_lt_of_le (hlb c hc) hle)
    have hright : key a ≤ key b → (elems r).filter (key · ≠ key a) = elems r := fun hle =>
      List.filter_eq_self.mpr fun c hc => by simpa using ne_of_gt (lt_of_le_of_lt hle (hbr c hc))
    rw [remove, elems_node, List.filter_append]
    rcases lt_trichotomy (key a) (key b) with hab | hab | hba
    · rw [if_pos hab, elems_node, ihl hl, List.filter_cons_of_pos (by simpa using ne_of_gt hab),
        hright (le_of_lt hab)]
    · rw [if_neg (hab ▸ lt_irrefl _), if_neg (hab ▸ lt_irrefl _), elems_merge,
        List.filter_cons_of_neg (by simpa using hab.symm), hleft (le_of_eq hab.symm),
        hright (le_of_eq hab)]
    · rw [if_neg (not_lt.mpr (le_of_lt hba)), if_pos hba, elems_node, ihr hr,
        List.filter_cons_of_pos (by simpa using ne_of_lt hba), hleft (le_of_lt hba)]

lemma mem_remove (h : Sorted key t) {b : α} :
    b ∈ elems (remove key a t) ↔ b ∈ elems t ∧ key b ≠ key a := by
  rw [elems_remove h, List.mem_filter, decide_eq_true_eq]

/-- **What is removed is gone**, if the tree is in order. -/
lemma not_mem_remove (h : Sorted key t) (a : α) : a ∉ elems (remove key a t) :=
  fun hmem => ((mem_remove h).mp hmem).2 rfl

lemma Sorted.remove (h : Sorted key t) (a : α) : Sorted key (remove key a t) := by
  unfold Sorted
  rw [elems_remove h]
  exact List.Pairwise.filter _ h

lemma Sorted.pollLast (h : Sorted key t) : Sorted key (pollLast t) := by
  unfold Sorted
  rw [elems_pollLast]
  exact h.sublist (List.dropLast_sublist _)

lemma Sorted.add (h : Sorted key t) (a : α) : Sorted key (add key a t) := by
  by_cases hnew : ∀ b ∈ elems t, key b ≠ key a
  · unfold Sorted
    rw [elems_add h hnew, List.pairwise_append, List.pairwise_cons]
    refine ⟨List.Pairwise.filter _ h, ⟨fun b hb => ?_, List.Pairwise.filter _ h⟩, ?_⟩
    · exact of_decide_eq_true (List.mem_filter.mp hb).2
    · intro b hb c hc
      have hba := of_decide_eq_true (List.mem_filter.mp hb).2
      rcases List.mem_cons.mp hc with rfl | hc
      · exact hba
      · exact lt_trans hba (of_decide_eq_true (List.mem_filter.mp hc).2)
  · push Not at hnew
    obtain ⟨b, hb, hkey⟩ := hnew
    rw [add_of_mem h hb hkey]
    exact h

/-- What is added is there, unless something else has the key. -/
lemma mem_add (h : Sorted key t) {b : α} (hb : b ∈ elems (add key a t)) :
    b = a ∨ b ∈ elems t := by
  by_cases hnew : ∀ b ∈ elems t, key b ≠ key a
  · rw [elems_add h hnew, List.mem_append, List.mem_cons, List.mem_filter, List.mem_filter] at hb
    tauto
  · push Not at hnew
    obtain ⟨c, hc, hkey⟩ := hnew
    rw [add_of_mem h hc hkey] at hb
    exact Or.inr hb

end Order

end SearchTree
