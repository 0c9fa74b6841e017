import Mathlib.Data.List.Nodup
import Mathlib.Data.List.Count
import Mathlib.Logic.Function.Basic
import Mathlib.Tactic.Common

set_option autoImplicit false

/-!
# Batches of work

Work is done in batches. A batch takes some keys, begins the items of one after the other, and
enters its keys in the books when all items are done. While it is open, others may be opened and
closed.

The books are right as long as no batch takes a key that is entered or that an open batch has taken,
and no batch is given up: every item is begun at most once, and for a key that no open batch has
taken, all of its items were begun if it is entered, and none if it is not.

## Main definitions

* `Batch`, `Books` — a batch, and the books.
* `Sound` — the books are right, with the batches that are open.

## Main results

* `Sound.start`, `Sound.begin`, `Sound.close` — what is done keeps the books right.
* `Sound.count_le_one` — every item is begun at most once.
-/

namespace Batches

variable {κ ι : Type*}

/-- A batch: its keys, the items of each, those that were begun and those that are left. -/
structure Batch (κ ι : Type*) where
  keys : List κ
  items : κ → List ι
  begun : List (κ × ι)
  left : List (κ × ι)

/-- All items of a batch, key by key. -/
def Batch.all (b : Batch κ ι) : List (κ × ι) := b.keys.flatMap fun k => (b.items k).map (Prod.mk k)

/-- A batch at its start. -/
def Batch.start (keys : List κ) (items : κ → List ι) : Batch κ ι :=
  ⟨keys, items, [], keys.flatMap fun k => (items k).map (Prod.mk k)⟩

/-- A batch that begins an item. -/
def Batch.begin (b : Batch κ ι) (x : κ × ι) (left : List (κ × ι)) : Batch κ ι :=
  { b with begun := b.begun ++ [x], left := left }

/-- The books: the items of the keys that are entered, and how often each item was begun. -/
structure Books (κ ι : Type*) where
  entered : κ → Option (List ι)
  count : κ × ι → ℕ

/-- Nothing is entered, and nothing was begun. -/
def Books.empty : Books κ ι := ⟨fun _ => none, fun _ => 0⟩

variable [DecidableEq κ] [DecidableEq ι]

/-- Counts an item that is begun. -/
def Books.begin (books : Books κ ι) (x : κ × ι) : Books κ ι :=
  { books with count := Function.update books.count x (books.count x + 1) }

/-- Enters the keys of a batch. -/
def Books.enter (books : Books κ ι) (b : Batch κ ι) : Books κ ι :=
  { books with entered := fun k => if k ∈ b.keys then some (b.items k) else books.entered k }

/-- **The books are right**, with the batches that are open. -/
structure Sound (books : Books κ ι) (batches : List (Batch κ ι)) : Prop where
  nodup : (batches.flatMap Batch.keys).Nodup
  not_entered : ∀ b ∈ batches, ∀ k ∈ b.keys, books.entered k = none
  all_eq : ∀ b ∈ batches, b.begun ++ b.left = b.all
  nodup_items : ∀ b ∈ batches, ∀ k ∈ b.keys, (b.items k).Nodup
  /-- The items of a key that is entered were begun, each once. -/
  entered : ∀ {k items}, books.entered k = some items →
    items.Nodup ∧ ∀ i, books.count (k, i) = items.count i
  /-- The items of a key of an open batch. -/
  taken : ∀ b ∈ batches, ∀ k ∈ b.keys, ∀ i, books.count (k, i) = b.begun.count (k, i)
  /-- No item of any other key was begun. -/
  idle : ∀ {k}, books.entered k = none → (∀ b ∈ batches, k ∉ b.keys) → ∀ i, books.count (k, i) = 0

/-! ## The items of a batch -/

section Items

variable {items : κ → List ι} {keys : List κ} {k : κ}

lemma count_map_mk (i : ι) (l : List ι) (k' : κ) :
    (l.map (Prod.mk k')).count (k, i) = if k' = k then l.count i else 0 := by
  induction l with
  | nil => simp
  | cons j l ih =>
    rw [List.map_cons, List.count_cons, ih, List.count_cons]
    by_cases hk : k' = k
    · simp [hk]
    · simp [hk]

/-- Every key has its own items. -/
lemma count_items (hnodup : keys.Nodup) (i : ι) :
    (keys.flatMap fun k => (items k).map (Prod.mk k)).count (k, i) =
      if k ∈ keys then (items k).count i else 0 := by
  induction keys with
  | nil => simp
  | cons k' keys ih =>
    obtain ⟨hnew, hnodup⟩ := List.nodup_cons.mp hnodup
    rw [List.flatMap_cons, List.count_append, ih hnodup, count_map_mk]
    by_cases hk : k' = k
    · subst hk
      simp [hnew]
    · simp [hk, Ne.symm hk]

end Items

/-! ## What keeps the books right -/

variable {books : Books κ ι} {b : Batch κ ι} {batches : List (Batch κ ι)}

omit [DecidableEq ι] in
lemma entered_enter (k : κ) :
    (books.enter b).entered k = if k ∈ b.keys then some (b.items k) else books.entered k := rfl

lemma sound_empty : Sound (Books.empty : Books κ ι) [] where
  nodup := List.nodup_nil
  not_entered := nofun
  all_eq := nofun
  nodup_items := nofun
  entered := nofun
  taken := nofun
  idle := fun _ _ _ => rfl

namespace Sound

/-- The keys of the newest batch are those of no other. -/
lemma not_mem_of_mem (h : Sound books (b :: batches)) {k : κ} (hk : k ∈ b.keys) :
    ∀ b' ∈ batches, k ∉ b'.keys := by
  intro b' hb' hk'
  have hnodup := h.nodup
  rw [List.flatMap_cons, List.nodup_append] at hnodup
  exact hnodup.2.2 k hk k (List.mem_flatMap.mpr ⟨b', hb', hk'⟩) rfl

/-- **A batch is started** on keys that are neither entered nor taken. -/
theorem start (h : Sound books batches) {keys : List κ} {items : κ → List ι} (hkeys : keys.Nodup)
    (hnew : ∀ k ∈ keys, books.entered k = none) (hfree : ∀ k ∈ keys, ∀ b ∈ batches, k ∉ b.keys)
    (hitems : ∀ k ∈ keys, (items k).Nodup) : Sound books (.start keys items :: batches) where
  nodup := by
    rw [List.flatMap_cons, List.nodup_append]
    refine ⟨hkeys, h.nodup, fun k hk k' hk' heq => ?_⟩
    obtain ⟨b, hb, hmem⟩ := List.mem_flatMap.mp hk'
    exact hfree k hk b hb (heq ▸ hmem)
  not_entered := List.forall_mem_cons.mpr ⟨hnew, h.not_entered⟩
  all_eq := List.forall_mem_cons.mpr ⟨rfl, h.all_eq⟩
  nodup_items := List.forall_mem_cons.mpr ⟨hitems, h.nodup_items⟩
  entered := h.entered
  taken := by
    refine List.forall_mem_cons.mpr ⟨fun k hk i => ?_, h.taken⟩
    rw [h.idle (hnew k hk) (hfree k hk) i]
    rfl
  idle := fun hnone hfree' =>
    h.idle hnone fun b hb => hfree' b (List.mem_cons_of_mem _ hb)

/-- **An item is begun.** -/
theorem begin (h : Sound books (b :: batches)) {x : κ × ι} {left : List (κ × ι)}
    (hleft : b.left = x :: left) : Sound (books.begin x) (b.begin x left :: batches) := by
  obtain ⟨hall, halls⟩ := List.forall_mem_cons.mp h.all_eq
  obtain ⟨hitems, hitemss⟩ := List.forall_mem_cons.mp h.nodup_items
  obtain ⟨htaken, htakens⟩ := List.forall_mem_cons.mp h.taken
  obtain ⟨hnone, hnones⟩ := List.forall_mem_cons.mp h.not_entered
  rw [hleft] at hall
  have hmem : x.1 ∈ b.keys := by
    have hx : x ∈ b.all := hall ▸ List.mem_append_right _ List.mem_cons_self
    obtain ⟨k, hk, hx⟩ := List.mem_flatMap.mp hx
    obtain ⟨i, -, rfl⟩ := List.mem_map.mp hx
    exact hk
  have hothers : ∀ k, k ≠ x.1 → ∀ i, (books.begin x).count (k, i) = books.count (k, i) := by
    intro k hk i
    exact Function.update_of_ne (fun heq => hk (congrArg Prod.fst heq)) ..
  refine ⟨h.nodup, List.forall_mem_cons.mpr ⟨hnone, hnones⟩, ?_, ?_, ?_, ?_, ?_⟩
  · refine List.forall_mem_cons.mpr ⟨?_, halls⟩
    rw [Batch.begin, List.append_assoc, List.singleton_append]
    exact hall
  · exact List.forall_mem_cons.mpr ⟨hitems, hitemss⟩
  · intro k items hentered
    have hk : k ≠ x.1 := by
      rintro rfl
      exact absurd ((hnone _ hmem).symm.trans hentered) nofun
    refine ⟨(h.entered hentered).1, fun i => ?_⟩
    rw [hothers k hk, (h.entered hentered).2 i]
  · refine List.forall_mem_cons.mpr ⟨fun k hk i => ?_, fun b' hb' k hk i => ?_⟩
    · show Function.update books.count x (books.count x + 1) (k, i) = (b.begun ++ [x]).count (k, i)
      rw [List.count_append, ← htaken k hk i, Function.update_apply]
      split_ifs with heq
      · rw [heq, List.count_singleton_self]
      · rw [List.count_eq_zero.mpr fun hmem' => heq (List.mem_singleton.mp hmem'), Nat.add_zero]
    · have hne : k ≠ x.1 := by
        rintro rfl
        exact h.not_mem_of_mem hmem b' hb' hk
      rw [hothers k hne, htakens b' hb' k hk i]
  · intro k hentered hfree i
    have hne : k ≠ x.1 := by
      rintro rfl
      exact hfree (b.begin x left) List.mem_cons_self hmem
    obtain ⟨hfree, hfrees⟩ := List.forall_mem_cons.mp hfree
    rw [hothers k hne]
    exact h.idle hentered (List.forall_mem_cons.mpr ⟨hfree, hfrees⟩) i

/-- **A batch is closed** when all of its items were begun. -/
theorem close (h : Sound books (b :: batches)) (hleft : b.left = []) :
    Sound (books.enter b) batches := by
  obtain ⟨hall, halls⟩ := List.forall_mem_cons.mp h.all_eq
  obtain ⟨hitems, hitemss⟩ := List.forall_mem_cons.mp h.nodup_items
  obtain ⟨htaken, htakens⟩ := List.forall_mem_cons.mp h.taken
  obtain ⟨hnone, hnones⟩ := List.forall_mem_cons.mp h.not_entered
  have hnodup := h.nodup
  rw [List.flatMap_cons, List.nodup_append] at hnodup
  rw [hleft, List.append_nil] at hall
  refine ⟨hnodup.2.1, ?_, halls, hitemss, ?_, htakens, ?_⟩
  · intro b' hb' k hk
    have hother : k ∉ b.keys := fun hk' => h.not_mem_of_mem hk' b' hb' hk
    rw [entered_enter, if_neg hother]
    exact hnones b' hb' k hk
  · intro k items hentered
    rw [entered_enter] at hentered
    split_ifs at hentered with hk
    · obtain rfl := Option.some.inj hentered
      refine ⟨hitems k hk, fun i => ?_⟩
      show books.count (k, i) = _
      rw [htaken k hk i, hall, Batch.all, count_items hnodup.1, if_pos hk]
    · exact h.entered hentered
  · intro k hentered hfree i
    rw [entered_enter] at hentered
    split_ifs at hentered with hk
    exact h.idle hentered (List.forall_mem_cons.mpr ⟨hk, hfree⟩) i

/-- **Every item is begun at most once.** -/
theorem count_le_one (h : Sound books batches) (x : κ × ι) : books.count x ≤ 1 := by
  obtain ⟨k, i⟩ := x
  cases hentered : books.entered k with
  | some items =>
    obtain ⟨hnodup, hcount⟩ := h.entered hentered
    rw [hcount i]
    exact List.nodup_iff_count_le_one.mp hnodup i
  | none =>
    by_cases htaken : ∃ b ∈ batches, k ∈ b.keys
    · obtain ⟨b, hb, hk⟩ := htaken
      have hkeys : b.keys.Nodup := (List.nodup_flatMap.mp h.nodup).1 b hb
      calc books.count (k, i) = b.begun.count (k, i) := h.taken b hb k hk i
        _ ≤ (b.begun ++ b.left).count (k, i) :=
          List.Sublist.count_le _ (List.sublist_append_left ..)
        _ = (b.items k).count i := by
            rw [h.all_eq b hb, Batch.all, count_items hkeys, if_pos hk]
        _ ≤ 1 := List.nodup_iff_count_le_one.mp (h.nodup_items b hb k hk) i
    · have hfree : ∀ b ∈ batches, k ∉ b.keys := fun b hb hk => htaken ⟨b, hb, hk⟩
      rw [h.idle hentered hfree i]
      exact Nat.zero_le 1

end Sound

end Batches
