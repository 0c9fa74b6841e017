import Mathlib.Data.List.AList
import Mathlib.Tactic.Common

set_option autoImplicit false

/-!
# State rebuilt from the entries of a map

Some state is not saved but built anew from the entries of a saved map, one after another. While the
map changes, the state is kept up to date by single bookings. If bookings commute, the order of the
entries does not matter; and if two bookings on a key are one booking of the sum, then the state
that was kept up to date is the one that would be built anew.

## Main definitions

* `rebuild` — the state built from the entries of a map.

## Main results

* `rebuild_congr` — maps with the same entries, in any order, build the same state.
* `rebuild_insert_new`, `rebuild_insert_add` — a changed entry is one booking on the state.
-/

namespace Rebuild

variable {α β σ : Type} (book : σ → α → β → σ)

/-- The state after the entries of a list are booked. -/
def bookAll (s : σ) (entries : List (Sigma fun _ : α => β)) : σ :=
  entries.foldl (fun s e => book s e.1 e.2) s

/-- Bookings can be exchanged. -/
def Commutes : Prop :=
  ∀ s a b a' b', book (book s a b) a' b' = book (book s a' b') a b

variable {book} {s : σ} {a : α} {b : β}

/-- A booking can be made last. -/
lemma Commutes.bookAll_book (hcomm : Commutes book) (entries : List (Sigma fun _ : α => β)) :
    bookAll book (book s a b) entries = book (bookAll book s entries) a b := by
  induction entries generalizing s with
  | nil => rfl
  | cons e entries ih =>
    unfold bookAll at ih ⊢
    rw [List.foldl_cons, List.foldl_cons, hcomm s a b, ih]

/-- The order of bookings does not matter. -/
lemma Commutes.bookAll_perm (hcomm : Commutes book) {l l' : List (Sigma fun _ : α => β)}
    (hperm : l.Perm l') : bookAll book s l = bookAll book s l' :=
  hperm.foldl_eq' (fun _ _ _ _ z => hcomm z _ _ _ _) s

variable [DecidableEq α]

/-- **The state built from a map**: its entries are booked one after another. -/
def rebuild (book : σ → α → β → σ) (s : σ) (m : AList fun _ : α => β) : σ :=
  bookAll book s m.entries

variable {m m' : AList fun _ : α => β}

/-- **Maps with the same entries build the same state.** -/
theorem Commutes.rebuild_congr (hcomm : Commutes book)
    (h : ∀ k, m.lookup k = m'.lookup k) : rebuild book s m = rebuild book s m' := by
  refine hcomm.bookAll_perm (List.lookup_ext m.nodupKeys m'.nodupKeys fun k v => ?_)
  have hlookup : List.dlookup k m.entries = List.dlookup k m'.entries := h k
  rw [hlookup]

/-- A new entry is booked. -/
theorem Commutes.rebuild_insert_new (hcomm : Commutes book) (h : m.lookup a = none) :
    rebuild book s (m.insert a b) = book (rebuild book s m) a b := by
  have hkeys : a ∉ m.entries.keys := AList.lookup_eq_none.mp h
  unfold rebuild
  rw [AList.entries_insert, List.kerase_of_notMem_keys hkeys]
  exact hcomm.bookAll_book m.entries

/-- **What is added to an entry is booked.** -/
theorem Commutes.rebuild_insert_add [Add β] (hcomm : Commutes book)
    (hadd : ∀ s a b d, book (book s a b) a d = book s a (b + d)) {d : β}
    (h : m.lookup a = some b) :
    rebuild book s (m.insert a (b + d)) = book (rebuild book s m) a d := by
  have hkeys : a ∈ m.entries.keys := AList.mem_keys.mp (AList.lookup_isSome.mp (by rw [h]; rfl))
  obtain ⟨b', l₁, l₂, -, hentries, hrest⟩ := List.exists_of_kerase hkeys
  obtain rfl : b' = b := by
    have hmem : ⟨a, b'⟩ ∈ m.entries := by simp [hentries]
    have hlookup : b' ∈ m.lookup a := AList.mem_lookup_iff.mpr hmem
    rw [h] at hlookup
    exact (Option.some.inj hlookup).symm
  have hfront : bookAll book s m.entries = bookAll book (book s a b') (l₁ ++ l₂) := by
    rw [hentries]
    exact hcomm.bookAll_perm List.perm_middle
  unfold rebuild
  rw [AList.entries_insert, hrest, hfront]
  calc bookAll book s (⟨a, b' + d⟩ :: (l₁ ++ l₂))
      = bookAll book (book (book s a b') a d) (l₁ ++ l₂) := by rw [hadd]; rfl
    _ = book (bookAll book (book s a b') (l₁ ++ l₂)) a d := hcomm.bookAll_book _

end Rebuild
