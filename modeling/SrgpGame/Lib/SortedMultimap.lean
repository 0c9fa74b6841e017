import Mathlib.Data.List.AList
import SrgpGame.Lib.Comparator

set_option autoImplicit false

/-!
# Multimaps in the order of a comparator

A tree that is sorted by a comparator, with a list of values under each key. Here it is the list of
its entries. Its contents are the pairs of a key and a value; a tail of the tree has those whose
keys do not come before a given one.

## Main definitions

* `Comparator.Lawful` — the comparator is that of a linear order.
* `SortedMultimap` — a multimap, with its entries in order.
* `SortedMultimap.put`, `SortedMultimap.tailMap` — the operations.
* `SortedMultimap.pairs` — the contents.
* `AList.contents` — the contents of all lists that are kept under categories.

## Main results

* `SortedMultimap.perm_pairs_put` — what is put is added to the contents.
* `SortedMultimap.pairs_tailMap` — the contents of a tail.
* `AList.perm_filter_contents` — the contents of one category.

## Design notes

The tail is found as a tree finds it, at the first key that does not come before the given one. That
all the others follow is what the order of the entries is for.
-/

namespace Comparator

variable {κ : Type*}

/-- **A lawful comparator**: that of a linear order, which is zero for equal elements only. -/
class Lawful (cmp : κ → κ → Int32) : Prop where
  neg_iff : ∀ a b, cmp a b < 0 ↔ 0 < cmp b a
  zero_iff : ∀ a b, cmp a b = 0 ↔ a = b
  trans : ∀ a b c, cmp a b < 0 → cmp b c < 0 → cmp a c < 0

lemma zero_of_not_neg_of_not_pos {x : Int32} (hneg : ¬x < 0) (hpos : ¬0 < x) : x = 0 := by
  rw [Int32.lt_iff_toInt_lt, Int32.toInt_zero] at hneg hpos
  apply Int32.toInt_inj.mp
  rw [Int32.toInt_zero]
  omega

end Comparator

open Comparator

/-- **A multimap**: the keys in the order of the comparator, each with the list of its values. -/
structure SortedMultimap {κ : Type*} (cmp : κ → κ → Int32) (ν : Type*) where
  entries : List (κ × List ν)
  sorted : entries.Pairwise fun a b => cmp a.1 b.1 < 0

namespace SortedMultimap

variable {κ ν : Type*} {cmp : κ → κ → Int32}

instance : EmptyCollection (SortedMultimap cmp ν) := ⟨⟨[], List.Pairwise.nil⟩⟩

/-- Puts a value under a key, at the end of the list that is there. -/
def putEntries (cmp : κ → κ → Int32) (key : κ) (value : ν) :
    List (κ × List ν) → List (κ × List ν)
  | [] => [(key, [value])]
  | (k, values) :: rest =>
    if cmp key k < 0 then (key, [value]) :: (k, values) :: rest
    else if 0 < cmp key k then (k, values) :: putEntries cmp key value rest
    else (k, values ++ [value]) :: rest

/-- The keys of the entries are the old ones and the new one. -/
lemma key_of_mem_putEntries {key : κ} {value : ν} {entries : List (κ × List ν)} {e : κ × List ν}
    (h : e ∈ putEntries cmp key value entries) : e.1 = key ∨ ∃ e' ∈ entries, e'.1 = e.1 := by
  induction entries with
  | nil =>
    rw [putEntries, List.mem_singleton] at h
    exact .inl (h ▸ rfl)
  | cons entry rest ih =>
    obtain ⟨k, values⟩ := entry
    unfold putEntries at h
    split_ifs at h
    · rcases List.mem_cons.mp h with rfl | h
      · exact .inl rfl
      · exact .inr ⟨e, h, rfl⟩
    · rcases List.mem_cons.mp h with rfl | h
      · exact .inr ⟨_, List.mem_cons_self, rfl⟩
      · refine (ih h).imp_right ?_
        rintro ⟨e', he', hkey⟩
        exact ⟨e', List.mem_cons_of_mem _ he', hkey⟩
    · rcases List.mem_cons.mp h with rfl | h
      · exact .inr ⟨_, List.mem_cons_self, rfl⟩
      · exact .inr ⟨e, List.mem_cons_of_mem _ h, rfl⟩

lemma sorted_putEntries [Lawful cmp] (key : κ) (value : ν) {entries : List (κ × List ν)}
    (h : entries.Pairwise fun a b => cmp a.1 b.1 < 0) :
    (putEntries cmp key value entries).Pairwise fun a b => cmp a.1 b.1 < 0 := by
  induction entries with
  | nil => exact List.pairwise_singleton _ _
  | cons entry rest ih =>
    obtain ⟨k, values⟩ := entry
    obtain ⟨hfirst, hrest⟩ := List.pairwise_cons.mp h
    unfold putEntries
    split_ifs with hneg hpos
    · refine List.pairwise_cons.mpr ⟨fun e he => ?_, h⟩
      rcases List.mem_cons.mp he with rfl | he
      · exact hneg
      · exact Lawful.trans _ _ _ hneg (hfirst e he)
    · refine List.pairwise_cons.mpr ⟨fun e he => ?_, ih hrest⟩
      rcases key_of_mem_putEntries he with hkey | ⟨e', he', hkey⟩
      · rw [hkey]
        exact (Lawful.neg_iff _ _).mpr hpos
      · rw [← hkey]
        exact hfirst e' he'
    · exact List.pairwise_cons.mpr ⟨hfirst, hrest⟩

/-- `put`. -/
def put [Lawful cmp] (key : κ) (value : ν) (m : SortedMultimap cmp ν) : SortedMultimap cmp ν :=
  ⟨putEntries cmp key value m.entries, sorted_putEntries key value m.sorted⟩

/-- `tailMap`: the entries from the first one on that does not come before the key. -/
def tailMap (fromKey : κ) (m : SortedMultimap cmp ν) : SortedMultimap cmp ν :=
  ⟨m.entries.dropWhile fun e => cmp e.1 fromKey < 0,
    m.sorted.sublist (List.dropWhile_sublist _)⟩

/-- The pairs of the keys and values of some entries. -/
def pairsOf (entries : List (κ × List ν)) : List (κ × ν) :=
  entries.flatMap fun e => e.2.map (Prod.mk e.1)

/-- **The contents.** -/
def pairs (m : SortedMultimap cmp ν) : List (κ × ν) := pairsOf m.entries

/-- `values`. -/
def values (m : SortedMultimap cmp ν) : List ν := m.entries.flatMap Prod.snd

/-! ## The contents -/

@[simp] lemma pairsOf_cons (e : κ × List ν) (entries : List (κ × List ν)) :
    pairsOf (e :: entries) = e.2.map (Prod.mk e.1) ++ pairsOf entries := rfl

@[simp] lemma pairs_empty : (∅ : SortedMultimap cmp ν).pairs = [] := rfl

lemma map_snd_pairs (m : SortedMultimap cmp ν) : m.pairs.map Prod.snd = m.values := by
  unfold pairs pairsOf values
  rw [List.map_flatMap]
  simp

/-- **What is put** is added to the contents. -/
theorem perm_pairs_put [Lawful cmp] (key : κ) (value : ν) (m : SortedMultimap cmp ν) :
    (m.put key value).pairs.Perm ((key, value) :: m.pairs) := by
  suffices h : ∀ entries : List (κ × List ν),
      (pairsOf (putEntries cmp key value entries)).Perm ((key, value) :: pairsOf entries) from
    h m.entries
  intro entries
  induction entries with
  | nil => exact .refl _
  | cons entry rest ih =>
    obtain ⟨k, values⟩ := entry
    unfold putEntries
    split_ifs with hneg hpos
    · exact .refl _
    · exact (ih.append_left _).trans List.perm_middle
    · obtain rfl : key = k := (Lawful.zero_iff _ _).mp (zero_of_not_neg_of_not_pos hneg hpos)
      simp only [pairsOf_cons, List.map_append, List.map_cons, List.map_nil, List.append_assoc,
        List.singleton_append]
      exact List.perm_middle

/-- **A tail** has what does not come before its key. -/
theorem pairs_tailMap [Lawful cmp] (fromKey : κ) (m : SortedMultimap cmp ν) :
    (m.tailMap fromKey).pairs = m.pairs.filter fun p => ¬cmp p.1 fromKey < 0 := by
  suffices h : ∀ entries : List (κ × List ν), entries.Pairwise (fun a b => cmp a.1 b.1 < 0) →
      pairsOf (entries.dropWhile fun e => cmp e.1 fromKey < 0) =
        (pairsOf entries).filter fun p => ¬cmp p.1 fromKey < 0 from
    h m.entries m.sorted
  intro entries hsorted
  induction entries with
  | nil => rfl
  | cons entry rest ih =>
    obtain ⟨hfirst, hrest⟩ := List.pairwise_cons.mp hsorted
    by_cases hneg : cmp entry.1 fromKey < 0
    · have hnone : (entry.2.map (Prod.mk entry.1)).filter (fun p => ¬cmp p.1 fromKey < 0) = [] := by
        rw [List.filter_eq_nil_iff]
        intro p hp
        obtain ⟨v, -, rfl⟩ := List.mem_map.mp hp
        simpa using hneg
      rw [List.dropWhile_cons_of_pos (by simpa using hneg), ih hrest, pairsOf_cons,
        List.filter_append, hnone, List.nil_append]
    · -- the keys of the others come after this one
      rw [List.dropWhile_cons_of_neg (by simpa using hneg), List.filter_eq_self.mpr]
      intro p hp
      have hkey : p.1 = entry.1 ∨ cmp entry.1 p.1 < 0 := by
        rw [pairsOf_cons, List.mem_append] at hp
        rcases hp with hp | hp
        · obtain ⟨v, -, rfl⟩ := List.mem_map.mp hp
          exact .inl rfl
        · obtain ⟨e, he, hp⟩ := List.mem_flatMap.mp hp
          obtain ⟨v, -, rfl⟩ := List.mem_map.mp hp
          exact .inr (hfirst e he)
      rcases hkey with hkey | hkey
      · simpa [hkey] using hneg
      · simpa using fun hp => hneg (Lawful.trans _ _ _ hkey hp)

end SortedMultimap

/-! ## Lists under categories -/

namespace AList

variable {α β γ : Type*} [DecidableEq α]

/-- What the values of a map contain, with their keys. -/
def contents (f : β → List γ) (m : AList fun _ : α => β) : List (α × γ) :=
  m.entries.flatMap fun e => (f e.2).map (Prod.mk e.1)

variable {f : β → List γ} {m : AList fun _ : α => β}

lemma contents_insert (a : α) (b : β) :
    (m.insert a b).contents f = (f b).map (Prod.mk a) ++ (m.erase a).contents f := by
  unfold contents
  rw [entries_insert]
  rfl

/-- The contents are those of one key and the rest. -/
lemma perm_contents (a : α) :
    (m.contents f).Perm (((m.lookup a).elim [] f).map (Prod.mk a) ++ (m.erase a).contents f) := by
  by_cases ha : a ∈ m
  · obtain ⟨b, l₁, l₂, -, hentries, hrest⟩ := List.exists_of_kerase (mem_keys.mp ha)
    have hlookup : m.lookup a = some b := mem_lookup_iff.mpr (by rw [hentries]; simp)
    have herase : (m.erase a).entries = l₁ ++ l₂ := hrest
    unfold contents
    rw [hlookup, hentries, herase]
    simp only [List.flatMap_append, List.flatMap_cons, Option.elim_some]
    exact List.perm_append_comm_assoc _ _ _
  · have herase : (m.erase a).entries = m.entries :=
      List.kerase_of_notMem_keys (mem_keys.not.mp ha)
    unfold contents
    rw [lookup_eq_none.mpr ha, herase]
    exact .refl _

lemma fst_ne_of_mem_contents_erase {a : α} {t : α × γ} (h : t ∈ (m.erase a).contents f) :
    t.1 ≠ a := by
  obtain ⟨e, he, ht⟩ := List.mem_flatMap.mp h
  obtain ⟨c, -, rfl⟩ := List.mem_map.mp ht
  have hkey : e.1 ∈ (m.erase a).keys := List.mem_map_of_mem he
  exact (mem_erase.mp (mem_keys.mpr hkey)).1

/-- **The contents of one key** that fulfil a condition. -/
theorem perm_filter_contents (a : α) (p : γ → Bool) :
    ((m.contents f).filter fun t => t.1 = a ∧ p t.2).Perm
      ((((m.lookup a).elim [] f).filter p).map (Prod.mk a)) := by
  refine ((perm_contents a).filter _).trans ?_
  have hrest : ((m.erase a).contents f).filter (fun t => t.1 = a ∧ p t.2) = [] := by
    rw [List.filter_eq_nil_iff]
    intro t ht
    simp [fst_ne_of_mem_contents_erase ht]
  rw [List.filter_append, hrest, List.append_nil, List.filter_map]
  simp [Function.comp_def]

end AList
