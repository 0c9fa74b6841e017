import Mathlib.Data.List.AList
import Mathlib.Algebra.Order.Group.Int
import Mathlib.Algebra.Order.Ring.Int
import Mathlib.Tactic.Common
import Mathlib.Tactic.Ring

set_option autoImplicit false

/-!
# Machine integers and maps

Java's `int` and `long` are Lean's `Int32` and `Int64`: both wrap in two's complement. Java's
`Map` is `AList`, an association list whose keys are pairwise different. This file has the facts
about them that proofs about Java code need: when an operation does not wrap, and what a lookup
finds after an update.

## Main results

* `Int32.toInt_add_of_fits`, `Int64.toInt_add_of_fits` — a sum in range is exact.
* `Int32.toInt_abs_of_ne` — `Math.abs` is the absolute value except at the least integer.
* `AList.lookup_insert_ite` — a lookup after an update, as one conditional.
* `AList.lookup_putAll_of_mem` — a map filled from a list has the elements under their keys.
-/

/-! ## 32-bit integers -/

namespace Int32

/-- A 32-bit sum that lies in range is exact. -/
lemma toInt_add_of_fits {a b : Int32} (h₁ : -2 ^ 31 ≤ a.toInt + b.toInt)
    (h₂ : a.toInt + b.toInt < 2 ^ 31) : (a + b).toInt = a.toInt + b.toInt := by
  rw [toInt_add]
  exact Int.bmod_eq_of_le_mul_two (by norm_num; omega) (by norm_num; omega)

/-- One more is exact, if it is in range. -/
lemma toInt_succ_of_fits {a : Int32} (h : a.toInt + 1 < 2 ^ 31) :
    (a + 1).toInt = a.toInt + 1 := by
  have hone : (1 : Int32).toInt = 1 := rfl
  have hmin := a.le_toInt
  rw [toInt_add_of_fits (by omega) (by omega), hone]

/-- It is in range, if there is a larger number. -/
lemma toInt_succ_of_lt {a b : Int32} (h : a < b) : (a + 1).toInt = a.toInt + 1 := by
  have hlt := lt_iff_toInt_lt.mp h
  have hmax := b.toInt_lt
  exact toInt_succ_of_fits (by omega)

/-- `Math.abs` computes the absolute value, except that it keeps `Integer.MIN_VALUE`. -/
lemma toInt_abs_of_ne {a : Int32} (h : a.toInt ≠ -2 ^ 31) : a.abs.toInt = |a.toInt| := by
  have hmin : a.toBitVec ≠ BitVec.intMin 32 := by
    intro ha
    apply h
    rw [← toInt_toBitVec, ha]
    decide
  rw [← toInt_toBitVec, ← toInt_toBitVec]
  change a.toBitVec.abs.toInt = _
  rw [BitVec.toInt_abs_eq_natAbs_of_ne_intMin hmin, Int.abs_eq_natAbs]

/-- A 32-bit difference that lies in range is exact. -/
lemma toInt_sub_of_fits {a b : Int32} (h₁ : -2 ^ 31 ≤ a.toInt - b.toInt)
    (h₂ : a.toInt - b.toInt < 2 ^ 31) : (a - b).toInt = a.toInt - b.toInt := by
  rw [toInt_sub]
  exact Int.bmod_eq_of_le_mul_two (by norm_num; omega) (by norm_num; omega)

/-- A sum that may be too large for 32 bits. -/
lemma toInt_add_eq_ite {a b : Int32} (h : -2 ^ 31 ≤ a.toInt + b.toInt) :
    (a + b).toInt =
      if a.toInt + b.toInt < 2 ^ 31 then a.toInt + b.toInt else a.toInt + b.toInt - 2 ^ 32 := by
  have ha := a.toInt_lt
  have hb := b.toInt_lt
  rw [toInt_add, Int.bmod_def]
  split_ifs <;> omega

/-- A difference that may be too large for 32 bits. -/
lemma toInt_sub_eq_ite {a b : Int32} (h : -2 ^ 31 ≤ a.toInt - b.toInt) :
    (a - b).toInt =
      if a.toInt - b.toInt < 2 ^ 31 then a.toInt - b.toInt else a.toInt - b.toInt - 2 ^ 32 := by
  have ha := a.toInt_lt
  have hb := b.le_toInt
  rw [toInt_sub, Int.bmod_def]
  split_ifs <;> omega

lemma toInt_max (a b : Int32) : (max a b).toInt = max a.toInt b.toInt := by
  have hmax : max a b = if a ≤ b then b else a := rfl
  rw [hmax]
  split
  · next h => rw [max_eq_right (le_iff_toInt_le.mp h)]
  · next h => rw [max_eq_left (le_iff_toInt_le.mp (Int32.le_of_lt (Int32.not_le.mp h)))]

lemma toInt_min (a b : Int32) : (min a b).toInt = min a.toInt b.toInt := by
  have hmin : min a b = if a ≤ b then a else b := rfl
  rw [hmin]
  split
  · next h => rw [min_eq_left (le_iff_toInt_le.mp h)]
  · next h => rw [min_eq_right (le_iff_toInt_le.mp (Int32.le_of_lt (Int32.not_le.mp h)))]

/-- An integer that is not negative is the number it has as a natural one. -/
lemma ofNat_toNat_of_nonneg {a : Int32} (h : 0 ≤ a) : ofNat a.toInt.toNat = a := by
  have h' := le_iff_toInt_le.mp h
  rw [toInt_zero] at h'
  rw [← ofInt_eq_ofNat, Int.toNat_of_nonneg h', ofInt_toInt]

lemma lt_zero_iff {a : Int32} : a < 0 ↔ a.toInt < 0 := by
  rw [lt_iff_toInt_lt, toInt_zero]

end Int32

/-! ## 64-bit integers -/

namespace Int64

/-- A 64-bit sum that lies in range is exact. -/
lemma toInt_add_of_fits {a b : Int64} (h₁ : -2 ^ 63 ≤ a.toInt + b.toInt)
    (h₂ : a.toInt + b.toInt < 2 ^ 63) : (a + b).toInt = a.toInt + b.toInt := by
  rw [toInt_add]
  exact Int.bmod_eq_of_le_mul_two (by norm_num; omega) (by norm_num; omega)

lemma toInt_min (a b : Int64) : (min a b).toInt = min a.toInt b.toInt := by
  have hmin : min a b = if a ≤ b then a else b := rfl
  rw [hmin]
  split
  · next h => rw [min_eq_left (le_iff_toInt_le.mp h)]
  · next h => rw [min_eq_right (le_iff_toInt_le.mp (Int64.le_of_lt (Int64.not_le.mp h)))]

/-- `Math.abs` computes the absolute value, except that it keeps `Long.MIN_VALUE`. -/
lemma toInt_abs_of_ne {a : Int64} (h : a.toInt ≠ -2 ^ 63) : a.abs.toInt = |a.toInt| := by
  have hmin : a.toBitVec ≠ BitVec.intMin 64 := by
    intro ha
    apply h
    rw [← toInt_toBitVec, ha]
    decide
  rw [← toInt_toBitVec, ← toInt_toBitVec]
  change a.toBitVec.abs.toInt = _
  rw [BitVec.toInt_abs_eq_natAbs_of_ne_intMin hmin, Int.abs_eq_natAbs]

end Int64

/-! ## Maps -/

namespace AList

variable {α β : Type*} [DecidableEq α]

/-- A lookup after an update: the new value at the updated key, the old one elsewhere. -/
lemma lookup_insert_ite (m : AList fun _ : α => β) (k k' : α) (v : β) :
    (m.insert k v).lookup k' = if k' = k then some v else m.lookup k' := by
  by_cases h : k' = k
  · subst h
    rw [if_pos rfl, lookup_insert]
  · rw [if_neg h, lookup_insert_ne h]

/-- A lookup after a removal. -/
lemma lookup_erase_ite (m : AList fun _ : α => β) (k k' : α) :
    (m.erase k).lookup k' = if k' = k then none else m.lookup k' := by
  by_cases h : k' = k
  · subst h
    rw [if_pos rfl, lookup_erase]
  · rw [if_neg h, lookup_erase_ne h]

/-- `Map.getOrDefault`. -/
def getOrDefault (m : AList fun _ : α => β) (k : α) (d : β) : β :=
  (m.lookup k).getD d

lemma getOrDefault_insert (m : AList fun _ : α => β) (k k' : α) (v d : β) :
    (m.insert k v).getOrDefault k' d = if k' = k then v else m.getOrDefault k' d := by
  rw [getOrDefault, lookup_insert_ite]
  split <;> rfl

@[simp] lemma getOrDefault_empty (k : α) (d : β) :
    (∅ : AList fun _ : α => β).getOrDefault k d = d := rfl

/-- The entries whose keys satisfy `p`. -/
def filterKeys (m : AList fun _ : α => β) (p : α → Bool) : AList fun _ : α => β :=
  ⟨m.entries.filter fun entry => p entry.1, m.nodupKeys.sublist List.filter_sublist⟩

/-- A lookup after filtering the keys. -/
lemma lookup_filterKeys (m : AList fun _ : α => β) (p : α → Bool) (k : α) :
    (m.filterKeys p).lookup k = if p k then m.lookup k else none := by
  refine Option.ext fun v => ?_
  have hentry : (m.filterKeys p).lookup k = some v ↔ ⟨k, v⟩ ∈ m.entries ∧ p k = true :=
    mem_lookup_iff.trans List.mem_filter
  by_cases hp : p k
  · rw [if_pos hp, hentry]
    exact (and_iff_left hp).trans mem_lookup_iff.symm
  · rw [if_neg hp, hentry]
    exact ⟨fun h => absurd h.2 hp, fun h => absurd h (Option.not_mem_none v)⟩

/-- `f` applied to every value. -/
def mapValues {γ : Type*} (m : AList fun _ : α => β) (f : β → γ) : AList fun _ : α => γ where
  entries := m.entries.map fun e => ⟨e.1, f e.2⟩
  nodupKeys := by
    have h := m.nodupKeys
    unfold List.NodupKeys List.keys at h ⊢
    rwa [List.map_map]

lemma lookup_mapValues {γ : Type*} (m : AList fun _ : α => β) (f : β → γ) (k : α) :
    (m.mapValues f).lookup k = (m.lookup k).map f :=
  @List.dlookup_map₂ α _ (fun _ => β) (fun _ => γ) m.entries (fun _ => f) k

/-- `Map.values`. -/
def values (m : AList fun _ : α => β) : List β := m.entries.map Sigma.snd

/-- The values are what the keys are mapped to. -/
lemma mem_values {m : AList fun _ : α => β} {v : β} : v ∈ m.values ↔ ∃ k, m.lookup k = some v := by
  rw [values, List.mem_map]
  constructor
  · rintro ⟨⟨k, v⟩, hentry, rfl⟩
    exact ⟨k, mem_lookup_iff.mpr hentry⟩
  · rintro ⟨k, hk⟩
    exact ⟨⟨k, v⟩, mem_lookup_iff.mp hk, rfl⟩

/-- Where no two keys share a value, there is none twice. -/
lemma nodup_values {m : AList fun _ : α => β}
    (hinj : ∀ k k' v, m.lookup k = some v → m.lookup k' = some v → k = k') : m.values.Nodup := by
  refine m.nodupKeys.nodup.map_on fun entry hentry entry' hentry' hvalue => ?_
  obtain ⟨k, v⟩ := entry
  obtain ⟨k', v'⟩ := entry'
  obtain rfl : v = v' := hvalue
  obtain rfl := hinj k k' v (mem_lookup_iff.mpr hentry) (mem_lookup_iff.mpr hentry')
  rfl

/-- How many values satisfy `p`, counted without a key and at the key. -/
lemma countP_values_erase (m : AList fun _ : α => β) (k : α) (p : β → Bool) :
    m.values.countP p = (m.erase k).values.countP p + if (m.lookup k).any p then 1 else 0 := by
  have hentries : ∀ l : List (Sigma fun _ : α => β),
      (l.map Sigma.snd).countP p = ((l.kerase k).map Sigma.snd).countP p +
        if (l.dlookup k).any p then 1 else 0 := by
    intro l
    induction l with
    | nil => rfl
    | cons entry l ih =>
      obtain ⟨k', v'⟩ := entry
      by_cases hk : k = k'
      · have htail : List.kerase k (⟨k', v'⟩ :: l) = l := List.kerase_cons_eq hk
        rw [htail, ← hk, List.dlookup_cons_eq, List.map_cons, List.countP_cons, Option.any_some]
      · rw [List.kerase_cons_ne hk, List.dlookup_cons_ne _ _ hk, List.map_cons, List.map_cons,
          List.countP_cons, List.countP_cons, ih]
        omega
  exact hentries m.entries

/-- How many values satisfy `p` after an update. -/
lemma countP_values_insert (m : AList fun _ : α => β) (k : α) (v : β) (p : β → Bool) :
    (m.insert k v).values.countP p =
      (m.erase k).values.countP p + if p v then 1 else 0 := by
  show ((v :: (m.erase k).values).countP p) = _
  rw [List.countP_cons]

/-- How often a value occurs, counted without a key and at the key. -/
lemma count_values_erase [DecidableEq β] (m : AList fun _ : α => β) (k : α) (v : β) :
    m.values.count v = (m.erase k).values.count v + if m.lookup k = some v then 1 else 0 := by
  have hany : (m.lookup k).any (· == v) = true ↔ m.lookup k = some v := by
    cases m.lookup k <;> simp
  rw [List.count, countP_values_erase m k]
  simp only [hany]

/-- How often a value occurs after an update. -/
lemma count_values_insert [DecidableEq β] (m : AList fun _ : α => β) (k : α) (v v' : β) :
    (m.insert k v').values.count v =
      (m.erase k).values.count v + if v' = v then 1 else 0 := by
  rw [List.count, countP_values_insert]
  simp only [beq_iff_eq]

lemma count_values_erase_le [DecidableEq β] (m : AList fun _ : α => β) (k : α) (v : β) :
    (m.erase k).values.count v ≤ m.values.count v := by
  rw [m.count_values_erase k v]
  exact Nat.le_add_right _ _

/-- An update to another value is no different from a removal. -/
lemma count_values_erase_insert [DecidableEq β] (m : AList fun _ : α => β) {v v' : β}
    (hne : v' ≠ v) (k k' : α) :
    ((m.insert k v').erase k').values.count v = ((m.erase k).erase k').values.count v := by
  have hinsert := (m.insert k v').count_values_erase k' v
  have herase := (m.erase k).count_values_erase k' v
  have hlookup : (m.insert k v').lookup k' = some v ↔ (m.erase k).lookup k' = some v := by
    rw [lookup_insert_ite, lookup_erase_ite]
    split
    · exact iff_of_false (fun h => hne (Option.some.inj h)) fun h => by cases h
    · exact Iff.rfl
  rw [count_values_insert, if_neg hne] at hinsert
  simp only [hlookup] at hinsert
  omega

/-- Where each value knows its key, the values have the keys of the map. -/
lemma map_values_eq_keys {m : AList fun _ : α => β} {f : β → α}
    (hf : ∀ k v, m.lookup k = some v → f v = k) : m.values.map f = m.keys := by
  rw [values, List.map_map]
  exact List.map_congr_left fun entry hentry => hf entry.1 entry.2 (mem_lookup_iff.mpr hentry)

/-- Puts the elements of a list into a map, each under its key. -/
def putAll (key : β → α) (l : List β) (m : AList fun _ : α => β) : AList fun _ : α => β :=
  l.foldl (fun m v => m.insert (key v) v) m

/-- What is found after `putAll` was there before or is an element under its key. -/
lemma lookup_putAll {key : β → α} {l : List β} {m : AList fun _ : α => β} {k : α} {v : β}
    (h : (putAll key l m).lookup k = some v) : m.lookup k = some v ∨ v ∈ l ∧ key v = k := by
  induction l generalizing m with
  | nil => exact .inl h
  | cons v' l ih =>
    rcases ih h with hhead | ⟨hmem, hkey⟩
    · rw [lookup_insert_ite] at hhead
      split_ifs at hhead with hk
      · obtain rfl := Option.some.inj hhead
        exact .inr ⟨List.mem_cons_self, hk.symm⟩
      · exact .inl hhead
    · exact .inr ⟨List.mem_cons_of_mem _ hmem, hkey⟩

/-- What `putAll` does not name stays. -/
lemma lookup_putAll_of_forall_ne {key : β → α} {l : List β} {m : AList fun _ : α => β} {k : α}
    (h : ∀ v ∈ l, key v ≠ k) : (putAll key l m).lookup k = m.lookup k := by
  induction l generalizing m with
  | nil => rfl
  | cons v l ih =>
    obtain ⟨hv, hl⟩ := List.forall_mem_cons.mp h
    have htail : (putAll key l (m.insert (key v) v)).lookup k = (m.insert (key v) v).lookup k :=
      ih hl
    exact htail.trans (lookup_insert_ne hv.symm)

/-- **Where no two elements share a key**, each is found under its own. -/
lemma lookup_putAll_of_mem {key : β → α} {l : List β} {m : AList fun _ : α => β}
    (hinj : ∀ v ∈ l, ∀ v' ∈ l, key v = key v' → v = v') {v : β} (hv : v ∈ l) :
    (putAll key l m).lookup (key v) = some v := by
  induction l generalizing m with
  | nil => cases hv
  | cons v' l ih =>
    by_cases hmem : v ∈ l
    · exact ih (fun a ha b hb => hinj a (List.mem_cons_of_mem _ ha) b (List.mem_cons_of_mem _ hb))
        hmem
    · obtain rfl : v = v' := (List.mem_cons.mp hv).resolve_right hmem
      have hne : ∀ a ∈ l, key a ≠ key v := by
        intro a ha hkey
        obtain rfl := hinj a (List.mem_cons_of_mem _ ha) v List.mem_cons_self hkey
        exact hmem ha
      have hlast : (putAll key l (m.insert (key v) v)).lookup (key v) = some v :=
        (lookup_putAll_of_forall_ne hne).trans (lookup_insert _)
      exact hlast

end AList
