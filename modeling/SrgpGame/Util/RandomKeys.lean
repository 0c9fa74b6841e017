import SrgpGame.Util.RandomUtils

set_option autoImplicit false

/-!
# Keys of a map

Some keys of a map are chosen by weight: as many random numbers are drawn as keys are wanted, and
the entries are gone through once, each of which may use up one number. Keys that are left over fill
up for the numbers that are left over. So the number of keys is right whatever the weights are.

## Main results

* `card_takeReached` — every key that is taken uses up one number.
* `card_fillUp` — the keys that are left fill up as far as they go.
* `card_randomKeys` — how many keys are chosen.
-/

namespace SrgpGame.Util

open EStateM
open Func (Rng nextInt run_nextInt_of_pos)

variable {entries : List (Int32 × Int32)} {randomWeight keys : List Int32} {result : Finset Int32}

/-! ## The random numbers -/

/-- As many random numbers as are asked for. -/
lemma randomWeights_run {totalWeight : Int32} (htotal : 1 ≤ totalWeight) (count : ℕ) (rng : Rng) :
    ∃ randomWeight rng', (randomWeights totalWeight count).run rng = .ok randomWeight rng' ∧
      randomWeight.length = count := by
  have hpos : 0 < totalWeight.toInt := by
    have htotal' := Int32.le_iff_toInt_le.mp htotal
    have hone : (1 : Int32).toInt = 1 := by decide
    omega
  induction count generalizing rng with
  | zero => exact ⟨[], rng, rfl, rfl⟩
  | succ count ih =>
    obtain ⟨randomWeight, rng', hrun, hlength⟩ := ih ⟨fun n => rng.draw (n + 1)⟩
    refine ⟨(Int32.ofNat (rng.draw 0 % totalWeight.toInt.toNat) + 1) :: randomWeight, rng', ?_, ?_⟩
    · rw [randomWeights, run_bind, run_nextInt_of_pos hpos]
      simp only [run_bind, hrun]
      rfl
    · rw [List.length_cons, hlength]

/-! ## The two loops -/

/-- **Every key that is taken uses up one number.** -/
lemma card_takeReached (weight : Int32) (hnodup : (entries.map Prod.fst).Nodup)
    (hnew : ∀ e ∈ entries, e.1 ∉ result) :
    (takeReached entries weight randomWeight result).2.card +
        (takeReached entries weight randomWeight result).1.length =
      result.card + randomWeight.length := by
  induction entries generalizing weight randomWeight result with
  | nil => rfl
  | cons e entries ih =>
    obtain ⟨key, value⟩ := e
    obtain ⟨hkey, hnodup⟩ := List.nodup_cons.mp hnodup
    have hrest : ∀ e ∈ entries, e.1 ∉ result := fun e he => hnew e (List.mem_cons_of_mem _ he)
    cases randomWeight with
    | nil => rfl
    | cons least randomWeight =>
      rw [takeReached]
      split_ifs
      · have hinsert : ∀ e ∈ entries, e.1 ∉ insert key result := by
          intro e he
          rw [Finset.mem_insert, not_or]
          refine ⟨?_, hrest e he⟩
          intro heq
          have hmem : e.1 ∈ entries.map Prod.fst := List.mem_map_of_mem he
          rw [heq] at hmem
          exact hkey hmem
        rw [ih _ hnodup hinsert, Finset.card_insert_of_notMem (hnew _ List.mem_cons_self),
          List.length_cons]
        omega
      · exact ih _ hnodup hrest

/-- The keys that are taken are keys of the entries. -/
lemma takeReached_subset (weight : Int32) :
    (takeReached entries weight randomWeight result).2 ⊆
      result ∪ (entries.map Prod.fst).toFinset := by
  induction entries generalizing weight randomWeight result with
  | nil => exact Finset.subset_union_left
  | cons e entries ih =>
    obtain ⟨key, value⟩ := e
    rw [List.map_cons, List.toFinset_cons, Finset.union_insert]
    cases randomWeight with
    | nil => exact Finset.subset_union_left.trans (Finset.subset_insert _ _)
    | cons least randomWeight =>
      rw [takeReached]
      split_ifs
      · refine (ih _).trans ?_
        rw [Finset.insert_union]
      · exact (ih _).trans (Finset.subset_insert _ _)

/-- **The keys that are left fill up** for the numbers that are left, as far as they go. -/
lemma card_fillUp : (fillUp keys randomWeight result).card =
    min (result.card + randomWeight.length) (result ∪ keys.toFinset).card := by
  induction keys generalizing randomWeight result with
  | nil =>
    rw [fillUp, List.toFinset_nil, Finset.union_empty]
    exact (min_eq_right (Nat.le_add_right _ _)).symm
  | cons key keys ih =>
    cases randomWeight with
    | nil =>
      rw [fillUp, List.length_nil, Nat.add_zero]
      exact (min_eq_left (Finset.card_le_card Finset.subset_union_left)).symm
    | cons least randomWeight =>
      rw [fillUp, List.toFinset_cons]
      split_ifs with hkey
      · rw [ih, Finset.union_insert, Finset.insert_eq_of_mem (Finset.mem_union_left _ hkey)]
      · rw [ih, Finset.card_insert_of_notMem hkey, Finset.insert_union, Finset.union_insert,
          List.length_cons]
        congr 1
        omega

lemma fillUp_subset : fillUp keys randomWeight result ⊆ result ∪ keys.toFinset := by
  induction keys generalizing randomWeight result with
  | nil => exact Finset.subset_union_left
  | cons key keys ih =>
    rw [List.toFinset_cons, Finset.union_insert]
    cases randomWeight with
    | nil => exact Finset.subset_union_left.trans (Finset.subset_insert _ _)
    | cons least randomWeight =>
      rw [fillUp]
      split_ifs
      · exact ih.trans (Finset.subset_insert _ _)
      · refine ih.trans ?_
        rw [Finset.insert_union]

/-! ## The choice -/

lemma map_fst_entriesOf (data : AList fun _ : Int32 => Int32) :
    (entriesOf data).map Prod.fst = data.keys := by
  unfold entriesOf AList.keys List.keys
  rw [List.map_map]
  rfl

/-- **How many keys are chosen**: as many as are asked for, or all if there are fewer. No weights
and no random numbers change this. -/
theorem card_randomKeys (size : Int32) {totalWeight : Int32} (htotal : 1 ≤ totalWeight)
    (data : AList fun _ : Int32 => Int32) (rng : Rng) :
    ∃ result rng', (randomKeys size totalWeight data).run rng = .ok result rng' ∧
      result.card = min size.toInt.toNat data.keys.length ∧ ∀ key ∈ result, key ∈ data := by
  obtain ⟨randomWeight, rng', hrun, hlength⟩ :=
    randomWeights_run htotal size.toInt.toNat rng
  set sorted := randomWeight.mergeSort fun a b => a ≤ b with hsorted
  have hsortedLength : sorted.length = size.toInt.toNat := by
    rw [hsorted, List.length_mergeSort, hlength]
  have hnodup : ((entriesOf data).map Prod.fst).Nodup := by
    rw [map_fst_entriesOf]
    exact data.nodupKeys
  have hcard := @card_takeReached (entriesOf data) sorted ∅ 0 hnodup fun _ _ =>
    Finset.notMem_empty _
  have hsubset := @takeReached_subset (entriesOf data) sorted ∅ 0
  rw [Finset.card_empty, Nat.zero_add, hsortedLength] at hcard
  rw [Finset.empty_union, map_fst_entriesOf] at hsubset
  set taken := takeReached (entriesOf data) 0 sorted ∅ with htaken
  have hkeys : (data.keys.reverse).toFinset = data.keys.toFinset := List.toFinset_reverse
  have hall : (taken.2 ∪ data.keys.reverse.toFinset).card = data.keys.length := by
    rw [hkeys, Finset.union_eq_right.mpr hsubset]
    exact List.toFinset_card_of_nodup data.nodupKeys
  refine ⟨fillUp data.keys.reverse taken.1 taken.2, rng', ?_, ?_, ?_⟩
  · unfold randomKeys
    rw [run_bind, hrun]
    simp only [← hsorted, ← htaken, map_fst_entriesOf]
    rfl
  · rw [card_fillUp, hcard, hall]
  · intro key hkey
    have hmem := fillUp_subset hkey
    rw [hkeys, Finset.union_eq_right.mpr hsubset, List.mem_toFinset] at hmem
    exact hmem

/-- Three keys, one of which has no weight. -/
def threeKeys : AList fun _ : Int32 => Int32 := ((∅ : AList _).insert 9 3).insert 5 0 |>.insert 1 2

/-- Two of three keys, although the weights sum up to less than is said. -/
theorem card_randomKeys_threeKeys :
    ∃ result rng', (randomKeys 2 100 threeKeys).run ⟨fun n => 7 * n + 50⟩ = .ok result rng' ∧
      result.card = min (2 : Int32).toInt.toNat threeKeys.keys.length ∧
      ∀ key ∈ result, key ∈ threeKeys :=
  card_randomKeys 2 (by decide) threeKeys ⟨fun n => 7 * n + 50⟩

end SrgpGame.Util
