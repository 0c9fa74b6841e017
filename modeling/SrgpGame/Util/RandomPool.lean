import Mathlib.Algebra.Order.Floor.Div
import Mathlib.Data.List.FinRange
import Mathlib.Data.List.Perm.Basic
import SrgpGame.Util.RandomUtils

set_option autoImplicit false

/-!
# Elements of a pool

Some elements of a pool are chosen, each place of which may be used more than once if there are too
few. The pool is put behind itself until the list is long enough; then the list is shuffled, and a
part of it is taken. An empty pool is put behind itself for ever.

## Main definitions

* `copies` — a pool, some times behind itself.
* `Chosen`, `Meets` — what is to be chosen from a pool.

## Main results

* `padTo_copies` — the loop comes to its end with as few copies as will do.
* `shuffle_perm` — a shuffle keeps the elements.
* `randomPool_iff` — when the right choice is made.
-/

namespace SrgpGame.Util

open Func (Rng)

variable {α : Type} {pool data : List α} {size : ℕ}

/-! ## Shuffling -/

/-- Two elements change places. -/
lemma swap_perm (data : List α) (i j : ℕ) : (swap data i j).Perm data := by
  unfold swap
  split
  · rename_i a b ha hb
    obtain ⟨hi, rfl⟩ := List.getElem?_eq_some_iff.mp ha
    obtain ⟨hj, rfl⟩ := List.getElem?_eq_some_iff.mp hb
    exact List.set_set_perm hi hj
  · exact .refl _

/-- **A shuffle keeps the elements.** -/
lemma shuffle_perm (i : ℕ) (data : List α) (rng : Rng) : (shuffle i data rng).1.Perm data := by
  induction i generalizing data rng with
  | zero => exact .refl _
  | succ i ih =>
    cases i with
    | zero => exact .refl _
    | succ i => exact (ih _ _).trans (swap_perm _ _ _)

/-! ## Copies of a pool -/

/-- A pool, `count` times. -/
def copies (count : ℕ) (pool : List α) : List α := (List.replicate count pool).flatten

@[simp] lemma copies_zero : copies 0 pool = [] := rfl

lemma copies_one : copies 1 pool = pool := List.append_nil pool

lemma copies_succ (count : ℕ) : copies (count + 1) pool = copies count pool ++ pool := by
  unfold copies
  rw [List.replicate_succ', List.flatten_append, List.flatten_singleton]

lemma length_copies (count : ℕ) : (copies count pool).length = count * pool.length := by
  induction count with
  | zero => simp
  | succ count ih => rw [copies_succ, List.length_append, ih, Nat.succ_mul]

lemma map_copies {β : Type} (f : β → α) (count : ℕ) (pool : List β) :
    (copies count pool).map f = copies count (pool.map f) := by
  unfold copies
  rw [List.map_flatten, List.map_replicate]

/-- Every place is as many times in the copies as there are copies. -/
lemma count_copies (count : ℕ) {n : ℕ} (i : Fin n) :
    (copies count (List.finRange n)).count i = count := by
  induction count with
  | zero => simp
  | succ count ih => rw [copies_succ, List.count_append, ih, List.count_finRange]

/-- **The loop comes to its end** with as few copies as will do. -/
lemma padTo_copies (hpool : 0 < pool.length) {count : ℕ} (hle : count ≤ size ⌈/⌉ pool.length)
    {fuel : ℕ} (hfuel : size ⌈/⌉ pool.length - count ≤ fuel) :
    padTo pool size fuel (copies count pool) = some (copies (size ⌈/⌉ pool.length) pool) := by
  have hlong : ∀ c, size ≤ (copies c pool).length ↔ size ⌈/⌉ pool.length ≤ c := by
    intro c
    rw [length_copies, ceilDiv_le_iff_le_smul hpool, smul_eq_mul, Nat.mul_comm]
  induction fuel generalizing count with
  | zero =>
    obtain rfl : count = size ⌈/⌉ pool.length := by omega
    rw [padTo, if_pos ((hlong _).mpr le_rfl)]
  | succ fuel ih =>
    rcases Nat.lt_or_eq_of_le hle with hlt | rfl
    · rw [padTo, if_neg fun h => Nat.not_le.mpr hlt ((hlong count).mp h), ← copies_succ]
      exact ih hlt (by omega)
    · rw [padTo, if_pos ((hlong _).mpr le_rfl)]

/-- An empty pool does not help. -/
lemma padTo_nil (hsize : 0 < size) (fuel : ℕ) : padTo ([] : List α) size fuel [] = none := by
  have hshort : ¬size ≤ ([] : List α).length := Nat.not_le.mpr hsize
  induction fuel with
  | zero => rw [padTo, if_neg hshort]
  | succ fuel ih =>
    rw [padTo, if_neg hshort]
    exact ih

/-! ## The choice -/

/-- **A choice of `size` elements of a pool**, in which every place of the pool is used as often as
is needed at most. -/
structure Chosen (pool : List α) (size : ℕ) (result : List α) : Prop where
  length : result.length = size
  places : ∃ places : List (Fin pool.length), result = places.map pool.get ∧
    ∀ i, places.count i ≤ size ⌈/⌉ pool.length

/-- **What is to be chosen** from a pool: nothing if there is none, if it is empty or if nothing is
asked for. -/
def Meets (pool : Option (List α)) (size : Int32) (result : List α) : Prop :=
  match pool with
  | none => result = []
  | some pool =>
    if pool.length = 0 ∨ size ≤ 0 then result = [] else Chosen pool size.toInt.toNat result

/-- A part of the shuffled copies is a choice. -/
lemma chosen_of_perm {count start : ℕ} (hperm : data.Perm (copies count pool))
    (hstart : start + size ≤ data.length)
    (hcount : count ≤ size ⌈/⌉ pool.length) :
    Chosen pool size ((data.drop start).take size) := by
  have hget : (copies count (List.finRange pool.length)).map pool.get = copies count pool := by
    rw [map_copies, List.map_get_finRange]
  rw [← hget] at hperm
  have hcomp : Relation.Comp (fun x y => x = List.map pool.get y) List.Perm data
      (copies count (List.finRange pool.length)) := by
    rw [List.eq_map_comp_perm]
    exact hperm
  obtain ⟨places, rfl, hplaces⟩ := hcomp
  refine ⟨?_, (places.drop start).take size, ?_, ?_⟩
  · rw [List.length_take, List.length_drop]
    omega
  · rw [List.map_take, List.map_drop]
  · intro i
    have hsub : ((places.drop start).take size).Sublist places :=
      (List.take_sublist _ _).trans (List.drop_sublist _ _)
    calc ((places.drop start).take size).count i
        ≤ places.count i := hsub.count_le i
      _ = (copies count (List.finRange pool.length)).count i := hplaces.count_eq i
      _ = count := count_copies count i
      _ ≤ size ⌈/⌉ pool.length := hcount

section Asked

variable {size : Int32} (hsize : 0 < size)

include hsize

lemma toNat_size_pos : 0 < size.toInt.toNat := by
  have hlt := Int32.lt_iff_toInt_lt.mp hsize
  rw [Int32.toInt_zero] at hlt
  omega

/-- What is done when something is asked for. -/
lemma randomPool_run (pool : List α) (fuel : ℕ) (rng : Rng) :
    randomPool fuel (some pool) size rng =
      (padTo pool size.toInt.toNat fuel pool).map fun data =>
        let shuffled := shuffle data.length data rng
        let start := nextIndex (shuffled.1.length - size.toInt.toNat + 1) shuffled.2
        ((shuffled.1.drop start.1).take size.toInt.toNat, start.2) := by
  have hone : (1 : Int32).toInt = 1 := by decide
  have hmax : (max 1 size).toInt.toNat = size.toInt.toNat := by
    have hpos := toNat_size_pos hsize
    rw [Int32.toInt_max, hone]
    omega
  unfold randomPool
  simp only [if_neg (Int32.not_le.mpr hsize), hmax]
  cases padTo pool size.toInt.toNat fuel pool with
  | none => rfl
  | some data => rfl

/-- **The right choice is made** from a pool that is not empty. -/
lemma randomPool_of_pos (hpool : 0 < pool.length) (rng : Rng) :
    ∃ result rng' rounds, (∀ fuel, rounds ≤ fuel →
      randomPool fuel (some pool) size rng = some (result, rng')) ∧
        Chosen pool size.toInt.toNat result := by
  set n := size.toInt.toNat with hn
  have hpos : 0 < n := toNat_size_pos hsize
  set data := copies (n ⌈/⌉ pool.length) pool with hdata
  set shuffled := shuffle data.length data rng with hshuffled
  set start := nextIndex (shuffled.1.length - n + 1) shuffled.2 with hstart
  have honce : 1 ≤ n ⌈/⌉ pool.length := by
    rw [Nat.one_le_iff_ne_zero]
    intro hzero
    have hle := (ceilDiv_le_iff_le_smul hpool).mp (le_of_eq hzero)
    rw [smul_zero] at hle
    omega
  have hlength : n ≤ data.length := by
    rw [hdata, length_copies, Nat.mul_comm]
    exact (ceilDiv_le_iff_le_smul hpool).mp le_rfl
  have hperm : shuffled.1.Perm data := shuffle_perm _ _ _
  refine ⟨(shuffled.1.drop start.1).take n, start.2, n ⌈/⌉ pool.length - 1, ?_, ?_⟩
  · intro fuel hfuel
    have hpad := padTo_copies hpool honce hfuel
    rw [copies_one] at hpad
    rw [randomPool_run hsize, hpad]
    rfl
  · refine chosen_of_perm hperm ?_ le_rfl
    have hmod : start.1 < shuffled.1.length - n + 1 := Nat.mod_lt _ (Nat.succ_pos _)
    rw [hperm.length_eq] at hmod ⊢
    omega

end Asked

/-- **When the right choice is made**, whatever the random numbers are: always but for an empty pool
from which something is asked. Then the loop never comes to its end. -/
theorem randomPool_iff (pool : Option (List α)) (size : Int32) (rng : Rng) :
    (∃ result rng' rounds, (∀ fuel, rounds ≤ fuel →
      randomPool fuel pool size rng = some (result, rng')) ∧ Meets pool size result) ↔
        ¬(pool.map List.length = some 0 ∧ 0 < size) := by
  cases pool with
  | none =>
    refine iff_of_true ⟨[], rng, 0, fun fuel _ => rfl, rfl⟩ ?_
    rintro ⟨h, -⟩
    cases h
  | some pool =>
    by_cases hsize : 0 < size
    · by_cases hempty : pool.length = 0
      · obtain rfl := List.length_eq_zero_iff.mp hempty
        refine iff_of_false ?_ (not_not.mpr ⟨rfl, hsize⟩)
        rintro ⟨result, rng', rounds, hruns, -⟩
        have hnone := hruns rounds le_rfl
        rw [randomPool_run hsize, padTo_nil (toNat_size_pos hsize)] at hnone
        cases hnone
      · refine iff_of_true ?_ fun h => hempty (Option.some.inj h.1)
        obtain ⟨result, rng', rounds, hruns, hchosen⟩ :=
          randomPool_of_pos hsize (Nat.pos_of_ne_zero hempty) rng
        refine ⟨result, rng', rounds, hruns, (if_neg ?_).mpr hchosen⟩
        exact not_or.mpr ⟨hempty, Int32.not_le.mpr hsize⟩
    · refine iff_of_true ⟨[], rng, 0, ?_, ?_⟩ fun h => hsize h.2
      · intro fuel _
        exact if_pos (Int32.not_lt.mp hsize)
      · exact (if_pos (.inr (Int32.not_lt.mp hsize))).mpr rfl

/-- An empty pool from which one element is asked: the loop is never at its end. -/
theorem randomPool_empty :
    ¬∃ fuel r, randomPool fuel (some ([] : List Int32)) 1 ⟨fun _ => 0⟩ = some r := by
  rintro ⟨fuel, r, hrun⟩
  rw [randomPool_run (by decide), padTo_nil (by decide)] at hrun
  cases hrun

end SrgpGame.Util
