import SrgpGame.Lib.Cumulative
import SrgpGame.Util.RandomUtils

set_option autoImplicit false

/-!
# An element by weight

`random(totalWeight, pool)` walks through the pool with a random number from one to `totalWeight`.
As long as `totalWeight` is positive and not more than the weights sum up to, the walk comes to an
element.

## Main definitions

* `weighed` — the elements with their weights as natural numbers.

## Main results

* `walkPool_eq_pick` — the loop over the pool chooses by weight.
* `run_randomByWeight_of_pos`, `run_randomByWeight_of_nonpos` — what a call does.
-/

namespace SrgpGame.Util

open Cumulative (total pick)
open Func (Rng run_nextInt_of_pos run_nextInt_of_nonpos)

variable {α : Type} {getWeight : α → Int32} {pool : List α}

/-- The elements with their weights, as natural numbers. -/
def weighed (getWeight : α → Int32) (pool : List α) : List (α × ℕ) :=
  pool.map fun t => (t, (getWeight t).toInt.toNat)

/-- **The walk chooses by weight**: from a positive number on it comes to the element in whose
interval the number before it lies. -/
lemma walkPool_eq_pick (hnonneg : ∀ t ∈ pool, 0 ≤ getWeight t) {random : Int32}
    (hpos : 0 < random.toInt) :
    walkPool getWeight pool random = pick (weighed getWeight pool) (random.toInt.toNat - 1) := by
  induction pool generalizing random with
  | nil => rfl
  | cons t pool ih =>
    have hweight : 0 ≤ (getWeight t).toInt :=
      Int32.le_iff_toInt_le.mp (hnonneg _ List.mem_cons_self)
    change (if random ≤ getWeight t then some t
        else walkPool getWeight pool (random - getWeight t)) =
      if random.toInt.toNat - 1 < (getWeight t).toInt.toNat then some t
      else pick (weighed getWeight pool) (random.toInt.toNat - 1 - (getWeight t).toInt.toNat)
    by_cases hle : random ≤ getWeight t
    · have hle' := Int32.le_iff_toInt_le.mp hle
      rw [if_pos hle, if_pos (by omega)]
    · have hlt := Int32.lt_iff_toInt_lt.mp (Int32.not_le.mp hle)
      have hbound := random.toInt_lt
      have hsub : (random - getWeight t).toInt = random.toInt - (getWeight t).toInt :=
        Int32.toInt_sub_of_fits (by omega) (by omega)
      rw [if_neg hle, if_neg (by omega),
        ih (fun e he => hnonneg e (List.mem_cons_of_mem _ he)) (by omega), hsub]
      congr 1
      omega

/-- The sum of the weights does not depend on the order of the pool. -/
lemma total_weighed_perm {pool' : List α} (h : pool.Perm pool') :
    total (weighed getWeight pool) = total (weighed getWeight pool') :=
  Cumulative.total_perm (h.map _)

/-- **A call with a positive sum** that the weights reach gives an element of the pool. -/
lemma run_randomByWeight_of_pos (hnonneg : ∀ t ∈ pool, 0 ≤ getWeight t) {totalWeight : Int32}
    (hpos : 0 < totalWeight.toInt) (hle : totalWeight.toInt ≤ total (weighed getWeight pool))
    (rng : Rng) :
    ∃ t ∈ pool, ∃ rng',
      (randomByWeight getWeight totalWeight pool).run rng = .ok (some t) rng' := by
  have hne : pool ≠ [] := by
    rintro rfl
    change totalWeight.toInt ≤ (0 : ℕ) at hle
    omega
  have hempty : ¬pool.isEmpty = true := by simpa using hne
  unfold randomByWeight
  rw [if_neg hempty]
  by_cases hone : 0 < totalWeight ∧ pool.length = 1
  · obtain ⟨t, rfl⟩ := List.length_eq_one_iff.mp hone.2
    rw [if_pos hone]
    exact ⟨t, List.mem_cons_self, rng, rfl⟩
  · rw [if_neg hone, EStateM.run_bind, run_nextInt_of_pos hpos]
    set d := rng.draw 0 % totalWeight.toInt.toNat with hd
    have hlt : d < totalWeight.toInt.toNat := Nat.mod_lt _ (by omega)
    have hbound := totalWeight.toInt_lt
    have hint : (Int32.ofNat d).toInt = d := Int32.toInt_ofNat_of_lt (by omega)
    have hadd : (Int32.ofNat d + 1).toInt = d + 1 := by
      rw [Int32.toInt_succ_of_fits (by omega), hint]
    have hwalk := walkPool_eq_pick hnonneg (by omega : 0 < (Int32.ofNat d + 1).toInt)
    rw [hadd] at hwalk
    cases hpick : pick (weighed getWeight pool) ((d + 1 : ℤ).toNat - 1) with
    | none =>
      have hout := (Cumulative.pick_eq_none_iff _).mp hpick
      omega
    | some t =>
      obtain ⟨w, hmem, -⟩ := Cumulative.mem_of_pick hpick
      obtain ⟨t', ht', heq⟩ := List.mem_map.mp hmem
      obtain rfl : t' = t := congrArg Prod.fst heq
      refine ⟨t', ht', ⟨fun n => rng.draw (n + 1)⟩, ?_⟩
      change EStateM.Result.ok (walkPool getWeight pool (Int32.ofNat d + 1)) _ = _
      rw [hwalk, hpick]

/-- **A call without a positive sum** throws, unless there is nothing to choose from. -/
lemma run_randomByWeight_of_nonpos (hne : pool ≠ []) {totalWeight : Int32}
    (hnonpos : totalWeight.toInt ≤ 0) (rng : Rng) :
    (randomByWeight getWeight totalWeight pool).run rng = .error .illegalArgument rng := by
  have hempty : ¬pool.isEmpty = true := by simpa using hne
  have hone : ¬(0 < totalWeight ∧ pool.length = 1) := by
    rintro ⟨hpos, -⟩
    rw [Int32.lt_iff_toInt_lt, Int32.toInt_zero] at hpos
    omega
  unfold randomByWeight
  rw [if_neg hempty, if_neg hone, EStateM.run_bind, run_nextInt_of_nonpos hnonpos]

lemma mem_of_walkPool {random : Int32} {t : α} (h : walkPool getWeight pool random = some t) :
    t ∈ pool := by
  induction pool generalizing random with
  | nil => cases h
  | cons t' pool ih =>
    rw [walkPool] at h
    split_ifs at h
    · obtain rfl := Option.some.inj h
      exact List.mem_cons_self
    · exact List.mem_cons_of_mem _ (ih h)

/-- What a call gives is an element of the pool. -/
lemma mem_of_run_randomByWeight {totalWeight : Int32} {rng rng' : Rng} {t : α}
    (h : (randomByWeight getWeight totalWeight pool).run rng = .ok (some t) rng') : t ∈ pool := by
  unfold randomByWeight at h
  split_ifs at h
  · cases h
  · obtain ⟨hhead, -⟩ := EStateM.Result.ok.inj h
    exact List.mem_of_head? hhead
  · obtain ⟨random, rng₁, -, hrest⟩ := EStateM.run_bind_eq_ok.mp h
    obtain ⟨hwalk, -⟩ := EStateM.Result.ok.inj hrest
    exact mem_of_walkPool hwalk

end SrgpGame.Util
