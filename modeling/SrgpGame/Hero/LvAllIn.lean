import Mathlib.Algebra.BigOperators.Ring.Finset
import SrgpGame.Hero.HeroBO
import SrgpGame.Lib.Spending

set_option autoImplicit false

/-!
# What levels cost

`tryLvAllIn` raises a hero as far as the goods of the player allow. For each level the experience
is used first, then the goods of the level, one kind after the other. What is left of the goods is
written down in `preUse`.

## Main definitions

* `tryLvAllInPreUse` — `tryLvAllIn` with what is left of the goods.
* `AllIn` — what is required: what is taken, with the experience, is what the levels cost.
* `Exact` — when it is taken so.

## Main results

* `allIn_iff` — what is required holds just then.

## Design notes

Two things go wrong. The goods of a level that is not reached in the end are taken all the same. And
experience beyond what the next level needs is added to the goods of its first kind, so that more of
them is left than there was, unless later levels use it up.
-/

namespace SrgpGame.Hero

open Spending (pay unpaid total)

variable (cfgs : HeroConfigs)

/-! ## The goods that are left -/

/-- The loop of `tryLvAllIn`; `rounds` bounds the levels that are left. -/
def preUseLoop (getGoodsQuantity : Int32 → Int32) (color : Int32) :
    ℕ → Int32 → Int32 → (AList fun _ : Int32 => Int32) →
      Except Thrown (Int32 × AList fun _ : Int32 => Int32)
  | 0, curLevel, _, preUse => .ok (curLevel, preUse)
  | rounds + 1, curLevel, leftExp, preUse =>
    if fullLevel ≤ curLevel then .ok (curLevel, preUse)
    else
      match cfgs.heroLvMap color (curLevel + 1) with
      | none => .error .nullPointer
      | some levelValue =>
        let (added, needExp, preUse) :=
          itemsForOneLv getGoodsQuantity levelValue.costItems preUse (levelValue.exp - leftExp)
        let (added, _, preUse) :=
          if added = 0 then
            itemsForOneLv getGoodsQuantity levelValue.costGeneralItems preUse needExp
          else (added, needExp, preUse)
        if added = 0 then .ok (curLevel, preUse)
        else preUseLoop getGoodsQuantity color rounds (curLevel + added) 0 preUse

/-- **`tryLvAllIn`** with its third argument: the level, and what is left of the goods. -/
def tryLvAllInPreUse (getGoodsQuantity : Int32 → Int32) (heroVO : HeroVO) :
    Except Thrown (Int32 × AList fun _ : Int32 => Int32) :=
  match cfgs.heroCfg heroVO.cid with
  | none => .error .nullPointer
  | some heroCfg =>
    preUseLoop cfgs getGoodsQuantity heroCfg.colorType
      (fullLevel.toInt - heroVO.level.toInt).toNat heroVO.level heroVO.exp ∅

variable {cfgs}

lemma tryLvAllInLoop_eq (getGoodsQuantity : Int32 → Int32) (color : Int32) (rounds : ℕ)
    (curLevel leftExp : Int32) (preUse : AList fun _ : Int32 => Int32) :
    tryLvAllInLoop cfgs getGoodsQuantity color rounds curLevel leftExp preUse =
      (preUseLoop cfgs getGoodsQuantity color rounds curLevel leftExp preUse).map Prod.fst := by
  induction rounds generalizing curLevel leftExp preUse with
  | zero => rfl
  | succ rounds ih =>
    unfold tryLvAllInLoop preUseLoop
    by_cases hfull : fullLevel ≤ curLevel
    · rw [if_pos hfull, if_pos hfull]
      rfl
    · rw [if_neg hfull, if_neg hfull]
      cases cfgs.heroLvMap color (curLevel + 1) with
      | none => rfl
      | some levelValue =>
        simp only [ih]
        split_ifs <;> rfl

/-- **The level** is the one that `levelUp` raises the hero to. -/
theorem tryLvAllIn_eq (getGoodsQuantity : Int32 → Int32) (heroVO : HeroVO) :
    tryLvAllIn cfgs getGoodsQuantity heroVO =
      (tryLvAllInPreUse cfgs getGoodsQuantity heroVO).map Prod.fst := by
  unfold tryLvAllIn tryLvAllInPreUse
  cases cfgs.heroCfg heroVO.cid with
  | none => rfl
  | some heroCfg => exact tryLvAllInLoop_eq ..

/-! ## What is required -/

/-- What is left of a kind of goods: all of it, if it was not asked for. -/
def leftOf (getGoodsQuantity : Int32 → Int32) (preUse : AList fun _ : Int32 => Int32)
    (key : Int32) : ℤ :=
  (preUse.getOrDefault key (getGoodsQuantity key)).toInt

/-- All goods that were taken. -/
def consumed (getGoodsQuantity : Int32 → Int32) (preUse : AList fun _ : Int32 => Int32) : ℤ :=
  ∑ key ∈ preUse.keys.toFinset,
    ((getGoodsQuantity key).toInt - leftOf getGoodsQuantity preUse key)

variable (cfgs) in
/-- The experience that a level requires. -/
def required (color : Int32) (level : ℤ) : ℤ :=
  match cfgs.heroLvMap color (Int32.ofInt level) with
  | none => 0
  | some levelValue => levelValue.exp.toInt

/-- The levels that are gained from one to another. -/
def gained (level newLevel : Int32) : Finset ℤ :=
  (Finset.range (newLevel.toInt - level.toInt).toNat).image fun n : ℕ => level.toInt + 1 + n

variable (cfgs) in
/-- **`tryLvAllIn` is exact.** It returns a level from the present one on, up to the full level; of
no kind of goods less than nothing is left or more than there was; and what was taken, with the
experience if a level was gained, is what the levels gained require. -/
def AllIn (getGoodsQuantity : Int32 → Int32) (heroVO : HeroVO) : Prop :=
  ∃ heroCfg newLevel preUse, cfgs.heroCfg heroVO.cid = some heroCfg ∧
    tryLvAllInPreUse cfgs getGoodsQuantity heroVO = .ok (newLevel, preUse) ∧
    heroVO.level ≤ newLevel ∧ (newLevel ≤ fullLevel ∨ newLevel = heroVO.level) ∧
    (∀ key, 0 ≤ leftOf getGoodsQuantity preUse key ∧
      leftOf getGoodsQuantity preUse key ≤ (getGoodsQuantity key).toInt) ∧
    consumed getGoodsQuantity preUse +
        (if newLevel = heroVO.level then 0 else heroVO.exp.toInt) =
      ∑ level ∈ gained heroVO.level newLevel, required cfgs heroCfg.colorType level

variable (cfgs) in
/-- **The goods are taken exactly.** For each level in turn: its row is in the table; if the
experience is more than it needs, the rest counts as goods of the first kind; if the goods are
enough it is paid; and if not, then nothing of them is there. In the end of no kind is more left
than there was. -/
def Exact (owned : Int32 → ℕ) (color : Int32) : ℕ → Int32 → ℕ → (Int32 → ℕ) → Prop
  | 0, _, _, left => ∀ key, left key ≤ owned key
  | rounds + 1, level, exp, left =>
    ∃ levelValue, cfgs.heroLvMap color (level + 1) = some levelValue ∧
      match levelValue.costItems ++ levelValue.costGeneralItems with
      | [] => ∀ key, left key ≤ owned key
      | key :: keys =>
        let need := levelValue.exp.toInt.toNat
        if need < exp then
          Exact owned color rounds (level + 1) 0
            (Function.update left key (left key + (exp - need)))
        else if need - exp ≤ total (key :: keys) left then
          Exact owned color rounds (level + 1) 0 (pay (key :: keys) (need - exp) left)
        else (∀ key' ∈ key :: keys, left key' = 0) ∧ ∀ key, left key ≤ owned key

/-! ## One level -/

section OneLevel

variable {owned : Int32 → Int32} {preUse : AList fun _ : Int32 => Int32} {needExp : Int32}

lemma leftOf_insert (key num key' : Int32) :
    leftOf owned (preUse.insert key num) key' =
      if key' = key then num.toInt else leftOf owned preUse key' := by
  rw [leftOf, AList.getOrDefault_insert]
  split_ifs
  · rfl
  · rfl

/-- A kind of goods is set, with its number as a natural one. -/
lemma toNat_leftOf_insert (key num : Int32) :
    (fun key' => (leftOf owned (preUse.insert key num) key').toNat) =
      Function.update (fun key' => (leftOf owned preUse key').toNat) key num.toInt.toNat := by
  funext key'
  rw [leftOf_insert, Function.update_apply]
  split_ifs
  · rfl
  · rfl

/-- The goods of both lists are taken in turn. -/
lemma itemsForOneLv_append (keys keys' : List Int32) (preUse : AList fun _ : Int32 => Int32)
    (needExp : Int32) :
    itemsForOneLv owned (keys ++ keys') preUse needExp =
      if (itemsForOneLv owned keys preUse needExp).1 = 0 then
        itemsForOneLv owned keys' (itemsForOneLv owned keys preUse needExp).2.2
          (itemsForOneLv owned keys preUse needExp).2.1
      else itemsForOneLv owned keys preUse needExp := by
  induction keys generalizing preUse needExp with
  | nil => rfl
  | cons key keys ih =>
    rw [List.cons_append, itemsForOneLv, itemsForOneLv]
    split_ifs with henough hzero
    · exact absurd hzero (fun h : (1 : Int32) = 0 => absurd h (by decide))
    · rfl
    · rw [ih, if_pos ‹_›]
    · rw [ih, if_neg ‹_›]

/-- **A round of the loop** asks for the goods of both lists. -/
lemma preUseLoop_succ (color curLevel leftExp : Int32) (rounds : ℕ) (hfull : curLevel < fullLevel) :
    preUseLoop cfgs owned color (rounds + 1) curLevel leftExp preUse =
      match cfgs.heroLvMap color (curLevel + 1) with
      | none => .error .nullPointer
      | some levelValue =>
        let r := itemsForOneLv owned (levelValue.costItems ++ levelValue.costGeneralItems) preUse
          (levelValue.exp - leftExp)
        if r.1 = 0 then .ok (curLevel, r.2.2)
        else preUseLoop cfgs owned color rounds (curLevel + r.1) 0 r.2.2 := by
  rw [preUseLoop, if_neg (Int32.not_le.mpr hfull)]
  cases cfgs.heroLvMap color (curLevel + 1) with
  | none => rfl
  | some levelValue =>
    simp only [itemsForOneLv_append]

/-- No kind of goods is owed. -/
def NoDebt (owned : Int32 → Int32) (preUse : AList fun _ : Int32 => Int32) : Prop :=
  ∀ key, 0 ≤ leftOf owned preUse key

lemma NoDebt.insert (h : NoDebt owned preUse) {num : Int32} (hnum : 0 ≤ num.toInt) (key : Int32) :
    NoDebt owned (preUse.insert key num) := by
  intro key'
  rw [leftOf_insert]
  split_ifs
  · exact hnum
  · exact h key'

/-- **`itemsForOneLv` pays** for a level as far as the goods are enough. -/
lemma itemsForOneLv_pays (h : NoDebt owned preUse) (hneed : 0 ≤ needExp.toInt)
    (keys : List Int32) :
    NoDebt owned (itemsForOneLv owned keys preUse needExp).2.2 ∧
      (fun key => (leftOf owned (itemsForOneLv owned keys preUse needExp).2.2 key).toNat) =
        pay keys needExp.toInt.toNat (fun key => (leftOf owned preUse key).toNat) ∧
      (itemsForOneLv owned keys preUse needExp).1 =
        if keys ≠ [] ∧
            unpaid keys needExp.toInt.toNat (fun key => (leftOf owned preUse key).toNat) = 0 then 1
        else 0 := by
  induction keys generalizing preUse needExp with
  | nil => exact ⟨h, rfl, rfl⟩
  | cons key keys ih =>
    have hkey : 0 ≤ (preUse.getOrDefault key (owned key)).toInt := h key
    have hleft : (leftOf owned preUse key).toNat =
        (preUse.getOrDefault key (owned key)).toInt.toNat := rfl
    rw [itemsForOneLv, pay, unpaid, hleft]
    by_cases henough : needExp ≤ preUse.getOrDefault key (owned key)
    · -- the rest of the goods is not asked for
      have hle := Int32.le_iff_toInt_le.mp henough
      have hfits := (preUse.getOrDefault key (owned key)).toInt_lt
      have hsub := Int32.toInt_sub_of_fits (a := preUse.getOrDefault key (owned key))
        (b := needExp) (by omega) (by omega)
      have hnothing : needExp.toInt.toNat -
          (preUse.getOrDefault key (owned key)).toInt.toNat = 0 := by omega
      rw [if_pos henough, hnothing, Spending.pay_zero, Spending.unpaid_zero]
      refine ⟨h.insert (by omega) key, ?_, (if_pos ⟨List.cons_ne_nil key keys, rfl⟩).symm⟩
      rw [toNat_leftOf_insert, hsub]
      congr 1
      omega
    · have hlt := Int32.lt_iff_toInt_lt.mp (Int32.not_le.mp henough)
      have hfits := needExp.toInt_lt
      have hsub := Int32.toInt_sub_of_fits (a := needExp)
        (b := preUse.getOrDefault key (owned key)) (by omega) (by omega)
      have hneed' : needExp.toInt.toNat - (preUse.getOrDefault key (owned key)).toInt.toNat =
          (needExp - preUse.getOrDefault key (owned key)).toInt.toNat := by omega
      have hempty :
          (preUse.getOrDefault key (owned key)).toInt.toNat - needExp.toInt.toNat = 0 := by
        omega
      have hzero : (0 : Int32).toInt = 0 := rfl
      have hneed₀ : 0 ≤ (needExp - preUse.getOrDefault key (owned key)).toInt := by omega
      obtain ⟨hdebt, hpay, hadded⟩ := ih (h.insert hzero.ge key) hneed₀
      rw [toNat_leftOf_insert, hzero, Int.toNat_zero] at hpay hadded
      rw [if_neg henough, hneed', hempty]
      refine ⟨hdebt, hpay, hadded.trans ?_⟩
      cases keys with
      | nil =>
        -- what is missing is more than nothing
        have hmissing : ¬(needExp - preUse.getOrDefault key (owned key)).toInt.toNat = 0 := by omega
        rw [if_neg fun h => h.1 rfl, if_neg fun h => hmissing h.2]
      | cons key' keys => simp only [ne_eq, reduceCtorEq, not_false_eq_true, true_and]

/-- It adds a level or none. -/
lemma added_itemsForOneLv (keys : List Int32) (preUse : AList fun _ : Int32 => Int32)
    (needExp : Int32) :
    (itemsForOneLv owned keys preUse needExp).1 = 0 ∨
      (itemsForOneLv owned keys preUse needExp).1 = 1 := by
  induction keys generalizing preUse needExp with
  | nil => exact .inl rfl
  | cons key keys ih =>
    rw [itemsForOneLv]
    split_ifs
    · exact .inr rfl
    · exact ih ..

end OneLevel

/-! ## All levels -/

section AllLevels

variable {owned : Int32 → Int32} {preUse preUse' : AList fun _ : Int32 => Int32}
  {color curLevel newLevel leftExp : Int32} {rounds : ℕ}

/-- **The level** is not lowered, and raised up to the full level. -/
lemma level_preUseLoop (hrounds : rounds = (fullLevel.toInt - curLevel.toInt).toNat)
    (h : preUseLoop cfgs owned color rounds curLevel leftExp preUse = .ok (newLevel, preUse')) :
    curLevel ≤ newLevel ∧ (newLevel ≤ fullLevel ∨ newLevel = curLevel) := by
  have hfullLevel : fullLevel.toInt = 40 := rfl
  induction rounds generalizing curLevel leftExp preUse with
  | zero =>
    obtain ⟨rfl, rfl⟩ := Prod.mk.inj (Except.ok.inj h)
    exact ⟨Int32.le_refl _, .inr rfl⟩
  | succ rounds ih =>
    have hfull : curLevel < fullLevel := Int32.lt_iff_toInt_lt.mpr (by omega)
    rw [preUseLoop_succ color curLevel leftExp rounds hfull] at h
    cases hlookup : cfgs.heroLvMap color (curLevel + 1) with
    | none =>
      simp only [hlookup] at h
      cases h
    | some levelValue =>
      simp only [hlookup] at h
      have hnext := Int32.toInt_succ_of_lt hfull
      split_ifs at h with hadded
      · obtain ⟨rfl, rfl⟩ := Prod.mk.inj (Except.ok.inj h)
        exact ⟨Int32.le_refl _, .inr rfl⟩
      · rw [(added_itemsForOneLv ..).resolve_left hadded] at h
        obtain ⟨hle, hup⟩ := ih (by omega) h
        rw [Int32.le_iff_toInt_le] at hle ⊢
        rw [Int32.le_iff_toInt_le] at hup ⊢
        refine ⟨by omega, .inl ?_⟩
        rcases hup with hup | rfl
        · exact hup
        · omega

variable (cfgs) in
/-- **The books of some levels.** -/
structure Booked (s : Finset Int32) (owned : Int32 → Int32) (color curLevel leftExp : Int32)
    (preUse : AList fun _ : Int32 => Int32) (newLevel : Int32)
    (preUse' : AList fun _ : Int32 => Int32) : Prop where
  within : ∀ key, 0 ≤ leftOf owned preUse' key ∧ leftOf owned preUse' key ≤ (owned key).toInt
  sum : ∑ key ∈ s, leftOf owned preUse' key +
      ∑ level ∈ gained curLevel newLevel, required cfgs color level =
    ∑ key ∈ s, leftOf owned preUse key + if newLevel = curLevel then 0 else leftExp.toInt

variable {s : Finset Int32}

@[simp] lemma mem_gained {level : ℤ} :
    level ∈ gained curLevel newLevel ↔ curLevel.toInt < level ∧ level ≤ newLevel.toInt := by
  rw [gained, Finset.mem_image]
  constructor
  · rintro ⟨n, hn, rfl⟩
    have hlt := Finset.mem_range.mp hn
    omega
  · intro h
    exact ⟨(level - curLevel.toInt - 1).toNat, Finset.mem_range.mpr (by omega), by omega⟩

lemma gained_self (level : Int32) : gained level level = ∅ := by
  rw [gained, sub_self, Int.toNat_zero, Finset.range_zero, Finset.image_empty]

/-- The next level is the first one that is gained. -/
lemma gained_eq_insert (hfull : curLevel < fullLevel) (hle : curLevel + 1 ≤ newLevel) :
    gained curLevel newLevel = insert (curLevel + 1).toInt (gained (curLevel + 1) newLevel) := by
  have hnext := Int32.toInt_succ_of_lt hfull
  rw [Int32.le_iff_toInt_le] at hle
  ext level
  rw [Finset.mem_insert, mem_gained, mem_gained]
  omega

/-- No level is gained. -/
lemma booked_stop_iff (h : NoDebt owned preUse') :
    Booked cfgs s owned color curLevel leftExp preUse curLevel preUse' ↔
      ∑ key ∈ s, leftOf owned preUse' key = ∑ key ∈ s, leftOf owned preUse key ∧
        ∀ key, leftOf owned preUse' key ≤ (owned key).toInt := by
  have hnone : ∑ level ∈ gained curLevel curLevel, required cfgs color level = 0 := by
    rw [gained_self, Finset.sum_empty]
  constructor
  · intro hbooked
    have hsum := hbooked.sum
    rw [hnone, if_pos rfl, add_zero, add_zero] at hsum
    exact ⟨hsum, fun key => (hbooked.within key).2⟩
  · rintro ⟨hsum, hle⟩
    refine ⟨fun key => ⟨h key, hle key⟩, ?_⟩
    rw [hnone, if_pos rfl, add_zero, add_zero]
    exact hsum

/-- **A level is gained**, and paid for. -/
lemma booked_reach_iff {levelValue : HeroLv} {preUse₁ : AList fun _ : Int32 => Int32}
    (hfull : curLevel < fullLevel) (hlookup : cfgs.heroLvMap color (curLevel + 1) = some levelValue)
    (hpaid : ∑ key ∈ s, leftOf owned preUse₁ key + levelValue.exp.toInt =
      ∑ key ∈ s, leftOf owned preUse key + leftExp.toInt) (hle : curLevel + 1 ≤ newLevel) :
    Booked cfgs s owned color curLevel leftExp preUse newLevel preUse' ↔
      Booked cfgs s owned color (curLevel + 1) 0 preUse₁ newLevel preUse' := by
  have hne : ¬newLevel = curLevel := by
    have hnext := Int32.toInt_succ_of_lt hfull
    rw [Int32.le_iff_toInt_le] at hle
    rintro rfl
    omega
  have hrequired : required cfgs color (curLevel + 1).toInt = levelValue.exp.toInt := by
    rw [required, Int32.ofInt_toInt, hlookup]
  have hsum : ∑ level ∈ gained curLevel newLevel, required cfgs color level =
      levelValue.exp.toInt +
        ∑ level ∈ gained (curLevel + 1) newLevel, required cfgs color level := by
    rw [gained_eq_insert hfull hle,
      Finset.sum_insert fun h => absurd (mem_gained.mp h).1 (lt_irrefl _), hrequired]
  have hzero : (if newLevel = curLevel + 1 then (0 : ℤ) else (0 : Int32).toInt) = 0 := ite_self _
  constructor
  · rintro ⟨hwithin, hbooks⟩
    rw [hsum, if_neg hne] at hbooks
    refine ⟨hwithin, ?_⟩
    rw [hzero]
    omega
  · rintro ⟨hwithin, hbooks⟩
    rw [hzero] at hbooks
    refine ⟨hwithin, ?_⟩
    rw [hsum, if_neg hne]
    omega

/-- The goods that are left, as natural numbers. -/
lemma sum_leftOf (h : NoDebt owned preUse) : ∑ key ∈ s, leftOf owned preUse key =
    ((∑ key ∈ s, (leftOf owned preUse key).toNat : ℕ) : ℤ) := by
  rw [Nat.cast_sum]
  exact Finset.sum_congr rfl fun key _ => (Int.toNat_of_nonneg (h key)).symm

lemma forall_toNat_le_iff (h : NoDebt owned preUse) (howned : ∀ key, 0 ≤ (owned key).toInt) :
    (∀ key, (leftOf owned preUse key).toNat ≤ (owned key).toInt.toNat) ↔
      ∀ key, leftOf owned preUse key ≤ (owned key).toInt := by
  refine forall_congr' fun key => ?_
  have hleft := h key
  have hkey := howned key
  omega

/-- **The goods are not enough** for a level: the books are right if nothing of them was there. -/
lemma booked_abandoned_iff (hs : ∀ key, key ∈ s) (howned : ∀ key, 0 ≤ (owned key).toInt)
    (h : NoDebt owned preUse) (h' : NoDebt owned preUse') {keys : List Int32} {need : ℕ}
    (hpay : (fun key => (leftOf owned preUse' key).toNat) =
      pay keys need (fun key => (leftOf owned preUse key).toNat))
    (hneed : total keys (fun key => (leftOf owned preUse key).toNat) ≤ need) :
    Booked cfgs s owned color curLevel leftExp preUse curLevel preUse' ↔
      (∀ key ∈ keys, (leftOf owned preUse key).toNat = 0) ∧
        ∀ key, (leftOf owned preUse key).toNat ≤ (owned key).toInt.toNat := by
  have hsum := Spending.sum_pay (fun key _ => hs key : ∀ key ∈ keys, key ∈ s) need
    (fun key => (leftOf owned preUse key).toNat)
  rw [Spending.unpaid_eq, ← hpay] at hsum
  beta_reduce at hsum
  have hbooks : ∑ key ∈ s, leftOf owned preUse' key = ∑ key ∈ s, leftOf owned preUse key ↔
      total keys (fun key => (leftOf owned preUse key).toNat) = 0 := by
    rw [sum_leftOf h, sum_leftOf h', Nat.cast_inj]
    omega
  have hzero : total keys (fun key => (leftOf owned preUse key).toNat) = 0 ↔
      ∀ key ∈ keys, (leftOf owned preUse key).toNat = 0 := by
    rw [total, Finset.sum_eq_zero_iff]
    simp only [List.mem_toFinset]
  rw [booked_stop_iff h', hbooks, hzero, ← forall_toNat_le_iff h' howned]
  refine and_congr_right fun hnothing => forall_congr' fun key => ?_
  have hsame : (leftOf owned preUse' key).toNat = (leftOf owned preUse key).toNat := by
    have hkey : (leftOf owned preUse' key).toNat =
      pay keys need (fun key => (leftOf owned preUse key).toNat) key := congrFun hpay key
    by_cases hmem : key ∈ keys
    · rw [hkey, Spending.pay_eq_zero hneed hmem, hnothing key hmem]
    · rw [hkey, Spending.pay_of_notMem hmem]
  rw [hsame]

/-- **The goods are enough** for a level. -/
lemma sum_leftOf_of_pay (hs : ∀ key, key ∈ s) (h : NoDebt owned preUse) (h' : NoDebt owned preUse')
    {keys : List Int32} {need : ℕ}
    (hpay : (fun key => (leftOf owned preUse' key).toNat) =
      pay keys need (fun key => (leftOf owned preUse key).toNat))
    (henough : need ≤ total keys (fun key => (leftOf owned preUse key).toNat)) :
    ∑ key ∈ s, leftOf owned preUse' key + need = ∑ key ∈ s, leftOf owned preUse key := by
  have hsum := Spending.sum_pay (fun key _ => hs key : ∀ key ∈ keys, key ∈ s) need
    (fun key => (leftOf owned preUse key).toNat)
  rw [Spending.unpaid_eq, Nat.sub_eq_zero_of_le henough, ← hpay] at hsum
  rw [sum_leftOf h, sum_leftOf h']
  exact_mod_cast hsum

/-- **There is more experience than is needed**: the rest is added to the first kind of goods. -/
lemma itemsForOneLv_surplus (hs : ∀ key, key ∈ s) (h : NoDebt owned preUse) {needExp : Int32}
    (key : Int32) (keys : List Int32) (hneed : needExp.toInt < 0)
    (hfits : leftOf owned preUse key - needExp.toInt < 2 ^ 31) :
    ∃ preUse₁ : AList fun _ : Int32 => Int32,
      itemsForOneLv owned (key :: keys) preUse needExp = (1, 0, preUse₁) ∧ NoDebt owned preUse₁ ∧
      (fun key' => (leftOf owned preUse₁ key').toNat) =
        Function.update (fun key' => (leftOf owned preUse key').toNat) key
          ((leftOf owned preUse key).toNat + (-needExp.toInt).toNat) ∧
      ∑ key ∈ s, leftOf owned preUse₁ key + needExp.toInt =
        ∑ key ∈ s, leftOf owned preUse key := by
  have hfirst : (preUse.getOrDefault key (owned key)).toInt = leftOf owned preUse key := rfl
  have hkey := h key
  have henough : needExp ≤ preUse.getOrDefault key (owned key) := by
    rw [Int32.le_iff_toInt_le]
    omega
  have hmore := Int32.toInt_sub_of_fits (a := preUse.getOrDefault key (owned key))
    (b := needExp) (by omega) (by omega)
  have hnum : 0 ≤ (preUse.getOrDefault key (owned key) - needExp).toInt := by omega
  have hdebt := h.insert hnum key
  have hleft : (fun key' => (leftOf owned
      (preUse.insert key (preUse.getOrDefault key (owned key) - needExp)) key').toNat) =
        Function.update (fun key' => (leftOf owned preUse key').toNat) key
          ((leftOf owned preUse key).toNat + (-needExp.toInt).toNat) := by
    rw [toNat_leftOf_insert]
    congr 1
    omega
  refine ⟨_, ?_, hdebt, hleft, ?_⟩
  · rw [itemsForOneLv, if_pos henough]
  · have hsum := Spending.sum_update (hs key) (fun key => (leftOf owned preUse key).toNat)
      ((leftOf owned preUse key).toNat + (-needExp.toInt).toNat)
    rw [← hleft] at hsum
    beta_reduce at hsum
    rw [sum_leftOf hdebt, sum_leftOf h]
    omega

lemma exists_ok_iff {level : Int32} {preUse : AList fun _ : Int32 => Int32}
    {p : Int32 → (AList fun _ : Int32 => Int32) → Prop} :
    (∃ newLevel preUse', (Except.ok (level, preUse) :
        Except Thrown (Int32 × AList fun _ : Int32 => Int32)) = .ok (newLevel, preUse') ∧
      p newLevel preUse') ↔ p level preUse := by
  constructor
  · rintro ⟨newLevel, preUse', heq, hp⟩
    obtain ⟨rfl, rfl⟩ := Prod.mk.inj (Except.ok.inj heq)
    exact hp
  · exact fun hp => ⟨level, preUse, rfl, hp⟩

/-- When a level is gained, the others are booked on their own. -/
lemma exists_booked_reach_iff {levelValue : HeroLv} {preUse₁ : AList fun _ : Int32 => Int32}
    (hfull : curLevel < fullLevel) (hlookup : cfgs.heroLvMap color (curLevel + 1) = some levelValue)
    (hpaid : ∑ key ∈ s, leftOf owned preUse₁ key + levelValue.exp.toInt =
      ∑ key ∈ s, leftOf owned preUse key + leftExp.toInt)
    (hrounds : rounds = (fullLevel.toInt - (curLevel + 1).toInt).toNat) :
    (∃ newLevel preUse',
        preUseLoop cfgs owned color rounds (curLevel + 1) 0 preUse₁ = .ok (newLevel, preUse') ∧
          Booked cfgs s owned color curLevel leftExp preUse newLevel preUse') ↔
      ∃ newLevel preUse',
        preUseLoop cfgs owned color rounds (curLevel + 1) 0 preUse₁ = .ok (newLevel, preUse') ∧
          Booked cfgs s owned color (curLevel + 1) 0 preUse₁ newLevel preUse' :=
  exists_congr fun _ => exists_congr fun _ => and_congr_right fun hrun =>
    booked_reach_iff hfull hlookup hpaid (level_preUseLoop hrounds hrun).1

/-- **Some levels are booked right** just when the goods are taken exactly. -/
lemma booked_iff_exact (hs : ∀ key, key ∈ s) (howned : ∀ key, 0 ≤ (owned key).toInt)
    (hcosts : ∀ level levelValue, cfgs.heroLvMap color level = some levelValue →
      0 ≤ levelValue.exp.toInt) (h : NoDebt owned preUse) (hexp : 0 ≤ leftExp.toInt)
    (hrounds : rounds = (fullLevel.toInt - curLevel.toInt).toNat)
    (hfits : ∀ levelValue, cfgs.heroLvMap color (curLevel + 1) = some levelValue →
      ∀ key, leftOf owned preUse key + (leftExp.toInt - levelValue.exp.toInt) < 2 ^ 31) :
    (∃ newLevel preUse',
        preUseLoop cfgs owned color rounds curLevel leftExp preUse = .ok (newLevel, preUse') ∧
          Booked cfgs s owned color curLevel leftExp preUse newLevel preUse') ↔
      Exact cfgs (fun key => (owned key).toInt.toNat) color rounds curLevel leftExp.toInt.toNat
        (fun key => (leftOf owned preUse key).toNat) := by
  have hfullLevel : fullLevel.toInt = 40 := rfl
  have hzero : (0 : Int32).toInt = 0 := rfl
  have hone : ¬(1 : Int32) = 0 := by decide
  induction rounds generalizing curLevel leftExp preUse with
  | zero =>
    rw [preUseLoop, exists_ok_iff, booked_stop_iff h, Exact, forall_toNat_le_iff h howned]
    exact and_iff_right rfl
  | succ rounds ih =>
    have hfull : curLevel < fullLevel := Int32.lt_iff_toInt_lt.mpr (by omega)
    have hnext := Int32.toInt_succ_of_lt hfull
    rw [preUseLoop_succ color curLevel leftExp rounds hfull, Exact]
    cases hlookup : cfgs.heroLvMap color (curLevel + 1) with
    | none => simp only [reduceCtorEq, false_and, exists_false]
    | some levelValue =>
      simp only [Option.some.injEq, exists_eq_left']
      have hcost := hcosts _ _ hlookup
      have hexpFits := leftExp.toInt_lt
      have hcostFits := levelValue.exp.toInt_lt
      have hneed := Int32.toInt_sub_of_fits (a := levelValue.exp) (b := leftExp)
        (by omega) (by omega)
      -- if the level is gained, the other levels are booked on their own
      have hreach : ∀ preUse₁ : AList fun _ : Int32 => Int32, NoDebt owned preUse₁ →
          ∑ key ∈ s, leftOf owned preUse₁ key + (levelValue.exp - leftExp).toInt =
            ∑ key ∈ s, leftOf owned preUse key →
          ((∃ newLevel preUse', preUseLoop cfgs owned color rounds (curLevel + 1) 0 preUse₁ =
              .ok (newLevel, preUse') ∧
            Booked cfgs s owned color curLevel leftExp preUse newLevel preUse') ↔
          Exact cfgs (fun key => (owned key).toInt.toNat) color rounds (curLevel + 1) 0
            (fun key => (leftOf owned preUse₁ key).toNat)) := by
        intro preUse₁ h₁ hpaid
        have hrounds' : rounds = (fullLevel.toInt - (curLevel + 1).toInt).toNat := by omega
        refine (exists_booked_reach_iff hfull hlookup (by omega) hrounds').trans
          (ih h₁ hzero.ge hrounds' fun levelValue' hlookup' key => ?_)
        have hcost' := hcosts _ _ hlookup'
        have hlt : leftOf owned preUse₁ key < 2 ^ 31 := Int32.toInt_lt _
        omega
      cases hkeys : levelValue.costItems ++ levelValue.costGeneralItems with
      | nil =>
        rw [itemsForOneLv, if_pos rfl, exists_ok_iff, booked_stop_iff h]
        simp only [forall_toNat_le_iff h howned, true_and]
      | cons key keys =>
        by_cases hsurplus : levelValue.exp.toInt.toNat < leftExp.toInt.toNat
        · have hkeyFits := hfits levelValue hlookup key
          have hnegative : (levelValue.exp - leftExp).toInt < 0 := by omega
          obtain ⟨preUse₁, hrun, h₁, hleft, hsum⟩ :=
            itemsForOneLv_surplus hs h key keys hnegative (by omega)
          have hrest : (-(levelValue.exp - leftExp).toInt).toNat =
              leftExp.toInt.toNat - levelValue.exp.toInt.toNat := by omega
          rw [hrest] at hleft
          simp only [hrun, if_neg hone, if_pos hsurplus]
          rw [hreach preUse₁ h₁ hsum, hleft]
        · have hnonneg : 0 ≤ (levelValue.exp - leftExp).toInt := by omega
          have hneed' : (levelValue.exp - leftExp).toInt.toNat =
              levelValue.exp.toInt.toNat - leftExp.toInt.toNat := by omega
          obtain ⟨h₁, hpay, hadded⟩ := itemsForOneLv_pays h hnonneg (key :: keys)
          rw [hneed'] at hpay hadded
          rw [Spending.unpaid_eq] at hadded
          by_cases henough : levelValue.exp.toInt.toNat - leftExp.toInt.toNat ≤
              total (key :: keys) (fun key => (leftOf owned preUse key).toNat)
          · have hsum := sum_leftOf_of_pay hs h h₁ hpay henough
            rw [if_pos ⟨List.cons_ne_nil key keys, Nat.sub_eq_zero_of_le henough⟩] at hadded
            simp only [hadded, if_neg hone, if_neg hsurplus, if_pos henough]
            rw [hreach _ h₁ (by omega), hpay]
          · have hmissing : ¬levelValue.exp.toInt.toNat - leftExp.toInt.toNat -
                total (key :: keys) (fun key => (leftOf owned preUse key).toNat) = 0 := by omega
            rw [if_neg fun h => hmissing h.2] at hadded
            simp only [hadded, if_true, if_neg hsurplus, if_neg henough]
            rw [exists_ok_iff]
            exact booked_abandoned_iff hs howned h h₁ hpay (Nat.le_of_not_le henough)

end AllLevels

/-! ## The result -/

section Result

variable {owned : Int32 → Int32} {preUse : AList fun _ : Int32 => Int32}

/-- All ids of goods. -/
def allItems : Finset Int32 := (Finset.range (2 ^ 32)).image fun n => Int32.ofNat n

lemma mem_allItems (key : Int32) : key ∈ allItems := by
  have hlt : key.toBitVec.toNat < 2 ^ 32 := key.toBitVec.isLt
  refine Finset.mem_image.mpr ⟨key.toBitVec.toNat, Finset.mem_range.mpr hlt, ?_⟩
  exact Int32.toBitVec_inj.mp (BitVec.ofNat_toNat 32 key.toBitVec)

/-- Goods that were not asked for were not taken. -/
lemma consumed_eq (preUse : AList fun _ : Int32 => Int32) : consumed owned preUse =
    ∑ key ∈ allItems, (owned key).toInt - ∑ key ∈ allItems, leftOf owned preUse key := by
  rw [consumed, ← Finset.sum_sub_distrib]
  refine Finset.sum_subset (fun key _ => mem_allItems key) fun key _ hkey => ?_
  have hnone : preUse.lookup key = none :=
    AList.lookup_eq_none.mpr fun hmem => hkey (List.mem_toFinset.mpr hmem)
  rw [leftOf, AList.getOrDefault, hnone, Option.getD_none, sub_self]

/-- **`tryLvAllIn` is exact** just when for each level in turn the goods are enough or nothing of
them is there, and experience that is not needed for the next level is used up by later ones. -/
theorem allIn_iff (owned : Int32 → Int32) (heroVO : HeroVO) (howned : ∀ key, 0 ≤ owned key)
    (hexp : 0 ≤ heroVO.exp)
    (hcosts : ∀ color level levelValue, cfgs.heroLvMap color level = some levelValue →
      0 ≤ levelValue.exp)
    -- the surplus of experience and the number of any goods are together an integer of the machine
    (hfits : ∀ color levelValue, cfgs.heroLvMap color (heroVO.level + 1) = some levelValue →
      ∀ key, (owned key).toInt + (heroVO.exp.toInt - levelValue.exp.toInt) < 2 ^ 31) :
    AllIn cfgs owned heroVO ↔
      ∃ heroCfg, cfgs.heroCfg heroVO.cid = some heroCfg ∧
        Exact cfgs (fun key => (owned key).toInt.toNat) heroCfg.colorType
          (fullLevel.toInt - heroVO.level.toInt).toNat heroVO.level heroVO.exp.toInt.toNat
          (fun key => (owned key).toInt.toNat) := by
  have howned' : ∀ key, 0 ≤ (owned key).toInt := fun key => Int32.le_iff_toInt_le.mp (howned key)
  have hexp' : 0 ≤ heroVO.exp.toInt := Int32.le_iff_toInt_le.mp hexp
  have hdebt : NoDebt owned ∅ := howned'
  refine exists_congr fun heroCfg => ?_
  simp only [exists_and_left]
  refine and_congr_right fun hcfg => ?_
  have hcosts' : ∀ level levelValue, cfgs.heroLvMap heroCfg.colorType level = some levelValue →
      0 ≤ levelValue.exp.toInt :=
    fun level levelValue hlookup => Int32.le_iff_toInt_le.mp (hcosts _ level levelValue hlookup)
  have hiff := booked_iff_exact mem_allItems howned' hcosts' hdebt hexp' rfl
    (hfits heroCfg.colorType)
  refine Iff.trans ?_ hiff
  simp only [tryLvAllInPreUse, hcfg]
  refine exists_congr fun newLevel => exists_congr fun preUse => and_congr_right fun hrun => ?_
  have hall : ∑ key ∈ allItems, leftOf owned ∅ key = ∑ key ∈ allItems, (owned key).toInt := rfl
  constructor
  · rintro ⟨-, -, hwithin, hbooks⟩
    rw [consumed_eq] at hbooks
    exact ⟨hwithin, by omega⟩
  · rintro ⟨hwithin, hbooks⟩
    obtain ⟨hle, hup⟩ := level_preUseLoop rfl hrun
    rw [consumed_eq]
    exact ⟨hle, hup, hwithin, by omega⟩

/-- One color, for which every level needs ten experience, or that many of two kinds of goods. -/
def tenConfigs : HeroConfigs where
  heroCfg _ := some ⟨1, 1, ⟨0, 0, 0, 0, 0, 0, 0⟩, ⟨0, 0, 0, 0, 0, 0, 0⟩⟩
  heroCareerCfg _ := none
  heroLvMap _ _ := some ⟨10, [1], [2]⟩

/-- A hero at some level, with some experience. -/
def heroAt (level exp : Int32) : HeroVO :=
  { id := 1, playerId := 1, cid := 1, level := level, star := 1, stage := 0
    careerExchanged := false, hp := 0, speed := 0, attack := 0, defense := 0, magicDefense := 0
    technique := 0, luck := 0, sp := 0, exp := exp }

/-- A player with some goods of the first kind. -/
def firstKind (num : Int32) (key : Int32) : Int32 := if key = 1 then num else 0

lemma firstKind_nonneg {num : Int32} (h : 0 ≤ num) (key : Int32) : 0 ≤ firstKind num key := by
  unfold firstKind
  split_ifs
  · exact h
  · exact Int32.le_refl 0

/-- Thirteen of the first kind, and the experience, are enough for two levels, with nothing left. -/
theorem allIn_iff_two_levels : AllIn tenConfigs (firstKind 13) (heroAt 30 7) := by
  refine (allIn_iff (firstKind 13) (heroAt 30 7) (firstKind_nonneg (by decide)) (by decide) ?_
    ?_).mpr ⟨_, rfl, ?_⟩
  · rintro color level levelValue ⟨⟩
    decide
  · rintro color levelValue ⟨⟩ key
    have hlt := (firstKind 13 key).toInt_lt
    have hless : (heroAt 30 7).exp.toInt - (10 : Int32).toInt < 0 := by decide
    show (firstKind 13 key).toInt + ((heroAt 30 7).exp.toInt - (10 : Int32).toInt) < 2 ^ 31
    omega
  · -- three are used for the next level, ten for the one after it
    refine ⟨_, rfl, (if_neg (by decide)).mpr ((if_pos (by decide)).mpr ?_)⟩
    refine ⟨_, rfl, (if_neg (by decide)).mpr ((if_pos (by decide)).mpr ?_)⟩
    refine ⟨_, rfl, (if_neg (by decide)).mpr ((if_neg (by decide)).mpr ⟨?_, ?_⟩)⟩
    · exact List.forall_mem_cons.mpr ⟨by decide, List.forall_mem_singleton.mpr (by decide)⟩
    · exact fun key => (Spending.pay_le ..).trans (Spending.pay_le ..)

/-- **Not so in general**: with four goods the level is not reached, and they are taken; and with
thirty more experience than the next level needs, forty are left of ten. -/
theorem not_allIn :
    ¬AllIn tenConfigs (firstKind 4) (heroAt 30 0) ∧
      ¬AllIn tenConfigs (firstKind 10) (heroAt 39 40) := by
  constructor
  · rintro ⟨heroCfg, newLevel, preUse, hcfg, hrun, -, -, -, hbooks⟩
    obtain rfl := Option.some.inj hcfg
    obtain ⟨rfl, rfl⟩ := Prod.mk.inj (Except.ok.inj hrun)
    exact absurd hbooks (by decide)
  · rintro ⟨heroCfg, newLevel, preUse, -, hrun, -, -, hwithin, -⟩
    obtain ⟨rfl, rfl⟩ := Prod.mk.inj (Except.ok.inj hrun)
    exact absurd (hwithin 1).2 (by decide)

end Result

end SrgpGame.Hero
