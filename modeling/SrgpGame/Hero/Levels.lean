import SrgpGame.Hero.Reload
import SrgpGame.Lib.Handout
import SrgpGame.Lib.Machine
import SrgpGame.Lib.Runs

set_option autoImplicit false

/-!
# The values of a hero from level to level

On its way to the full level a hero gets what each of its values lacks of that at the full level, in
random parts: one for every level. `heroLvLogic` is called for some levels at a time, and computes
the parts anew in each call. The parts that are greater by one are not counted within a call, so a
call can give too much.

## Main definitions

* `Stat` — the values of a hero.
* `Call`, `levelNext` — a call of `heroLvLogic`, and the player after it.
* `Grows` — what a call should do to the values.
* `Fits` — what a call gives fits: the condition on a value and the levels.

## Main results

* `added_iff` — a value grows as it should for all random numbers just if what is given fits.
* `grows_run` — if what is given fits in every call, then every call does what it should; and in
  each call it fits if the call does what it should for all random numbers.
-/

namespace SrgpGame.Hero

/-! ## The values of a hero -/

/-- The values of a hero that grow, in the order of `heroLvLogic`. -/
inductive Stat where
  | hp
  | speed
  | attack
  | defense
  | magicDefense
  | technique
  | luck
  deriving DecidableEq, Repr

/-- A value of a hero. -/
def HeroVO.stat (heroVO : HeroVO) : Stat → Int32
  | .hp => heroVO.hp
  | .speed => heroVO.speed
  | .attack => heroVO.attack
  | .defense => heroVO.defense
  | .magicDefense => heroVO.magicDefense
  | .technique => heroVO.technique
  | .luck => heroVO.luck

/-- The same value in a configuration. -/
def HeroProp.stat (cfg : HeroProp) : Stat → Int32
  | .hp => cfg.hp
  | .speed => cfg.speed
  | .attack => cfg.attack
  | .defense => cfg.defense
  | .magicDefense => cfg.magicDefense
  | .technique => cfg.technique
  | .luck => cfg.luck

/-- The values that come before one. -/
def Stat.before : Stat → List Stat
  | .hp => []
  | .speed => [.hp]
  | .attack => [.hp, .speed]
  | .defense => [.hp, .speed, .attack]
  | .magicDefense => [.hp, .speed, .attack, .defense]
  | .technique => [.hp, .speed, .attack, .defense, .magicDefense]
  | .luck => [.hp, .speed, .attack, .defense, .magicDefense, .technique]

/-- `Random.nextInt`: a number from zero up to the bound, exclusive. -/
def InRange (nextInt : ℕ → Int32 → Int32) : Prop :=
  ∀ i n, 0 < n → 0 ≤ nextInt i n ∧ nextInt i n < n

/-! ## The loop -/

/-- The random numbers of a call of `getPropAdded`, as integers. -/
def drawsOf (nextInt : ℕ → Int32 → Int32) : ℕ → Int32 → ℕ → List ℤ
  | _, _, 0 => []
  | i, totalTimes, k + 1 =>
    (nextInt i totalTimes).toInt :: drawsOf nextInt (i + 1) (totalTimes - 1) k

section Loop

variable {nextInt : ℕ → Int32 → Int32} {i k : ℕ}
  {totalTimes added addMode addFactor curValue maxValue : Int32}

@[simp] lemma length_drawsOf : (drawsOf nextInt i totalTimes k).length = k := by
  induction k generalizing i totalTimes with
  | zero => rfl
  | succ k ih => rw [drawsOf, List.length_cons, ih]

/-- One time less. -/
lemma toInt_sub_one (h : 0 < totalTimes.toInt) : (totalTimes - 1).toInt = totalTimes.toInt - 1 := by
  have hlt := totalTimes.toInt_lt
  have hone : (1 : Int32).toInt = 1 := rfl
  rw [Int32.toInt_sub_of_fits (by omega) (by omega), hone]

lemma drawn_drawsOf (hrange : InRange nextInt) (hk : (k : ℤ) ≤ totalTimes.toInt) :
    Handout.Drawn totalTimes.toInt (drawsOf nextInt i totalTimes k) := by
  induction k generalizing i totalTimes with
  | zero => trivial
  | succ k ih =>
    push_cast at hk
    have hpos : 0 < totalTimes.toInt := by omega
    obtain ⟨hlow, hhigh⟩ := hrange i totalTimes (Int32.lt_iff_toInt_lt.mpr hpos)
    have hrest := @ih (i + 1) (totalTimes - 1) (by rw [toInt_sub_one hpos]; omega)
    rw [toInt_sub_one hpos] at hrest
    exact ⟨⟨Int32.le_iff_toInt_le.mp hlow, Int32.lt_iff_toInt_lt.mp hhigh⟩, hrest⟩

/-- What a draw adds in the loop. -/
def addOne (addMode addFactor curValue maxValue added randomValue : Int32) : Int32 :=
  if randomValue < maxValue - (curValue + added) then
    added + addFactor + (if randomValue < addMode then 1 else 0)
  else added

/-- **What is left after a draw** of what the value lacks. -/
lemma lack_addOne {randomValue : Int32} (hfactor : 0 ≤ addFactor.toInt)
    (hnonneg : 0 ≤ randomValue.toInt) :
    (maxValue - (curValue + addOne addMode addFactor curValue maxValue added randomValue)).toInt =
      if randomValue.toInt < (maxValue - (curValue + added)).toInt then
        (maxValue - (curValue + added)).toInt -
          (addFactor.toInt + if randomValue.toInt < addMode.toInt then 1 else 0)
      else (maxValue - (curValue + added)).toInt := by
  unfold addOne
  simp only [Int32.lt_iff_toInt_lt]
  split_ifs with hgive hmore
  · have hsub : maxValue - (curValue + (added + addFactor + 1)) =
        maxValue - (curValue + added) - addFactor - 1 := by grind
    have hfits := (maxValue - (curValue + added)).toInt_lt
    have hfits' := addFactor.toInt_lt
    have hone : (1 : Int32).toInt = 1 := rfl
    have hfirst : (maxValue - (curValue + added) - addFactor).toInt =
        (maxValue - (curValue + added)).toInt - addFactor.toInt :=
      Int32.toInt_sub_of_fits (by omega) (by omega)
    rw [hsub, Int32.toInt_sub_of_fits (by omega) (by omega), hfirst, hone]
    omega
  · have hsub : maxValue - (curValue + (added + addFactor + 0)) =
        maxValue - (curValue + added) - addFactor := by grind
    have hfits := (maxValue - (curValue + added)).toInt_lt
    have hfits' := addFactor.toInt_lt
    rw [hsub, Int32.toInt_sub_of_fits (by omega) (by omega), Int.add_zero]
  · rfl

/-- **What is left after the loop** of what the value lacks. -/
lemma getPropAddedLoop_spec (hrange : InRange nextInt) (hk : (k : ℤ) ≤ totalTimes.toInt)
    (hfactor : 0 ≤ addFactor.toInt) :
    ((getPropAddedLoop nextInt addMode addFactor curValue maxValue k totalTimes added).run i).2 =
        i + k ∧
      (maxValue - (curValue + ((getPropAddedLoop nextInt addMode addFactor curValue maxValue k
        totalTimes added).run i).1)).toInt =
          Handout.rest addFactor.toInt addMode.toInt (maxValue - (curValue + added)).toInt
            (drawsOf nextInt i totalTimes k) := by
  induction k generalizing i totalTimes added with
  | zero => exact ⟨rfl, rfl⟩
  | succ k ih =>
    push_cast at hk
    have hpos : 0 < totalTimes.toInt := by omega
    obtain ⟨hlow, -⟩ := hrange i totalTimes (Int32.lt_iff_toInt_lt.mpr hpos)
    have hless : (k : ℤ) ≤ (totalTimes - 1).toInt := by
      rw [toInt_sub_one hpos]
      omega
    obtain ⟨hcount, hrest⟩ := @ih (i + 1) (totalTimes - 1)
      (addOne addMode addFactor curValue maxValue added (nextInt i totalTimes)) hless
    refine ⟨?_, ?_⟩
    · exact hcount.trans (by omega)
    · rw [drawsOf, Handout.rest, ← lack_addOne hfactor (Int32.le_iff_toInt_le.mp hlow)]
      exact hrest

/-- A value that lacks nothing gets nothing. -/
lemma getPropAddedLoop_of_nonpos (hrange : InRange nextInt) (hk : (k : ℤ) ≤ totalTimes.toInt)
    (hlack : (maxValue - (curValue + added)).toInt ≤ 0) :
    (getPropAddedLoop nextInt addMode addFactor curValue maxValue k totalTimes added).run i =
      (added, i + k) := by
  induction k generalizing i totalTimes with
  | zero => rfl
  | succ k ih =>
    push_cast at hk
    have hpos : 0 < totalTimes.toInt := by omega
    obtain ⟨hlow, -⟩ := hrange i totalTimes (Int32.lt_iff_toInt_lt.mpr hpos)
    rw [Int32.le_iff_toInt_le, Int32.toInt_zero] at hlow
    have hnot : ¬nextInt i totalTimes < maxValue - (curValue + added) := by
      rw [Int32.lt_iff_toInt_lt]
      omega
    have hnext := @ih (i + 1) (totalTimes - 1) (by rw [toInt_sub_one hpos]; omega)
    have hcount : i + (k + 1) = i + 1 + k := by omega
    rw [hcount, ← hnext]
    change (getPropAddedLoop nextInt addMode addFactor curValue maxValue k (totalTimes - 1)
      (addOne addMode addFactor curValue maxValue added (nextInt i totalTimes))).run (i + 1) = _
    rw [addOne, if_neg hnot]

end Loop

/-! ## One value in one call -/

/-- **What a call should do to a value**: it does not decrease and does not exceed that at the full
level, which it reaches when no level is left. -/
structure Grown (value value' maxValue totalTimes useTimes : Int32) : Prop where
  le : value ≤ value'
  le_max : value' ≤ maxValue
  full : useTimes = totalTimes → value' = maxValue

/-- **What is given fits**: what the value lacks is less than the number of levels left or a
multiple of it, or enough to give the greater part for each level of the call. If it is no `int`,
nothing is given, and there is a level left. -/
def Fits (totalTimes useTimes : Int32) (lack : ℤ) : Prop :=
  if lack < 2 ^ 31 then Handout.Even totalTimes.toInt lack useTimes.toInt.toNat
  else useTimes ≠ totalTimes

section GetPropAdded

variable {nextInt : ℕ → Int32 → Int32} {i : ℕ} {totalTimes useTimes curValue maxValue : Int32}

/-- **What is left of the lack** after a call, if it is an `int`. -/
lemma getPropAdded_spec (hrange : InRange nextInt)
    (htotal : useTimes.toInt ≤ totalTimes.toInt) (hpos : 0 < totalTimes.toInt)
    (hle : curValue.toInt ≤ maxValue.toInt) (hfits : maxValue.toInt - curValue.toInt < 2 ^ 31) :
    ((getPropAdded nextInt totalTimes useTimes curValue maxValue).run i).2 =
        i + useTimes.toInt.toNat ∧
      (maxValue - (curValue +
        ((getPropAdded nextInt totalTimes useTimes curValue maxValue).run i).1)).toInt =
          Handout.rest ((maxValue.toInt - curValue.toInt) / totalTimes.toInt)
            ((maxValue.toInt - curValue.toInt) % totalTimes.toInt)
            (maxValue.toInt - curValue.toInt)
            (drawsOf nextInt i totalTimes useTimes.toInt.toNat) := by
  set lack := maxValue.toInt - curValue.toInt with hlack
  have hsub : (maxValue - curValue).toInt = lack :=
    Int32.toInt_sub_of_fits (by omega) (by omega)
  have hmode : ((maxValue - curValue) % totalTimes).toInt = lack % totalTimes.toInt := by
    rw [Int32.toInt_mod, hsub, Int.tmod_eq_emod_of_nonneg (by omega)]
  have hmod := Int.emod_nonneg lack hpos.ne'
  have hmod' := Int.emod_lt_of_pos lack hpos
  have hdivmod : totalTimes.toInt * (lack / totalTimes.toInt) + lack % totalTimes.toInt = lack :=
    Int.mul_ediv_add_emod lack _
  have hless := totalTimes.toInt_lt
  have hfactor : ((maxValue - curValue - (maxValue - curValue) % totalTimes) / totalTimes).toInt =
      lack / totalTimes.toInt := by
    have hrest : (maxValue - curValue - (maxValue - curValue) % totalTimes).toInt =
        totalTimes.toInt * (lack / totalTimes.toInt) := by
      rw [Int32.toInt_sub_of_fits (by omega) (by omega), hsub, hmode]
      omega
    have hne : totalTimes ≠ -1 := by
      rintro rfl
      exact absurd hpos (by decide)
    rw [Int32.toInt_div_of_ne_right _ _ hne, hrest, Int.mul_tdiv_cancel_left _ hpos.ne']
  have hzero : maxValue - (curValue + 0) = maxValue - curValue := by grind
  have hloop := @getPropAddedLoop_spec nextInt i useTimes.toInt.toNat totalTimes 0
    ((maxValue - curValue) % totalTimes)
    ((maxValue - curValue - (maxValue - curValue) % totalTimes) / totalTimes) curValue maxValue
    hrange (by omega) (hfactor ▸ Int.ediv_nonneg (by omega) hpos.le)
  rw [hmode, hfactor, hzero, hsub] at hloop
  have hnot : ¬totalTimes < useTimes := by
    rw [Int32.lt_iff_toInt_lt]
    omega
  rw [getPropAdded, if_neg hnot]
  exact hloop

/-- A value whose lack is no `int` gets nothing. -/
lemma getPropAdded_of_large (hrange : InRange nextInt) (hpos : 0 < totalTimes.toInt)
    (htotal : useTimes.toInt ≤ totalTimes.toInt)
    (hlarge : 2 ^ 31 ≤ maxValue.toInt - curValue.toInt) :
    (getPropAdded nextInt totalTimes useTimes curValue maxValue).run i =
      (0, i + useTimes.toInt.toNat) := by
  have hlack : (maxValue - (curValue + 0)).toInt ≤ 0 := by
    have hzero : maxValue - (curValue + 0) = maxValue - curValue := by grind
    have hlow := curValue.le_toInt
    have hhigh := maxValue.toInt_lt
    rw [hzero, Int32.toInt_sub, Int.bmod_def]
    omega
  have hnot : ¬totalTimes < useTimes := by
    rw [Int32.lt_iff_toInt_lt]
    omega
  rw [getPropAdded, if_neg hnot]
  exact getPropAddedLoop_of_nonpos hrange (by omega) hlack

/-- A value grows as it should just if what is left of its lack is as it should be. -/
lemma grown_iff {value' : Int32} (hle : curValue.toInt ≤ maxValue.toInt)
    (hfits : maxValue.toInt - curValue.toInt < 2 ^ 31) :
    Grown curValue value' maxValue totalTimes useTimes ↔
      0 ≤ (maxValue - value').toInt ∧
        (maxValue - value').toInt ≤ maxValue.toInt - curValue.toInt ∧
        (useTimes = totalTimes → (maxValue - value').toInt = 0) := by
  have hback : maxValue - (maxValue - value') = value' := by grind
  constructor
  · rintro ⟨hcur, hmax, hfull⟩
    rw [Int32.le_iff_toInt_le] at hcur hmax
    have hsub : (maxValue - value').toInt = maxValue.toInt - value'.toInt :=
      Int32.toInt_sub_of_fits (by omega) (by omega)
    refine ⟨by omega, by omega, fun hall => ?_⟩
    rw [hsub, hfull hall, Int.sub_self]
  · rintro ⟨hlow, hhigh, hzero⟩
    have hcur := curValue.le_toInt
    have hmax := maxValue.toInt_lt
    have hsub : value'.toInt = maxValue.toInt - (maxValue - value').toInt := by
      rw [← Int32.toInt_sub_of_fits (by omega) (by omega), hback]
    refine ⟨Int32.le_iff_toInt_le.mpr (by omega), Int32.le_iff_toInt_le.mpr (by omega), ?_⟩
    intro hall
    rw [← Int32.toInt_inj, hsub, hzero hall, Int.sub_zero]

/-- **A value to which fits what is given grows as it should.** -/
lemma grown_of_fits (hrange : InRange nextInt) (htotal : useTimes.toInt ≤ totalTimes.toInt)
    (hpos : 0 < totalTimes.toInt) (hle : curValue.toInt ≤ maxValue.toInt)
    (hfits : Fits totalTimes useTimes (maxValue.toInt - curValue.toInt)) :
    Grown curValue
      (curValue + ((getPropAdded nextInt totalTimes useTimes curValue maxValue).run i).1) maxValue
      totalTimes useTimes := by
  unfold Fits at hfits
  split_ifs at hfits with hint
  · obtain ⟨-, hrest⟩ := @getPropAdded_spec nextInt i _ _ _ _ hrange htotal hpos hle hint
    have hfair := Handout.fair_of_even hpos (by omega) hfits _ length_drawsOf
      (@drawn_drawsOf nextInt i useTimes.toInt.toNat totalTimes hrange (by omega))
    rw [grown_iff hle hint, hrest]
    refine ⟨hfair.1, hfair.2.1, fun hall => hfair.2.2 ?_⟩
    rw [hall]
    omega
  · rw [getPropAdded_of_large hrange hpos htotal (by omega)]
    have hzero : curValue + 0 = curValue := by grind
    refine ⟨?_, ?_, fun hall => absurd hall hfits⟩
    · rw [hzero]
      exact Int32.le_refl curValue
    · rw [hzero]
      exact Int32.le_iff_toInt_le.mpr hle

/-- Random numbers that are drawn as wanted from a call on. -/
lemma drawsOf_eq {vs : List ℤ} (hvs : Handout.Drawn totalTimes.toInt vs)
    (hnext : ∀ j (hj : j < vs.length) n, vs[j] < n.toInt → (nextInt (i + j) n).toInt = vs[j]) :
    drawsOf nextInt i totalTimes vs.length = vs := by
  induction vs generalizing i totalTimes with
  | nil => rfl
  | cons v vs ih =>
    obtain ⟨⟨hv, hvt⟩, hvs⟩ := hvs
    rw [← toInt_sub_one (by omega)] at hvs
    have hhead : (nextInt i totalTimes).toInt = v :=
      hnext 0 (Nat.zero_lt_succ _) totalTimes hvt
    have htail := @ih (i + 1) (totalTimes - 1) hvs (by
      intro j hj n hn
      have hstep := hnext (j + 1) (Nat.succ_lt_succ hj) n hn
      rw [show i + (j + 1) = i + 1 + j by omega] at hstep
      exact hstep)
    rw [List.length_cons, drawsOf, hhead, htail]

/-- Every draws can be drawn from a call on. -/
lemma exists_nextInt (i : ℕ) {vs : List ℤ} (hvs : Handout.Drawn totalTimes.toInt vs) :
    ∃ nextInt, InRange nextInt ∧ drawsOf nextInt i totalTimes vs.length = vs := by
  let wanted (j : ℕ) : ℤ := (vs[j - i]?).getD 0
  refine ⟨fun j n => if 0 ≤ wanted j ∧ wanted j < n.toInt then .ofInt (wanted j) else 0, ?_, ?_⟩
  · intro j n hn
    rw [Int32.lt_iff_toInt_lt, Int32.toInt_zero] at hn
    have hless := n.toInt_lt
    simp only [Int32.le_iff_toInt_le, Int32.lt_iff_toInt_lt]
    split_ifs with hwanted
    · rw [Int32.toInt_ofInt_of_le (by omega) (by omega), Int32.toInt_zero]
      exact hwanted
    · rw [Int32.toInt_zero]
      exact ⟨Int.le_refl 0, hn⟩
  · refine drawsOf_eq hvs fun j hj n hn => ?_
    have hwanted : wanted (i + j) = vs[j] := by
      simp only [wanted, Nat.add_sub_cancel_left, List.getElem?_eq_getElem hj, Option.getD_some]
    have hnonneg : 0 ≤ vs[j] := hvs.nonneg _ (List.getElem_mem hj)
    have hless := n.toInt_lt
    simp only [hwanted]
    rw [if_pos ⟨hnonneg, hn⟩, Int32.toInt_ofInt_of_le (by omega) (by omega)]

/-- **If what is given does not fit**, the value does not grow as it should for some random
numbers. -/
lemma exists_not_grown (i : ℕ) (htotal : useTimes.toInt ≤ totalTimes.toInt)
    (hpos : 0 < totalTimes.toInt) (huse : 0 < useTimes.toInt)
    (hle : curValue.toInt ≤ maxValue.toInt)
    (hnot : ¬Fits totalTimes useTimes (maxValue.toInt - curValue.toInt)) :
    ∃ nextInt, InRange nextInt ∧ ¬Grown curValue
      (curValue + ((getPropAdded nextInt totalTimes useTimes curValue maxValue).run i).1) maxValue
      totalTimes useTimes := by
  unfold Fits at hnot
  split_ifs at hnot with hint
  · obtain ⟨vs, hlength, hvs, hlt⟩ := Handout.exists_rest_lt hpos (by omega) hnot
    obtain ⟨nextInt, hrange, hdraws⟩ := exists_nextInt i hvs
    refine ⟨nextInt, hrange, ?_⟩
    obtain ⟨-, hrest⟩ := @getPropAdded_spec nextInt i _ _ _ _ hrange htotal hpos hle hint
    rw [hlength] at hdraws
    rw [grown_iff hle hint, hrest, hdraws]
    rintro ⟨hnonneg, -⟩
    omega
  · -- nothing is given, and no level is left
    have hall : useTimes = totalTimes := not_not.mp hnot
    refine ⟨fun _ _ => 0, fun _ n hn => ⟨Int32.le_refl 0, hn⟩, ?_⟩
    rw [getPropAdded_of_large (fun _ n hn => ⟨Int32.le_refl 0, hn⟩) hpos htotal (by omega)]
    rintro ⟨-, -, hfull⟩
    have hzero : curValue + 0 = curValue := by grind
    rw [hzero] at hfull
    have heq := hfull hall
    rw [heq] at hint
    omega

end GetPropAdded

/-! ## All values in one call -/

section AddProps

variable {nextInt : ℕ → Int32 → Int32} {totalTimes useTimes : Int32} {cfg : HeroProp}
  {heroVO : HeroVO}

/-- A call of `getPropAdded` draws a number for each level. -/
lemma getPropAdded_count (hrange : InRange nextInt) (htotal : useTimes.toInt ≤ totalTimes.toInt)
    (hpos : 0 < totalTimes.toInt) {curValue maxValue : Int32}
    (hle : curValue.toInt ≤ maxValue.toInt) (i : ℕ) :
    ((getPropAdded nextInt totalTimes useTimes curValue maxValue).run i).2 =
      i + useTimes.toInt.toNat := by
  by_cases hint : maxValue.toInt - curValue.toInt < 2 ^ 31
  · exact (getPropAdded_spec hrange htotal hpos hle hint).1
  · rw [getPropAdded_of_large hrange hpos htotal (by omega)]

/-- The state after some values, each of which moves it by `u`. -/
lemma foldl_run {f : Stat → StateM ℕ Int32} {u : ℕ} (hcount : ∀ stat i, ((f stat).run i).2 = i + u)
    (stats : List Stat) (i : ℕ) :
    stats.foldl (fun i stat => ((f stat).run i).2) i = i + stats.length * u := by
  induction stats generalizing i with
  | nil => rw [List.foldl_nil, List.length_nil, Nat.zero_mul, Nat.add_zero]
  | cons stat stats ih =>
    rw [List.foldl_cons, hcount, ih, List.length_cons, Nat.add_mul]
    omega

/-- **What `addProps` does to a value**: the random numbers for the values before it are drawn
first. -/
lemma stat_addProps (hrange : InRange nextInt) (htotal : useTimes.toInt ≤ totalTimes.toInt)
    (hpos : 0 < totalTimes.toInt)
    (hle : ∀ stat, (heroVO.stat stat).toInt ≤ (cfg.stat stat).toInt) (stat : Stat) :
    ((addProps nextInt totalTimes useTimes cfg heroVO).run 0).1.stat stat =
      heroVO.stat stat + ((getPropAdded nextInt totalTimes useTimes (heroVO.stat stat)
        (cfg.stat stat)).run (0 + stat.before.length * useTimes.toInt.toNat)).1 := by
  rw [← foldl_run (fun stat i => getPropAdded_count hrange htotal hpos (hle stat) i)]
  cases stat <;> rfl

end AddProps

/-! ## Calls of `heroLvLogic` -/

/-- A call of `heroLvLogic` for a hero. -/
structure Call where
  newLevel : Int32
  nextInt : ℕ → Int32 → Int32

variable (cfgs : HeroConfigs) (heroId : Int32)

/-- The player after a call. -/
def levelNext (pvo : PlayerVO) (call : Call) : PlayerVO :=
  match pvo.heroes.lookup heroId with
  | none => pvo
  | some heroVO =>
    (heroLvLogic cfgs call.nextInt heroId heroVO call.newLevel).finalState pvo

/-- **A hero on its way**: it has a level, no value exceeds that of its full level. -/
structure OnWay (pvo : PlayerVO) (heroVO : HeroVO) (cfg : HeroProp) : Prop where
  lookup : pvo.heroes.lookup heroId = some heroVO
  full : getFullLvProps cfgs heroVO = .ok cfg
  level : 1 ≤ heroVO.level
  le : ∀ stat, heroVO.stat stat ≤ cfg.stat stat

/-- A call raises the level, and not over the full one. -/
structure Raises (pvo : PlayerVO) (call : Call) : Prop where
  higher : ∀ heroVO, pvo.heroes.lookup heroId = some heroVO → heroVO.level < call.newLevel
  le : call.newLevel ≤ fullLevel
  inRange : InRange call.nextInt

/-- **What a call should do**: no value decreases or exceeds that of the full level, at which they
are the same. -/
def Grows (pvo : PlayerVO) (call : Call) : Prop :=
  ∀ heroVO cfg, OnWay cfgs heroId pvo heroVO cfg →
    ∃ heroVO', (levelNext cfgs heroId pvo call).heroes.lookup heroId = some heroVO' ∧
      heroVO'.level = call.newLevel ∧ ∀ stat, heroVO.stat stat ≤ heroVO'.stat stat ∧
        heroVO'.stat stat ≤ cfg.stat stat ∧
        (call.newLevel = fullLevel → heroVO'.stat stat = cfg.stat stat)

/-- **What a call gives fits** every value, with the levels that are left and those of the call. -/
def FitsAll (pvo : PlayerVO) (newLevel : Int32) : Prop :=
  ∀ heroVO cfg, OnWay cfgs heroId pvo heroVO cfg → ∀ stat,
    Fits (fullLevel - heroVO.level) (newLevel - heroVO.level)
      ((cfg.stat stat).toInt - (heroVO.stat stat).toInt)

/-- **What is given fits in all calls that can come**: what a value lacks is less than the number of
levels left, or a multiple of it. -/
def Smooth (heroVO : HeroVO) (cfg : HeroProp) (stat : Stat) : Prop :=
  let lack := (cfg.stat stat).toInt - (heroVO.stat stat).toInt
  let left := fullLevel.toInt - heroVO.level.toInt
  lack < left ∨ left ∣ lack ∧ lack < 2 ^ 31

instance (heroVO : HeroVO) (cfg : HeroProp) (stat : Stat) : Decidable (Smooth heroVO cfg stat) :=
  inferInstanceAs (Decidable (_ ∨ _))

section Calls

variable {cfgs heroId} {pvo : PlayerVO} {heroVO : HeroVO} {cfg : HeroProp} {call : Call}

/-- The player after a call that raises the level. -/
lemma OnWay.levelNext_eq (h : OnWay cfgs heroId pvo heroVO cfg) (hraises : Raises heroId pvo call) :
    levelNext cfgs heroId pvo call = { pvo with
      heroes := pvo.heroes.insert heroId (leveled call.nextInt call.newLevel cfg heroVO) } := by
  unfold levelNext
  simp only [h.lookup]
  exact EStateM.finalState_eq_of_ok
    (heroLvLogic_run_ok cfgs h.full (hraises.higher heroVO h.lookup))

/-- The numbers of levels, as integers. -/
lemma OnWay.levels (h : OnWay cfgs heroId pvo heroVO cfg) {newLevel : Int32}
    (hhigher : heroVO.level < newLevel) (hle : newLevel ≤ fullLevel) :
    (fullLevel - heroVO.level).toInt = 40 - heroVO.level.toInt ∧
      (newLevel - heroVO.level).toInt = newLevel.toInt - heroVO.level.toInt ∧
      1 ≤ heroVO.level.toInt ∧ heroVO.level.toInt < newLevel.toInt ∧ newLevel.toInt ≤ 40 := by
  have hlevel : 1 ≤ heroVO.level.toInt := Int32.le_iff_toInt_le.mp h.level
  have hlt := Int32.lt_iff_toInt_lt.mp hhigher
  have hfull : newLevel.toInt ≤ 40 := Int32.le_iff_toInt_le.mp hle
  have hforty : fullLevel.toInt = 40 := rfl
  refine ⟨?_, ?_, hlevel, hlt, hfull⟩
  · rw [Int32.toInt_sub_of_fits (by omega) (by omega), hforty]
  · exact Int32.toInt_sub_of_fits (by omega) (by omega)

/-- **What a call does to a value.** -/
lemma OnWay.stat_leveled (h : OnWay cfgs heroId pvo heroVO cfg) {newLevel : Int32}
    {nextInt : ℕ → Int32 → Int32} (hhigher : heroVO.level < newLevel) (hle : newLevel ≤ fullLevel)
    (hrange : InRange nextInt) (stat : Stat) :
    (leveled nextInt newLevel cfg heroVO).stat stat =
      heroVO.stat stat + ((getPropAdded nextInt (fullLevel - heroVO.level)
        (newLevel - heroVO.level) (heroVO.stat stat) (cfg.stat stat)).run
          (0 + stat.before.length * (newLevel - heroVO.level).toInt.toNat)).1 := by
  obtain ⟨htotal, huse, hlevel, hlt, hfull⟩ := h.levels hhigher hle
  have hsame : ∀ stat, { heroVO with level := newLevel, exp := 0 : HeroVO }.stat stat =
      heroVO.stat stat := fun stat => by cases stat <;> rfl
  have hstat := @stat_addProps nextInt (fullLevel - heroVO.level) (newLevel - heroVO.level) cfg
    { heroVO with level := newLevel, exp := 0 } hrange (by omega) (by omega)
    (fun stat => by rw [hsame]; exact Int32.le_iff_toInt_le.mp (h.le stat)) stat
  rw [hsame] at hstat
  exact hstat

/-- All levels are left for a call just if it goes to the full level. -/
lemma sub_eq_sub_iff {level newLevel : Int32} :
    newLevel - level = fullLevel - level ↔ newLevel = fullLevel := by
  constructor
  · intro h
    have hback : newLevel = newLevel - level + level := by grind
    rw [hback, h]
    grind
  · rintro rfl
    rfl

/-- **A call does what it should just if every value grows as it should.** -/
lemma OnWay.grows_iff (h : OnWay cfgs heroId pvo heroVO cfg) (hraises : Raises heroId pvo call) :
    Grows cfgs heroId pvo call ↔ ∀ stat, Grown (heroVO.stat stat)
      ((leveled call.nextInt call.newLevel cfg heroVO).stat stat) (cfg.stat stat)
      (fullLevel - heroVO.level) (call.newLevel - heroVO.level) := by
  have hnext := h.levelNext_eq hraises
  have hlookup : (levelNext cfgs heroId pvo call).heroes.lookup heroId =
      some (leveled call.nextInt call.newLevel cfg heroVO) := by
    rw [hnext]
    exact AList.lookup_insert _
  constructor
  · intro hgrows stat
    obtain ⟨heroVO', hlookup', -, hstat⟩ := hgrows heroVO cfg h
    rw [hlookup] at hlookup'
    obtain rfl := Option.some.inj hlookup'
    obtain ⟨hle, hmax, hfull⟩ := hstat stat
    exact ⟨hle, hmax, fun hall => hfull (sub_eq_sub_iff.mp hall)⟩
  · intro hgrown heroVO' cfg' h'
    obtain rfl := Option.some.inj (h.lookup.symm.trans h'.lookup)
    obtain rfl := Except.ok.inj (h.full.symm.trans h'.full)
    refine ⟨_, hlookup, rfl, fun stat => ?_⟩
    obtain ⟨hle, hmax, hfull⟩ := hgrown stat
    exact ⟨hle, hmax, fun hall => hfull (sub_eq_sub_iff.mpr hall)⟩

/-- A call in which everything fits does what it should. -/
lemma OnWay.grows_of_fits (h : OnWay cfgs heroId pvo heroVO cfg) (hraises : Raises heroId pvo call)
    (hfits : FitsAll cfgs heroId pvo call.newLevel) : Grows cfgs heroId pvo call := by
  have hhigher := hraises.higher heroVO h.lookup
  obtain ⟨htotal, huse, hlevel, hlt, hfull⟩ := h.levels hhigher hraises.le
  refine (h.grows_iff hraises).mpr fun stat => ?_
  rw [h.stat_leveled hhigher hraises.le hraises.inRange]
  exact grown_of_fits hraises.inRange (by omega) (by omega) (Int32.le_iff_toInt_le.mp (h.le stat))
    (hfits heroVO cfg h stat)

/-- If something does not fit, then for some random numbers a call does not do what it should. -/
lemma OnWay.fits_of_grows (h : OnWay cfgs heroId pvo heroVO cfg) {newLevel : Int32}
    (hhigher : heroVO.level < newLevel) (hle : newLevel ≤ fullLevel)
    (hgrows : ∀ nextInt, InRange nextInt → Grows cfgs heroId pvo ⟨newLevel, nextInt⟩) :
    FitsAll cfgs heroId pvo newLevel := by
  intro heroVO' cfg' h' stat
  obtain rfl := Option.some.inj (h.lookup.symm.trans h'.lookup)
  obtain rfl := Except.ok.inj (h.full.symm.trans h'.full)
  obtain ⟨htotal, huse, hlevel, hlt, hfull⟩ := h.levels hhigher hle
  by_contra hnot
  obtain ⟨nextInt, hrange, hnotGrown⟩ := exists_not_grown
    (0 + stat.before.length * (newLevel - heroVO.level).toInt.toNat)
    (show (newLevel - heroVO.level).toInt ≤ (fullLevel - heroVO.level).toInt by omega)
    (by omega) (by omega) (Int32.le_iff_toInt_le.mp (h.le stat)) hnot
  have hraises : Raises heroId pvo ⟨newLevel, nextInt⟩ := by
    refine ⟨fun heroVO' hlookup => ?_, hle, hrange⟩
    rw [h.lookup] at hlookup
    obtain rfl := Option.some.inj hlookup
    exact hhigher
  have hgrown := (h.grows_iff hraises).mp (hgrows nextInt hrange) stat
  rw [h.stat_leveled hhigher hle hrange] at hgrown
  exact hnotGrown hgrown

/-- After a call that does what it should the hero is still on its way. -/
lemma OnWay.next (h : OnWay cfgs heroId pvo heroVO cfg) (hraises : Raises heroId pvo call)
    (hgrows : Grows cfgs heroId pvo call) :
    OnWay cfgs heroId (levelNext cfgs heroId pvo call)
      (leveled call.nextInt call.newLevel cfg heroVO) cfg := by
  have hgrown := (h.grows_iff hraises).mp hgrows
  refine ⟨?_, h.full, ?_, fun stat => (hgrown stat).le_max⟩
  · rw [h.levelNext_eq hraises]
    exact AList.lookup_insert _
  · exact Int32.le_trans h.level (Int32.le_of_lt (hraises.higher heroVO h.lookup))

/-- A smooth lack fits in every call. -/
lemma OnWay.fitsAll_of_smooth (h : OnWay cfgs heroId pvo heroVO cfg) {newLevel : Int32}
    (hhigher : heroVO.level < newLevel) (hle : newLevel ≤ fullLevel)
    (hsmooth : ∀ stat, Smooth heroVO cfg stat) : FitsAll cfgs heroId pvo newLevel := by
  intro heroVO' cfg' h' stat
  obtain rfl := Option.some.inj (h.lookup.symm.trans h'.lookup)
  obtain rfl := Except.ok.inj (h.full.symm.trans h'.full)
  obtain ⟨htotal, huse, hlevel, hlt, hfull⟩ := h.levels hhigher hle
  have hforty : fullLevel.toInt = 40 := rfl
  have hstat := hsmooth stat
  unfold Smooth at hstat
  rw [Fits, if_pos (by omega), Handout.Even, htotal, ← hforty]
  rcases hstat with hsmall | ⟨hdvd, -⟩
  · exact .inl hsmall
  · exact .inr (.inl hdvd)

/-- Smooth lacks stay smooth. -/
lemma OnWay.smooth_next (h : OnWay cfgs heroId pvo heroVO cfg) (hraises : Raises heroId pvo call)
    (hsmooth : ∀ stat, Smooth heroVO cfg stat) (stat : Stat) :
    Smooth (leveled call.nextInt call.newLevel cfg heroVO) cfg stat := by
  have hhigher := hraises.higher heroVO h.lookup
  obtain ⟨htotal, huse, hlevel, hlt, hfull⟩ := h.levels hhigher hraises.le
  have hforty : fullLevel.toInt = 40 := rfl
  have hle := Int32.le_iff_toInt_le.mp (h.le stat)
  have hstat := hsmooth stat
  unfold Smooth at hstat
  have hint : (cfg.stat stat).toInt - (heroVO.stat stat).toInt < 2 ^ 31 := by omega
  -- what is left of the lack is what the new value lacks
  obtain ⟨-, hrest⟩ := @getPropAdded_spec call.nextInt
    (0 + stat.before.length * (call.newLevel - heroVO.level).toInt.toNat) _ _ _ _ hraises.inRange
    (show (call.newLevel - heroVO.level).toInt ≤ (fullLevel - heroVO.level).toInt by omega)
    (by omega) hle hint
  rw [← h.stat_leveled hhigher hraises.le hraises.inRange] at hrest
  obtain ⟨hgrown, hmax, -⟩ := (h.grows_iff hraises).mp
    (h.grows_of_fits hraises (h.fitsAll_of_smooth hhigher hraises.le hsmooth)) stat
  rw [Int32.le_iff_toInt_le] at hgrown hmax
  rw [Int32.toInt_sub_of_fits (by omega) (by omega)] at hrest
  have hleft := Handout.rest_smooth (show 0 < (fullLevel - heroVO.level).toInt by omega)
    (show 0 ≤ (cfg.stat stat).toInt - (heroVO.stat stat).toInt by omega)
    (by rw [htotal, ← hforty]; exact hstat.imp id And.left)
    (@drawn_drawsOf call.nextInt (0 + stat.before.length *
      (call.newLevel - heroVO.level).toInt.toNat) (call.newLevel - heroVO.level).toInt.toNat
      (fullLevel - heroVO.level) hraises.inRange (by omega))
  rw [← hrest, length_drawsOf] at hleft
  have hless : (fullLevel - heroVO.level).toInt -
      ((call.newLevel - heroVO.level).toInt.toNat : ℤ) = fullLevel.toInt - call.newLevel.toInt := by
    omega
  rw [hless] at hleft
  exact hleft.imp id fun hdvd => ⟨hdvd, by omega⟩

/-- **A hero grows as it should in all calls just if what its values lack is smooth.** -/
lemma OnWay.grows_all_iff (h : OnWay cfgs heroId pvo heroVO cfg)
    (hlevel : heroVO.level < fullLevel) :
    (∀ calls : List Call, Runs.EveryStep (levelNext cfgs heroId) (Raises heroId) pvo calls →
      Runs.EveryStep (levelNext cfgs heroId) (Grows cfgs heroId) pvo calls) ↔
        ∀ stat, Smooth heroVO cfg stat := by
  constructor
  · intro hall stat
    obtain ⟨htotal, huse, hone, hlt, -⟩ := h.levels hlevel (Int32.le_refl fullLevel)
    have hfits := h.fits_of_grows hlevel (Int32.le_refl fullLevel) (fun nextInt hrange => by
      have hraises : Raises heroId pvo ⟨fullLevel, nextInt⟩ := by
        refine ⟨fun heroVO' hlookup => ?_, Int32.le_refl fullLevel, hrange⟩
        obtain rfl := Option.some.inj (h.lookup.symm.trans hlookup)
        exact hlevel
      exact (hall [⟨fullLevel, nextInt⟩] ⟨hraises, trivial⟩).1) heroVO cfg h stat
    unfold Fits at hfits
    split_ifs at hfits with hint
    · rw [Handout.even_all_iff (by omega) (by omega), huse] at hfits
      exact hfits.imp id fun hdvd => ⟨hdvd, hint⟩
    · exact absurd rfl hfits
  · intro hsmooth calls hraises
    clear hlevel
    induction calls generalizing pvo heroVO with
    | nil => trivial
    | cons call calls ih =>
      have hfits := h.fitsAll_of_smooth (hraises.1.higher heroVO h.lookup) hraises.1.le hsmooth
      have hgrows := h.grows_of_fits hraises.1 hfits
      exact ⟨hgrows, ih (h.next hraises.1 hgrows) (h.smooth_next hraises.1 hsmooth) hraises.2⟩

end Calls

/-- **Heroes grow as they should while everything fits**: in a run of calls that raise the level, if
what is given fits in every call, then every call does what it should. In each call it fits just if
the call does what it should for all random numbers; in all calls that can come it fits just if what
each value lacks is less than the number of levels left or a multiple of it. -/
theorem grows_run (heroVO : HeroVO) (cfg : HeroProp) (pvo : PlayerVO)
    (h : OnWay cfgs heroId pvo heroVO cfg) :
    (∀ calls : List Call, Runs.EveryStep (levelNext cfgs heroId) (Raises heroId) pvo calls →
      Runs.EveryStep (levelNext cfgs heroId)
        (fun pvo call => FitsAll cfgs heroId pvo call.newLevel) pvo calls →
      Runs.EveryStep (levelNext cfgs heroId) (Grows cfgs heroId) pvo calls) ∧
    (∀ newLevel, heroVO.level < newLevel → newLevel ≤ fullLevel →
      ((∀ nextInt, InRange nextInt → Grows cfgs heroId pvo ⟨newLevel, nextInt⟩) ↔
        FitsAll cfgs heroId pvo newLevel)) ∧
    (heroVO.level < fullLevel →
      ((∀ calls : List Call, Runs.EveryStep (levelNext cfgs heroId) (Raises heroId) pvo calls →
        Runs.EveryStep (levelNext cfgs heroId) (Grows cfgs heroId) pvo calls) ↔
          ∀ stat, Smooth heroVO cfg stat)) := by
  refine ⟨?_, ?_, h.grows_all_iff⟩
  · intro calls hraises hfits
    induction calls generalizing pvo heroVO with
    | nil => trivial
    | cons call calls ih =>
      have hgrows := h.grows_of_fits hraises.1 hfits.1
      exact ⟨hgrows, ih _ _ (h.next hraises.1 hgrows) hraises.2 hfits.2⟩
  · intro newLevel hhigher hle
    refine ⟨h.fits_of_grows hhigher hle, fun hfits nextInt hrange => ?_⟩
    refine h.grows_of_fits ⟨fun heroVO' hlookup => ?_, hle, hrange⟩ hfits
    obtain rfl := Option.some.inj (h.lookup.symm.trans hlookup)
    exact hhigher

/-! ## Two heroes -/

/-- A player with one hero. -/
def withHero (heroVO : HeroVO) : PlayerVO := ⟨1, (∅ : AList fun _ => HeroVO).insert 7 heroVO, ∅⟩

lemma onWay_withHero {heroVO : HeroVO} (hcid : heroVO.careerExchanged = false)
    (hlevel : 1 ≤ heroVO.level)
    (hle : ∀ stat, heroVO.stat stat ≤ HeroProp.stat ⟨40, 10, 16, 8, 8, 6, 4⟩ stat) :
    OnWay plainConfigs 7 (withHero heroVO) heroVO ⟨40, 10, 16, 8, 8, 6, 4⟩ := by
  refine ⟨AList.lookup_insert _, ?_, hlevel, hle⟩
  rw [getFullLvProps, hcid]
  rfl

/-- A hero is raised to its full level in two calls. -/
theorem grows_run_plainHero :
    Runs.EveryStep (levelNext plainConfigs 7) (Grows plainConfigs 7) (withHero (plainHero 7 7))
      [⟨30, fun _ _ => 0⟩, ⟨40, fun _ _ => 0⟩] := by
  have hzero : InRange fun _ _ => 0 := fun _ n hn => ⟨Int32.le_refl 0, hn⟩
  have hway : OnWay plainConfigs 7 (withHero (plainHero 7 7)) (plainHero 7 7)
      ⟨40, 10, 16, 8, 8, 6, 4⟩ :=
    onWay_withHero rfl (by decide) (fun stat => by cases stat <;> decide)
  have hfirst : Raises 7 (withHero (plainHero 7 7)) ⟨30, fun _ _ => 0⟩ := by
    refine ⟨fun heroVO hlookup => ?_, by decide, hzero⟩
    obtain rfl := Option.some.inj (hway.lookup.symm.trans hlookup)
    decide
  refine ((grows_run plainConfigs 7 (plainHero 7 7) _ _ hway).2.2 (by decide)).mpr
    (fun stat => by cases stat <;> decide) _ ⟨hfirst, ⟨fun heroVO hlookup => ?_, by decide, hzero⟩,
      trivial⟩
  rw [hway.levelNext_eq hfirst, AList.lookup_insert] at hlookup
  obtain rfl := Option.some.inj hlookup
  change (30 : Int32) < 40
  decide

/-- Two levels before the full one a hero lacks three `hp`, and gets four. -/
theorem not_grows :
    ¬Grows plainConfigs 7 (withHero { plainHero 7 7 with level := 38, hp := 37 })
      ⟨40, fun _ _ => 0⟩ := by
  have hway : OnWay plainConfigs 7 (withHero { plainHero 7 7 with level := 38, hp := 37 })
      { plainHero 7 7 with level := 38, hp := 37 } ⟨40, 10, 16, 8, 8, 6, 4⟩ :=
    onWay_withHero rfl (by decide) (fun stat => by cases stat <;> decide)
  have hraises : Raises 7 (withHero { plainHero 7 7 with level := 38, hp := 37 })
      ⟨40, fun _ _ => 0⟩ := by
    refine ⟨fun heroVO hlookup => ?_, by decide, fun _ n hn => ⟨Int32.le_refl 0, hn⟩⟩
    obtain rfl := Option.some.inj (hway.lookup.symm.trans hlookup)
    decide
  intro hgrows
  have hmax := ((hway.grows_iff hraises).mp hgrows .hp).le_max
  exact absurd hmax (by decide +kernel)

end SrgpGame.Hero
