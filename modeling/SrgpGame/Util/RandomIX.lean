import SrgpGame.Lib.Cumulative
import SrgpGame.Util.RandomUtils

set_option autoImplicit false

/-!
# An index by rate

An index of an array of rates is chosen that is not used yet. A negative rate makes an index
mandatory: the first of these is chosen. Otherwise every index is chosen by as many numbers as its
rate says.

## Main definitions

* `shares` — the rates of the indices that are not used, as natural numbers.
* `Mandatory` — the first index of negative rate that is not used.
* `ChoosesByRate` — what the choice of an index is to be.

## Main results

* `collectRates_of_mandatory`, `collectRates_eq` — what the first loop finds.
* `indexAt_eq_pick` — the second loop chooses by rate.
* `randomIX_choosesByRate` — the choice is what it is to be.
-/

namespace SrgpGame.Util

open EStateM
open Cumulative (total mass pick)
open Func (Rng nextInt)

variable {used : ℕ → Bool} {rates : List Int32} {i k : ℕ}

/-! ## Rates -/

/-- The indices from `i` on with their rates, which are zero for those that are used. -/
def shares (used : ℕ → Bool) : ℕ → List Int32 → List (ℕ × ℕ)
  | _, [] => []
  | i, rate :: rates => (i, if used i then 0 else rate.toInt.toNat) :: shares used (i + 1) rates

/-- The rates from the index `i` on, with zero for those that are used. -/
def masked (used : ℕ → Bool) : ℕ → List Int32 → List Int32
  | _, [] => []
  | i, rate :: rates => (if used i then 0 else rate) :: masked used (i + 1) rates

/-- No index from `i` on that is not used has a negative rate. -/
def NoneNegative (used : ℕ → Bool) (i : ℕ) (rates : List Int32) : Prop :=
  ∀ k rate, rates[k]? = some rate → used (i + k) = false → 0 ≤ rate

/-- The sum of the positive rates. -/
def positiveSum : List Int32 → ℕ
  | [] => 0
  | rate :: rates => rate.toInt.toNat + positiveSum rates

lemma total_shares_le (used : ℕ → Bool) (i : ℕ) (rates : List Int32) :
    total (shares used i rates) ≤ positiveSum rates := by
  induction rates generalizing i with
  | nil => exact le_rfl
  | cons rate rates ih =>
    have hrest := ih (i + 1)
    rw [shares, Cumulative.total_cons, positiveSum]
    split_ifs
    · omega
    · omega

/-- What an index weighs: its rate, if it is not used. -/
lemma mass_shares (used : ℕ → Bool) (i : ℕ) (rates : List Int32) (k : ℕ) :
    mass (fun j => j = i + k) (shares used i rates) =
      if used (i + k) then 0 else (rates[k]?.map fun rate => rate.toInt.toNat).getD 0 := by
  induction rates generalizing i k with
  | nil => simp [shares]
  | cons rate rates ih =>
    rw [shares, Cumulative.mass_cons]
    cases k with
    | zero =>
      have hrest : mass (fun j => j = i + 0) (shares used (i + 1) rates) = 0 := by
        have hlater : ∀ (rates : List Int32) (i' : ℕ), i < i' →
            mass (fun j => j = i + 0) (shares used i' rates) = 0 := by
          intro rates
          induction rates with
          | nil =>
            intro i' _
            rfl
          | cons rate rates ih =>
            intro i' hlt
            rw [shares, Cumulative.mass_cons, if_neg (by omega), ih (i' + 1) (by omega)]
        exact hlater rates (i + 1) (Nat.lt_succ_self i)
      rw [hrest]
      simp
    | succ k =>
      have hne : ¬i = i + (k + 1) := by omega
      have hindex : i + (k + 1) = i + 1 + k := by omega
      rw [if_neg hne, hindex, ih (i + 1) k, Nat.zero_add, List.getElem?_cons_succ]

lemma NoneNegative.tail {rate : Int32} (h : NoneNegative used i (rate :: rates)) :
    NoneNegative used (i + 1) rates := by
  intro k rate' hrate hunused
  refine h (k + 1) rate' hrate ?_
  rwa [Nat.add_assoc, Nat.add_comm 1 k] at hunused

lemma NoneNegative.head {rate : Int32} (h : NoneNegative used i (rate :: rates))
    (hunused : used i = false) : 0 ≤ rate := h 0 rate rfl hunused

/-! ## The two loops -/

/-- **The first index that is mandatory.** -/
structure Mandatory (used : ℕ → Bool) (rates : List Int32) (k : ℕ) : Prop where
  negative : ∃ rate, rates[k]? = some rate ∧ rate < 0
  unused : used k = false
  first : ∀ j < k, ∀ rate, rates[j]? = some rate → used j = false → 0 ≤ rate

/-- **The first loop without a mandatory index**: it adds the rates up. -/
lemma collectRates_eq (h : NoneNegative used i rates) (sum : Int32) (tmp : List Int32) :
    collectRates used i rates (sum, tmp) =
      .inr (sum + Int32.ofNat (total (shares used i rates)), tmp ++ masked used i rates) := by
  induction rates generalizing i sum tmp with
  | nil =>
    rw [collectRates, shares, masked, Cumulative.total_nil, List.append_nil]
    exact congrArg (fun s => Sum.inr (s, tmp)) (Int32.add_zero sum).symm
  | cons rate rates ih =>
    rw [collectRates, shares, masked, Cumulative.total_cons]
    cases hused : used i with
    | true =>
      rw [if_pos rfl, if_pos rfl, if_pos rfl, ih h.tail, Nat.zero_add, List.append_assoc]
      rfl
    | false =>
      have hrate := h.head hused
      simp only [Bool.false_eq_true, if_false, if_neg (Int32.not_lt.mpr hrate)]
      rw [ih h.tail, List.append_assoc, Int32.ofNat_add, Int32.ofNat_toNat_of_nonneg hrate,
        Int32.add_assoc]
      rfl

/-- **The first loop with a mandatory index**: it finds the first one. -/
lemma collectRates_of_mandatory {rate : Int32} (hrate : rates[k]? = some rate) (hneg : rate < 0)
    (hunused : used (i + k) = false)
    (hfirst : ∀ j < k, ∀ rate, rates[j]? = some rate → used (i + j) = false → 0 ≤ rate)
    (acc : Int32 × List Int32) : collectRates used i rates acc = .inl (i + k) := by
  induction rates generalizing i k acc with
  | nil => cases hrate
  | cons rate' rates ih =>
    obtain ⟨sum, tmp⟩ := acc
    rw [collectRates]
    cases k with
    | zero =>
      obtain rfl : rate' = rate := Option.some.inj hrate
      rw [Nat.add_zero] at hunused
      rw [hunused, if_neg Bool.false_ne_true, if_pos hneg]
      rfl
    | succ k =>
      have hindex : i + (k + 1) = i + 1 + k := by omega
      have hrest : ∀ acc, collectRates used (i + 1) rates acc = .inl (i + 1 + k) := by
        intro acc
        refine ih hrate (hindex ▸ hunused) ?_ acc
        intro j hj rate'' hrate'' hunused''
        refine hfirst (j + 1) (by omega) rate'' hrate'' ?_
        rwa [Nat.add_assoc, Nat.add_comm 1 j] at hunused''
      rw [hindex]
      split_ifs with hused hneg'
      · exact hrest _
      · have hnonneg := hfirst 0 (Nat.succ_pos k) rate' rfl (by simpa using hused)
        exact absurd hneg' (Int32.not_lt.mpr hnonneg)
      · exact hrest _

/-- **The second loop chooses by rate.** -/
lemma indexAt_eq_pick (h : NoneNegative used i rates) {random sum : Int32} (hsum : 0 ≤ sum.toInt)
    (hle : sum.toInt ≤ random.toInt)
    (hfits : sum.toInt + total (shares used i rates) < 2 ^ 31) :
    indexAt random i (masked used i rates) sum =
      pick (shares used i rates) (random.toInt - sum.toInt).toNat := by
  induction rates generalizing i sum with
  | nil => rfl
  | cons rate rates ih =>
    rw [shares, Cumulative.total_cons] at hfits
    rw [masked, shares, indexAt, pick]
    have hzero : ¬(0 : Int32) < 0 := by decide
    cases hused : used i with
    | true =>
      rw [hused, if_pos rfl, Nat.zero_add] at hfits
      simp only [if_true, if_neg hzero, Nat.not_lt_zero, if_false, Nat.sub_zero]
      exact ih h.tail hsum hle hfits
    | false =>
      simp only [Bool.false_eq_true, if_false]
      simp only [hused, Bool.false_eq_true, if_false] at hfits
      have hrate := Int32.le_iff_toInt_le.mp (h.head hused)
      rw [Int32.toInt_zero] at hrate
      by_cases hpos : 0 < rate
      · have hpos' := Int32.lt_iff_toInt_lt.mp hpos
        rw [Int32.toInt_zero] at hpos'
        have hadd : (sum + rate).toInt = sum.toInt + rate.toInt :=
          Int32.toInt_add_of_fits (by omega) (by omega)
        rw [if_pos hpos]
        by_cases hlt : random < sum + rate
        · have hlt' := Int32.lt_iff_toInt_lt.mp hlt
          rw [if_pos hlt, if_pos (by omega)]
        · have hge : (sum + rate).toInt ≤ random.toInt :=
            Int32.le_iff_toInt_le.mp (Int32.not_lt.mp hlt)
          rw [if_neg hlt, if_neg (by omega), ih h.tail (by omega) hge (by omega), hadd]
          congr 1
          omega
      · have hzero' : rate.toInt ≤ 0 := by
          have hle' := Int32.le_iff_toInt_le.mp (Int32.not_lt.mp hpos)
          rwa [Int32.toInt_zero] at hle'
        rw [if_neg hpos, if_neg (by omega), ih h.tail hsum hle (by omega)]
        congr 1
        omega

/-! ## The choice -/

/-- There is a mandatory index, or no index that is not used has a negative rate. -/
lemma mandatory_or_noneNegative (used : ℕ → Bool) (rates : List Int32) :
    (∃ k, Mandatory used rates k) ∨ NoneNegative used 0 rates := by
  by_cases hex : ∃ k, ∃ rate, rates[k]? = some rate ∧ used k = false ∧ rate < 0
  · classical
    obtain ⟨rate, hrate, hunused, hneg⟩ := Nat.find_spec hex
    refine .inl ⟨Nat.find hex, ⟨rate, hrate, hneg⟩, hunused, ?_⟩
    intro j hj rate' hrate' hunused'
    refine Int32.not_lt.mp fun hneg' => ?_
    exact Nat.find_min hex hj ⟨rate', hrate', hunused', hneg'⟩
  · refine .inr fun k rate hrate hunused => Int32.not_lt.mp fun hneg => ?_
    rw [Nat.zero_add] at hunused
    exact hex ⟨k, rate, hrate, hunused, hneg⟩

lemma NoneNegative.not_mandatory (h : NoneNegative used 0 rates) : ¬Mandatory used rates k := by
  rintro ⟨⟨rate, hrate, hneg⟩, hunused, -⟩
  exact absurd hneg (Int32.not_lt.mpr (h k rate hrate (by rwa [Nat.zero_add])))

/-- An index that is chosen by a number is not used, and has a positive rate. -/
lemma of_pick_shares {d : ℕ} (h : pick (shares used 0 rates) d = some k) :
    used k = false ∧ ∃ rate, rates[k]? = some rate ∧ 0 < rate := by
  obtain ⟨w, hmem, hpos⟩ := Cumulative.mem_of_pick h
  have hmass : 0 < mass (fun j => j = k) (shares used 0 rates) :=
    hpos.trans_le (Cumulative.le_mass_of_mem (fun j => j = k) hmem rfl)
  have heq := mass_shares used 0 rates k
  rw [Nat.zero_add] at heq
  rw [heq] at hmass
  split_ifs at hmass with hused
  · exact absurd hmass (lt_irrefl 0)
  · refine ⟨by simpa using hused, ?_⟩
    cases hrate : rates[k]? with
    | none =>
      rw [hrate] at hmass
      exact absurd hmass (lt_irrefl 0)
    | some rate =>
      rw [hrate] at hmass
      refine ⟨rate, rfl, Int32.lt_iff_toInt_lt.mpr ?_⟩
      rw [Int32.toInt_zero]
      exact Int.lt_of_toNat_lt hmass


/-- **What a choice of an index is to be**, where `choose` says what is chosen with a generator. -/
structure ChoosesByRate (used : ℕ → Bool) (attRate : List Int32) (choose : Rng → Option Int32) :
    Prop where
  /-- What is chosen is nothing, or an index that is not used and whose rate is not zero. -/
  valid : ∀ rng, choose rng = some (-1) ∨ ∃ k rate, choose rng = some (Int32.ofNat k) ∧
    used k = false ∧ attRate[k]? = some rate ∧ rate ≠ 0
  /-- A mandatory index is always chosen. -/
  mandatory : ∀ k, Mandatory used attRate k → ∀ rng, choose rng = some (Int32.ofNat k)
  /-- Without one, the number that is drawn decides, and every index that is not used has as many
  numbers as its rate says. -/
  byRate : (∀ k, ¬Mandatory used attRate k) → 0 < total (shares used 0 attRate) →
    ∃ table : ℕ → Int32,
      (∀ rng, choose rng = some (table (rng.draw 0 % total (shares used 0 attRate)))) ∧
      ∀ k rate, attRate[k]? = some rate → used k = false →
        (Nat.count (fun d => table d = Int32.ofNat k) (total (shares used 0 attRate)) : ℤ) =
          rate.toInt
  /-- Nothing is chosen just if every index that is not used has the rate zero. -/
  fails : ∀ rng, choose rng = some (-1) ↔
    ∀ k rate, attRate[k]? = some rate → used k = false → rate = 0

/-- What `randomIX` chooses with a generator. -/
def chosen (checkIntFlag : Int32 → ℕ → Bool) (attRate : List Int32) (usedIX : Int32) (rng : Rng) :
    Option Int32 :=
  match (randomIX checkIntFlag attRate usedIX).run rng with
  | .ok ix _ => some ix
  | .error _ _ => none

section Choice

variable {checkIntFlag : Int32 → ℕ → Bool} {attRate : List Int32} {usedIX : Int32}

lemma chosen_of_mandatory (h : Mandatory (checkIntFlag usedIX) attRate k) (rng : Rng) :
    chosen checkIntFlag attRate usedIX rng = some (Int32.ofNat k) := by
  obtain ⟨⟨rate, hrate, hneg⟩, hunused, hfirst⟩ := h
  have hfirst' : ∀ j < k, ∀ rate, attRate[j]? = some rate → checkIntFlag usedIX (0 + j) = false →
      0 ≤ rate := by
    intro j hj rate' hrate' hunused'
    exact hfirst j hj rate' hrate' (by rwa [Nat.zero_add] at hunused')
  have hcollect := collectRates_of_mandatory hrate hneg (by rwa [Nat.zero_add]) hfirst' (0, [])
  rw [Nat.zero_add] at hcollect
  rw [chosen, randomIX, hcollect]
  rfl

/-- **Without a mandatory index**, the index is chosen by rate. -/
lemma chosen_of_noneNegative (h : NoneNegative (checkIntFlag usedIX) 0 attRate)
    (hfits : total (shares (checkIntFlag usedIX) 0 attRate) < 2 ^ 31) (rng : Rng) :
    chosen checkIntFlag attRate usedIX rng =
      some (((pick (shares (checkIntFlag usedIX) 0 attRate)
        (rng.draw 0 % total (shares (checkIntFlag usedIX) 0 attRate))).map
          Int32.ofNat).getD (-1)) := by
  set sum := total (shares (checkIntFlag usedIX) 0 attRate) with hsum
  have hint : (Int32.ofNat sum).toInt = sum := Int32.toInt_ofNat_of_lt hfits
  have hcollect := collectRates_eq h 0 []
  rw [Int32.zero_add, List.nil_append, ← hsum] at hcollect
  rw [chosen, randomIX, hcollect]
  simp only
  by_cases hpos : 0 < sum
  · have hpos' : (0 : Int32) < Int32.ofNat sum := by
      rw [Int32.lt_iff_toInt_lt, hint, Int32.toInt_zero]
      omega
    have hmod := Nat.mod_lt (rng.draw 0) hpos
    have hdraw : (Int32.ofNat (rng.draw 0 % sum)).toInt = (rng.draw 0 % sum : ℕ) :=
      Int32.toInt_ofNat_of_lt (by omega)
    have hzero : (0 : Int32).toInt = 0 := Int32.toInt_zero
    have hpick : indexAt (Int32.ofNat (rng.draw 0 % sum)) 0
        (masked (checkIntFlag usedIX) 0 attRate) 0 = pick (shares (checkIntFlag usedIX) 0 attRate)
          ((Int32.ofNat (rng.draw 0 % sum)).toInt - (0 : Int32).toInt).toNat :=
      indexAt_eq_pick h (by omega) (by omega) (by omega)
    rw [Int32.toInt_zero, hdraw, Int.sub_zero, Int.toNat_natCast] at hpick
    have hbound : 0 < (Int32.ofNat sum).toInt := by rw [hint]; exact Int.natCast_pos.mpr hpos
    have hnext := Func.run_nextInt_of_pos hbound rng
    rw [hint, Int.toNat_natCast] at hnext
    simp only [if_pos hpos', EStateM.run_bind, hnext, hpick, EStateM.run_pure]
  · have hzero : sum = 0 := by omega
    have hnone : pick (shares (checkIntFlag usedIX) 0 attRate) (rng.draw 0 % sum) = none := by
      rw [Cumulative.pick_eq_none_iff]
      omega
    rw [hnone, hzero, if_neg (by decide)]
    rfl

end Choice


/-- Different indices of a short array are different numbers. -/
lemma ofNat_eq_ofNat_iff {j k : ℕ} (hj : j < 2 ^ 31) (hk : k < 2 ^ 31) :
    Int32.ofNat j = Int32.ofNat k ↔ j = k := by
  constructor
  · intro h
    have hint := congrArg Int32.toInt h
    rw [Int32.toInt_ofNat_of_lt hj, Int32.toInt_ofNat_of_lt hk] at hint
    omega
  · rintro rfl
    rfl

lemma ofNat_ne_neg_one {k : ℕ} (hk : k < 2 ^ 31) : Int32.ofNat k ≠ -1 := by
  intro h
  have hint := congrArg Int32.toInt h
  have hneg : (-1 : Int32).toInt = -1 := by decide
  rw [Int32.toInt_ofNat_of_lt hk, hneg] at hint
  omega

/-- The rates sum up to zero just if every index that is not used has the rate zero. -/
lemma total_shares_eq_zero_iff (h : NoneNegative used 0 rates) :
    total (shares used 0 rates) = 0 ↔
      ∀ k rate, rates[k]? = some rate → used k = false → rate = 0 := by
  constructor
  · intro hzero k rate hrate hunused
    have hmass : mass (fun j => j = 0 + k) (shares used 0 rates) ≤ total (shares used 0 rates) :=
      Cumulative.mass_le_total _
    rw [mass_shares, Nat.zero_add, hunused, hrate] at hmass
    have hnonneg := Int32.le_iff_toInt_le.mp (h k rate hrate (by rwa [Nat.zero_add]))
    rw [Int32.toInt_zero] at hnonneg
    simp only [Bool.false_eq_true, if_false, Option.map_some, Option.getD_some] at hmass
    rw [← Int32.toInt_inj, Int32.toInt_zero]
    omega
  · intro hrates
    by_contra hpos
    cases hpick : pick (shares used 0 rates) 0 with
    | none => exact hpos (Nat.le_zero.mp ((Cumulative.pick_eq_none_iff 0).mp hpick))
    | some k =>
      obtain ⟨hunused, rate, hrate, hrate'⟩ := of_pick_shares hpick
      exact absurd (hrates k rate hrate hunused) (Int32.ne_of_lt hrate').symm

section Indices

variable (hlen : rates.length < 2 ^ 31)
include hlen

/-- The number of an index that is chosen by a number, and of none. -/
lemma picked_eq_iff {d : ℕ} (hk : k < rates.length) :
    ((pick (shares used 0 rates) d).map Int32.ofNat).getD (-1) = Int32.ofNat k ↔
      pick (shares used 0 rates) d = some k := by
  cases hpick : pick (shares used 0 rates) d with
  | none =>
    refine iff_of_false ?_ (by simp)
    exact fun h => ofNat_ne_neg_one (hk.trans hlen) h.symm
  | some j =>
    obtain ⟨-, rate, hrate, -⟩ := of_pick_shares hpick
    have hj : j < rates.length := (List.getElem?_eq_some_iff.mp hrate).1
    rw [Option.map_some, Option.getD_some, Option.some.injEq]
    exact ofNat_eq_ofNat_iff (hj.trans hlen) (hk.trans hlen)

lemma picked_eq_neg_one_iff {d : ℕ} :
    ((pick (shares used 0 rates) d).map Int32.ofNat).getD (-1) = -1 ↔
      pick (shares used 0 rates) d = none := by
  cases hpick : pick (shares used 0 rates) d with
  | none => simp
  | some j =>
    obtain ⟨-, rate, hrate, -⟩ := of_pick_shares hpick
    have hj : j < rates.length := (List.getElem?_eq_some_iff.mp hrate).1
    refine iff_of_false ?_ (by simp)
    exact ofNat_ne_neg_one (hj.trans hlen)

end Indices

/-- **An index is chosen by rate**, whatever the indices that are used. -/
theorem randomIX_choosesByRate (checkIntFlag : Int32 → ℕ → Bool) {attRate : List Int32}
    (hlen : attRate.length ≤ 32) (hfits : positiveSum attRate < 2 ^ 31) (usedIX : Int32) :
    ChoosesByRate (checkIntFlag usedIX) attRate (chosen checkIntFlag attRate usedIX) := by
  have hlen' : attRate.length < 2 ^ 31 := by omega
  set used := checkIntFlag usedIX with hused
  rcases mandatory_or_noneNegative used attRate with ⟨k, hmandatory⟩ | hnone
  · obtain ⟨⟨rate, hrate, hneg⟩, hunused, hfirst⟩ := id hmandatory
    have hk : k < attRate.length := (List.getElem?_eq_some_iff.mp hrate).1
    refine ⟨fun rng => ?_, fun j hj rng => chosen_of_mandatory hj rng,
      fun hnot => absurd hmandatory (hnot k), fun rng => ?_⟩
    · exact .inr ⟨k, rate, chosen_of_mandatory hmandatory rng, hunused, hrate, Int32.ne_of_lt hneg⟩
    · rw [chosen_of_mandatory hmandatory rng, Option.some.injEq]
      refine iff_of_false (ofNat_ne_neg_one (by omega)) fun hzero => ?_
      exact absurd (hzero k rate hrate hunused) (Int32.ne_of_lt hneg)
  · have hchosen := chosen_of_noneNegative hnone
      ((total_shares_le used 0 attRate).trans_lt hfits)
    refine ⟨fun rng => ?_, fun j hj => absurd hj hnone.not_mandatory, fun _ hpos => ?_,
      fun rng => ?_⟩
    · rw [hchosen rng]
      cases hpick : pick (shares used 0 attRate)
          (rng.draw 0 % total (shares used 0 attRate)) with
      | none => exact .inl rfl
      | some k =>
        obtain ⟨hunused, rate, hrate, hpos⟩ := of_pick_shares hpick
        exact .inr ⟨k, rate, rfl, hunused, hrate, (Int32.ne_of_lt hpos).symm⟩
    · refine ⟨fun d => ((pick (shares used 0 attRate) d).map Int32.ofNat).getD (-1), hchosen,
        fun k rate hrate hunused => ?_⟩
      have hk : k < attRate.length := (List.getElem?_eq_some_iff.mp hrate).1
      have hcount : Nat.count (fun d => pick (shares used 0 attRate) d = some k)
          (total (shares used 0 attRate)) = mass (fun j => j = k) (shares used 0 attRate) :=
        Cumulative.count_of_eq_pick (fun d _ => rfl) k
      have hmass := mass_shares used 0 attRate k
      have hnonneg := Int32.le_iff_toInt_le.mp (hnone k rate hrate (by rwa [Nat.zero_add]))
      rw [Int32.toInt_zero] at hnonneg
      rw [Nat.zero_add, hunused, hrate] at hmass
      simp only [Bool.false_eq_true, if_false, Option.map_some, Option.getD_some] at hmass
      simp only [picked_eq_iff hlen' hk]
      rw [hcount, hmass, Int.toNat_of_nonneg hnonneg]
    · rw [hchosen rng, Option.some.injEq, picked_eq_neg_one_iff hlen',
        Cumulative.pick_eq_none_iff, ← total_shares_eq_zero_iff hnone]
      constructor
      · intro hle
        by_contra hpos
        exact absurd (Nat.mod_lt (rng.draw 0) (Nat.pos_of_ne_zero hpos)) (Nat.not_lt.mpr hle)
      · intro hzero
        rw [hzero]
        exact Nat.zero_le _

/-- The first of four indices is used, and the last of them has a negative rate. -/
theorem choosesByRate_fourRates :
    ChoosesByRate (Nat.testBit 1) [5, 0, 3, -1]
      (chosen (fun usedIX i => Nat.testBit usedIX.toInt.toNat i) [5, 0, 3, -1] 1) :=
  randomIX_choosesByRate (fun usedIX i => Nat.testBit usedIX.toInt.toNat i) (by decide)
    (by decide) 1


end SrgpGame.Util
