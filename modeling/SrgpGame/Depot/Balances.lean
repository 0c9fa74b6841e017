import SrgpGame.Depot.Currency
import SrgpGame.Lib.Runs

set_option autoImplicit false

/-!
# The depot: balances over whole histories

A balance is a `long`, and `changeCurByType` adds to it without looking for overflow. Its guard
refuses a sum that is negative only where the amount is negative too. This file follows the
balances of a fresh depot over any history of calls.

## Main definitions

* `CurChange` — a call of `changeCurByType`, with the depot after it.
* `CurChange.Accurate` — what a call should do: no balance is negative after it, a negative amount
  is taken exactly or the call throws, a positive amount is added, at most in full.
* `CurChange.Fits` — a positive amount takes the balance no further than the greatest `long`.

## Main results

* `changes_accurate_iff` — a history is accurate exactly when every amount fits.
-/

namespace SrgpGame

/-- A call of `changeCurByType`. -/
structure CurChange where
  /-- The currency. -/
  type : CurrencyType
  /-- The amount. -/
  cur : Int64
  /-- Whether the upper limit does not count. -/
  overMax : Bool
  deriving Repr

/-- No balance of the depot is negative. -/
def NonNegative (depotVO : DepotVO) : Prop :=
  ∀ key, 0 ≤ depotVO.currencyMap.getOrDefault key 0

namespace CurChange

/-- The depot after the call; a call that throws leaves it as it was. -/
def next (depotVO : DepotVO) (call : CurChange) : DepotVO :=
  match changeCurByType depotVO call.type call.cur call.overMax with
  | .ok depotVO' => depotVO'
  | .error _ => depotVO

/-- **An accurate call.** -/
structure Accurate (depotVO : DepotVO) (call : CurChange) : Prop where
  /-- No balance is negative after the call. -/
  nonNegative : NonNegative (next depotVO call)
  /-- A negative amount is taken exactly, or the call throws and no balance changes. -/
  lowers : call.cur < 0 →
    match changeCurByType depotVO call.type call.cur call.overMax with
    | .ok depotVO' => (getCurByType depotVO' call.type).toInt =
        (getCurByType depotVO call.type).toInt + call.cur.toInt
    | .error _ => (next depotVO call).currencyMap = depotVO.currencyMap
  /-- A positive amount lowers no balance, and adds at most itself. -/
  raises : 0 < call.cur →
    getCurByType depotVO call.type ≤ getCurByType (next depotVO call) call.type ∧
      (getCurByType (next depotVO call) call.type).toInt ≤
        (getCurByType depotVO call.type).toInt + call.cur.toInt
  /-- Without an upper limit a positive amount is added in full. -/
  full : 0 < call.cur → (call.type.haveUpperLmt && !call.overMax) = false →
    (getCurByType (next depotVO call) call.type).toInt =
      (getCurByType depotVO call.type).toInt + call.cur.toInt

/-- **The amount fits**: a positive amount takes the balance to a `long`. -/
def Fits (depotVO : DepotVO) (call : CurChange) : Prop :=
  0 < call.cur → (getCurByType depotVO call.type).toInt + call.cur.toInt ≤ Int64.maxValue.toInt

end CurChange

/-! ## Sums of longs -/

section Sums

variable {a b : Int64}

/-- What does not fit makes the balance negative. -/
lemma add_neg_of_not_fits (h : ¬a.toInt + b.toInt ≤ Int64.maxValue.toInt) : a + b < 0 := by
  have hmax : Int64.maxValue.toInt = 2 ^ 63 - 1 := rfl
  have ha' := Int64.toInt_lt a
  have hb' := Int64.toInt_lt b
  rw [Int64.lt_iff_toInt_lt, Int64.toInt_add, Int64.toInt_zero, Int.bmod_eq_emod]
  split <;> omega

/-- **What is accepted is booked exactly**: a balance that is not negative, an amount that fits
where it is positive, and a sum that passes the guard. -/
lemma toInt_add_of_accepted (ha : 0 ≤ a)
    (hfits : 0 < b → a.toInt + b.toInt ≤ Int64.maxValue.toInt) (hgood : ¬(a + b < 0 ∧ b < 0)) :
    (a + b).toInt = a.toInt + b.toInt ∧ 0 ≤ a + b := by
  have hmax : Int64.maxValue.toInt = 2 ^ 63 - 1 := rfl
  have ha' := Int64.toInt_lt a
  have hb' := Int64.le_toInt b
  simp only [Int64.lt_iff_toInt_lt, Int64.le_iff_toInt_le, Int64.toInt_zero] at *
  have hsum : (a + b).toInt = a.toInt + b.toInt := by
    apply Int64.toInt_add_of_fits
    · omega
    · by_cases hb : 0 < b.toInt
      · have := hfits hb
        omega
      · omega
  refine ⟨hsum, ?_⟩
  rw [hsum] at hgood ⊢
  omega

end Sums

/-! ## One call -/

namespace CurChange

variable {depotVO : DepotVO} {call : CurChange}

/-- The balances after a call: the call that throws is the one whose negative amount makes the
sum negative; any other books the sum. -/
lemma getOrDefault_next (depotVO : DepotVO) (call : CurChange) (key : Int32) :
    (next depotVO call).currencyMap.getOrDefault key 0 =
      if (getCurByType depotVO call.type + call.cur < 0 ∧ call.cur < 0) ∨ key ≠ call.type.getType
      then depotVO.currencyMap.getOrDefault key 0
      else getCurByType depotVO call.type + call.cur := by
  by_cases hbad : getCurByType depotVO call.type + call.cur < 0 ∧ call.cur < 0
  · rw [if_pos (.inl hbad), next]
    cases hcall : changeCurByType depotVO call.type call.cur call.overMax with
    | error e => rfl
    | ok depotVO' =>
      rcases changeCurByType_eq_ok_iff.mp hcall with ⟨hzero, -⟩ | ⟨-, hgood, -⟩
      · rw [hzero] at hbad
        exact absurd hbad.2 (by decide)
      · exact absurd hbad hgood
  · obtain ⟨depotVO', hcall, hmap, -⟩ := exists_changeCurByType call.overMax hbad
    rw [next, hcall]
    simp only [hmap, hbad, false_or]
    split <;> simp_all

/-- The balance of the currency itself after a call. -/
lemma getCurByType_next (depotVO : DepotVO) (call : CurChange) :
    getCurByType (next depotVO call) call.type =
      if getCurByType depotVO call.type + call.cur < 0 ∧ call.cur < 0
      then getCurByType depotVO call.type
      else getCurByType depotVO call.type + call.cur := by
  rw [getCurByType, getOrDefault_next]
  simp only [ne_eq, not_true_eq_false, or_false]
  rfl

/-- No call that fits makes a balance negative. -/
lemma nonNegative_next (h : NonNegative depotVO) (hfits : Fits depotVO call) :
    NonNegative (next depotVO call) := by
  intro key
  rw [getOrDefault_next]
  split
  · exact h key
  · next hgood =>
    exact (toInt_add_of_accepted (h call.type.getType) hfits fun hbad => hgood (.inl hbad)).2

/-- **A call on balances that are not negative** is accurate exactly when its amount fits. -/
theorem accurate_iff_fits (h : NonNegative depotVO) :
    Accurate depotVO call ↔ Fits depotVO call := by
  have hbalance : 0 ≤ getCurByType depotVO call.type := h call.type.getType
  constructor
  · intro haccurate hpos
    by_contra hfits
    have hneg := add_neg_of_not_fits hfits
    have hkey := haccurate.nonNegative call.type.getType
    have hguard : ¬(getCurByType depotVO call.type + call.cur < 0 ∧ call.cur < 0) :=
      fun hbad => Int64.lt_asymm hpos hbad.2
    rw [← getCurByType, getCurByType_next, if_neg hguard] at hkey
    exact Int64.not_lt.mpr hkey hneg
  · intro hfits
    by_cases hbad : getCurByType depotVO call.type + call.cur < 0 ∧ call.cur < 0
    · -- the call throws
      have hneg : ¬0 < call.cur := Int64.lt_asymm hbad.2
      refine ⟨nonNegative_next h hfits, fun _ => ?_, fun hpos => absurd hpos hneg,
        fun hpos => absurd hpos hneg⟩
      cases hcall : changeCurByType depotVO call.type call.cur call.overMax with
      | error e => simp only [CurChange.next, hcall]
      | ok depotVO' =>
        rcases changeCurByType_eq_ok_iff.mp hcall with ⟨hzero, -⟩ | ⟨-, hgood, -⟩
        · rw [hzero] at hbad
          exact absurd hbad.2 (by decide)
        · exact absurd hbad hgood
    · -- the sum is booked
      obtain ⟨hsum, -⟩ := toInt_add_of_accepted hbalance hfits hbad
      have hafter : (getCurByType (CurChange.next depotVO call) call.type).toInt =
          (getCurByType depotVO call.type).toInt + call.cur.toInt := by
        rw [getCurByType_next, if_neg hbad, hsum]
      refine ⟨nonNegative_next h hfits, fun _ => ?_, fun hpos => ⟨?_, hafter.le⟩, fun _ _ => hafter⟩
      · cases hcall : changeCurByType depotVO call.type call.cur call.overMax with
        | error e => simp only [CurChange.next, hcall]
        | ok depotVO' => simpa only [CurChange.next, hcall] using hafter
      · rw [Int64.lt_iff_toInt_lt, Int64.toInt_zero] at hpos
        rw [Int64.le_iff_toInt_le]
        omega

end CurChange

/-! ## Histories -/

lemma nonNegative_init : NonNegative DepotVO.init := by
  intro key
  show (0 : Int64) ≤ 0
  decide

/-- **Every call of a history on a fresh depot is accurate exactly when every amount fits.** -/
theorem changes_accurate_iff (calls : List CurChange) :
    Runs.EveryStep CurChange.next CurChange.Accurate DepotVO.init calls ↔
      Runs.EveryStep CurChange.next CurChange.Fits DepotVO.init calls := by
  refine Runs.everyStep_congr (fun depotVO _ => NonNegative depotVO) ?_ ?_ nonNegative_init
  · intro depotVO call rest h hfits
    exact CurChange.nonNegative_next h hfits
  · intro depotVO call rest h
    exact CurChange.accurate_iff_fits h

/-- One coin more than a `long` holds: the balance becomes the least `long`. -/
theorem changes_not_accurate :
    ¬Runs.EveryStep CurChange.next CurChange.Accurate DepotVO.init
      [⟨.money, Int64.maxValue, false⟩, ⟨.money, 1, false⟩] := by
  intro h
  have hmoney := h.2.1.nonNegative CurrencyType.money.getType
  revert hmoney
  decide

end SrgpGame
