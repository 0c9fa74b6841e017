import SrgpGame.Depot.DepotVO
import SrgpGame.Lib.Ledger
import SrgpGame.Lib.Runs

set_option autoImplicit false

/-!
# The two goods ledgers over a history of calls

`changeGoodsNum` is called over and over, with amounts of either sign. What the two ledgers of the
depot should hold after a call is a plain sum over the calls accepted so far. This file compares
the code with that sum, over histories of any length.

## Main definitions

* `GoodsHistory` — the depot together with the calls it has accepted.
* `LedgersAgree` — what should hold after a call: both ledgers hold the sum, and no count is
  negative.
* `RemovesGoods`, `BooksExactly` — what decides whether it does.

## Main results

* `changeGoodsNum_ledgersAgree_iff` — over a history from a fresh depot the ledgers hold the sums
  after every call exactly when no call removes goods and the counter books every id exactly.
* `changeGoodsNum_removes_nothing` — after an accepted negative amount the ledgers are off.
-/

namespace SrgpGame

open Ledger

/-! ## Calls and histories -/

/-- A call `changeGoodsNum(cid, num)`. -/
structure GoodsCall where
  /-- The goods id. -/
  cid : Int32
  /-- The amount: positive to add, negative to remove. -/
  num : Int32
  deriving DecidableEq, Repr

/-- A depot with the calls that it has accepted since it was fresh. -/
structure GoodsHistory where
  /-- The depot now. -/
  depot : DepotVO
  /-- The accepted calls, oldest first. -/
  accepted : List GoodsCall

namespace GoodsHistory

/-- A fresh depot. -/
def init : GoodsHistory := ⟨DepotVO.init, []⟩

/-- One call. A call that throws leaves the depot as it is and is not recorded. -/
def call (cfgs : GoodsTable) (h : GoodsHistory) (c : GoodsCall) : GoodsHistory :=
  match changeGoodsNum cfgs h.depot c.cid c.num with
  | .ok (depot, _) => ⟨depot, h.accepted ++ [c]⟩
  | .error _ => h

end GoodsHistory

/-! ## The sums -/

/-- What a call contributes to the number of goods `cid`. -/
def received (cid : Int32) (c : GoodsCall) : ℤ :=
  if c.cid = cid then c.num.toInt else 0

/-- The part of `received` that the counter misses, for want of a configuration. -/
def uncounted (cfgs : GoodsTable) (cid : Int32) (c : GoodsCall) : ℤ :=
  if cfgs.getGoodsConfigById c.cid = none then received cid c else 0

/-- What a call books under `key` because `key` is the collect type of its goods. -/
def collected (cfgs : GoodsTable) (key : Int32) (c : GoodsCall) : ℤ :=
  match cfgs.getGoodsConfigById c.cid with
  | none => 0
  | some cfg => if cfg.collectType = key then c.num.toInt else 0

/-- What a call books on the counter of `key`. -/
def booked (cfgs : GoodsTable) (key : Int32) (c : GoodsCall) : ℤ :=
  received key c - uncounted cfgs key c + collected cfgs key c

/-- The amounts are small enough that no 32-bit sum of either ledger overflows. -/
def SumsFit (cfgs : GoodsTable) (calls : List GoodsCall) : Prop :=
  ∀ key, volume received key calls < 2 ^ 31 ∧ volume (booked cfgs) key calls < 2 ^ 31

/-! ## What should hold, and when it does -/

/-- **The ledgers agree after the call**: if `c` is accepted, then the saved count and the counter
of its goods both hold the sum of all accepted amounts for these goods, and no count is
negative. -/
def LedgersAgree (cfgs : GoodsTable) (h : GoodsHistory) (c : GoodsCall) : Prop :=
  ∀ depot n, changeGoodsNum cfgs h.depot c.cid c.num = .ok (depot, n) →
    (depot.goodsCounts.lookup c.cid).map Int32.toInt =
        some (total received c.cid (h.accepted ++ [c])) ∧
      (getGoodsQuantity depot c.cid).toInt = total received c.cid (h.accepted ++ [c]) ∧
      (∀ cid m, depot.goodsCounts.lookup cid = some m → 0 ≤ m.toInt) ∧
      ∀ key, 0 ≤ (getGoodsQuantity depot key).toInt

/-- The call asks to remove goods and the saved count covers the amount. -/
def RemovesGoods (h : GoodsHistory) (c : GoodsCall) : Prop :=
  c.num < 0 ∧ ∃ n ∈ h.depot.goodsCounts.lookup c.cid, c.num.abs ≤ n

/-- What was booked under the id of the goods as a collect type is what went uncounted because the
goods have no configuration. For goods with a configuration this says that no other goods were
booked under their id. -/
def BooksExactly (cfgs : GoodsTable) (h : GoodsHistory) (c : GoodsCall) : Prop :=
  total (collected cfgs) c.cid (h.accepted ++ [c]) =
    total (uncounted cfgs) c.cid (h.accepted ++ [c])

/-- The condition on a call under which the ledgers agree after it. -/
def GoodsCallSound (cfgs : GoodsTable) (h : GoodsHistory) (c : GoodsCall) : Prop :=
  ¬RemovesGoods h c ∧ (¬c.num < 0 → BooksExactly cfgs h c)

instance (h : GoodsHistory) (c : GoodsCall) : Decidable (RemovesGoods h c) :=
  inferInstanceAs (Decidable (_ ∧ _))

instance (cfgs : GoodsTable) (h : GoodsHistory) (c : GoodsCall) :
    Decidable (BooksExactly cfgs h c) :=
  inferInstanceAs (Decidable (_ = _))

instance (cfgs : GoodsTable) (h : GoodsHistory) (c : GoodsCall) :
    Decidable (GoodsCallSound cfgs h c) :=
  inferInstanceAs (Decidable (_ ∧ (_ → _)))

/-! ## The invariant -/

/-- What holds of a history that has removed no goods, with the calls `rest` still to come. -/
structure GoodsInv (cfgs : GoodsTable) (h : GoodsHistory) (rest : List GoodsCall) : Prop where
  fits : SumsFit cfgs (h.accepted ++ rest)
  nonneg : ∀ a ∈ h.accepted, 0 ≤ a.num.toInt
  counts : ∀ cid, (h.depot.goodsCounts.getOrDefault cid 0).toInt = total received cid h.accepted
  counter : ∀ key, (getGoodsQuantity h.depot key).toInt = total (booked cfgs) key h.accepted

lemma goodsInv_init {cfgs : GoodsTable} {calls : List GoodsCall} (hfit : SumsFit cfgs calls) :
    GoodsInv cfgs GoodsHistory.init calls where
  fits := hfit
  nonneg := by simp [GoodsHistory.init]
  counts _ := rfl
  counter _ := rfl

section Nonneg

variable {c : GoodsCall}

lemma received_nonneg (hc : 0 ≤ c.num.toInt) (cid : Int32) : 0 ≤ received cid c := by
  unfold received
  split <;> omega

lemma collected_nonneg (cfgs : GoodsTable) (hc : 0 ≤ c.num.toInt) (key : Int32) :
    0 ≤ collected cfgs key c := by
  unfold collected
  split
  · exact le_rfl
  · split <;> omega

lemma booked_nonneg (cfgs : GoodsTable) (hc : 0 ≤ c.num.toInt) (key : Int32) :
    0 ≤ booked cfgs key c := by
  have h₁ := received_nonneg hc key
  have h₂ := collected_nonneg cfgs hc key
  unfold booked uncounted
  split <;> omega

end Nonneg

/-- The booked amount of goods with a configuration, as the counter adds it up. -/
lemma booked_some {cfgs : GoodsTable} {c : GoodsCall} {cfg : GoodsConfig}
    (hcfg : cfgs.getGoodsConfigById c.cid = some cfg) (key : Int32) :
    booked cfgs key c = (if key = cfg.id then c.num.toInt else 0) +
      if key = cfg.collectType then c.num.toInt else 0 := by
  have hid : cfg.id = c.cid := cfgs.id_eq _ _ hcfg
  simp [booked, uncounted, collected, received, hcfg, hid, eq_comm]

lemma booked_none {cfgs : GoodsTable} {c : GoodsCall}
    (hcfg : cfgs.getGoodsConfigById c.cid = none) (key : Int32) : booked cfgs key c = 0 := by
  simp [booked, uncounted, collected, hcfg]

/-- **The counter follows the sum**: an addition of goods adds the booked amount to each counter,
as long as the sum stays in range. -/
lemma toInt_getCount_addGoods {cfgs : GoodsTable} {c : GoodsCall} {depVO : DepotVO} {key : Int32}
    (hc : 0 ≤ c.num.toInt) (h₀ : 0 ≤ (depVO.getCount key).toInt)
    (hfit : (depVO.getCount key).toInt + booked cfgs key c < 2 ^ 31) :
    ((depVO.addGoods cfgs c.cid c.num).getCount key).toInt =
      (depVO.getCount key).toInt + booked cfgs key c := by
  unfold DepotVO.addGoods
  cases hcfg : cfgs.getGoodsConfigById c.cid with
  | none =>
    rw [DepotVO.getCount_count_none, DepotVO.getCount_putGoodsCount, booked_none hcfg, add_zero]
  | some cfg =>
    rw [booked_some hcfg] at hfit ⊢
    rw [DepotVO.getCount_count_some, DepotVO.getCount_putGoodsCount]
    have hite : ∀ p : Prop, ∀ _ : Decidable p, (if p then c.num else 0).toInt =
        if p then c.num.toInt else 0 := by
      intro p _
      split <;> simp
    have p₁ : 0 ≤ (if key = cfg.id then c.num.toInt else 0) := by split <;> omega
    have p₂ : 0 ≤ (if key = cfg.collectType then c.num.toInt else 0) := by split <;> omega
    have hs : (depVO.getCount key + if key = cfg.id then c.num else 0).toInt =
        (depVO.getCount key).toInt + if key = cfg.id then c.num.toInt else 0 := by
      rw [Int32.toInt_add_of_fits, hite] <;> rw [hite] <;> omega
    rw [Int32.toInt_add_of_fits, hs, hite, add_assoc] <;> rw [hs, hite] <;> omega

/-- **The saved count follows the sum**: an addition of goods adds its amount to the saved count of
these goods, as long as the sum stays in range. -/
lemma toInt_goodsCounts_addGoods {cfgs : GoodsTable} {c : GoodsCall} {depVO : DepotVO}
    {cid : Int32} (hc : 0 ≤ c.num.toInt)
    (h₀ : 0 ≤ (depVO.goodsCounts.getOrDefault cid 0).toInt)
    (hfit : (depVO.goodsCounts.getOrDefault cid 0).toInt + received cid c < 2 ^ 31) :
    ((depVO.addGoods cfgs c.cid c.num).goodsCounts.getOrDefault cid 0).toInt =
      (depVO.goodsCounts.getOrDefault cid 0).toInt + received cid c := by
  rw [goodsCounts_addGoods, AList.getOrDefault_insert]
  by_cases hcid : cid = c.cid
  · have hself : received cid c = c.num.toInt := if_pos hcid.symm
    rw [hself] at hfit ⊢
    rw [if_pos hcid, ← hcid, Int32.toInt_add_of_fits (by omega) (by omega)]
  · have hzero : received cid c = 0 := if_neg fun h => hcid h.symm
    rw [if_neg hcid, hzero, add_zero]

/-! ## One call -/

section Call

variable {cfgs : GoodsTable} {h : GoodsHistory} {c : GoodsCall} {rest : List GoodsCall}

/-- The sum for any goods stays in range when one more call is accepted. -/
lemma GoodsInv.total_fits {amount : Int32 → GoodsCall → ℤ} {key : Int32}
    (hvol : volume amount key (h.accepted ++ c :: rest) < 2 ^ 31) :
    total amount key h.accepted + amount key c < 2 ^ 31 := by
  have hle : volume amount key (h.accepted ++ [c]) ≤
      volume amount key (h.accepted ++ c :: rest) :=
    volume_sublist (List.Sublist.append_left (List.singleton_sublist.mpr (by simp)) _)
  have habs := abs_total_le_volume amount key (h.accepted ++ [c])
  have hself := le_abs_self (total amount key (h.accepted ++ [c]))
  simp only [total_append, total_cons, total_nil, add_zero] at habs hself
  omega

/-- Dropping a rejected call keeps the sums in range. -/
lemma SumsFit.drop {acc : List GoodsCall} (hfit : SumsFit cfgs (acc ++ c :: rest)) :
    SumsFit cfgs (acc ++ rest) := by
  have hsub : (acc ++ rest).Sublist (acc ++ c :: rest) :=
    List.Sublist.append_left (List.sublist_cons_self c rest) acc
  intro key
  exact ⟨(volume_sublist hsub).trans_lt (hfit key).1, (volume_sublist hsub).trans_lt (hfit key).2⟩

/-- An amount that is not negative is accepted. -/
lemma GoodsHistory.call_of_nonneg (hc : ¬c.num < 0) :
    h.call cfgs c = ⟨h.depot.addGoods cfgs c.cid c.num, h.accepted ++ [c]⟩ := by
  unfold GoodsHistory.call
  rw [changeGoodsNum_nonneg hc]

/-- **An accepted amount that is not negative keeps the invariant.** -/
lemma GoodsInv.call_nonneg (hinv : GoodsInv cfgs h (c :: rest)) (hc : ¬c.num < 0) :
    GoodsInv cfgs (h.call cfgs c) rest := by
  have hnum : 0 ≤ c.num.toInt := by simpa [Int32.lt_zero_iff] using hc
  rw [GoodsHistory.call_of_nonneg hc]
  refine ⟨?_, ?_, fun cid => ?_, fun key => ?_⟩
  · simpa [List.append_assoc] using hinv.fits
  · intro a ha
    rcases List.mem_append.mp ha with ha | ha
    · exact hinv.nonneg a ha
    · rw [List.mem_singleton.mp ha]
      exact hnum
  · have hpos : 0 ≤ total received cid h.accepted :=
      total_nonneg fun a ha => received_nonneg (hinv.nonneg a ha) _
    have hfit := GoodsInv.total_fits (hinv.fits cid).1
    have hcount := hinv.counts cid
    rw [toInt_goodsCounts_addGoods hnum (by omega) (by omega), hcount]
    simp
  · have hpos : 0 ≤ total (booked cfgs) key h.accepted :=
      total_nonneg fun a ha => booked_nonneg _ (hinv.nonneg a ha) _
    have hfit := GoodsInv.total_fits (hinv.fits key).2
    have hcount : (h.depot.getCount key).toInt = total (booked cfgs) key h.accepted :=
      hinv.counter key
    rw [getGoodsQuantity, toInt_getCount_addGoods hnum (by omega) (by omega), hcount]
    simp

/-- A call that throws is not recorded. -/
lemma GoodsHistory.call_of_rejected (hc : c.num < 0) (hrem : ¬RemovesGoods h c) :
    h.call cfgs c = h := by
  unfold GoodsHistory.call
  cases hr : changeGoodsNum cfgs h.depot c.cid c.num with
  | error _ => rfl
  | ok r =>
    obtain ⟨n, hn, hle, -⟩ := (changeGoodsNum_neg hc).mp hr
    exact absurd ⟨hc, n, hn, hle⟩ hrem

/-- **One sound call keeps the invariant.** -/
theorem GoodsInv.call (hinv : GoodsInv cfgs h (c :: rest)) (hc : GoodsCallSound cfgs h c) :
    GoodsInv cfgs (h.call cfgs c) rest := by
  by_cases hneg : c.num < 0
  · rw [GoodsHistory.call_of_rejected hneg hc.1]
    exact ⟨hinv.fits.drop, hinv.nonneg, hinv.counts, hinv.counter⟩
  · exact hinv.call_nonneg hneg

/-- The booked sum is the claimed sum exactly when what was collected is what went uncounted. -/
lemma total_booked_eq_iff (cid : Int32) (calls : List GoodsCall) :
    total (booked cfgs) cid calls = total received cid calls ↔
      total (collected cfgs) cid calls = total (uncounted cfgs) cid calls := by
  have hsplit : total (booked cfgs) cid calls = total received cid calls -
      total (uncounted cfgs) cid calls + total (collected cfgs) cid calls := by
    induction calls with
    | nil => rfl
    | cons a as ih =>
      simp only [total_cons, ih, booked]
      omega
  omega

/-- An accepted negative amount leaves the saved count at the old sum. -/
lemma GoodsInv.not_ledgersAgree (hinv : GoodsInv cfgs h (c :: rest)) (hrem : RemovesGoods h c) :
    ¬LedgersAgree cfgs h c := by
  obtain ⟨hneg, n, hn, hle⟩ := hrem
  intro hagree
  obtain ⟨hsum, -⟩ := hagree _ _ ((changeGoodsNum_neg hneg).mpr ⟨n, hn, hle, rfl⟩)
  have hcount := hinv.counts c.cid
  have hnum := Int32.lt_zero_iff.mp hneg
  rw [Option.mem_def] at hn
  rw [AList.getOrDefault, hn] at hcount
  simp only [hn, total_append, total_cons, total_nil, received, if_true, Option.map_some,
    Option.some.injEq, Option.getD_some] at hsum hcount
  omega

/-- **One call.** Where the invariant holds, the ledgers agree after the call exactly when the
call is sound. -/
theorem GoodsInv.ledgersAgree_iff (hinv : GoodsInv cfgs h (c :: rest)) :
    LedgersAgree cfgs h c ↔ GoodsCallSound cfgs h c := by
  by_cases hneg : c.num < 0
  · constructor
    · intro hagree
      exact ⟨fun hrem => hinv.not_ledgersAgree hrem hagree, fun hc => absurd hneg hc⟩
    · rintro ⟨hrem, -⟩ depot n hok
      obtain ⟨m, hm, hle, -⟩ := (changeGoodsNum_neg hneg).mp hok
      exact absurd ⟨hneg, m, hm, hle⟩ hrem
  · have hrem : ¬RemovesGoods h c := fun hrem => hneg hrem.1
    have hnext := hinv.call_nonneg hneg
    rw [GoodsHistory.call_of_nonneg hneg] at hnext
    have hcounts := hnext.counts c.cid
    have hquantity := hnext.counter c.cid
    unfold LedgersAgree
    rw [changeGoodsNum_nonneg hneg]
    constructor
    · intro hagree
      obtain ⟨-, hq, -⟩ := hagree _ _ rfl
      refine ⟨hrem, fun _ => (total_booked_eq_iff _ _).mp ?_⟩
      rw [← hq, ← hquantity]
    · rintro ⟨-, hexact⟩ depot n hok
      obtain ⟨rfl, rfl⟩ : _ = depot ∧ _ = n := by simpa using hok
      refine ⟨?_, ?_, fun cid m hm => ?_, fun key => ?_⟩
      · rw [goodsCounts_addGoods, AList.getOrDefault_insert, if_pos rfl] at hcounts
        rw [goodsCounts_addGoods, AList.lookup_insert, Option.map_some, hcounts]
      · rw [hquantity]
        exact (total_booked_eq_iff _ _).mpr (hexact hneg)
      · have hcount := hnext.counts cid
        rw [AList.getOrDefault, hm] at hcount
        rw [Option.getD_some] at hcount
        rw [hcount]
        exact total_nonneg fun a ha => received_nonneg (hnext.nonneg a ha) _
      · rw [hnext.counter key]
        exact total_nonneg fun a ha => booked_nonneg _ (hnext.nonneg a ha) _

end Call

/-! ## Whole histories -/

/-- **The goods ledgers over a history.** On a fresh depot and for every sequence of calls whose
sums stay in range, both ledgers hold the sum of the accepted amounts after every accepted call,
with no count negative, exactly when no call removes goods and each call finds its goods booked
exactly.

**Proof sketch.** As long as no goods are removed, both ledgers are sums over the accepted calls
(`GoodsInv.call`), and at such a state the two sides agree for the next call
(`GoodsInv.ledgersAgree_iff`). -/
theorem changeGoodsNum_ledgersAgree_iff (cfgs : GoodsTable) (calls : List GoodsCall)
    (hfit : SumsFit cfgs calls) :
    Runs.EveryStep (GoodsHistory.call cfgs) (LedgersAgree cfgs) GoodsHistory.init calls ↔
      Runs.EveryStep (GoodsHistory.call cfgs) (GoodsCallSound cfgs) GoodsHistory.init calls :=
  Runs.everyStep_congr (GoodsInv cfgs) (fun _ _ _ hinv hc => hinv.call hc)
    (fun _ _ _ hinv => hinv.ledgersAgree_iff) (goodsInv_init hfit)

/-- One goods configuration, with no collect type. -/
def oneGoods : GoodsTable := GoodsTable.ofList [{ id := 11 }]

/-- The counter books an amount at most twice. -/
lemma abs_booked_oneGoods_le (num : Int32) (key : Int32) :
    |booked oneGoods key ⟨11, num⟩| ≤ 2 * |num.toInt| := by
  have hbooked : booked oneGoods key ⟨11, num⟩ =
      (if key = 11 then num.toInt else 0) + if key = 0 then num.toInt else 0 :=
    @booked_some oneGoods ⟨11, num⟩ { id := 11 } rfl key
  have hid := abs_ite_le (key = 11) num.toInt
  have htype := abs_ite_le (key = 0) num.toInt
  have hsum := abs_add_le (if key = 11 then num.toInt else 0) (if key = 0 then num.toInt else 0)
  rw [hbooked]
  omega

/-- Small amounts of one goods item overflow no sum. -/
lemma sumsFit_oneGoods (a b : Int32) (hfit : |a.toInt| + |b.toInt| < 2 ^ 30) :
    SumsFit oneGoods [⟨11, a⟩, ⟨11, b⟩] := by
  have ha := abs_nonneg a.toInt
  have hb := abs_nonneg b.toInt
  intro key
  constructor
  · by_cases hkey : 11 = key
    · simp [volume, received, hkey]
      omega
    · simp [volume, received, hkey]
  · have h₁ := abs_booked_oneGoods_le a key
    have h₂ := abs_booked_oneGoods_le b key
    simp only [volume_cons, volume_nil, add_zero]
    omega

/-- Additions of a configured goods item keep the ledgers in agreement. -/
theorem changeGoodsNum_ledgersAgree_additions :
    Runs.EveryStep (GoodsHistory.call oneGoods) (LedgersAgree oneGoods) GoodsHistory.init
      [⟨11, 5⟩, ⟨11, 2⟩] :=
  (changeGoodsNum_ledgersAgree_iff oneGoods [⟨11, 5⟩, ⟨11, 2⟩]
    (sumsFit_oneGoods 5 2 (by decide))).mpr (by decide)

/-- **A removal removes nothing.** After five goods were added, a call that removes three of them
is accepted, and both ledgers still hold five. -/
theorem changeGoodsNum_removes_nothing :
    SumsFit oneGoods [⟨11, 5⟩, ⟨11, -3⟩] ∧
      ¬Runs.EveryStep (GoodsHistory.call oneGoods) (LedgersAgree oneGoods) GoodsHistory.init
        [⟨11, 5⟩, ⟨11, -3⟩] := by
  refine ⟨sumsFit_oneGoods 5 (-3) (by decide), fun hrun => ?_⟩
  obtain ⟨hcount, -⟩ := hrun.2.1 _ 5 rfl
  exact absurd hcount (by decide)

end SrgpGame
