import SrgpGame.Func.Functions

set_option autoImplicit false

/-!
# A function on one currency

`checkAndExec` of a function with a plain amount of a currency checks a cost twice and then books
the amount. If there is too little of the currency it throws the code of the currency before
anything is booked.

## Main definitions

* `curFunc` — the function.
* `bookedCur` — the depot once an amount is booked.

## Main results

* `run_checkAndExec_curFunc`, `run_checkAndExec_curFunc_event` — what it does, on any depot and on
  one with listeners.
-/

namespace SrgpGame.Func

/-- The function with a plain amount of a currency. -/
def curFunc (type : CurrencyType) (amount : Int64) : AbstractFunc where
  type := .changeCurFunc
  param := { param := type.getType, value := amount }

variable {type : CurrencyType} {amount : Int64}

lemma ofType_getType (type : CurrencyType) : CurrencyType.ofType type.getType = some type := by
  cases type <;> decide

/-- A cost is more than there is of the currency. -/
def Lacks (depotVO : DepotVO) (type : CurrencyType) (amount : Int64) : Prop :=
  amount < 0 ∧ getCurByType depotVO type < amount.abs

instance (depotVO : DepotVO) (type : CurrencyType) (amount : Int64) :
    Decidable (Lacks depotVO type amount) :=
  inferInstanceAs (Decidable (amount < 0 ∧ getCurByType depotVO type < amount.abs))

/-- The check of the parameter. -/
lemma check_curFunc (player : PlayerVO) : (curFunc type amount).check player =
    type.getErrorCode.throwIfTrue (Lacks player.depotVO type amount) := by
  have hcheck : (curFunc type amount).check player =
      (do
        CodeDepot.depotCnyTypeError.throwIfTrue (CurrencyType.ofType type.getType = none)
        if amount < 0 then
          checkCurEnough player.depotVO (CurrencyType.ofType type.getType) amount.abs) := rfl
  have htype : CodeDepot.depotCnyTypeError.throwIfTrue (some type = none) = .ok () := if_neg nofun
  rw [hcheck, ofType_getType, htype]
  by_cases hneg : amount < 0
  · simp only [bind, Except.bind, hneg, if_true, checkCurEnough, Lacks, true_and]
  · simp only [bind, Except.bind, hneg, if_false, Lacks, false_and, ICode.throwIfTrue]
    rfl

/-- The check of the recorded cost. -/
lemma check_record_curFunc (player : PlayerVO) :
    ((curFunc type amount).record player CheckRecs.empty).check player =
      type.getErrorCode.throwIfTrue (Lacks player.depotVO type amount) := by
  by_cases hneg : amount < 0
  · have hrecord : (curFunc type amount).record player CheckRecs.empty =
        CheckRecs.empty.addCost (some type) amount := by
      have hfull : (curFunc type amount).record player CheckRecs.empty =
          if amount < 0 then
            CheckRecs.empty.addCost (CurrencyType.ofType type.getType) amount else .empty := rfl
      rw [hfull, if_pos hneg, ofType_getType]
    have hentries : (CheckRecs.empty.addCost (some type) amount).cur.entries =
        [⟨some type, amount⟩] := by
      have hzero : (∅ : AList fun _ : Option CurrencyType => Int64).getOrDefault (some type) 0 +
          amount = amount := Int64.zero_add amount
      simp only [CheckRecs.addCost, CheckRecs.empty, hzero]
      rfl
    have hgoods : (CheckRecs.empty.addCost (some type) amount).goods.entries = [] := rfl
    have hmny : (CheckRecs.empty.addCost (some type) amount).guildMny = none := rfl
    rw [hrecord, CheckRecs.check, hentries, hgoods, hmny]
    simp only [List.forIn_cons, List.forIn_nil, checkCurEnough, Lacks, hneg, true_and]
    by_cases hless : getCurByType player.depotVO type < amount.abs
    · simp only [ICode.throwIfTrue, if_pos hless]
      rfl
    · simp only [ICode.throwIfTrue, if_neg hless]
      rfl
  · have hrecord : (curFunc type amount).record player CheckRecs.empty = CheckRecs.empty :=
      if_neg hneg
    rw [hrecord, ICode.throwIfTrue, if_neg fun h => hneg h.1]
    rfl

/-- **What the function does**: it throws the code of the currency where there is too little of it,
and otherwise changes the balance. -/
theorem run_checkAndExec_curFunc (htype : type ≠ .null) (cfgs : Configs) (depotBO : DepotBO)
    (s : ExecState) :
    ((curFunc type amount).checkAndExec cfgs depotBO).run s =
      if Lacks s.player.depotVO type amount then .error (.logic type.getErrorCode.get) s
      else (depotBO.changeCurByType type amount true false).run s := by
  have hamount : ChangeCurFunc.changeVal s.player.att (curFunc type amount).param 1 = amount := by
    have hval : ChangeCurFunc.changeVal s.player.att (curFunc type amount).param 1 =
        (0 + amount) * Int32.toInt64 1 := rfl
    have hone : Int32.toInt64 1 = 1 := by decide
    rw [hval, hone, Int64.zero_add, Int64.mul_one]
  have hexec : ((curFunc type amount).exec cfgs depotBO 1).run s =
      (depotBO.changeCurByType type amount true false).run s := by
    have hfull : (curFunc type amount).exec cfgs depotBO 1 =
        ChangeCurFunc.exec depotBO (curFunc type amount).param 1 := rfl
    rw [hfull, ChangeCurFunc.run_exec (ofType_getType type), if_neg htype, hamount]
    rfl
  unfold AbstractFunc.checkAndExec
  rw [EStateM.run_bind, EStateM.run_ofExcept, check_curFunc]
  by_cases hlacks : Lacks s.player.depotVO type amount
  · rw [if_pos hlacks, ICode.throwIfTrue, if_pos hlacks]
    rfl
  · rw [if_neg hlacks, ICode.throwIfTrue, if_neg hlacks]
    simp only [EStateM.run_bind, EStateM.run_ofExcept, check_record_curFunc, ICode.throwIfTrue,
      if_neg hlacks]
    exact hexec

/-- A cost that the balance covers does not make it negative. -/
lemma not_overdrawn {depotVO : DepotVO} (h : ¬Lacks depotVO type amount)
    (hmin : amount.toInt ≠ -2 ^ 63) : ¬(getCurByType depotVO type + amount < 0 ∧ amount < 0) := by
  rintro ⟨hsum, hneg⟩
  have hcovered : ¬getCurByType depotVO type < amount.abs := fun hless => h ⟨hneg, hless⟩
  have hlt := (getCurByType depotVO type).toInt_lt
  rw [Int64.lt_iff_toInt_lt, Int64.toInt_zero] at hneg
  rw [Int64.lt_iff_toInt_lt, Int64.toInt_abs_of_ne hmin, abs_of_neg hneg] at hcovered
  rw [Int64.lt_iff_toInt_lt, Int64.toInt_zero,
    Int64.toInt_add_of_fits (by omega) (by omega)] at hsum
  omega

/-- The depot once an amount is booked. -/
def bookedCur (depotVO : DepotVO) (type : CurrencyType) (amount : Int64) : DepotVO :=
  if amount = 0 then depotVO
  else depotVO.putCurrency type (getCurByType depotVO type + amount)

lemma getCurByType_bookedCur (depotVO : DepotVO) (type type' : CurrencyType) (amount : Int64) :
    getCurByType (bookedCur depotVO type amount) type' =
      if type' = type then getCurByType depotVO type + amount
      else getCurByType depotVO type' := by
  have hkey : type'.getType = type.getType ↔ type' = type := by
    refine ⟨fun hkey => ?_, congrArg _⟩
    have hsome := ofType_getType type'
    rw [hkey, ofType_getType] at hsome
    exact (Option.some.inj hsome).symm
  unfold bookedCur
  by_cases hzero : amount = 0
  · rw [if_pos hzero, hzero, Int64.add_zero]
    split
    · next h => rw [h]
    · rfl
  · simp only [if_neg hzero, getCurByType, getOrDefault_putCurrency, hkey]

/-- **What an affordable amount does**: it is booked, and then the listeners are told. -/
theorem run_checkAndExec_curFunc_event (htype : type ≠ .null) (cfgs : Configs)
    (happen : DepotEvent → Exec Unit) {s : ExecState} (h : ¬Lacks s.player.depotVO type amount)
    (hmin : amount.toInt ≠ -2 ^ 63) :
    ((curFunc type amount).checkAndExec cfgs (eventDepotBOImpl cfgs happen)).run s =
      (happen (.currency type.getType (getCurByType s.player.depotVO type)
        (getCurByType s.player.depotVO type + amount) amount false)).run
          ⟨s.player.setDepotVO (bookedCur s.player.depotVO type amount), s.rng⟩ := by
  have hbook : changeCurByType s.player.depotVO type amount true =
      .ok (bookedCur s.player.depotVO type amount) := by
    refine changeCurByType_eq_ok_iff.mpr ?_
    by_cases hzero : amount = 0
    · exact .inl ⟨hzero, if_pos hzero⟩
    · exact .inr ⟨hzero, not_overdrawn h hmin, if_neg hzero⟩
  have hchange : ((depotBOImpl cfgs).changeCurByType type amount true false).run s =
      .ok () ⟨s.player.setDepotVO (bookedCur s.player.depotVO type amount), s.rng⟩ := by
    simp only [depotBOImpl]
    exact run_changeDepot_eq_ok.mpr ⟨_, hbook, rfl⟩
  rw [run_checkAndExec_curFunc htype, if_neg h]
  simp only [eventDepotBOImpl]
  rw [EStateM.run_bind, EStateM.run_get]
  simp only
  rw [EStateM.run_bind, hchange]

end SrgpGame.Func
