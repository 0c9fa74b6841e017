import SrgpGame.Depot.DepotVO

set_option autoImplicit false

/-!
# The depot: currencies

The depot keeps one balance per currency type in `currencyMap`; a currency that was never booked
has the balance zero.

## Main definitions

* `CurrencyType` — the currencies, with their type number and the code thrown when there is too
  little of them.
* `getCurByType`, `checkCurEnough`, `changeCurByType` — the currency methods of `DepotBOImpl`.

## Main results

* `changeCurByType_eq_ok_iff` — what an accepted change does.

## Design notes

`GUILD_COIN` also keeps a history at the guild member when it grows (`afterAdd`); no balance
depends on it and it is left out.
-/

namespace SrgpGame

/-- The currencies. -/
inductive CurrencyType where
  | null | money | tre | contacts | chance | guildCoin | societyExp
  deriving DecidableEq, Repr

namespace CurrencyType

/-- What is added to the number of a currency to make its type. -/
def typeFix : Int32 := 80400000

/-- The number of a currency. -/
def id : CurrencyType → Int32
  | null => 0
  | money => 1
  | tre => 2
  | contacts => 3
  | chance => 4
  | guildCoin => 5
  | societyExp => 7

/-- The type under which a currency is stored. -/
def getType (c : CurrencyType) : Int32 := typeFix + c.id

/-- The code thrown when there is too little of a currency. -/
def getErrorCode : CurrencyType → ICode
  | null => CodeGeneral.generalInvokeParamError
  | money => CodePlayer.playerMoneyMinus
  | tre => CodeDepot.depotTreasureMinus
  | contacts => CodeDepot.depotContactsMinus
  | chance => CodeDepot.depotChanceMinus
  | guildCoin => CodeGuild.guildCoinMinus
  | societyExp => CodeDepot.depotSocietyExpMinus

/-- The upper limit of a balance; negative for none. -/
def getUpperLmt (_ : CurrencyType) : Int64 := -1

/-- Whether a balance has an upper limit. -/
def haveUpperLmt (c : CurrencyType) : Bool := 0 ≤ c.getUpperLmt

/-- All currencies. -/
def all : List CurrencyType := [null, money, tre, contacts, chance, guildCoin, societyExp]

/-- `Enums.get(CurrencyType.class, type)`: the currency with a type. -/
def ofType (type : Int32) : Option CurrencyType := all.find? fun c => c.getType = type

end CurrencyType

/-- The balance of a currency. -/
def getCurByType (depotVO : DepotVO) (type : CurrencyType) : Int64 :=
  depotVO.currencyMap.getOrDefault type.getType 0

/-- Throws unless the balance is at least `cur`. A currency that does not exist is an error. -/
def checkCurEnough (depotVO : DepotVO) (type : Option CurrencyType) (cur : Int64) :
    Except Thrown Unit :=
  match type with
  | none => CodeDepot.depotCnyTypeError.throwException
  | some type => type.getErrorCode.throwIfTrue (getCurByType depotVO type < cur)

/-- Books a currency balance. -/
def DepotVO.putCurrency (depotVO : DepotVO) (type : CurrencyType) (res : Int64) : DepotVO :=
  { depotVO with currencyMap := depotVO.currencyMap.insert type.getType res }

/-- Changes the balance of a currency by `cur`. -/
def changeCurByType (depotVO : DepotVO) (type : CurrencyType) (cur : Int64) (overMax : Bool) :
    Except Thrown DepotVO :=
  if cur = 0 then .ok depotVO
  else do
    let currCny := getCurByType depotVO type
    let res := currCny + cur
    type.getErrorCode.throwIfTrue (res < 0 ∧ cur < 0)
    let res := if 0 < cur ∧ type.haveUpperLmt ∧ !overMax then min type.getUpperLmt res else res
    return depotVO.putCurrency type res

lemma getOrDefault_putCurrency (depotVO : DepotVO) (type : CurrencyType) (res : Int64)
    (key : Int32) :
    (depotVO.putCurrency type res).currencyMap.getOrDefault key 0 =
      if key = type.getType then res else depotVO.currencyMap.getOrDefault key 0 :=
  AList.getOrDefault_insert _ _ _ _ _

@[simp] lemma goodsCounts_putCurrency (depotVO : DepotVO) (type : CurrencyType) (res : Int64) :
    (depotVO.putCurrency type res).goodsCounts = depotVO.goodsCounts := rfl

/-- **A currency change**: nothing happens for zero; otherwise the balance becomes the sum, unless
a negative amount makes it negative. -/
theorem changeCurByType_eq_ok_iff {depotVO depotVO' : DepotVO} {type : CurrencyType} {cur : Int64}
    {overMax : Bool} :
    changeCurByType depotVO type cur overMax = .ok depotVO' ↔
      (cur = 0 ∧ depotVO' = depotVO) ∨
        (cur ≠ 0 ∧ ¬(getCurByType depotVO type + cur < 0 ∧ cur < 0) ∧
          depotVO' = depotVO.putCurrency type (getCurByType depotVO type + cur)) := by
  have hlmt : type.haveUpperLmt = false := by
    cases type <;> decide
  unfold changeCurByType
  by_cases hzero : cur = 0
  · simp [hzero, eq_comm]
  · rw [if_neg hzero]
    by_cases hbad : getCurByType depotVO type + cur < 0 ∧ cur < 0
    · simp only [ICode.throwIfTrue, if_pos hbad, ICode.throwException, bind, Except.bind]
      simp only [hzero, hbad, and_true, not_true, false_and, and_false, or_false, reduceCtorEq]
    · simp only [ICode.throwIfTrue, if_neg hbad, hlmt, bind, Except.bind, pure, Except.pure]
      simp only [hzero, hbad, not_false_eq_true, true_and, false_and, false_or, and_false,
        Bool.false_eq_true, if_false, ne_eq, Except.ok.injEq]
      exact eq_comm

/-- An acceptable change books the sum on its currency and leaves all else as it was. -/
lemma exists_changeCurByType {depotVO : DepotVO} {type : CurrencyType} {cur : Int64}
    (overMax : Bool) (h : ¬(getCurByType depotVO type + cur < 0 ∧ cur < 0)) :
    ∃ depotVO', changeCurByType depotVO type cur overMax = .ok depotVO' ∧
      (∀ key, depotVO'.currencyMap.getOrDefault key 0 =
        if key = type.getType then getCurByType depotVO type + cur
        else depotVO.currencyMap.getOrDefault key 0) ∧
      depotVO'.goodsCounts = depotVO.goodsCounts ∧
      depotVO'.goodsCounter = depotVO.goodsCounter := by
  by_cases hzero : cur = 0
  · refine ⟨depotVO, changeCurByType_eq_ok_iff.mpr (.inl ⟨hzero, rfl⟩), fun key => ?_, rfl, rfl⟩
    rw [hzero, Int64.add_zero, getCurByType]
    split
    · next hkey => rw [hkey]
    · rfl
  · exact ⟨_, changeCurByType_eq_ok_iff.mpr (.inr ⟨hzero, h, rfl⟩),
      getOrDefault_putCurrency depotVO type _, rfl, rfl⟩

end SrgpGame
