import SrgpGame.Activity.Records

set_option autoImplicit false

/-!
# The conditions of activities

A condition listens to the events of a player and records what it is about. Each kind of conditions
has a process. What is recorded is for the server, a guild or a player, and once the condition is
fulfilled nothing more is recorded.

## Main definitions

* `ActivityCondType`, `ActivityCond`, `GameEvent` — conditions, and what they listen to.
* `Calendar` — the days that `NDateUtil` compares.
* `recordCondData` — what a process records of an event.
* `ActivityCond.record` — `ACondProcess.record`, for the record of the condition.

## Design notes

The parameters of a condition are what `getIntParam` and `getBooleanParam` give. An event has every
parameter that a process reads, with its default where the event has none.
-/

namespace SrgpGame.Activity

/-! ## Conditions and events -/

/-- `ActivityCondType`: the kinds of conditions. -/
inductive ActivityCondType where
  | changeCur
  | countCur
  | goodsCollect
  | login
  | playerLv
  | changeGoods
  | guildBossHurt
  | guildKillBoss
  | payTimes
  | payDays
  | payMoney
  | fightForce
  | guildPayMember
  deriving DecidableEq, Repr

/-- `ActivityCond`: a condition. -/
structure ActivityCond where
  condType : ActivityCondType
  scopeType : ActivityScopeType
  /-- What is to be reached. -/
  value : Int64
  intParam : String → Int32 := fun _ => 0
  booleanParam : String → Bool := fun _ => false

/-- The types of events that conditions listen to. -/
inductive EvtType where
  | currency
  | goods
  | enterGame
  | levelUp
  | fightForce
  | fightBoss
  | killBoss
  | pay
  | acceptNewActivity
  | refActivity
  deriving DecidableEq, Repr

/-- `GameEvent`: an event of a player at a time, with what processes read of both. -/
structure GameEvent where
  type : EvtType
  now : Int64
  playerId : Int32
  /-- `getGoodsQuantity` of the player. -/
  goodsQuantity : Int32 → Int32 := fun _ => 0
  currencyType : Int32 := 0
  before : Int64 := 0
  after : Int64 := 0
  pay : Bool := false
  goodsCid : Int32 := 0
  /-- The `collectType` of the `CONFIG`, if it is a `QuestCollectible`. -/
  collectType : Option Int32 := none
  longVal : Int64 := 0
  num : Int32 := 0
  /-- The price of the order item, if it is configured. -/
  orderMoney : Option Int32 := none

/-- The calendar of the time zone. -/
structure Calendar where
  /-- The number of the local day of a time; the first of January 1970 is the day zero. -/
  localDay : Int64 → ℤ

/-- The days of the 60 years from 1970 on, which the tables of `NDateUtil` are made for. -/
def tableDays : ℤ := 60 * 365 + 15

/-- `NDateUtil.getDay`: the number of the local day, zero for a day that is not in the tables. The
difference of the numbers of two times is `NDateUtil.compareTwoDate`. -/
def Calendar.getDay (calendar : Calendar) (time : Int64) : ℤ :=
  if 0 ≤ calendar.localDay time ∧ calendar.localDay time < tableDays then calendar.localDay time
  else 0

/-- `getConcernType`. -/
def ActivityCondType.concernType : ActivityCondType → List EvtType
  | changeCur => [.currency]
  | countCur => [.currency]
  | goodsCollect => [.goods, .enterGame, .acceptNewActivity, .refActivity]
  | login => [.enterGame]
  | playerLv => [.levelUp, .enterGame, .acceptNewActivity, .refActivity]
  | changeGoods => [.goods]
  | guildBossHurt => [.fightBoss]
  | guildKillBoss => [.killBoss]
  | payTimes => [.pay]
  | payDays => [.pay]
  | payMoney => [.pay]
  | fightForce => [.fightForce]
  | guildPayMember => [.pay]

/-! ## What the processes record -/

/-- What a process answers. -/
structure CondResult where
  /-- Something was recorded that others are told. -/
  result : Bool
  /-- What is added to a currency in the statistics of the activity. -/
  counted : Option (Int32 × Int64) := none
  deriving DecidableEq

section Processes

variable (cond : ActivityCond) (condRecVO : ActivityCondRecVO) (event : GameEvent)

/-- Adds to what is reached, up to what is to be reached. -/
def addFinishData (n : Int64) : ActivityCondRecVO :=
  { condRecVO with finishData := min (condRecVO.finishData + n) cond.value }

/-- `OP_Get` and `OP_Use`: the change is of the kind that the condition is about. -/
def opFits (op : Int32) (change : Int64) : Bool :=
  if op ≠ 1 ∧ op ≠ 2 then false
  else if op = 1 ∧ change ≤ 0 then false
  else if op = 2 ∧ 0 ≤ change then false
  else true

/-- The change of currency that the condition is about. -/
def currencyChange : Option Int64 :=
  let change := event.after - event.before
  if cond.intParam "cType" ≤ 0 then none
  else if !opFits (cond.intParam "op") change then none
  else if event.currencyType ≤ 0 ∨ event.currencyType ≠ cond.intParam "cType" then none
  else if cond.booleanParam "pay" ∧ !event.pay then none
  else some change.abs

/-- `ChangeCurrencyCondProcess.recordCondData`. -/
def recordChangeCurrency : ActivityCondRecVO × CondResult :=
  match currencyChange cond event with
  | none => (condRecVO, ⟨false, none⟩)
  | some change => (addFinishData cond condRecVO change, ⟨true, none⟩)

/-- `CountCurrencyCondProcess.recordCondData`: counts beyond what is to be reached, and for the
statistics. -/
def recordCountCurrency : ActivityCondRecVO × CondResult :=
  match currencyChange cond event with
  | none => (condRecVO, ⟨false, none⟩)
  | some change =>
    ({ condRecVO with finishData := condRecVO.finishData + change },
      ⟨false, some (cond.intParam "cType", change)⟩)

/-- `ChangeGoodsCondProcess.recordCondData`: what it records it does not tell. -/
def recordChangeGoods : ActivityCondRecVO × CondResult :=
  let change := (event.after - event.before).toInt32
  if !opFits (cond.intParam "op") change.toInt64 then (condRecVO, ⟨false, none⟩)
  else if 0 < cond.intParam "gcid" ∧ cond.intParam "gcid" ≠ event.goodsCid then
    (condRecVO, ⟨false, none⟩)
  else (addFinishData cond condRecVO change.abs.toInt64, ⟨false, none⟩)

/-- `GoodsCollectCondProcess.recordCondData`: what the player has of the goods when the activity
comes, and what the player gives away of them later. -/
def recordGoodsCollect : ActivityCondRecVO × CondResult :=
  let tGoodsCid := cond.intParam "gCid"
  let tGoodsType := cond.intParam "gType"
  if tGoodsCid ≤ 0 ∧ tGoodsType ≤ 0 then (condRecVO, ⟨false, none⟩)
  else if event.type = .acceptNewActivity ∨ event.type = .refActivity then
    let goodsNum := event.goodsQuantity (if 0 < tGoodsCid then tGoodsCid else tGoodsType)
    ({ condRecVO with finishData := min goodsNum.toInt64 cond.value }, ⟨true, none⟩)
  else
    let change := (event.before - event.after).toInt32
    if change ≤ 0 then (condRecVO, ⟨false, none⟩)
    else if 0 < tGoodsCid ∧ tGoodsCid ≠ event.goodsCid then (condRecVO, ⟨false, none⟩)
    else if 0 < tGoodsType ∧ event.collectType ≠ some tGoodsType then (condRecVO, ⟨false, none⟩)
    else (addFinishData cond condRecVO change.toInt64, ⟨true, none⟩)

/-- An event on the day of what was recorded last, which `login` and `payDays` leave out. -/
def SameDay (calendar : Calendar) : Prop :=
  0 < condRecVO.lastRecordTime ∧
    calendar.getDay event.now - calendar.getDay condRecVO.lastRecordTime ≤ 0

instance (calendar : Calendar) : Decidable (SameDay condRecVO event calendar) :=
  inferInstanceAs (Decidable (_ ∧ _))

/-- `LoginCondProcess.recordCondData` and `PayDaysCondProcess.recordCondData`: once a day. -/
def recordDay (calendar : Calendar) : ActivityCondRecVO × CondResult :=
  if SameDay condRecVO event calendar then (condRecVO, ⟨false, none⟩)
  else ({ addFinishData cond condRecVO 1 with lastRecordTime := event.now }, ⟨true, none⟩)

/-- `GuildKillBossCondProcess.recordCondData` and `PayTimesCondProcess.recordCondData`: every event
counts. -/
def recordOne : ActivityCondRecVO × CondResult :=
  (addFinishData cond condRecVO 1, ⟨true, none⟩)

/-- `GuildBossHurtCondProcess.recordCondData`. -/
def recordGuildBossHurt : ActivityCondRecVO × CondResult :=
  if event.longVal ≤ 0 then (condRecVO, ⟨false, none⟩)
  else (addFinishData cond condRecVO event.longVal, ⟨true, none⟩)

/-- `FightForceCondProcess.recordCondData`. -/
def recordFightForce : ActivityCondRecVO × CondResult :=
  let change := event.after - event.before
  if change < 0 then (condRecVO, ⟨false, none⟩)
  else (addFinishData cond condRecVO change, ⟨true, none⟩)

/-- `PayMoneyCondProcess.recordCondData`. -/
def recordPayMoney : ActivityCondRecVO × CondResult :=
  match event.orderMoney with
  | none => (condRecVO, ⟨false, none⟩)
  | some orderMoney =>
    let oldValue := condRecVO.recordDetails.getOrDefault event.playerId 0
    let details := condRecVO.recordDetails.insert event.playerId (oldValue + orderMoney.toInt64)
    ({ addFinishData cond condRecVO orderMoney.toInt64 with recordDetails := details },
      ⟨true, none⟩)

/-- `GuildPayMemberCondProcess.recordCondData`. -/
def recordGuildPayMember : ActivityCondRecVO × CondResult :=
  if event.playerId ∈ condRecVO.recordPlayers then (condRecVO, ⟨false, none⟩)
  else
    let details := condRecVO.recordDetails.insert event.playerId event.now
    ({ addFinishData cond condRecVO 1 with recordDetails := details }, ⟨true, none⟩)

/-- `PlayerLevelCondProcess.recordCondData`: records nothing. -/
def recordPlayerLevel : ActivityCondRecVO × CondResult := (condRecVO, ⟨false, none⟩)

/-- **`recordCondData`** of the process of the condition. -/
def recordCondData (calendar : Calendar) : ActivityCondRecVO × CondResult :=
  match cond.condType with
  | .changeCur => recordChangeCurrency cond condRecVO event
  | .countCur => recordCountCurrency cond condRecVO event
  | .goodsCollect => recordGoodsCollect cond condRecVO event
  | .login => recordDay cond condRecVO event calendar
  | .playerLv => recordPlayerLevel condRecVO
  | .changeGoods => recordChangeGoods cond condRecVO event
  | .guildBossHurt => recordGuildBossHurt cond condRecVO event
  | .guildKillBoss => recordOne cond condRecVO
  | .payTimes => recordOne cond condRecVO
  | .payDays => recordDay cond condRecVO event calendar
  | .payMoney => recordPayMoney cond condRecVO event
  | .fightForce => recordFightForce cond condRecVO event
  | .guildPayMember => recordGuildPayMember cond condRecVO event

end Processes

/-! ## Recording -/

namespace ActivityCond

/-- `checkCondData`: the condition is fulfilled. -/
def checkCondData (cond : ActivityCond) (condRecVO : ActivityCondRecVO) : Bool :=
  if condRecVO.finish then true
  else if cond.value ≤ 0 then false
  else cond.value ≤ condRecVO.finishData

lemma checkCondData_iff {cond : ActivityCond} {condRecVO : ActivityCondRecVO} :
    cond.checkCondData condRecVO = true ↔
      condRecVO.finish = true ∨ 0 < cond.value ∧ cond.value ≤ condRecVO.finishData := by
  unfold checkCondData
  split_ifs with hfinish hvalue
  · simp [hfinish]
  · simp [hfinish, Int64.not_lt.mpr hvalue]
  · simp [hfinish, Int64.not_le.mp hvalue]

/-- **`ACondProcess.record`**, for an event that the process may listen to. -/
def record (cond : ActivityCond) (calendar : Calendar) (condRecVO : ActivityCondRecVO)
    (event : GameEvent) : ActivityCondRecVO × CondResult :=
  if event.type ∉ cond.condType.concernType then (condRecVO, ⟨false, none⟩)
  else if cond.checkCondData condRecVO then (condRecVO, ⟨false, none⟩)
  else
    let recorded := recordCondData cond condRecVO event calendar
    if recorded.2.result then
      ({ recorded.1 with finish := cond.checkCondData recorded.1 }, recorded.2)
    else recorded

end ActivityCond

end SrgpGame.Activity
