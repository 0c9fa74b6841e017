import SrgpGame.Activity.CondProcess
import SrgpGame.Core.Codes
import SrgpGame.Lib.Transducer
import SrgpGame.Util.RandomUtils

set_option autoImplicit false

/-!
# Is a record as good as new after a refresh?

A refresh takes the records of an activity back. It does not take back when a condition recorded
something last, which keeps a condition that counts days from counting again, nor what a behaviour
keeps between two steps. How long a record has to be as good as new matters: the days are compared
by tables that end with the year 2029, and from then on no day comes after another.

## Main definitions

* `resetActivityRec` — the method of `ActivityBOImpl`.
* `WishBevProcess.execBev`, `TreasureBowlBevProcess.execBev` — the kinds of behaviours that look at
  their record.
* `CondAlike`, `BevAlike` — two records that give the same results from now on.
* `ResetRight` — what is wanted of a refresh.
* `Restored` — the condition on a record.

## Main results

* `condAlike_iff`, `bevAlike_iff` — when one record is as good as new.
* `resetRight_iff` — when a refresh does what is wanted.

## Design notes

A record is looked at alone. What depends on other records of the same behaviour, on the player or
on the functions that are executed is given with each call. Kinds of behaviours that do not look at
their record do what the call says.
-/

namespace SrgpGame.Activity.Reset

variable {ι : Type}

/-! ## Activities -/

/-- `ActivityBev`: a behaviour, with the parameters `costs`, `minPrzs` and `maxPrzs` of a treasure
bowl. -/
structure ActivityBev (ι : Type) where
  type : String
  /-- For whom it is counted, and how often it can be executed for each of these. -/
  execLimit : AList fun _ : ActivityScopeType => Int32
  funcs : List ι
  costs : List (List Char) := []
  minPrzs : List (List Char) := []
  maxPrzs : List (List Char) := []

/-- `ActivityVO`: when it was refreshed last, and its conditions and behaviours by group and
index. -/
structure ActivityVO (ι : Type) where
  id : String
  refInterval : Int32
  refTime : Int64
  conds : Int32 × Int32 → Option ActivityCond
  bevs : Int32 × Int32 → Option (ActivityBev ι)

/-! ## The refresh -/

/-- The record of a condition, taken back. -/
def resetCondRecVO (act : ActivityVO ι) (condRecVO : ActivityCondRecVO) : ActivityCondRecVO :=
  if condRecVO.refTime = act.refTime then condRecVO
  else
    { condRecVO with
      finish := false
      finishData := 0
      refTime := act.refTime
      recordPlayers := []
      recordDetails := ∅ }

/-- The record of a behaviour, taken back. -/
def resetBevRecVO (act : ActivityVO ι) (bevRecVO : ActivityBevRecVO) : ActivityBevRecVO :=
  if bevRecVO.refTime = act.refTime then bevRecVO
  else { bevRecVO with canExec := true, execNum := 0, refTime := act.refTime }

/-- **`resetActivityRec`**: whether something was taken back, and the records after it. -/
def resetActivityRec (act : ActivityVO ι) (recVO : ActivityRecVO) : Bool × ActivityRecVO :=
  if act.refInterval ≤ 0 then (false, recVO)
  else
    let isRef := recVO.condDatas.values.any (fun condRecVO => condRecVO.refTime ≠ act.refTime) ||
      recVO.bevDatas.values.any fun bevRecVO => bevRecVO.refTime ≠ act.refTime
    (isRef, ⟨recVO.condDatas.mapValues (resetCondRecVO act),
      recVO.bevDatas.mapValues (resetBevRecVO act)⟩)

/-! ## Executing a behaviour -/

/-- What is handed to an executor. -/
inductive Executed (ι : Type) where
  | funcs (funcs : List ι)
  /-- A change of treasure. -/
  | treasure (change : Int32)

/-- What a call of a behaviour finds besides the record. -/
structure BevCall (ι : Type) where
  /-- The records for the other scopes permit it. -/
  permitted : Bool
  currTime : Int64
  /-- The input `ix`. -/
  ix : Option Int32
  /-- What `nextInt` gives. -/
  nextInt : Int32 → Int32
  /-- What the last execution throws, after those before it. -/
  throws : List (Executed ι) → Option Thrown
  /-- What is done by a kind of behaviours that does not look at the record. -/
  answer : Except Thrown Int32
  executed : List (Executed ι)

/-- What a call of a behaviour does. -/
structure BevResult (ι : Type) where
  /-- How often the behaviour was executed. -/
  answer : Except Thrown Int32
  executed : List (Executed ι) := []

/-- Hands `executed` to the executor, after what was executed before. -/
def BevCall.exec (call : BevCall ι) (before : List (Executed ι)) (executed : Executed ι) :
    BevResult ι :=
  match call.throws (before ++ [executed]) with
  | some e => ⟨.error e, before ++ [executed]⟩
  | none => ⟨.ok 1, before ++ [executed]⟩

section Processes

variable (digit : Char → Option ℕ)

/-- `Long.valueOf`, nothing when it throws. -/
def longValueOf (s : List Char) : Option Int64 :=
  let negative := s.head? = some '-'
  let digits := if negative ∨ s.head? = some '+' then s.tail else s
  if digits = [] then none
  else (digits.mapM digit).bind fun ds =>
    let magnitude : ℤ := ds.foldl (fun n d => 10 * n + d) 0
    let value := if negative then -magnitude else magnitude
    if -2 ^ 63 ≤ value ∧ value < 2 ^ 63 then some (Int64.ofInt value) else none

/-- `DateUtil.DAY_MILLIS`. -/
def dayMillis : Int64 := 86400000

/-- What a behaviour keeps between two steps. -/
abbrev ExecParams := AList fun _ : String => String

/-- The second step of `WishBevProcess.execBev`: grants what was wished for at the time
`excTime`. -/
def grantWish (bev : ActivityBev ι) (call : BevCall ι) (execParams : ExecParams)
    (excTime : String) : BevResult ι :=
  match execParams.lookup "ix" with
  | none => ⟨CodeActivity.activityServerDataError.throwException, []⟩
  | some excIx =>
    match longValueOf digit excTime.toList with
    | none => ⟨.error .illegalArgument, []⟩
    | some time =>
      if call.currTime - time < dayMillis then
        ⟨CodeActivity.activityExecCdExists.throwException, []⟩
      else
        match Util.parseInt digit excIx.toList with
        | none => ⟨.error .illegalArgument, []⟩
        | some ix =>
          match (if ix < 0 then none else bev.funcs[ix.toInt.toNat]?) with
          | none => ⟨.error .indexOutOfBounds, []⟩
          | some func => call.exec [] (.funcs [func])

/-- **`WishBevProcess.execBev`**, on the record of the player: what is kept after it, and what it
does. -/
def WishBevProcess.execBev (bev : ActivityBev ι) (call : BevCall ι) (execParams : ExecParams) :
    ExecParams × BevResult ι :=
  match execParams.lookup "time" with
  | none =>
    match call.ix with
    | none => (execParams, ⟨.ok 0, []⟩)
    | some ix =>
      if (bev.funcs.length : ℤ) ≤ ix.toInt then
        (execParams, ⟨CodeActivity.activityExecParamsError.throwException, []⟩)
      else
        ((execParams.insert "time" (toString call.currTime.toInt)).insert "ix" (toString ix.toInt),
          ⟨.ok 1, []⟩)
  | some excTime => (execParams, grantWish digit bev call execParams excTime)

/-- **`TreasureBowlBevProcess.execBev`**, on the record of the player: the price and the prize
depend on how often it was executed. -/
def TreasureBowlBevProcess.execBev (bev : ActivityBev ι) (call : BevCall ι) (execNum : Int32) :
    BevResult ι :=
  if bev.costs.length ≠ bev.minPrzs.length ∧ bev.costs.length ≠ bev.maxPrzs.length then ⟨.ok 0, []⟩
  else
    let idx := if (bev.costs.length : ℤ) ≤ execNum.toInt then bev.costs.length - 1
      else execNum.toInt.toNat
    let entry := fun (texts : List (List Char)) =>
      if execNum < 0 then none else texts[idx]?
    match entry bev.costs, entry bev.minPrzs, entry bev.maxPrzs with
    | some cost, some minPrz, some maxPrz =>
      match Util.parseInt digit cost, Util.parseInt digit minPrz, Util.parseInt digit maxPrz with
      | some costTre, some minPrzTre, some maxPrzTre =>
        if maxPrzTre ≤ minPrzTre then ⟨.ok 0, []⟩
        else
          let paid := call.exec [] (.treasure (-costTre))
          match paid.answer with
          | .error _ => paid
          | .ok _ =>
            let przTre := call.nextInt (maxPrzTre - minPrzTre) + minPrzTre
            call.exec paid.executed (.treasure przTre)
      | _, _, _ => ⟨.error .illegalArgument, []⟩
    | _, _, _ => ⟨.error .indexOutOfBounds, []⟩

/-- The `execBev` of the process of the behaviour, on the record for one scope. -/
def execBev (scope : ActivityScopeType) (bev : ActivityBev ι) (call : BevCall ι)
    (bevRecVO : ActivityBevRecVO) : ExecParams × BevResult ι :=
  if bev.type = "wish" ∧ scope = .personal then
    WishBevProcess.execBev digit bev call bevRecVO.execParams
  else if bev.type = "treBowl" ∧ scope = .personal then
    (bevRecVO.execParams, TreasureBowlBevProcess.execBev digit bev call bevRecVO.execNum)
  else (bevRecVO.execParams, ⟨call.answer, call.executed⟩)

/-- `recordExecNum`, for the record of one scope. -/
def countExec (exeNum limit : Int32) (recVO : ActivityBevRecVO) : ActivityBevRecVO :=
  let execNum := recVO.execNum + exeNum
  let canExec := if 0 < limit ∧ limit ≤ execNum then false else recVO.canExec
  { recVO with execNum := execNum, canExec := canExec }

/-- **`ABevProcess.exec`**, on the record for one scope. -/
def exec (scope : ActivityScopeType) (bev : ActivityBev ι) (bevRecVO : ActivityBevRecVO)
    (call : BevCall ι) : ActivityBevRecVO × BevResult ι :=
  if bevRecVO.canExec && call.permitted then
    let executed := execBev digit scope bev call bevRecVO
    let bevRecVO := { bevRecVO with execParams := executed.1 }
    match executed.2.answer with
    | .error _ => (bevRecVO, executed.2)
    | .ok exeNum =>
      if 0 < exeNum then
        (countExec exeNum ((bev.execLimit.lookup scope).getD 0) bevRecVO, executed.2)
      else (bevRecVO, executed.2)
  else (bevRecVO, ⟨CodeActivity.activityExecBevLimit.throwException, []⟩)

end Processes

/-! ## What is wanted -/

/-- What the players are shown of the record of a condition. -/
def condShown (cond : ActivityCond) (condRecVO : ActivityCondRecVO) :
    Bool × Int64 × List (Sigma fun _ : Int32 => Int64) :=
  (cond.checkCondData condRecVO, condRecVO.finishData, condRecVO.recordDetails.entries)

/-- A step of a condition: what the event does, and what is shown after it. -/
def condStep (calendar : Calendar) (cond : ActivityCond) (condRecVO : ActivityCondRecVO)
    (event : GameEvent) :
    ActivityCondRecVO × List (CondResult × Bool × Int64 × List (Sigma fun _ : Int32 => Int64)) :=
  let recorded := cond.record calendar condRecVO event
  (recorded.1, [(recorded.2, condShown cond recorded.1)])

/-- **Two records of a condition are alike** from `now` to `horizon`: they show the same, and any
events that come in that time give the same results on both. -/
def CondAlike (calendar : Calendar) (cond : ActivityCond) (now horizon : Int64)
    (condRecVO condRecVO' : ActivityCondRecVO) : Prop :=
  condShown cond condRecVO = condShown cond condRecVO' ∧
    ∀ events : List GameEvent, (now :: events.map GameEvent.now).Pairwise (· ≤ ·) →
      (∀ event ∈ events, event.now ≤ horizon) →
      (Transducer.run (condStep calendar cond) condRecVO events).2 =
        (Transducer.run (condStep calendar cond) condRecVO' events).2

/-- A step of a behaviour: what the call does, and what is shown after it. -/
def bevStep (digit : Char → Option ℕ) (scope : ActivityScopeType) (bev : ActivityBev ι)
    (bevRecVO : ActivityBevRecVO) (call : BevCall ι) :
    ActivityBevRecVO × List (BevResult ι × Bool × Int32) :=
  let executed := exec digit scope bev bevRecVO call
  (executed.1, [(executed.2, executed.1.canExec, executed.1.execNum)])

/-- **Two records of a behaviour are alike**: they show the same, and any calls give the same
results on both. -/
def BevAlike (digit : Char → Option ℕ) (scope : ActivityScopeType) (bev : ActivityBev ι)
    (bevRecVO bevRecVO' : ActivityBevRecVO) : Prop :=
  (bevRecVO.canExec, bevRecVO.execNum) = (bevRecVO'.canExec, bevRecVO'.execNum) ∧
    ∀ calls : List (BevCall ι),
      (Transducer.run (bevStep digit scope bev) bevRecVO calls).2 =
        (Transducer.run (bevStep digit scope bev) bevRecVO' calls).2

/-- The record is from before the last refresh of the activity. -/
def Outdated (act : ActivityVO ι) (refTime : Int64) : Prop :=
  0 < act.refInterval ∧ refTime ≠ act.refTime

/-- What newly created records take of the activity. -/
def ActivityVO.key (act : ActivityVO ι) : ActivityKey := ⟨act.id, act.refTime⟩

/-- **What is wanted of a refresh**, of the records for a scope: each record from before it is alike
one that is newly created, up to the `horizon`. -/
def ResetRight (digit : Char → Option ℕ) (calendar : Calendar) (scope : ActivityScopeType)
    (act : ActivityVO ι) (now horizon : Int64) (recVO : ActivityRecVO) : Prop :=
  (∀ at' condRecVO cond, recVO.condDatas.lookup at' = some condRecVO → act.conds at' = some cond →
    Outdated act condRecVO.refTime →
      ∃ condRecVO', (resetActivityRec act recVO).2.condDatas.lookup at' = some condRecVO' ∧
        CondAlike calendar cond now horizon condRecVO'
          (newCondRecVO act.key condRecVO.relId at'.1 at'.2)) ∧
  ∀ at' bevRecVO bev, recVO.bevDatas.lookup at' = some bevRecVO → act.bevs at' = some bev →
    Outdated act bevRecVO.refTime →
      ∃ bevRecVO', (resetActivityRec act recVO).2.bevDatas.lookup at' = some bevRecVO' ∧
        BevAlike digit scope bev bevRecVO' (newBevRecVO act.key bevRecVO.relId at'.1 at'.2)

/-! ## The condition -/

/-- The condition counts days. -/
def CountsDays (cond : ActivityCond) : Prop :=
  cond.condType = .login ∨ cond.condType = .payDays

/-- A time is before all days from `now` to `horizon`, by the tables. -/
def DaysBefore (calendar : Calendar) (time now horizon : Int64) : Prop :=
  ∀ later, now ≤ later → later ≤ horizon → calendar.getDay time < calendar.getDay later

/-- **Records that are restored**: a condition that counts days has recorded nothing, or recorded
last before all days from the refresh to the `horizon`, and no behaviour of a player waits for its
second step. -/
def Restored (calendar : Calendar) (scope : ActivityScopeType) (act : ActivityVO ι)
    (now horizon : Int64) (recVO : ActivityRecVO) : Prop :=
  (∀ at' condRecVO cond, recVO.condDatas.lookup at' = some condRecVO → act.conds at' = some cond →
    Outdated act condRecVO.refTime → CountsDays cond →
      condRecVO.lastRecordTime ≤ 0 ∨
        DaysBefore calendar condRecVO.lastRecordTime now horizon) ∧
  ∀ at' bevRecVO bev, recVO.bevDatas.lookup at' = some bevRecVO → act.bevs at' = some bev →
    Outdated act bevRecVO.refTime → bev.type = "wish" → scope = .personal →
      bevRecVO.execParams.lookup "time" = none

/-! ## Conditions -/

section Conditions

variable {calendar : Calendar} {cond : ActivityCond} {r r' : ActivityCondRecVO} {event : GameEvent}
  {now horizon : Int64}

/-- Within the tables, and where no local day is before that of `now`, only that day matters. -/
lemma daysBefore_iff_of_table {time : Int64} (hnow : now ≤ horizon)
    (htable : ∀ later, now ≤ later → later ≤ horizon → 0 ≤ calendar.localDay now ∧
      calendar.localDay now ≤ calendar.localDay later ∧ calendar.localDay later < tableDays) :
    DaysBefore calendar time now horizon ↔ calendar.getDay time < calendar.getDay now := by
  refine ⟨fun h => h now (Int64.le_refl now) hnow, fun h later hlater hend => h.trans_le ?_⟩
  obtain ⟨hzero, hle, hlt⟩ := htable later hlater hend
  unfold Calendar.getDay
  rw [if_pos ⟨hzero, hle.trans_lt hlt⟩, if_pos ⟨hzero.trans hle, hlt⟩]
  exact hle

/-- A day after the tables comes after no other. -/
lemma not_daysBefore_of_tableDays_le {time later : Int64} (hnow : now ≤ later)
    (hend : later ≤ horizon) (hlater : tableDays ≤ calendar.localDay later) :
    ¬DaysBefore calendar time now horizon := by
  intro h
  have hlt := h later hnow hend
  unfold Calendar.getDay at hlt
  rw [if_neg (c := 0 ≤ calendar.localDay later ∧ _) fun hin => absurd hin.2 hlater.not_gt] at hlt
  split_ifs at hlt <;> omega

/-- What events and players see of the record of a condition, but for the time of the last
record. -/
structure SameCore (r r' : ActivityCondRecVO) : Prop where
  finishData : r.finishData = r'.finishData
  finish : r.finish = r'.finish
  recordPlayers : r.recordPlayers = r'.recordPlayers
  recordDetails : r.recordDetails = r'.recordDetails

lemma SameCore.refl : SameCore r r := ⟨rfl, rfl, rfl, rfl⟩

variable (cond) in
lemma SameCore.addFinishData (h : SameCore r r') (n : Int64) :
    SameCore (addFinishData cond r n) (addFinishData cond r' n) := by
  unfold Activity.addFinishData
  exact ⟨by rw [h.finishData], h.finish, h.recordPlayers, h.recordDetails⟩

lemma SameCore.checkCondData (h : SameCore r r') :
    cond.checkCondData r = cond.checkCondData r' := by
  unfold ActivityCond.checkCondData
  rw [h.finish, h.finishData]

lemma SameCore.condShown (h : SameCore r r') : condShown cond r = condShown cond r' := by
  unfold Reset.condShown
  rw [h.checkCondData, h.finishData, h.recordDetails]

/-- A day is recorded alike, if the records tell alike whether it is a new one. -/
lemma recordDay_congr (h : SameCore r r')
    (hday : SameDay r event calendar ↔ SameDay r' event calendar) :
    SameCore (recordDay cond r event calendar).1 (recordDay cond r' event calendar).1 ∧
      (recordDay cond r event calendar).2 = (recordDay cond r' event calendar).2 := by
  unfold recordDay
  by_cases hsame : SameDay r event calendar
  · rw [if_pos hsame, if_pos (hday.mp hsame)]
    exact ⟨h, rfl⟩
  · rw [if_neg hsame, if_neg (mt hday.mpr hsame)]
    have hadd := h.addFinishData cond 1
    exact ⟨⟨hadd.finishData, hadd.finish, hadd.recordPlayers, hadd.recordDetails⟩, rfl⟩

/-- The answer of a process and the core of what it records depend on the core, and on the day for a
condition that counts days. -/
lemma recordCondData_congr (h : SameCore r r')
    (hday : CountsDays cond → (SameDay r event calendar ↔ SameDay r' event calendar)) :
    SameCore (recordCondData cond r event calendar).1 (recordCondData cond r' event calendar).1 ∧
      (recordCondData cond r event calendar).2 = (recordCondData cond r' event calendar).2 := by
  unfold recordCondData
  cases htype : cond.condType with
  | changeCur =>
    dsimp only
    unfold recordChangeCurrency
    cases currencyChange cond event with
    | none => exact ⟨h, rfl⟩
    | some change => exact ⟨h.addFinishData cond change, rfl⟩
  | countCur =>
    dsimp only
    unfold recordCountCurrency
    cases currencyChange cond event with
    | none => exact ⟨h, rfl⟩
    | some change =>
      exact ⟨⟨congrArg (· + change) h.finishData, h.finish, h.recordPlayers, h.recordDetails⟩, rfl⟩
  | goodsCollect =>
    dsimp only
    unfold recordGoodsCollect
    dsimp only
    split_ifs
    · exact ⟨h, rfl⟩
    · exact ⟨⟨rfl, h.finish, h.recordPlayers, h.recordDetails⟩, rfl⟩
    · exact ⟨⟨rfl, h.finish, h.recordPlayers, h.recordDetails⟩, rfl⟩
    · exact ⟨h, rfl⟩
    · exact ⟨h, rfl⟩
    · exact ⟨h, rfl⟩
    · exact ⟨h.addFinishData _ _, rfl⟩
  | login => exact recordDay_congr h (hday (.inl htype))
  | playerLv => exact ⟨h, rfl⟩
  | changeGoods =>
    dsimp only
    unfold recordChangeGoods
    dsimp only
    split_ifs
    · exact ⟨h, rfl⟩
    · exact ⟨h, rfl⟩
    · exact ⟨h.addFinishData _ _, rfl⟩
  | guildBossHurt =>
    dsimp only
    unfold recordGuildBossHurt
    split_ifs
    · exact ⟨h, rfl⟩
    · exact ⟨h.addFinishData _ _, rfl⟩
  | guildKillBoss => exact ⟨h.addFinishData cond 1, rfl⟩
  | payTimes => exact ⟨h.addFinishData cond 1, rfl⟩
  | payDays => exact recordDay_congr h (hday (.inr htype))
  | payMoney =>
    dsimp only
    unfold recordPayMoney
    cases event.orderMoney with
    | none => exact ⟨h, rfl⟩
    | some orderMoney =>
      have hadd := h.addFinishData cond orderMoney.toInt64
      dsimp only
      rw [h.recordDetails]
      exact ⟨⟨hadd.finishData, hadd.finish, hadd.recordPlayers, rfl⟩, rfl⟩
  | fightForce =>
    dsimp only
    unfold recordFightForce
    dsimp only
    split_ifs
    · exact ⟨h, rfl⟩
    · exact ⟨h.addFinishData _ _, rfl⟩
  | guildPayMember =>
    dsimp only
    unfold recordGuildPayMember
    rw [h.recordPlayers]
    split_ifs
    · exact ⟨h, rfl⟩
    · have hadd := h.addFinishData cond 1
      dsimp only
      rw [h.recordDetails]
      exact ⟨⟨hadd.finishData, hadd.finish, hadd.recordPlayers, rfl⟩, rfl⟩

/-- What `record` makes of what a process recorded. -/
def finishRecord (cond : ActivityCond) (recorded : ActivityCondRecVO × CondResult) :
    ActivityCondRecVO × CondResult :=
  if recorded.2.result then
    ({ recorded.1 with finish := cond.checkCondData recorded.1 }, recorded.2)
  else recorded

lemma record_eq (r : ActivityCondRecVO) :
    cond.record calendar r event =
      if event.type ∉ cond.condType.concernType ∨ cond.checkCondData r = true then
        (r, ⟨false, none⟩)
      else finishRecord cond (recordCondData cond r event calendar) := by
  unfold ActivityCond.record finishRecord
  by_cases hconcern : event.type ∉ cond.condType.concernType
  · rw [if_pos hconcern, if_pos (.inl hconcern)]
  · rw [if_neg hconcern]
    by_cases hcheck : cond.checkCondData r = true
    · rw [if_pos hcheck, if_pos (.inr hcheck)]
    · rw [if_neg hcheck, if_neg (not_or.mpr ⟨hconcern, hcheck⟩)]

lemma lastRecordTime_finishRecord (recorded : ActivityCondRecVO × CondResult) :
    (finishRecord cond recorded).1.lastRecordTime = recorded.1.lastRecordTime := by
  unfold finishRecord
  split_ifs <;> rfl

variable (cond) in
lemma finishRecord_congr {recorded recorded' : ActivityCondRecVO × CondResult}
    (hcore : SameCore recorded.1 recorded'.1) (hresult : recorded.2 = recorded'.2) :
    SameCore (finishRecord cond recorded).1 (finishRecord cond recorded').1 ∧
      (finishRecord cond recorded).2 = (finishRecord cond recorded').2 := by
  unfold finishRecord
  rw [hresult]
  split_ifs
  · exact ⟨⟨hcore.finishData, hcore.checkCondData, hcore.recordPlayers, hcore.recordDetails⟩, rfl⟩
  · exact ⟨hcore, hresult⟩

lemma recordCondData_of_countsDays (h : CountsDays cond) :
    recordCondData cond r event calendar = recordDay cond r event calendar := by
  unfold recordCondData
  rcases h with h | h <;> rw [h]

/-- Two records are alike for the events to come: a condition that counts days recorded something
last at the same time for both, or for both on another day than all these events. -/
def AlikeFor (calendar : Calendar) (cond : ActivityCond) (r r' : ActivityCondRecVO)
    (events : List GameEvent) : Prop :=
  SameCore r r' ∧ (CountsDays cond → r.lastRecordTime = r'.lastRecordTime ∨
    ∀ event ∈ events, ¬SameDay r event calendar ∧ ¬SameDay r' event calendar)

/-- **An event** does the same to records that are alike. -/
lemma AlikeFor.step {events : List GameEvent}
    (h : AlikeFor calendar cond r r' (event :: events)) :
    (condStep calendar cond r event).2 = (condStep calendar cond r' event).2 ∧
      AlikeFor calendar cond (condStep calendar cond r event).1
        (condStep calendar cond r' event).1 events := by
  obtain ⟨hcore, hlast⟩ := h
  have hday : CountsDays cond → (SameDay r event calendar ↔ SameDay r' event calendar) := by
    intro hcounts
    rcases hlast hcounts with heq | hother
    · unfold SameDay
      rw [heq]
    · have hevent := hother event (by simp)
      exact iff_of_false hevent.1 hevent.2
  suffices hsame : (cond.record calendar r event).2 = (cond.record calendar r' event).2 ∧
      AlikeFor calendar cond (cond.record calendar r event).1
        (cond.record calendar r' event).1 events by
    refine ⟨?_, hsame.2⟩
    show [_] = [_]
    rw [hsame.1, hsame.2.1.condShown]
  rw [record_eq r, record_eq r', hcore.checkCondData]
  by_cases hquiet : event.type ∉ cond.condType.concernType ∨ cond.checkCondData r' = true
  · rw [if_pos hquiet, if_pos hquiet]
    refine ⟨rfl, hcore, fun hcounts => (hlast hcounts).imp_right fun hother later hlater => ?_⟩
    exact hother later (List.mem_cons_of_mem _ hlater)
  · rw [if_neg hquiet, if_neg hquiet]
    obtain ⟨hcore', hresult⟩ := recordCondData_congr hcore hday
    obtain ⟨hcore'', hresult'⟩ := finishRecord_congr cond hcore' hresult
    refine ⟨hresult', hcore'', fun hcounts => ?_⟩
    rw [lastRecordTime_finishRecord, lastRecordTime_finishRecord,
      recordCondData_of_countsDays hcounts, recordCondData_of_countsDays hcounts]
    unfold recordDay
    by_cases hsame : SameDay r' event calendar
    · -- both leave the event out, which they only do if they recorded at the same time
      rw [if_pos hsame, if_pos ((hday hcounts).mpr hsame)]
      refine .inl ((hlast hcounts).resolve_right fun hother => ?_)
      exact (hother event (by simp)).2 hsame
    · rw [if_neg hsame, if_neg (mt (hday hcounts).mp hsame)]
      exact .inl rfl

/-- Records that are alike for all events to come give the same results. -/
lemma AlikeFor.run_eq {events : List GameEvent} (h : AlikeFor calendar cond r r' events) :
    (Transducer.run (condStep calendar cond) r events).2 =
      (Transducer.run (condStep calendar cond) r' events).2 :=
  Transducer.run_snd_eq_of_rel (AlikeFor calendar cond) (fun _ _ _ _ h => h.step) h

/-- An event that a condition which counts days listens to. -/
def dayEvent (cond : ActivityCond) (now : Int64) : GameEvent where
  type := if cond.condType = .login then .enterGame else .pay
  now := now
  playerId := 0

lemma dayEvent_concern (h : CountsDays cond) :
    (dayEvent cond now).type ∈ cond.condType.concernType := by
  unfold dayEvent
  rcases h with h | h
  · rw [h]
    exact List.mem_singleton.mpr rfl
  · rw [h]
    exact List.mem_singleton.mpr rfl

/-- Nothing is fulfilled at first. -/
lemma unfinished_newCondRecVO {key : ActivityKey} {relId : String} {group index : Int32} :
    cond.checkCondData (newCondRecVO key relId group index) = false := by
  unfold ActivityCond.checkCondData newCondRecVO
  by_cases hvalue : cond.value ≤ 0
  · simp [hvalue]
  · simp [hvalue]

/-- **The record of a condition is as good as new** just if the condition does not count days, or
has recorded nothing, or recorded last before all days that matter. -/
theorem condAlike_iff {act : ActivityVO ι} {key : ActivityKey} {relId : String}
    {group index : Int32} (hold : r.refTime ≠ act.refTime) :
    CondAlike calendar cond now horizon (resetCondRecVO act r)
        (newCondRecVO key relId group index) ↔
      (CountsDays cond → r.lastRecordTime ≤ 0 ∨
        DaysBefore calendar r.lastRecordTime now horizon) := by
  have hcore : SameCore (resetCondRecVO act r) (newCondRecVO key relId group index) := by
    unfold resetCondRecVO newCondRecVO
    rw [if_neg hold]
    exact ⟨rfl, rfl, rfl, rfl⟩
  have hlast : (resetCondRecVO act r).lastRecordTime = r.lastRecordTime := by
    unfold resetCondRecVO
    rw [if_neg hold]
  have hnew : ∀ event, ¬SameDay (newCondRecVO key relId group index) event calendar := by
    rintro event ⟨hpos, -⟩
    exact absurd hpos (show ¬(0 : Int64) < 0 by decide)
  constructor
  · rintro ⟨-, hruns⟩ hcounts
    by_contra hsame
    obtain ⟨hpos, hnot⟩ := not_or.mp hsame
    unfold DaysBefore at hnot
    push Not at hnot
    obtain ⟨later, hlater, hend, hday⟩ := hnot
    have hblocked : SameDay (resetCondRecVO act r) (dayEvent cond later) calendar := by
      unfold SameDay
      rw [hlast]
      refine ⟨Int64.not_le.mp hpos, ?_⟩
      show calendar.getDay later - calendar.getDay r.lastRecordTime ≤ 0
      omega
    -- the event is left out for the one and counted for the other
    have hrun := hruns [dayEvent cond later] (by simpa [dayEvent] using hlater)
      (by simpa [dayEvent] using hend)
    rw [Transducer.run_cons, Transducer.run_cons] at hrun
    have hresults := congrArg Prod.fst (List.cons.inj hrun).1
    change (cond.record calendar _ _).2 = (cond.record calendar _ _).2 at hresults
    rw [record_eq, record_eq, hcore.checkCondData, unfinished_newCondRecVO,
      if_neg (by simpa using dayEvent_concern hcounts),
      if_neg (by simpa using dayEvent_concern hcounts), recordCondData_of_countsDays hcounts,
      recordCondData_of_countsDays hcounts, recordDay, recordDay, if_pos hblocked,
      if_neg (hnew _)] at hresults
    exact absurd (congrArg CondResult.result hresults) (by simp [finishRecord])
  · intro hcond
    refine ⟨hcore.condShown, fun events hevents hends =>
      AlikeFor.run_eq ⟨hcore, fun hcounts => ?_⟩⟩
    refine .inr fun event hevent => ⟨?_, hnew event⟩
    rintro ⟨hpos, hday⟩
    rw [hlast] at hpos hday
    rcases hcond hcounts with hnone | hbefore
    · exact absurd hpos (Int64.not_lt.mpr hnone)
    · have hlater := hbefore event.now ((List.pairwise_cons.mp hevents).1 event.now
        (List.mem_map_of_mem hevent)) (hends event hevent)
      omega

end Conditions

/-! ## Behaviours -/

section Behaviours

variable {digit : Char → Option ℕ} {scope : ActivityScopeType} {bev : ActivityBev ι}
  {r r' : ActivityBevRecVO} {call : BevCall ι}

/-- A wish finds the same in both: it is at the same step, and if it is at the second one then for
the same. -/
def SameParams (execParams execParams' : ExecParams) : Prop :=
  execParams.lookup "time" = execParams'.lookup "time" ∧
    ((execParams.lookup "time").isSome → execParams.lookup "ix" = execParams'.lookup "ix")

/-- What calls and players see of the record of a behaviour for the scope. -/
structure SameBev (scope : ActivityScopeType) (bev : ActivityBev ι) (r r' : ActivityBevRecVO) :
    Prop where
  canExec : r.canExec = r'.canExec
  execNum : r.execNum = r'.execNum
  execParams : bev.type = "wish" ∧ scope = .personal → SameParams r.execParams r'.execParams

variable (digit bev call) in
/-- A wish does the same where it finds the same, and keeps what is found later. -/
lemma wish_congr {execParams execParams' : ExecParams} (h : SameParams execParams execParams') :
    (WishBevProcess.execBev digit bev call execParams).2 =
        (WishBevProcess.execBev digit bev call execParams').2 ∧
      SameParams (WishBevProcess.execBev digit bev call execParams).1
        (WishBevProcess.execBev digit bev call execParams').1 := by
  obtain ⟨htime, hix⟩ := h
  unfold WishBevProcess.execBev
  cases hlookup : execParams'.lookup "time" with
  | none =>
    rw [htime, hlookup]
    dsimp only
    cases call.ix with
    | none => exact ⟨rfl, htime, hix⟩
    | some ix =>
      dsimp only
      split_ifs
      · exact ⟨rfl, htime, hix⟩
      · refine ⟨rfl, ?_, fun _ => ?_⟩
        · simp
        · simp
  | some excTime =>
    rw [htime, hlookup] at hix
    rw [htime, hlookup]
    dsimp only
    unfold grantWish
    rw [hix rfl]
    exact ⟨rfl, htime.trans hlookup |>.trans hlookup.symm, fun _ => hix rfl⟩

variable (digit call) in
/-- A process does the same on records that look the same to it. -/
lemma execBev_congr (h : SameBev scope bev r r') :
    (execBev digit scope bev call r).2 = (execBev digit scope bev call r').2 ∧
      (bev.type = "wish" ∧ scope = .personal →
        SameParams (execBev digit scope bev call r).1 (execBev digit scope bev call r').1) := by
  unfold execBev
  by_cases hwish : bev.type = "wish" ∧ scope = .personal
  · rw [if_pos hwish, if_pos hwish]
    obtain ⟨hresult, hparams⟩ := wish_congr digit bev call (h.execParams hwish)
    exact ⟨hresult, fun _ => hparams⟩
  · rw [if_neg hwish, if_neg hwish, h.execNum]
    split_ifs
    · exact ⟨rfl, fun h => absurd h hwish⟩
    · exact ⟨rfl, fun h => absurd h hwish⟩

lemma SameBev.countExec (h : SameBev scope bev r r') (exeNum limit : Int32) :
    SameBev scope bev (countExec exeNum limit r) (countExec exeNum limit r') := by
  unfold Reset.countExec
  rw [h.canExec, h.execNum]
  exact ⟨rfl, rfl, h.execParams⟩

variable (digit call) in
/-- **A call** does the same on records that look the same to it. -/
lemma exec_congr (h : SameBev scope bev r r') :
    (exec digit scope bev r call).2 = (exec digit scope bev r' call).2 ∧
      SameBev scope bev (exec digit scope bev r call).1 (exec digit scope bev r' call).1 := by
  obtain ⟨hresult, hparams⟩ := execBev_congr digit call h
  have hkept : SameBev scope bev { r with execParams := (execBev digit scope bev call r).1 }
      { r' with execParams := (execBev digit scope bev call r').1 } :=
    ⟨h.canExec, h.execNum, hparams⟩
  have hpermit : (r.canExec && call.permitted) = (r'.canExec && call.permitted) := by
    rw [h.canExec]
  unfold exec
  by_cases hcan : (r'.canExec && call.permitted) = true
  · rw [if_pos (hpermit.trans hcan), if_pos hcan]
    dsimp only
    rw [hresult]
    cases (execBev digit scope bev call r').2.answer with
    | error e => exact ⟨rfl, hkept⟩
    | ok exeNum =>
      dsimp only
      split_ifs
      · exact ⟨rfl, hkept.countExec _ _⟩
      · exact ⟨rfl, hkept⟩
  · rw [if_neg (by rwa [hpermit]), if_neg hcan]
    exact ⟨rfl, h⟩

lemma SameBev.bevAlike (h : SameBev scope bev r r') : BevAlike digit scope bev r r' := by
  refine ⟨by rw [h.canExec, h.execNum], fun calls => ?_⟩
  refine Transducer.run_snd_eq_of_rel (fun r r' _ => SameBev scope bev r r') ?_ h
  intro r r' call _ h
  obtain ⟨hresult, hsame⟩ := exec_congr digit call h
  refine ⟨?_, hsame⟩
  show [_] = [_]
  rw [hresult, hsame.canExec, hsame.execNum]

/-- A call without input. -/
def bareCall : BevCall ι where
  permitted := true
  currTime := 0
  ix := none
  nextInt := id
  throws := fun _ => none
  answer := .ok 0
  executed := []

/-- What is permitted answers what the process answers. -/
lemma exec_of_permitted (hcan : r.canExec = true) (hpermitted : call.permitted = true) :
    (exec digit scope bev r call).2 = (execBev digit scope bev call r).2 := by
  unfold exec
  rw [if_pos (by rw [hcan, hpermitted]; rfl)]
  dsimp only
  cases (execBev digit scope bev call r).2.answer with
  | error e => rfl
  | ok exeNum =>
    dsimp only
    split_ifs <;> rfl

/-- The second step of a wish throws, or it is executed. -/
lemma grantWish_answer_ne {execParams : ExecParams} {excTime : String} :
    (grantWish digit bev bareCall execParams excTime).answer ≠ .ok 0 := by
  unfold grantWish
  cases execParams.lookup "ix" with
  | none => simp [ICode.throwException]
  | some excIx =>
    dsimp only
    cases longValueOf digit excTime.toList with
    | none => simp
    | some time =>
      dsimp only
      split_ifs
      · simp [ICode.throwException]
      · cases Util.parseInt digit excIx.toList with
        | none => simp
        | some ix =>
          dsimp only
          cases (if ix < 0 then none else bev.funcs[ix.toInt.toNat]?) with
          | none => simp
          | some func => simp [BevCall.exec, bareCall]

/-- **The record of a behaviour is as good as new** just if no wish waits for its second step in
it. -/
theorem bevAlike_iff {act : ActivityVO ι} {key : ActivityKey} {relId : String}
    {group index : Int32} (hold : r.refTime ≠ act.refTime) :
    BevAlike digit scope bev (resetBevRecVO act r) (newBevRecVO key relId group index) ↔
      (bev.type = "wish" → scope = .personal → r.execParams.lookup "time" = none) := by
  have hreset : resetBevRecVO act r =
      { r with canExec := true, execNum := 0, refTime := act.refTime } := by
    unfold resetBevRecVO
    rw [if_neg hold]
  rw [hreset]
  constructor
  · rintro ⟨-, hruns⟩ hwish hscope
    by_contra hwaits
    obtain ⟨excTime, htime⟩ := Option.ne_none_iff_exists'.mp hwaits
    have hrun := hruns [bareCall]
    rw [Transducer.run_cons, Transducer.run_cons] at hrun
    have hresults := congrArg (fun output => output.1.answer) (List.cons.inj hrun).1
    change (exec digit scope bev _ bareCall).2.answer = (exec digit scope bev _ bareCall).2.answer
      at hresults
    -- the one is at the second step of the wish, the other at the first
    rw [exec_of_permitted rfl rfl, exec_of_permitted rfl rfl, execBev, execBev,
      if_pos ⟨hwish, hscope⟩, if_pos ⟨hwish, hscope⟩, WishBevProcess.execBev,
      WishBevProcess.execBev] at hresults
    dsimp only at hresults
    rw [htime] at hresults
    exact grantWish_answer_ne hresults
  · intro hcond
    refine SameBev.bevAlike ⟨rfl, rfl, fun ⟨hwish, hscope⟩ => ?_⟩
    have htime := hcond hwish hscope
    exact ⟨htime, fun hsome => by rw [htime] at hsome; cases hsome⟩

end Behaviours

/-! ## All records -/

section All

variable {act : ActivityVO ι} {recVO : ActivityRecVO} {at' : Int32 × Int32}

lemma lookup_condDatas_reset (h : 0 < act.refInterval) :
    (resetActivityRec act recVO).2.condDatas.lookup at' =
      (recVO.condDatas.lookup at').map (resetCondRecVO act) := by
  unfold resetActivityRec
  rw [if_neg (Int32.not_le.mpr h)]
  exact AList.lookup_mapValues recVO.condDatas (resetCondRecVO act) at'

lemma lookup_bevDatas_reset (h : 0 < act.refInterval) :
    (resetActivityRec act recVO).2.bevDatas.lookup at' =
      (recVO.bevDatas.lookup at').map (resetBevRecVO act) := by
  unfold resetActivityRec
  rw [if_neg (Int32.not_le.mpr h)]
  exact AList.lookup_mapValues recVO.bevDatas (resetBevRecVO act) at'

end All

/-- **A refresh makes all records as good as new** up to any horizon just if they are restored for
that time. -/
theorem resetRight_iff (digit : Char → Option ℕ) (calendar : Calendar)
    (scope : ActivityScopeType) (act : ActivityVO ι) (now horizon : Int64)
    (recVO : ActivityRecVO) :
    ResetRight digit calendar scope act now horizon recVO ↔
      Restored calendar scope act now horizon recVO := by
  unfold ResetRight Restored
  refine and_congr ?_ ?_
  · constructor
    · intro h at' condRecVO cond hrec hcond hold hcounts
      obtain ⟨condRecVO', hrec', halike⟩ := h at' condRecVO cond hrec hcond hold
      rw [lookup_condDatas_reset hold.1, hrec] at hrec'
      obtain rfl : resetCondRecVO act condRecVO = condRecVO' := by simpa using hrec'
      exact (condAlike_iff hold.2).mp halike hcounts
    · intro h at' condRecVO cond hrec hcond hold
      refine ⟨resetCondRecVO act condRecVO, ?_, ?_⟩
      · rw [lookup_condDatas_reset hold.1, hrec]
        rfl
      · exact (condAlike_iff hold.2).mpr (h at' condRecVO cond hrec hcond hold)
  · constructor
    · intro h at' bevRecVO bev hrec hbev hold hwish hscope
      obtain ⟨bevRecVO', hrec', halike⟩ := h at' bevRecVO bev hrec hbev hold
      rw [lookup_bevDatas_reset hold.1, hrec] at hrec'
      obtain rfl : resetBevRecVO act bevRecVO = bevRecVO' := by simpa using hrec'
      exact (bevAlike_iff hold.2).mp halike hwish hscope
    · intro h at' bevRecVO bev hrec hbev hold
      refine ⟨resetBevRecVO act bevRecVO, ?_, ?_⟩
      · rw [lookup_bevDatas_reset hold.1, hrec]
        rfl
      · exact (bevAlike_iff hold.2).mpr (h at' bevRecVO bev hrec hbev hold)

/-- The digits of ASCII. -/
def asciiDigit (c : Char) : Option ℕ := if c.isDigit then some (c.toNat - '0'.toNat) else none

/-- Days in the time zone of the epoch. -/
def utcDays : Calendar where
  localDay t := t.toInt / 86400000

/-- An activity that is refreshed every hour, with a condition that counts days of login and a
behaviour that grants a wish. -/
def hourly : ActivityVO Unit where
  id := "hourly"
  refInterval := 60
  refTime := 1700013600000
  conds := fun _ => some { condType := .login, scopeType := .personal, value := 7 }
  bevs := fun _ => some { type := "wish", execLimit := ∅, funcs := [()] }

/-- The player has logged in half an hour before the refresh. -/
def loggedIn : ActivityCondRecVO where
  activityId := "hourly"
  group := 1
  index := 1
  finishData := 1
  refTime := 1700010000000
  lastRecordTime := 1700011800000

/-- The player has wished for something half an hour before the refresh. -/
def wished : ActivityBevRecVO where
  activityId := "hourly"
  group := 1
  index := 1
  execNum := 1
  refTime := 1700010000000
  canExec := true
  execParams := (AList.insert "time" "1700011800000" ∅).insert "ix" "0"

/-- **A refresh leaves something behind**: the time of the last login, and the wish that waits for
its second step. -/
theorem not_resetRight :
    ¬ResetRight asciiDigit utcDays .personal hourly 1700013600000 Int64.maxValue
        { condDatas := AList.insert (1, 1) loggedIn ∅ } ∧
      ¬ResetRight asciiDigit utcDays .personal hourly 1700013600000 Int64.maxValue
        { bevDatas := AList.insert (1, 1) wished ∅ } := by
  constructor
  · rintro ⟨hconds, -⟩
    obtain ⟨condRecVO', hrec, halike⟩ := hconds (1, 1) loggedIn _ rfl rfl ⟨by decide, by decide⟩
    obtain rfl : resetCondRecVO hourly loggedIn = condRecVO' := Option.some.inj hrec
    rcases (condAlike_iff (by decide)).mp halike (.inl rfl) with hnone | hbefore
    · exact absurd hnone (by decide)
    · exact absurd (hbefore 1700013600000 (by decide) (by decide)) (by decide)
  · rintro ⟨-, hbevs⟩
    obtain ⟨bevRecVO', hrec, halike⟩ := hbevs (1, 1) wished _ rfl rfl ⟨by decide, by decide⟩
    obtain rfl : resetBevRecVO hourly wished = bevRecVO' := Option.some.inj hrec
    exact absurd ((bevAlike_iff (by decide)).mp halike rfl rfl) (by decide)

end SrgpGame.Activity.Reset
