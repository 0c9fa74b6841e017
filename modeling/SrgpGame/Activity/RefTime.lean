import SrgpGame.Activity.ResetRec
import SrgpGame.Lib.Periodic
import SrgpGame.Lib.Runs

set_option autoImplicit false

/-!
# The refresh time of an activity

An activity is refreshed after every interval, counted from its start. The server looks from time to
time whether an interval is over, for all activities in turn. When it is, the time of the last
refresh catches up, and the records are reset: those of the server and the guilds at once, and those
of the players online, player by player, after all activities were looked at.

## Main definitions

* `ActivityVO` — what is read and changed of an activity.
* `calActivityRefTime`, `sysUpdateActivityStatus` — the methods of `ActivityBOImpl`.
* `refOnlinePlayerActivityInfo` — the players online, whose listeners may throw.
* `RefTimeRight` — what is wanted of a run for an activity.
* `InTime` — the condition on a run.

## Main results

* `calActivityRefTime_spec` — the refresh time that is computed is the last tick.
* `refTimeRight_iff` — when all runs do for an activity what is wanted.

## Design notes

The records that there are, the players online, and what the behaviours that the server executes and
the listeners of a player throw, are given with each run. A run leaves the records that its calls of
`resetActivityRec` leave, in the order of the calls.
-/

namespace SrgpGame.Activity

open Runs

/-! ## Activities -/

/-- `ActivityVO`, as far as `sysUpdateActivityStatus` reads or changes it. -/
structure ActivityVO where
  id : String
  startDate : Int64
  endDate : Int64
  /-- In minutes. -/
  refInterval : Int32
  workMode : Int32
  autoBev : Bool
  status : ActivityStatus
  refTime : Int64
  deriving DecidableEq

/-- The activity, as far as `resetActivityRec` reads it. -/
def ActivityVO.toReset (act : ActivityVO) : Reset.ActivityVO Unit where
  id := act.id
  refInterval := act.refInterval
  refTime := act.refTime
  conds _ := none
  bevs _ := none

/-- The records that a reset leaves. -/
def ActivityVO.resetRec (act : ActivityVO) (recVO : ActivityRecVO) : ActivityRecVO :=
  (Reset.resetActivityRec act.toReset recVO).2

/-- `DateUtil.MIN_MILLIS`. -/
def minMillis : Int64 := 60000

/-- `calActivityRefTime`: the refresh time at the time `ms`, or zero if it is what it was. -/
def calActivityRefTime (act : ActivityVO) (ms : Int64) : Int64 :=
  if act.refInterval ≤ 0 then 0
  else
    let interval := act.refInterval.toInt64 * minMillis
    let numOfInterval := (ms - act.refTime) / interval
    if numOfInterval = 0 then 0 else act.refTime + numOfInterval * interval

/-- The activity with the refresh time that is computed. -/
def ActivityVO.refreshed (act : ActivityVO) (ms : Int64) : ActivityVO :=
  { act with refTime := calActivityRefTime act ms }

/-- What the behaviours that the server executes for an activity throw, if anything. -/
abbrev ServerBevs := ActivityVO → Option Thrown

/-- A player online, as a run finds him. -/
structure OnlinePlayer where
  /-- `getActivityRecs`, when the records of an activity are reset. -/
  recs : String → Option ActivityRecVO
  /-- What the listeners of `RefActivity` throw for an activity, if anything. -/
  refActivity : String → Option Thrown
  /-- What the listeners of `AcceptNewActivity` throw, if anything. -/
  acceptNewActivity : Option Thrown

/-- What a run of `sysUpdateActivityStatus` finds. -/
structure SysRun where
  ms : Int64
  bevs : ServerBevs
  /-- The records of an activity for the server, and those for the guilds. -/
  sysRecs : String → List ActivityRecVO
  /-- `getOnlinePlayers`. -/
  players : List OnlinePlayer

/-- What a run leaves of an activity. -/
structure Round where
  act : ActivityVO
  /-- The activity is in `startActivities`. -/
  started : Bool := false
  /-- The activity is in `updateActivities`. -/
  updated : Bool := false
  thrown : Option Thrown := none
  /-- The records that were reset, as they are then. -/
  resets : List ActivityRecVO := []

/-- `execAutoBevActivity`, for a running activity that was refreshed. -/
def execAutoBevActivity (bevs : ServerBevs) (act : ActivityVO) : Option Thrown :=
  if act.autoBev ∧ act.workMode = workModeFinishExec then bevs act else none

/-- `execStopExecAllBev`, for an activity that is over. A `LogicException` is caught. -/
def execStopExecAllBev (bevs : ServerBevs) (act : ActivityVO) : Option Thrown :=
  if act.workMode = workModeStopExec then
    match bevs act with
    | some (.logic _) => none
    | thrown => thrown
  else none

/-- **A round of the loop**, for one activity. -/
def updateOne (sysRun : SysRun) (act : ActivityVO) : Round :=
  match act.status with
  | .cre =>
    if act.startDate ≤ sysRun.ms ∧ sysRun.ms ≤ act.endDate then
      { act := { act with status := .running, refTime := act.startDate }, started := true }
    else { act := act }
  | .running =>
    if act.endDate < sysRun.ms then
      let act := { act with status := .stoped }
      { act := act, thrown := execStopExecAllBev sysRun.bevs act }
    else
      let updateMs := calActivityRefTime act sysRun.ms
      if 0 < updateMs then
        let act := { act with refTime := updateMs }
        { act := act
          updated := true
          thrown := execAutoBevActivity sysRun.bevs act
          resets := (sysRun.sysRecs act.id).map act.resetRec }
      else { act := act }
  | .stoped => { act := act }

/-- **The loop** over all activities: what it leaves of each, and whether it came to its end. -/
def updateLoop (sysRun : SysRun) : List ActivityVO → List Round × Bool
  | [] => ([], true)
  | act :: acts =>
    let round := updateOne sysRun act
    if round.thrown.isSome then (round :: acts.map fun act => { act := act }, false)
    else
      let rest := updateLoop sysRun acts
      (round :: rest.1, rest.2)

/-- `resetPlayerActivityRec` for an activity in `updateActivities`: the records that were reset, and
whether it returns. The listeners of `RefActivity` hear of records from before. -/
def resetPlayerActivityRec (player : OnlinePlayer) (round : Round) : List ActivityRecVO × Bool :=
  if round.updated then
    match player.recs round.act.id with
    | none => ([], true)
    | some recVO =>
      let reset := Reset.resetActivityRec round.act.toReset recVO
      ([reset.2], !(reset.1 && (player.refActivity round.act.id).isSome))
  else ([], true)

/-- All activities for one player: the records that were reset for each, and whether nothing was
thrown. -/
def refPlayer (player : OnlinePlayer) : List Round → List (List ActivityRecVO) × Bool
  | [] => ([], true)
  | round :: rounds =>
    let reset := resetPlayerActivityRec player round
    if reset.2 then
      let rest := refPlayer player rounds
      (reset.1 :: rest.1, rest.2)
    else (reset.1 :: rounds.map fun _ => [], false)

/-- **`refOnlinePlayerActivityInfo`**: the records that were reset for each activity. What a
listener of one player throws ends it for all players that come later. -/
def refOnlinePlayerActivityInfo (rounds : List Round) :
    List OnlinePlayer → List (List ActivityRecVO)
  | [] => rounds.map fun _ => []
  | player :: players =>
    let reset := refPlayer player rounds
    if reset.2 ∧ (rounds.any Round.started → player.acceptNewActivity = none) then
      List.zipWith (· ++ ·) reset.1 (refOnlinePlayerActivityInfo rounds players)
    else reset.1

/-- Records of players are reset besides those of the server and the guilds. -/
def Round.withResets (round : Round) (resets : List ActivityRecVO) : Round :=
  { round with resets := round.resets ++ resets }

/-- **`sysUpdateActivityStatus`**: what it leaves of each activity. An exception ends it. -/
def sysUpdateActivityStatus (sysRun : SysRun) (acts : List ActivityVO) : List Round :=
  let loop := updateLoop sysRun acts
  if loop.2 then
    List.zipWith Round.withResets loop.1 (refOnlinePlayerActivityInfo loop.1 sysRun.players)
  else loop.1

/-! ## What is wanted -/

namespace SysRun

variable (sysRun : SysRun)

/-- The activities after a run. -/
def after (acts : List ActivityVO) (sysRun : SysRun) : List ActivityVO :=
  (sysUpdateActivityStatus sysRun acts).map Round.act

/-- All records of an activity: those of the server, the guilds, and the players online. -/
def recs (id : String) : List ActivityRecVO :=
  sysRun.sysRecs id ++ sysRun.players.filterMap fun player => player.recs id

end SysRun

/-- The interval in milliseconds. -/
def ActivityVO.period (act : ActivityVO) : ℤ := act.refInterval.toInt * 60000

/-- The refresh times that are meant. -/
def ActivityVO.IsRefTime (act : ActivityVO) (t : ℤ) : Prop :=
  Periodic.IsTick act.startDate.toInt act.period t

/-- **What is wanted of a run for an activity**, if it is running after it: its refresh time is some
number of intervals after its start, the time of the run is in the interval that begins there, and
each record was reset once if the refresh time of the running activity changed, and else none. -/
def RightAfter (sysRun : SysRun) (act : ActivityVO) (round : Round) : Prop :=
  0 < act.refInterval → round.act.status = .running →
    act.IsRefTime round.act.refTime.toInt ∧ round.act.refTime.toInt ≤ sysRun.ms.toInt ∧
      sysRun.ms.toInt < round.act.refTime.toInt + act.period ∧
      round.resets = if act.status = .running ∧ round.act.refTime ≠ act.refTime then
        (sysRun.recs act.id).map round.act.resetRec
      else []

/-- What is wanted of a run for the activity that is looked at as number `i`. -/
def RefTimeRight (i : ℕ) (acts : List ActivityVO) (sysRun : SysRun) : Prop :=
  ∀ act round, acts[i]? = some act → (sysUpdateActivityStatus sysRun acts)[i]? = some round →
    RightAfter sysRun act round

/-! ## The condition -/

/-- The behaviours executed for the activity throw in this run. -/
def Disturbs (sysRun : SysRun) (act : ActivityVO) : Prop := (updateOne sysRun act).thrown.isSome

instance (sysRun : SysRun) (act : ActivityVO) : Decidable (Disturbs sysRun act) :=
  inferInstanceAs (Decidable ((updateOne sysRun act).thrown.isSome = true))

/-- The activity is started in this run. -/
def Starts (sysRun : SysRun) (act : ActivityVO) : Prop :=
  act.status = .cre ∧ act.startDate ≤ sysRun.ms ∧ sysRun.ms ≤ act.endDate

/-- The activity is refreshed in this run. -/
def Refreshes (sysRun : SysRun) (act : ActivityVO) : Prop :=
  act.status = .running ∧ sysRun.ms ≤ act.endDate ∧ 0 < calActivityRefTime act sysRun.ms

/-- The player has records of an activity from before its refresh, and a listener throws when it
hears that they are reset. -/
def OnlinePlayer.Interrupts (player : OnlinePlayer) (sysRun : SysRun) (act : ActivityVO) : Prop :=
  Refreshes sysRun act ∧ ∃ recVO, player.recs act.id = some recVO ∧
    (Reset.resetActivityRec (act.refreshed sysRun.ms).toReset recVO).1 = true ∧
    (player.refActivity act.id).isSome

/-- No listener throws for the player. -/
def OnlinePlayer.Quiet (player : OnlinePlayer) (sysRun : SysRun) (acts : List ActivityVO) : Prop :=
  (∀ b ∈ acts, ¬player.Interrupts sysRun b) ∧
    ((∃ b ∈ acts, Starts sysRun b) → player.acceptNewActivity = none)

/-- Every player with records of the activity `id`, looked at as number `i`, is reached: no listener
throws for him because of an activity before it, nor at all for a player before him. -/
def Reaches (sysRun : SysRun) (acts : List ActivityVO) (i : ℕ) (id : String) :
    List OnlinePlayer → Prop
  | [] => True
  | player :: players =>
    ((player.recs id).isSome → ∀ b ∈ acts.take i, ¬player.Interrupts sysRun b) ∧
      ((∃ other ∈ players, (other.recs id).isSome) → player.Quiet sysRun acts) ∧
      Reaches sysRun acts i id players

/-- The activity `act`, looked at as number `i`, is in time. -/
def ActInTime (i : ℕ) (acts : List ActivityVO) (sysRun : SysRun) (act : ActivityVO) : Prop :=
  (act.status = .cre → act.startDate ≤ sysRun.ms → sysRun.ms ≤ act.endDate →
    (∀ b ∈ acts.take i, ¬Disturbs sysRun b) →
      sysRun.ms.toInt < act.startDate.toInt + act.period) ∧
  (act.status = .running → act.refTime.toInt + act.period ≤ sysRun.ms.toInt →
    (∀ b ∈ acts.take i, ¬Disturbs sysRun b) ∧
    (sysRun.ms ≤ act.endDate →
      ((∃ player ∈ sysRun.players, (player.recs act.id).isSome) →
        ∀ b ∈ acts, ¬Disturbs sysRun b) ∧
      Reaches sysRun acts i act.id sysRun.players ∧
      0 < Periodic.tick act.startDate.toInt act.period sysRun.ms.toInt ∧
      sysRun.ms.toInt - act.refTime.toInt < 2 ^ 63))

/-- **The activity is in time**: a new activity that is started is in its first interval. And when
the interval of a running activity is over, no behaviours throw before it is looked at; and if it is
not to be stopped, none throw at all if a player online has records of it, all these players are
reached, and the last tick comes after the beginning of the epoch and less than 2^63 milliseconds
after the last refresh. -/
def InTime (i : ℕ) (acts : List ActivityVO) (sysRun : SysRun) : Prop :=
  ∀ act, acts[i]? = some act → 0 < act.refInterval → ActInTime i acts sysRun act

/-! ## The refresh time that is computed -/

section RefTime

variable {act : ActivityVO} {ms : Int64}

/-- What fits into 64 bits stays as it is. -/
lemma bmod_of_fits {x : ℤ} (h₁ : -2 ^ 63 ≤ x) (h₂ : x < 2 ^ 63) : x.bmod (2 ^ 64) = x :=
  Int.bmod_eq_of_le_mul_two (by norm_num; omega) (by norm_num; omega)

lemma period_bounds (hinterval : 0 < act.refInterval) :
    0 < act.period ∧ act.period < 2 ^ 31 * 60000 := by
  have hpos := Int32.lt_iff_toInt_lt.mp hinterval
  have hmax := act.refInterval.toInt_lt
  rw [Int32.toInt_zero] at hpos
  unfold ActivityVO.period
  omega

/-- The interval does not overflow. -/
lemma toInt_interval (hinterval : 0 < act.refInterval) :
    (act.refInterval.toInt64 * minMillis).toInt = act.period := by
  obtain ⟨hpos, hmax⟩ := period_bounds hinterval
  have hmillis : minMillis.toInt = 60000 := rfl
  unfold ActivityVO.period at hpos hmax ⊢
  rw [Int64.toInt_mul, Int32.toInt_toInt64, hmillis]
  exact bmod_of_fits (by omega) (by omega)

variable (ms) in
/-- The number of intervals is a quotient of what the difference is after it may have overflowed. -/
lemma toInt_numOfInterval (hinterval : 0 < act.refInterval) :
    ((ms - act.refTime) / (act.refInterval.toInt64 * minMillis)).toInt =
      (ms - act.refTime).toInt.tdiv act.period := by
  have hne : act.refInterval.toInt64 * minMillis ≠ -1 := by
    intro h
    have hperiod := toInt_interval hinterval
    have hpos := (period_bounds hinterval).1
    rw [h] at hperiod
    have hone : (-1 : Int64).toInt = -1 := rfl
    omega
  rw [Int64.toInt_div_of_ne_right _ _ hne, toInt_interval hinterval]

/-- A quotient that is not positive, times the divisor. -/
lemma tdiv_mul_bounds {d k : ℤ} (hk : 0 < k) (hd : d ≤ 0) :
    d ≤ d.tdiv k * k ∧ d.tdiv k * k ≤ 0 := by
  have hsplit := Int.tdiv_mul_add_tmod d k
  have hmod := Int.tmod_nonneg k (show 0 ≤ -d by omega)
  rw [Int.neg_tmod] at hmod
  have hdiv := Int.tdiv_nonneg (show 0 ≤ -d by omega) hk.le
  rw [Int.neg_tdiv] at hdiv
  exact ⟨by omega, mul_nonpos_of_nonpos_of_nonneg (by omega) hk.le⟩

/-- **The refresh time that is computed** is the last tick, or zero while the interval lasts. -/
theorem calActivityRefTime_spec (hinterval : 0 < act.refInterval)
    (hle : act.refTime.toInt ≤ ms.toInt) (hfits : ms.toInt - act.refTime.toInt < 2 ^ 63) :
    (calActivityRefTime act ms).toInt =
      if ms.toInt < act.refTime.toInt + act.period then 0
      else Periodic.tick act.refTime.toInt act.period ms.toInt := by
  obtain ⟨hpos, -⟩ := period_bounds hinterval
  have hsub : (ms - act.refTime).toInt = ms.toInt - act.refTime.toInt := by
    rw [Int64.toInt_sub]
    exact bmod_of_fits (by omega) (by omega)
  have hnum := toInt_numOfInterval ms hinterval
  rw [hsub, Int.tdiv_eq_ediv_of_nonneg (by omega)] at hnum
  have hnonneg : 0 ≤ (ms.toInt - act.refTime.toInt) / act.period :=
    Int.ediv_nonneg (by omega) hpos.le
  unfold calActivityRefTime
  rw [if_neg (Int32.not_le.mpr hinterval)]
  dsimp only
  by_cases hover : ms.toInt < act.refTime.toInt + act.period
  · have hzero : (ms - act.refTime) / (act.refInterval.toInt64 * minMillis) = 0 := by
      rw [← Int64.toInt_inj, hnum, Int64.toInt_zero]
      exact Int.ediv_eq_zero_of_lt (by omega) (by omega)
    rw [if_pos hzero, if_pos hover]
    rfl
  · have hone : 1 ≤ (ms.toInt - act.refTime.toInt) / act.period :=
      (Int.le_ediv_iff_mul_le hpos).mpr (by omega)
    have hne : (ms - act.refTime) / (act.refInterval.toInt64 * minMillis) ≠ 0 := by
      intro hzero
      rw [hzero, Int64.toInt_zero] at hnum
      omega
    rw [if_neg hne, if_neg hover]
    have hmul : ((ms - act.refTime) / (act.refInterval.toInt64 * minMillis) *
        (act.refInterval.toInt64 * minMillis)).toInt =
          (ms.toInt - act.refTime.toInt) / act.period * act.period := by
      have hle' := Int.ediv_mul_le (ms.toInt - act.refTime.toInt) hpos.ne'
      have hge := mul_nonneg hnonneg hpos.le
      rw [Int64.toInt_mul, hnum, toInt_interval hinterval]
      exact bmod_of_fits (by omega) (by omega)
    have hle' := Int.ediv_mul_le (ms.toInt - act.refTime.toInt) hpos.ne'
    have hge := mul_nonneg hnonneg hpos.le
    have hmin := act.refTime.le_toInt
    have hmax := ms.toInt_lt
    rw [Int64.toInt_add_of_fits (by rw [hmul]; omega) (by rw [hmul]; omega), hmul]
    rfl

/-- **A difference that overflows**: what is computed is not taken over, or is no tick. -/
theorem calActivityRefTime_overflow (hinterval : 0 < act.refInterval)
    (htick : act.IsRefTime act.refTime.toInt) (hover : 2 ^ 63 ≤ ms.toInt - act.refTime.toInt)
    (hpositive : 0 < calActivityRefTime act ms) :
    ¬act.IsRefTime (calActivityRefTime act ms).toInt := by
  obtain ⟨hpos, hperiodMax⟩ := period_bounds hinterval
  have hmin := act.refTime.le_toInt
  have hmax := ms.toInt_lt
  have hmsMin := ms.le_toInt
  have hsub : (ms - act.refTime).toInt = ms.toInt - act.refTime.toInt - 2 ^ 64 := by
    rw [Int64.toInt_sub, Int.bmod_def]
    split_ifs <;> omega
  have hnum := toInt_numOfInterval ms hinterval
  have hbounds := @tdiv_mul_bounds (ms - act.refTime).toInt act.period hpos (by omega)
  unfold calActivityRefTime at hpositive ⊢
  rw [if_neg (Int32.not_le.mpr hinterval)] at hpositive ⊢
  dsimp only at hpositive ⊢
  by_cases hzero : (ms - act.refTime) / (act.refInterval.toInt64 * minMillis) = 0
  · rw [if_pos hzero] at hpositive
    exact absurd hpositive (by decide)
  · rw [if_neg hzero] at hpositive ⊢
    have hmul : ((ms - act.refTime) / (act.refInterval.toInt64 * minMillis) *
        (act.refInterval.toInt64 * minMillis)).toInt =
          (ms - act.refTime).toInt.tdiv act.period * act.period := by
      rw [Int64.toInt_mul, hnum, toInt_interval hinterval]
      exact bmod_of_fits (by omega) (by omega)
    rw [Int64.lt_iff_toInt_lt, Int64.toInt_zero, Int64.toInt_add, hmul] at hpositive
    rw [Int64.toInt_add, hmul]
    -- the sum is negative, and comes out positive only if it overflows
    have hsum : (act.refTime.toInt + (ms - act.refTime).toInt.tdiv act.period * act.period).bmod
        (2 ^ 64) = act.refTime.toInt +
          (ms - act.refTime).toInt.tdiv act.period * act.period + 2 ^ 64 := by
      rw [Int.bmod_def] at hpositive ⊢
      split_ifs at hpositive ⊢ <;> omega
    rw [hsum]
    rintro ⟨m, hm⟩
    obtain ⟨n, hn⟩ := htick
    have hdvd : (3 : ℤ) ∣ 2 ^ 64 := by
      refine ⟨(m - n - (ms - act.refTime).toInt.tdiv act.period) *
        (act.refInterval.toInt * 20000), ?_⟩
      have hperiod : act.period = 3 * (act.refInterval.toInt * 20000) := by
        unfold ActivityVO.period
        ring
      rw [hn, hperiod] at hm
      rw [hperiod]
      linarith
    exact absurd hdvd (by decide)

end RefTime

/-! ## The loop -/

section Loop

variable {sysRun : SysRun} {acts : List ActivityVO} {act : ActivityVO} {i : ℕ}

/-- The loop comes to its end if nothing throws. -/
lemma updateLoop_snd :
    (updateLoop sysRun acts).2 = true ↔ ∀ b ∈ acts, ¬Disturbs sysRun b := by
  induction acts with
  | nil => simp [updateLoop]
  | cons a acts ih =>
    rw [List.forall_mem_cons, ← ih, updateLoop]
    by_cases hthrown : (updateOne sysRun a).thrown.isSome = true
    · have hdisturbs : Disturbs sysRun a := hthrown
      simp [hthrown, hdisturbs]
    · have hdisturbs : ¬Disturbs sysRun a := hthrown
      simp [hthrown, hdisturbs]

/-- A loop that comes to its end has looked at all activities. -/
lemma updateLoop_fst (hall : ∀ b ∈ acts, ¬Disturbs sysRun b) :
    (updateLoop sysRun acts).1 = acts.map (updateOne sysRun) := by
  induction acts with
  | nil => rfl
  | cons a acts ih =>
    obtain ⟨hhead, htail⟩ := List.forall_mem_cons.mp hall
    have hthrown : ¬(updateOne sysRun a).thrown.isSome = true := hhead
    rw [updateLoop]
    dsimp only
    rw [if_neg hthrown, ih htail, List.map_cons]

variable (sysRun) in
/-- **What the loop leaves of an activity**: it looks at it if nothing before it throws. -/
lemma getElem?_updateLoop (h : acts[i]? = some act) :
    (updateLoop sysRun acts).1[i]? =
      some (if ∀ b ∈ acts.take i, ¬Disturbs sysRun b then updateOne sysRun act
        else { act := act }) := by
  induction acts generalizing i with
  | nil => simp at h
  | cons a acts ih =>
    rw [updateLoop]
    by_cases hthrown : (updateOne sysRun a).thrown.isSome = true
    · have hdisturbs : Disturbs sysRun a := hthrown
      rw [if_pos hthrown]
      cases i with
      | zero =>
        obtain rfl : a = act := by simpa using h
        simp
      | succ i =>
        rw [List.getElem?_cons_succ] at h ⊢
        rw [if_neg fun hall => hall a (by simp) hdisturbs]
        simp [h]
    · have hdisturbs : ¬Disturbs sysRun a := hthrown
      rw [if_neg hthrown]
      cases i with
      | zero =>
        obtain rfl : a = act := by simpa using h
        simp
      | succ i =>
        rw [List.getElem?_cons_succ] at h ⊢
        rw [ih h, List.take_succ_cons]
        simp [hdisturbs]

lemma length_updateLoop : (updateLoop sysRun acts).1.length = acts.length := by
  induction acts with
  | nil => rfl
  | cons a acts ih =>
    rw [updateLoop]
    split_ifs
    · simp
    · simp [ih]

end Loop

/-! ## The players online -/

section Players

variable {sysRun : SysRun} {acts : List ActivityVO} {act : ActivityVO} {i : ℕ}
  {player : OnlinePlayer} {players : List OnlinePlayer} {rounds : List Round} {round : Round}

lemma refPlayer_snd :
    (refPlayer player rounds).2 = true ↔
      ∀ b ∈ rounds, (resetPlayerActivityRec player b).2 = true := by
  induction rounds with
  | nil => simp [refPlayer]
  | cons b rounds ih =>
    rw [List.forall_mem_cons, ← ih, refPlayer]
    by_cases hreturns : (resetPlayerActivityRec player b).2 = true
    · simp [hreturns]
    · simp [hreturns]

lemma length_refPlayer : (refPlayer player rounds).1.length = rounds.length := by
  induction rounds with
  | nil => rfl
  | cons b rounds ih =>
    rw [refPlayer]
    split_ifs
    · simp [ih]
    · simp

/-- What is reset for a player of an activity: the records he has, if nothing before throws. -/
lemma getElem?_refPlayer (h : rounds[i]? = some round) :
    (refPlayer player rounds).1[i]? =
      some (if ∀ b ∈ rounds.take i, (resetPlayerActivityRec player b).2 = true then
        (resetPlayerActivityRec player round).1 else []) := by
  induction rounds generalizing i with
  | nil => simp at h
  | cons b rounds ih =>
    rw [refPlayer]
    by_cases hreturns : (resetPlayerActivityRec player b).2 = true
    · cases i with
      | zero =>
        obtain rfl : b = round := by simpa using h
        simp [hreturns]
      | succ i =>
        rw [List.getElem?_cons_succ] at h
        simp [hreturns, ih h]
    · cases i with
      | zero =>
        obtain rfl : b = round := by simpa using h
        simp [hreturns]
      | succ i =>
        rw [List.getElem?_cons_succ] at h
        rw [if_neg hreturns, if_neg fun hall => hreturns (hall b (by simp)),
          List.getElem?_cons_succ, List.getElem?_map, h]
        rfl

/-- The records of players that are reset of the activity that is looked at as number `i`. -/
def reached (rounds : List Round) (i : ℕ) (round : Round) :
    List OnlinePlayer → List ActivityRecVO
  | [] => []
  | player :: players =>
    (if ∀ b ∈ rounds.take i, (resetPlayerActivityRec player b).2 = true then
      (resetPlayerActivityRec player round).1 else []) ++
    if (refPlayer player rounds).2 ∧
        (rounds.any Round.started → player.acceptNewActivity = none) then
      reached rounds i round players
    else []

lemma length_refOnline : (refOnlinePlayerActivityInfo rounds players).length = rounds.length := by
  induction players with
  | nil => simp [refOnlinePlayerActivityInfo]
  | cons player players ih =>
    rw [refOnlinePlayerActivityInfo]
    split_ifs
    · simp [length_refPlayer, ih]
    · exact length_refPlayer

/-- **What is reset for all players** of an activity. -/
lemma getElem?_refOnline (h : rounds[i]? = some round) :
    (refOnlinePlayerActivityInfo rounds players)[i]? = some (reached rounds i round players) := by
  induction players with
  | nil =>
    rw [refOnlinePlayerActivityInfo, List.getElem?_map, h]
    rfl
  | cons player players ih =>
    rw [refOnlinePlayerActivityInfo, reached]
    by_cases hgoes : (refPlayer player rounds).2 ∧
        (rounds.any Round.started → player.acceptNewActivity = none)
    · rw [if_pos hgoes, if_pos hgoes, List.getElem?_zipWith, getElem?_refPlayer h, ih]
    · rw [if_neg hgoes, if_neg hgoes, getElem?_refPlayer h, List.append_nil]

end Players

/-! ## Which players are reached -/

section Reached

variable {sysRun : SysRun} {acts : List ActivityVO} {act : ActivityVO} {i : ℕ} {id : String}
  {player : OnlinePlayer} {players : List OnlinePlayer}

/-- An activity that is refreshed. -/
lemma updateOne_of_refreshes (h : Refreshes sysRun act) :
    (updateOne sysRun act).act = act.refreshed sysRun.ms ∧ (updateOne sysRun act).updated = true ∧
      (updateOne sysRun act).resets =
        (sysRun.sysRecs act.id).map (act.refreshed sysRun.ms).resetRec := by
  obtain ⟨hrunning, hend, hpos⟩ := h
  unfold updateOne ActivityVO.refreshed
  rw [hrunning]
  dsimp only
  rw [if_neg (Int64.not_lt.mpr hend), if_pos hpos]
  exact ⟨rfl, rfl, rfl⟩

lemma updated_updateOne_iff : (updateOne sysRun act).updated = true ↔ Refreshes sysRun act := by
  refine ⟨fun h => ?_, fun h => (updateOne_of_refreshes h).2.1⟩
  unfold updateOne at h
  cases hstatus : act.status with
  | cre =>
    rw [hstatus] at h
    dsimp only at h
    split_ifs at h
  | running =>
    rw [hstatus] at h
    dsimp only at h
    split_ifs at h with hover hpos
    exact ⟨hstatus, Int64.not_lt.mp hover, hpos⟩
  | stoped =>
    rw [hstatus] at h
    cases h

lemma started_updateOne_iff : (updateOne sysRun act).started = true ↔ Starts sysRun act := by
  unfold updateOne Starts
  cases hstatus : act.status with
  | cre =>
    dsimp only
    split_ifs with h
    · simpa using h
    · simpa using h
  | running =>
    dsimp only
    split_ifs <;> simp
  | stoped => simp

/-- The listeners of a player return just if they do not interrupt the run. -/
lemma resetPlayerActivityRec_snd :
    (resetPlayerActivityRec player (updateOne sysRun act)).2 = true ↔
      ¬player.Interrupts sysRun act := by
  unfold resetPlayerActivityRec OnlinePlayer.Interrupts
  by_cases hrefreshes : Refreshes sysRun act
  · rw [if_pos (updated_updateOne_iff.mpr hrefreshes), (updateOne_of_refreshes hrefreshes).1]
    change (match player.recs act.id with
      | none => ([], true)
      | some recVO => _ : List ActivityRecVO × Bool).2 = true ↔ _
    cases player.recs act.id with
    | none => simp
    | some recVO => simp [hrefreshes, ActivityVO.refreshed, or_iff_not_imp_left]
  · rw [if_neg (mt updated_updateOne_iff.mp hrefreshes)]
    simp [hrefreshes]

/-- What is reset for a player of an activity that is refreshed. -/
lemma resetPlayerActivityRec_fst (hrefreshes : Refreshes sysRun act) :
    (resetPlayerActivityRec player (updateOne sysRun act)).1 =
      ((player.recs act.id).map (act.refreshed sysRun.ms).resetRec).toList := by
  unfold resetPlayerActivityRec
  rw [if_pos (updated_updateOne_iff.mpr hrefreshes), (updateOne_of_refreshes hrefreshes).1]
  change (match player.recs act.id with
    | none => ([], true)
    | some recVO => _ : List ActivityRecVO × Bool).1 = _
  cases player.recs act.id <;> rfl

/-- The run goes on to the next player just if the listeners of this one are quiet. -/
lemma goes_iff_quiet :
    ((refPlayer player (acts.map (updateOne sysRun))).2 = true ∧
      ((acts.map (updateOne sysRun)).any Round.started = true →
        player.acceptNewActivity = none)) ↔ player.Quiet sysRun acts := by
  unfold OnlinePlayer.Quiet
  rw [refPlayer_snd, List.forall_mem_map, List.any_eq_true]
  simp only [resetPlayerActivityRec_snd, List.mem_map, exists_exists_and_eq_and,
    started_updateOne_iff]

lemma reaches_of_none (h : ∀ player ∈ players, player.recs id = none) :
    Reaches sysRun acts i id players := by
  induction players with
  | nil => trivial
  | cons player players ih =>
    obtain ⟨hhead, htail⟩ := List.forall_mem_cons.mp h
    refine ⟨fun hsome => ?_, fun ⟨other, hother, hsome⟩ => ?_, ih htail⟩
    · rw [hhead] at hsome
      cases hsome
    · rw [htail other hother] at hsome
      cases hsome

/-- Nothing is reset where `P` fails, which is right just if no player has records. -/
lemma nil_eq_iff {P : Prop} (hnot : ¬P) (resetRec : ActivityRecVO → ActivityRecVO) :
    [] = (players.filterMap fun player => player.recs id).map resetRec ↔
      ((∃ player ∈ players, (player.recs id).isSome) → P) ∧ Reaches sysRun acts i id players := by
  rw [eq_comm, List.map_eq_nil_iff, List.filterMap_eq_nil_iff]
  constructor
  · intro hnone
    refine ⟨fun ⟨player, hplayer, hsome⟩ => ?_, reaches_of_none hnone⟩
    rw [hnone player hplayer] at hsome
    cases hsome
  · rintro ⟨hall, -⟩ player hplayer
    by_contra hsome
    exact hnot (hall ⟨player, hplayer, Option.isSome_iff_ne_none.mpr hsome⟩)

/-- **All records of players are reset** just if every player who has some is reached.

**Proof sketch.** Induction on the players. A player who is not reached leaves out his records, and
one whose listeners throw leaves out those of all that come later. -/
theorem reached_eq_iff (hrefreshes : Refreshes sysRun act) :
    reached (acts.map (updateOne sysRun)) i (updateOne sysRun act) players =
        (players.filterMap fun player => player.recs act.id).map
          (act.refreshed sysRun.ms).resetRec ↔
      Reaches sysRun acts i act.id players := by
  induction players with
  | nil => exact iff_of_true rfl trivial
  | cons player players ih =>
    have hbefore : (∀ b ∈ (acts.map (updateOne sysRun)).take i,
        (resetPlayerActivityRec player b).2 = true) ↔
          ∀ b ∈ acts.take i, ¬player.Interrupts sysRun b := by
      rw [← List.map_take, List.forall_mem_map]
      simp only [resetPlayerActivityRec_snd]
    -- the players that come later
    have hlater : ((if (refPlayer player (acts.map (updateOne sysRun))).2 = true ∧
          ((acts.map (updateOne sysRun)).any Round.started = true →
            player.acceptNewActivity = none) then
        reached (acts.map (updateOne sysRun)) i (updateOne sysRun act) players else []) =
          (players.filterMap fun player => player.recs act.id).map
            (act.refreshed sysRun.ms).resetRec) ↔
        ((∃ other ∈ players, (other.recs act.id).isSome) → player.Quiet sysRun acts) ∧
          Reaches sysRun acts i act.id players := by
      split_ifs with hgoes
      · rw [ih]
        exact (and_iff_right fun _ => goes_iff_quiet.mp hgoes).symm
      · exact nil_eq_iff (mt goes_iff_quiet.mpr hgoes) _
    unfold reached Reaches
    rw [resetPlayerActivityRec_fst hrefreshes, List.filterMap_cons]
    cases hrec : player.recs act.id with
    | none =>
      simp only [Option.map_none, Option.toList_none, ite_self, List.nil_append, hlater,
        Option.isSome_none, Bool.false_eq_true, false_implies, true_and]
    | some recVO =>
      simp only [Option.map_some, Option.toList_some, Option.isSome_some, true_implies,
        List.map_cons]
      by_cases hpasses : ∀ b ∈ (acts.map (updateOne sysRun)).take i,
          (resetPlayerActivityRec player b).2 = true
      · rw [if_pos hpasses, List.singleton_append, List.cons.injEq, hlater]
        exact ⟨fun h => ⟨hbefore.mp hpasses, h.2⟩, fun h => ⟨rfl, h.2⟩⟩
      · have hstops : ¬((refPlayer player (acts.map (updateOne sysRun))).2 = true ∧
            ((acts.map (updateOne sysRun)).any Round.started = true →
              player.acceptNewActivity = none)) := fun hgoes =>
          hpasses fun b hb => refPlayer_snd.mp hgoes.1 b (List.mem_of_mem_take hb)
        rw [if_neg hpasses, if_neg hstops]
        exact iff_of_false (fun h => by cases h) fun h => hpasses (hbefore.mpr h.1)

end Reached

/-! ## One run -/

section OneRun

variable {sysRun : SysRun} {acts : List ActivityVO} {act : ActivityVO} {i : ℕ}

variable (sysRun) in
/-- No activity comes or goes. -/
lemma length_rounds : (sysUpdateActivityStatus sysRun acts).length = acts.length := by
  unfold sysUpdateActivityStatus
  dsimp only
  split_ifs
  · rw [List.length_zipWith, length_refOnline, length_updateLoop, min_self]
  · exact length_updateLoop

/-- What a run leaves of the activity that is looked at as number `i`. -/
def SysRun.roundOf (sysRun : SysRun) (acts : List ActivityVO) (i : ℕ) (act : ActivityVO) : Round :=
  if ∀ b ∈ acts.take i, ¬Disturbs sysRun b then
    (updateOne sysRun act).withResets
      (if ∀ b ∈ acts, ¬Disturbs sysRun b then
        reached (acts.map (updateOne sysRun)) i (updateOne sysRun act) sysRun.players
      else [])
  else { act := act }

lemma Round.withResets_nil (round : Round) : round.withResets [] = round := by
  rw [Round.withResets, List.append_nil]

/-- **What a run leaves of an activity.** -/
lemma getElem?_rounds (h : acts[i]? = some act) :
    (sysUpdateActivityStatus sysRun acts)[i]? = some (sysRun.roundOf acts i act) := by
  have hloop := getElem?_updateLoop sysRun h
  unfold sysUpdateActivityStatus SysRun.roundOf
  dsimp only
  by_cases hall : ∀ b ∈ acts, ¬Disturbs sysRun b
  · have hround : (acts.map (updateOne sysRun))[i]? = some (updateOne sysRun act) := by
      rw [List.getElem?_map, h, Option.map_some]
    rw [if_pos (updateLoop_snd.mpr hall), updateLoop_fst hall, List.getElem?_zipWith, hround,
      getElem?_refOnline hround, if_pos fun b hb => hall b (List.mem_of_mem_take hb), if_pos hall]
  · rw [if_neg (mt updateLoop_snd.mp hall), hloop, if_neg hall, Round.withResets_nil]

lemma roundOf_of_reached (hreached : ∀ b ∈ acts.take i, ¬Disturbs sysRun b) :
    sysRun.roundOf acts i act = (updateOne sysRun act).withResets
      (if ∀ b ∈ acts, ¬Disturbs sysRun b then
        reached (acts.map (updateOne sysRun)) i (updateOne sysRun act) sysRun.players
      else []) := if_pos hreached

/-- An activity that is not looked at stays as it is. -/
lemma roundOf_of_not_reached (hreached : ¬∀ b ∈ acts.take i, ¬Disturbs sysRun b) :
    sysRun.roundOf acts i act = { act := act } := if_neg hreached

/-- Of an activity that is not refreshed no records of players are reset. -/
lemma reached_of_not_updated {rounds : List Round} {round : Round} {players : List OnlinePlayer}
    (h : round.updated = false) : reached rounds i round players = [] := by
  induction players with
  | nil => rfl
  | cons player players ih =>
    have hnone : (resetPlayerActivityRec player round).1 = [] := by
      unfold resetPlayerActivityRec
      rw [h]
      rfl
    rw [reached, hnone, ih, ite_self, ite_self, List.append_nil]

/-- An activity that is looked at and not refreshed. -/
lemma roundOf_of_not_updated (hreached : ∀ b ∈ acts.take i, ¬Disturbs sysRun b)
    (hupdated : (updateOne sysRun act).updated = false) :
    sysRun.roundOf acts i act = updateOne sysRun act := by
  rw [roundOf_of_reached hreached, reached_of_not_updated hupdated, ite_self,
    Round.withResets_nil]

/-- What the round leaves as it is the run leaves as it is. -/
lemma roundOf_of_idle (hidle : updateOne sysRun act = { act := act }) :
    sysRun.roundOf acts i act = { act := act } := by
  by_cases hreached : ∀ b ∈ acts.take i, ¬Disturbs sysRun b
  · rw [roundOf_of_not_updated hreached (by rw [hidle]), hidle]
  · exact roundOf_of_not_reached hreached

/-- The refresh time of a running activity is one that is meant, and not to come. -/
def Ticking (act : ActivityVO) (ms : Int64) : Prop :=
  0 < act.refInterval → act.status = .running →
    act.IsRefTime act.refTime.toInt ∧ act.refTime.toInt ≤ ms.toInt

/-- An activity that is left alone is right while its interval lasts. -/
lemma rightAfter_self (hticking : Ticking act sysRun.ms) :
    RightAfter sysRun act { act := act } ↔
      (0 < act.refInterval → act.status = .running →
        sysRun.ms.toInt < act.refTime.toInt + act.period) := by
  unfold RightAfter
  constructor
  · intro h hinterval hrunning
    exact (h hinterval hrunning).2.2.1
  · intro h hinterval hrunning
    obtain ⟨htick, hle⟩ := hticking hinterval hrunning
    exact ⟨htick, hle, h hinterval hrunning, by simp⟩

/-- A new activity that is started. -/
lemma updateOne_of_cre (hcre : act.status = .cre) (hstart : act.startDate ≤ sysRun.ms)
    (hend : sysRun.ms ≤ act.endDate) :
    updateOne sysRun act =
      { act := { act with status := .running, refTime := act.startDate }, started := true } := by
  unfold updateOne
  rw [hcre]
  dsimp only
  rw [if_pos ⟨hstart, hend⟩]

/-- A running activity that is stopped. -/
lemma updateOne_of_over (hrunning : act.status = .running) (hend : act.endDate < sysRun.ms) :
    (updateOne sysRun act).act = { act with status := .stoped } ∧
      (updateOne sysRun act).updated = false := by
  unfold updateOne
  rw [hrunning]
  dsimp only
  rw [if_pos hend]
  exact ⟨rfl, rfl⟩

/-- A running activity for which no refresh time is computed. -/
lemma updateOne_of_nonpos (hrunning : act.status = .running) (hend : ¬act.endDate < sysRun.ms)
    (hpos : ¬0 < calActivityRefTime act sysRun.ms) : updateOne sysRun act = { act := act } := by
  unfold updateOne
  rw [hrunning]
  dsimp only
  rw [if_neg hend, if_neg hpos]

/-- A running activity whose interval lasts is left alone. -/
lemma updateOne_of_lt (hticking : Ticking act sysRun.ms) (hinterval : 0 < act.refInterval)
    (hrunning : act.status = .running) (hend : ¬act.endDate < sysRun.ms)
    (hlasts : sysRun.ms.toInt < act.refTime.toInt + act.period) :
    updateOne sysRun act = { act := act } := by
  have hle := (hticking hinterval hrunning).2
  have hmax := (period_bounds hinterval).2
  have hzero : calActivityRefTime act sysRun.ms = 0 := by
    rw [← Int64.toInt_inj, calActivityRefTime_spec hinterval hle (by omega), if_pos hlasts]
    rfl
  exact updateOne_of_nonpos hrunning hend (by rw [hzero]; decide)

/-- **A new activity** that is started is right in its first interval. -/
lemma rightAfter_started (hinterval : 0 < act.refInterval) (hcre : act.status = .cre)
    (hstart : act.startDate ≤ sysRun.ms) :
    RightAfter sysRun act
        { act := { act with status := .running, refTime := act.startDate }, started := true } ↔
      sysRun.ms.toInt < act.startDate.toInt + act.period := by
  constructor
  · intro h
    exact (h hinterval rfl).2.2.1
  · intro hfirst _ _
    refine ⟨Periodic.isTick_start, Int64.le_iff_toInt_le.mp hstart, hfirst, ?_⟩
    simp [hcre]

/-- **A refresh** is right just if its time is meant and the records of all players are reset. -/
lemma rightAfter_refreshed (hticking : Ticking act sysRun.ms) (hinterval : 0 < act.refInterval)
    (hover : act.refTime.toInt + act.period ≤ sysRun.ms.toInt) (hrefreshes : Refreshes sysRun act)
    (resets : List ActivityRecVO) :
    RightAfter sysRun act ((updateOne sysRun act).withResets resets) ↔
      sysRun.ms.toInt - act.refTime.toInt < 2 ^ 63 ∧
        resets = (sysRun.players.filterMap fun player => player.recs act.id).map
          (act.refreshed sysRun.ms).resetRec := by
  obtain ⟨hact, -, hresets⟩ := updateOne_of_refreshes hrefreshes
  obtain ⟨hrunning, -, hpos⟩ := hrefreshes
  obtain ⟨htick, hle⟩ := hticking hinterval hrunning
  have hperiod := (period_bounds hinterval).1
  have hright : RightAfter sysRun act ((updateOne sysRun act).withResets resets) ↔
      act.IsRefTime (calActivityRefTime act sysRun.ms).toInt ∧
        (calActivityRefTime act sysRun.ms).toInt ≤ sysRun.ms.toInt ∧
        sysRun.ms.toInt < (calActivityRefTime act sysRun.ms).toInt + act.period ∧
        (sysRun.sysRecs act.id).map (act.refreshed sysRun.ms).resetRec ++ resets =
          if act.status = .running ∧ calActivityRefTime act sysRun.ms ≠ act.refTime then
            (sysRun.recs act.id).map (act.refreshed sysRun.ms).resetRec
          else [] := by
    generalize updateOne sysRun act = round at hact hresets
    obtain ⟨roundAct, started, updated, thrown, reset⟩ := round
    cases hact
    cases hresets
    exact ⟨fun h => h hinterval hrunning, fun h _ _ => h⟩
  rw [hright]
  by_cases hfits : sysRun.ms.toInt - act.refTime.toInt < 2 ^ 63
  · have hspec := calActivityRefTime_spec hinterval hle hfits
    rw [if_neg (by omega), Periodic.tick_eq_of_isTick hperiod htick] at hspec
    have hlater := Periodic.lt_tick hperiod htick hover
    have hne : calActivityRefTime act sysRun.ms ≠ act.refTime := by
      intro heq
      rw [heq] at hspec
      omega
    have hstart : act.startDate.toInt ≤ sysRun.ms.toInt := by
      obtain ⟨n, hn⟩ := htick
      have := mul_nonneg (Int.natCast_nonneg n) hperiod.le
      omega
    rw [and_iff_right hfits, if_pos ⟨hrunning, hne⟩, SysRun.recs, List.map_append,
      List.append_cancel_left_eq, hspec]
    constructor
    · exact fun h => h.2.2.2
    · exact fun h => ⟨Periodic.isTick_tick hperiod hstart, Periodic.tick_le hperiod,
        Periodic.lt_tick_add hperiod, h⟩
  · refine iff_of_false (fun h => ?_) fun h => hfits h.1
    exact calActivityRefTime_overflow hinterval htick (by omega) hpos h.1

/-- Whether a refresh time is computed when the interval is over. -/
lemma calActivityRefTime_pos_iff (hticking : Ticking act sysRun.ms)
    (hinterval : 0 < act.refInterval) (hrunning : act.status = .running)
    (hover : act.refTime.toInt + act.period ≤ sysRun.ms.toInt)
    (hfits : sysRun.ms.toInt - act.refTime.toInt < 2 ^ 63) :
    0 < calActivityRefTime act sysRun.ms ↔
      0 < Periodic.tick act.startDate.toInt act.period sysRun.ms.toInt := by
  obtain ⟨htick, hle⟩ := hticking hinterval hrunning
  have hspec := calActivityRefTime_spec hinterval hle hfits
  rw [if_neg (by omega), Periodic.tick_eq_of_isTick (period_bounds hinterval).1 htick] at hspec
  rw [Int64.lt_iff_toInt_lt, hspec, Int64.toInt_zero]

/-- **What a run does for a new activity.** -/
lemma rightAfter_of_cre (hinterval : 0 < act.refInterval) (hcre : act.status = .cre) :
    RightAfter sysRun act (sysRun.roundOf acts i act) ↔
      (act.startDate ≤ sysRun.ms → sysRun.ms ≤ act.endDate →
        (∀ b ∈ acts.take i, ¬Disturbs sysRun b) →
          sysRun.ms.toInt < act.startDate.toInt + act.period) := by
  have hvacuous : RightAfter sysRun act { act := act } := by
    intro _ hrunning
    cases hcre.symm.trans hrunning
  by_cases hreached : ∀ b ∈ acts.take i, ¬Disturbs sysRun b
  · by_cases hstart : act.startDate ≤ sysRun.ms ∧ sysRun.ms ≤ act.endDate
    · have hround := updateOne_of_cre hcre hstart.1 hstart.2
      rw [roundOf_of_not_updated hreached (by rw [hround]), hround,
        rightAfter_started hinterval hcre hstart.1]
      exact ⟨fun h _ _ _ => h, fun h => h hstart.1 hstart.2 hreached⟩
    · have hidle : updateOne sysRun act = { act := act } := by
        unfold updateOne
        rw [hcre]
        dsimp only
        rw [if_neg hstart]
      rw [roundOf_of_idle hidle]
      exact iff_of_true hvacuous fun h₁ h₂ => absurd ⟨h₁, h₂⟩ hstart
  · rw [roundOf_of_not_reached hreached]
    exact iff_of_true hvacuous fun _ _ h => absurd h hreached

/-- **The players' part of a refresh**: all their records are reset just if no behaviours throw, if
there are any records, and all players who have some are reached. -/
lemma playerResets_iff (hrefreshes : Refreshes sysRun act) :
    ((if ∀ b ∈ acts, ¬Disturbs sysRun b then
        reached (acts.map (updateOne sysRun)) i (updateOne sysRun act) sysRun.players
      else []) = (sysRun.players.filterMap fun player => player.recs act.id).map
        (act.refreshed sysRun.ms).resetRec) ↔
      ((∃ player ∈ sysRun.players, (player.recs act.id).isSome) →
        ∀ b ∈ acts, ¬Disturbs sysRun b) ∧ Reaches sysRun acts i act.id sysRun.players := by
  by_cases hall : ∀ b ∈ acts, ¬Disturbs sysRun b
  · rw [if_pos hall, reached_eq_iff hrefreshes]
    exact (and_iff_right fun _ => hall).symm
  · rw [if_neg hall]
    exact nil_eq_iff hall _

/-- **What a run does for a running activity** whose interval is over and that is not to be
stopped. -/
lemma rightAfter_of_running (hticking : Ticking act sysRun.ms) (hinterval : 0 < act.refInterval)
    (hrunning : act.status = .running)
    (hover : act.refTime.toInt + act.period ≤ sysRun.ms.toInt) (hend : sysRun.ms ≤ act.endDate) :
    RightAfter sysRun act (sysRun.roundOf acts i act) ↔
      (∀ b ∈ acts.take i, ¬Disturbs sysRun b) ∧
        ((∃ player ∈ sysRun.players, (player.recs act.id).isSome) →
          ∀ b ∈ acts, ¬Disturbs sysRun b) ∧
        Reaches sysRun acts i act.id sysRun.players ∧
        0 < Periodic.tick act.startDate.toInt act.period sysRun.ms.toInt ∧
        sysRun.ms.toInt - act.refTime.toInt < 2 ^ 63 := by
  -- an activity that stays as it is is not right: its interval is over
  have hself : ¬RightAfter sysRun act { act := act } := by
    intro h
    have := (rightAfter_self hticking).mp h hinterval hrunning
    omega
  by_cases hreached : ∀ b ∈ acts.take i, ¬Disturbs sysRun b
  · rw [and_iff_right hreached]
    by_cases hpos : 0 < calActivityRefTime act sysRun.ms
    · have hrefreshes : Refreshes sysRun act := ⟨hrunning, hend, hpos⟩
      rw [roundOf_of_reached hreached,
        rightAfter_refreshed hticking hinterval hover hrefreshes, playerResets_iff hrefreshes]
      constructor
      · rintro ⟨hfits, hnone, hreaches⟩
        exact ⟨hnone, hreaches,
          (calActivityRefTime_pos_iff hticking hinterval hrunning hover hfits).mp hpos, hfits⟩
      · exact fun h => ⟨h.2.2.2, h.1, h.2.1⟩
    · rw [roundOf_of_idle (updateOne_of_nonpos hrunning (Int64.not_lt.mpr hend) hpos)]
      refine iff_of_false hself fun h => hpos ?_
      exact (calActivityRefTime_pos_iff hticking hinterval hrunning hover h.2.2.2).mpr h.2.2.1
  · rw [roundOf_of_not_reached hreached]
    exact iff_of_false hself fun h => hreached h.1

/-- **What a run does for an activity**, exactly. -/
lemma rightAfter_iff (hticking : Ticking act sysRun.ms) (hinterval : 0 < act.refInterval) :
    RightAfter sysRun act (sysRun.roundOf acts i act) ↔ ActInTime i acts sysRun act := by
  unfold ActInTime
  cases hstatus : act.status with
  | cre =>
    rw [rightAfter_of_cre hinterval hstatus]
    exact ⟨fun h => ⟨fun _ => h, fun hrunning => by cases hrunning⟩, fun h => h.1 rfl⟩
  | running =>
    rw [and_iff_right (fun hcre => by cases hcre), forall_prop_of_true rfl]
    by_cases hend : sysRun.ms ≤ act.endDate
    · by_cases hlasts : sysRun.ms.toInt < act.refTime.toInt + act.period
      · rw [roundOf_of_idle
          (updateOne_of_lt hticking hinterval hstatus (Int64.not_lt.mpr hend) hlasts),
          rightAfter_self hticking]
        exact iff_of_true (fun _ _ => hlasts) (fun hover => by omega)
      · rw [rightAfter_of_running hticking hinterval hstatus (by omega) hend]
        exact ⟨fun h _ => ⟨h.1, fun _ => h.2⟩,
          fun h => ⟨(h (by omega)).1, (h (by omega)).2 hend⟩⟩
    · by_cases hreached : ∀ b ∈ acts.take i, ¬Disturbs sysRun b
      · obtain ⟨hact, hupdated⟩ := updateOne_of_over hstatus (Int64.not_le.mp hend)
        rw [roundOf_of_not_updated hreached hupdated]
        refine iff_of_true (fun _ hrunning => ?_) fun _ => ⟨hreached, fun h => absurd h hend⟩
        rw [hact] at hrunning
        cases hrunning
      · rw [roundOf_of_not_reached hreached, rightAfter_self hticking]
        constructor
        · intro h hover
          have := h hinterval hstatus
          omega
        · intro h _ _
          by_contra hover
          exact hreached (h (by omega)).1
  | stoped =>
    have hidle : updateOne sysRun act = { act := act } := by
      unfold updateOne
      rw [hstatus]
    rw [roundOf_of_idle hidle]
    have hvacuous : RightAfter sysRun act { act := act } := by
      intro _ hrunning
      cases hstatus.symm.trans hrunning
    exact iff_of_true hvacuous ⟨fun hcre => (by cases hcre), fun hrunning => (by cases hrunning)⟩

/-- **A run does for an activity what is wanted** just if the activity is in time. -/
theorem refTimeRight_iff_inTime (hticking : ∀ act, acts[i]? = some act → Ticking act sysRun.ms) :
    RefTimeRight i acts sysRun ↔ InTime i acts sysRun := by
  unfold RefTimeRight InTime
  constructor
  · intro h act hact hinterval
    exact (rightAfter_iff (hticking act hact) hinterval).mp (h act _ hact (getElem?_rounds hact))
  · intro h act round hact hround
    by_cases hinterval : 0 < act.refInterval
    · obtain rfl : sysRun.roundOf acts i act = round :=
        Option.some.inj ((getElem?_rounds hact).symm.trans hround)
      exact (rightAfter_iff (hticking act hact) hinterval).mpr (h act hact hinterval)
    · exact fun hpos => absurd hpos hinterval

/-- What a round does not change of its activity. -/
lemma updateOne_fixed :
    (updateOne sysRun act).act.startDate = act.startDate ∧
      (updateOne sysRun act).act.refInterval = act.refInterval := by
  unfold updateOne
  dsimp only
  split <;> (try split_ifs) <;> exact ⟨rfl, rfl⟩

/-- What a run does not change of an activity. -/
lemma roundOf_fixed :
    (sysRun.roundOf acts i act).act.startDate = act.startDate ∧
      (sysRun.roundOf acts i act).act.refInterval = act.refInterval := by
  by_cases hreached : ∀ b ∈ acts.take i, ¬Disturbs sysRun b
  · rw [roundOf_of_reached hreached]
    exact updateOne_fixed
  · rw [roundOf_of_not_reached hreached]
    exact ⟨rfl, rfl⟩

/-- **A run that does what is wanted** leaves the refresh time one that is meant. -/
lemma ticking_roundOf {ms : Int64} (hle : sysRun.ms ≤ ms)
    (h : RightAfter sysRun act (sysRun.roundOf acts i act)) :
    Ticking (sysRun.roundOf acts i act).act ms := by
  obtain ⟨hstart, hinterval⟩ := @roundOf_fixed sysRun acts act i
  intro hpos hrunning
  rw [hinterval] at hpos
  obtain ⟨htick, hbefore, -⟩ := h hpos hrunning
  refine ⟨?_, hbefore.trans (Int64.le_iff_toInt_le.mp hle)⟩
  unfold ActivityVO.IsRefTime ActivityVO.period at htick ⊢
  rw [hstart, hinterval]
  exact htick

end OneRun

/-! ## All runs -/

/-- The refresh time of the activity is one that is meant, and not after what is to come. -/
def TickingUntil (i : ℕ) (acts : List ActivityVO) (sysRuns : List SysRun) : Prop :=
  sysRuns.Pairwise (fun a b => a.ms ≤ b.ms) ∧
    ∀ act, acts[i]? = some act → ∀ sysRun ∈ sysRuns, Ticking act sysRun.ms

lemma TickingUntil.after {i : ℕ} {acts : List ActivityVO} {sysRun : SysRun}
    {sysRuns : List SysRun} (hinv : TickingUntil i acts (sysRun :: sysRuns))
    (h : InTime i acts sysRun) : TickingUntil i (SysRun.after acts sysRun) sysRuns := by
  obtain ⟨hsorted, hticking⟩ := hinv
  obtain ⟨hfirst, hsorted'⟩ := List.pairwise_cons.mp hsorted
  refine ⟨hsorted', fun act' hact' later hlater => ?_⟩
  obtain ⟨round, hround, rfl⟩ : ∃ round, (sysUpdateActivityStatus sysRun acts)[i]? = some round ∧
      round.act = act' := by
    rw [SysRun.after, List.getElem?_map] at hact'
    exact Option.map_eq_some_iff.mp hact'
  cases hact : acts[i]? with
  | none =>
    rw [List.getElem?_eq_none_iff, ← length_rounds sysRun, ← List.getElem?_eq_none_iff,
      hround] at hact
    cases hact
  | some act =>
    have hright := (refTimeRight_iff_inTime fun b hb => hticking b hb sysRun (by simp)).mpr h
    obtain rfl : sysRun.roundOf acts i act = round :=
      Option.some.inj ((getElem?_rounds hact).symm.trans hround)
    exact ticking_roundOf (hfirst later hlater) (hright act _ hact hround)

/-- **The refresh time is right** over a whole run, as the clock goes on, for an activity that was
new at its beginning, just if the activity is in time in every run of the method. -/
theorem refTimeRight_iff (acts : List ActivityVO) (i : ℕ) (sysRuns : List SysRun)
    (hnew : ∀ act, acts[i]? = some act → act.status = .cre)
    (hclock : sysRuns.Pairwise fun a b => a.ms ≤ b.ms) :
    EveryStep SysRun.after (RefTimeRight i) acts sysRuns ↔
      EveryStep SysRun.after (InTime i) acts sysRuns := by
  refine everyStep_congr (TickingUntil i) (fun acts sysRun sysRuns hinv h => hinv.after h) ?_ ?_
  · intro acts sysRun sysRuns hinv
    exact refTimeRight_iff_inTime fun act hact => hinv.2 act hact sysRun (by simp)
  · refine ⟨hclock, fun act hact _ _ _ hrunning => ?_⟩
    rw [hnew act hact] at hrunning
    cases hrunning

/-- An activity that is refreshed every minute, with behaviours that the server executes. -/
def minutely (id : String) (autoBev : Bool) : ActivityVO :=
  { id := id, startDate := 1700000000000, endDate := 1800000000000, refInterval := 1,
    workMode := 1, autoBev := autoBev, status := .cre, refTime := 0 }

/-- A run at a full minute after the start, in which a behaviour that is executed may throw. -/
def minuteRun (minute : Int64) (thrown : Option Thrown) (players : List OnlinePlayer) : SysRun :=
  { ms := 1700000000000 + minute * 60000, bevs := fun _ => thrown, sysRecs := fun _ => [],
    players := players }

/-- The condition, where it holds. -/
theorem refTimeRight_minutely :
    EveryStep SysRun.after (RefTimeRight 0) [minutely "a" true]
        [minuteRun 0 none [], minuteRun 3 none []] ↔
      EveryStep SysRun.after (InTime 0) [minutely "a" true]
        [minuteRun 0 none [], minuteRun 3 none []] := by
  refine refTimeRight_iff _ _ _ (fun act hact => ?_) (by simp [minuteRun])
  obtain rfl : minutely "a" true = act := by simpa using hact
  rfl

/-- A player online who has a record of each activity from before all refreshes; the listeners of
`RefActivity` throw for a player who is in no guild. -/
def guildless : OnlinePlayer where
  recs id := some (ActivityRecVO.addBevRecVO
    { activityId := id, group := 1, index := 1, refTime := 0 } {})
  refActivity _ := some (.logic 0)
  acceptNewActivity := none

/-- **The refresh time is not right**: for an activity that the server looks at for the first time
two minutes after its start; for an activity of which the interval is over when a behaviour of
the activity before it throws; and for an activity with records of two players, of which the
listeners throw for the first. -/
theorem not_refTimeRight :
    ¬EveryStep SysRun.after (RefTimeRight 0) [minutely "a" false] [minuteRun 2 none []] ∧
      ¬EveryStep SysRun.after (RefTimeRight 1) [minutely "a" true, minutely "b" false]
        [minuteRun 0 none [], minuteRun 1 (some .nullPointer) []] ∧
      ¬EveryStep SysRun.after (RefTimeRight 0) [minutely "a" false]
        [minuteRun 0 none [], minuteRun 1 none [guildless, guildless]] := by
  refine ⟨?_, ?_, ?_⟩
  · rintro ⟨h, -⟩
    have hwindow := (h _ _ rfl rfl (by decide) (by decide)).2.2.1
    exact absurd hwindow (by decide)
  · rintro ⟨-, h, -⟩
    have hwindow := (h _ _ rfl rfl (by decide) (by decide)).2.2.1
    exact absurd hwindow (by decide)
  · rintro ⟨-, h, -⟩
    have hresets := (h _ _ rfl rfl (by decide) (by decide)).2.2.2
    exact absurd (congrArg List.length hresets) (by decide)

end SrgpGame.Activity
