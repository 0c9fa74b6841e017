import Mathlib.Data.List.AList
import SrgpGame.Lib.Machine

set_option autoImplicit false

/-!
# The records of activities

An activity has conditions and behaviours, in groups. How far a condition is fulfilled and how often
a behaviour was executed is recorded once for the server, once for each guild or once for each
player.

## Main definitions

* `ActivityStatus`, `ActivityScopeType` — the status of an activity, and whom a record is for.
* `ActivityCondRecVO`, `ActivityBevRecVO` — the record of a condition and of a behaviour.
* `ActivityRecVO` — the records that a player, a guild or the server has of an activity.
* `newCondRecVO`, `newBevRecVO` — the records that are made when there is none.

## Design notes

The records of an activity are kept by group and index together. The time of an activity that a new
record takes is its last refresh.
-/

namespace SrgpGame.Activity

/-- `ActivityConstant`: the status of an activity. -/
inductive ActivityStatus where
  | cre
  | running
  | stoped
  deriving DecidableEq, Repr

/-- `WORK_MODE_FINISH_EXEC`: behaviours are executed once the conditions are fulfilled. -/
def workModeFinishExec : Int32 := 1

/-- `WORK_MODE_STOP_EXEC`: behaviours are executed when the activity is over. -/
def workModeStopExec : Int32 := 2

/-- `ActivityScopeType`: whom a record is for. -/
inductive ActivityScopeType where
  | global
  | guild
  | personal
  deriving DecidableEq, Repr

namespace ActivityScopeType

def type : ActivityScopeType → Int32
  | global => 1
  | guild => 2
  | personal => 3

end ActivityScopeType

/-- `ActivityCondRecVO`: how far a condition is fulfilled. -/
structure ActivityCondRecVO where
  id : Int32 := 0
  /-- The activity, guild or player that the record is for. -/
  relId : String := ""
  activityId : String
  group : Int32
  index : Int32
  finishData : Int64 := 0
  refTime : Int64
  finish : Bool := false
  lastRecordTime : Int64 := 0
  /-- A set of players. -/
  recordPlayers : List Int32 := []
  recordDetails : AList (fun _ : Int32 => Int64) := ∅
  deriving DecidableEq

/-- `ActivityBevRecVO`: how often a behaviour was executed. -/
structure ActivityBevRecVO where
  id : Int32 := 0
  /-- The activity, guild or player that the record is for. -/
  relId : String := ""
  activityId : String
  group : Int32
  index : Int32
  execNum : Int32 := 0
  refTime : Int64
  /-- What a behaviour keeps between two steps. -/
  execParams : AList (fun _ : String => String) := ∅
  canExec : Bool := false
  deriving DecidableEq

/-- `ActivityRecVO`: the records of an activity, by group and index. -/
structure ActivityRecVO where
  condDatas : AList (fun _ : Int32 × Int32 => ActivityCondRecVO) := ∅
  bevDatas : AList (fun _ : Int32 × Int32 => ActivityBevRecVO) := ∅
  deriving DecidableEq

namespace ActivityRecVO

def addCondRecVO (condRecVO : ActivityCondRecVO) (recVO : ActivityRecVO) : ActivityRecVO :=
  { recVO with
    condDatas := recVO.condDatas.insert (condRecVO.group, condRecVO.index) condRecVO }

def addBevRecVO (bevRecVO : ActivityBevRecVO) (recVO : ActivityRecVO) : ActivityRecVO :=
  { recVO with bevDatas := recVO.bevDatas.insert (bevRecVO.group, bevRecVO.index) bevRecVO }

end ActivityRecVO

/-- What `newCondRecVO` takes of the activity. -/
structure ActivityKey where
  id : String
  /-- The last refresh of the activity. -/
  refTime : Int64

/-- `newCondRecVO`: the record of a condition of which there was none. -/
def newCondRecVO (act : ActivityKey) (relId : String) (group index : Int32) :
    ActivityCondRecVO where
  relId := relId
  activityId := act.id
  group := group
  index := index
  refTime := act.refTime

/-- `newBevRecVO`, and the permission that `getBevRecVOs` sets. -/
def newBevRecVO (act : ActivityKey) (relId : String) (group index : Int32) : ActivityBevRecVO where
  relId := relId
  activityId := act.id
  group := group
  index := index
  refTime := act.refTime
  canExec := true

end SrgpGame.Activity
