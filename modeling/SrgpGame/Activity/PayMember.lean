import Mathlib.Data.List.Dedup
import SrgpGame.Activity.CondProcess
import SrgpGame.Lib.Runs

set_option autoImplicit false

/-!
# How many members of a guild have paid?

The condition is for a guild, and every payment of a member is an event for it. A member is to count
once. The process asks for the members in one collection and records them in another.

## Main definitions

* `Payment` — a payment of a member.
* `Payment.after` — the record of the guild after a payment.
* `CountsMembers` — what is wanted of a sequence of payments.

## Main results

* `finishData_payments` — what is recorded after any payments.
* `countsMembers_iff` — when the members are counted.
-/

namespace SrgpGame.Activity.PayMember

open Runs

/-- A payment of a member of the guild. -/
structure Payment where
  playerId : Int32
  now : Int64
  orderMoney : Option Int32 := none

/-- The event of a payment. -/
def Payment.event (payment : Payment) : GameEvent where
  type := .pay
  now := payment.now
  playerId := payment.playerId
  orderMoney := payment.orderMoney

/-- The condition that `value` members of a guild have paid. -/
def payMemberCond (value : Int64) : ActivityCond where
  condType := .guildPayMember
  scopeType := .guild
  value := value

/-- The record of the guild after a payment. -/
def Payment.after (value : Int64) (calendar : Calendar) (condRecVO : ActivityCondRecVO)
    (payment : Payment) : ActivityCondRecVO :=
  ((payMemberCond value).record calendar condRecVO payment.event).1

/-- The record of the guild after payments, from a new one. -/
def recordOf (value : Int64) (calendar : Calendar) (act : ActivityKey) (relId : String)
    (group index : Int32) (payments : List Payment) : ActivityCondRecVO :=
  run (Payment.after value calendar) (newCondRecVO act relId group index) payments

/-- The members who paid. -/
def payers (payments : List Payment) : List Int32 := payments.map Payment.playerId

/-- **What is wanted**: as many as are to be reached, or the number of different members who
paid. -/
def CountsMembers (value : Int64) (calendar : Calendar) (act : ActivityKey) (relId : String)
    (group index : Int32) (payments : List Payment) : Prop :=
  (recordOf value calendar act relId group index payments).finishData.toInt =
    min value.toInt (payers payments).dedup.length

section Run

variable {value : Int64} {calendar : Calendar} {condRecVO : ActivityCondRecVO} {payment : Payment}

/-- What the payments so far have left, `n` of them. -/
structure Counted (value : Int64) (n : ℕ) (condRecVO : ActivityCondRecVO) : Prop where
  finishData : condRecVO.finishData.toInt = min value.toInt n
  finish : condRecVO.finish = true → value.toInt ≤ n
  /-- Nobody is ever put among the recorded players. -/
  recordPlayers : condRecVO.recordPlayers = []

lemma checkCondData_iff (hvalue : 0 < value) {n : ℕ} (h : Counted value n condRecVO) :
    (payMemberCond value).checkCondData condRecVO = true ↔ value.toInt ≤ n := by
  rw [ActivityCond.checkCondData_iff]
  constructor
  · rintro (hfinish | ⟨-, hle⟩)
    · exact h.finish hfinish
    · rw [Int64.le_iff_toInt_le, h.finishData] at hle
      exact hle.trans (min_le_right _ _)
  · intro hle
    refine .inr ⟨hvalue, ?_⟩
    rw [Int64.le_iff_toInt_le, h.finishData]
    exact le_min le_rfl hle

/-- A payment that counts. -/
lemma toInt_addFinishData {n : ℕ} (h : Counted value n condRecVO) (hlt : (n : ℤ) < value.toInt) :
    (addFinishData (payMemberCond value) condRecVO 1).finishData.toInt =
      min value.toInt (n + 1 : ℕ) := by
  have hdata := h.finishData
  have hmax := value.toInt_lt
  have hone : (1 : Int64).toInt = 1 := rfl
  rw [min_eq_right hlt.le] at hdata
  have hsum : (condRecVO.finishData + 1).toInt = n + 1 := by
    rw [Int64.toInt_add_of_fits (by omega) (by omega), hdata, hone]
  unfold addFinishData payMemberCond
  dsimp only
  rw [Int64.toInt_min, hsum, min_comm, Nat.cast_add, Nat.cast_one]

/-- **One payment** more is counted, whoever paid. -/
lemma Counted.after (hvalue : 0 < value) {n : ℕ} (h : Counted value n condRecVO) :
    Counted value (n + 1) (payment.after value calendar condRecVO) := by
  have hcheck := checkCondData_iff hvalue h
  unfold Payment.after ActivityCond.record
  rw [if_neg (by simp [payMemberCond, Payment.event, ActivityCondType.concernType])]
  by_cases hreached : value.toInt ≤ n
  · rw [if_pos (hcheck.mpr hreached)]
    refine ⟨?_, fun _ => by push_cast; omega, h.recordPlayers⟩
    rw [h.finishData, min_eq_left hreached, min_eq_left (by push_cast; omega)]
  · rw [if_neg (mt hcheck.mp hreached)]
    have hadd := toInt_addFinishData h (by omega)
    have hrecord : recordCondData (payMemberCond value) condRecVO payment.event calendar =
        ({ addFinishData (payMemberCond value) condRecVO 1 with
            recordDetails := condRecVO.recordDetails.insert payment.playerId payment.now },
          ⟨true, none⟩) := by
      show recordGuildPayMember _ _ _ = _
      unfold recordGuildPayMember
      rw [h.recordPlayers, if_neg List.not_mem_nil]
      rfl
    rw [hrecord]
    dsimp only
    rw [if_pos rfl]
    refine ⟨hadd, fun hfinish => ?_, h.recordPlayers⟩
    -- the condition is fulfilled by what was added
    rcases ActivityCond.checkCondData_iff.mp hfinish with hbefore | ⟨-, hle⟩
    · have := h.finish hbefore
      omega
    · have hle' := Int64.le_iff_toInt_le.mp hle
      rw [hadd] at hle'
      exact hle'.trans (min_le_right _ _)

variable (calendar) in
/-- All payments are counted. -/
lemma counted_run (hvalue : 0 < value) {n : ℕ} (h : Counted value n condRecVO)
    (payments : List Payment) :
    Counted value (n + payments.length)
      (run (Payment.after value calendar) condRecVO payments) := by
  induction payments generalizing n condRecVO with
  | nil => exact h
  | cons payment payments ih =>
    rw [run_cons, List.length_cons, Nat.add_comm payments.length, ← Nat.add_assoc]
    exact ih (h.after hvalue)

end Run

/-- **What is recorded after any payments**: their number, up to what is to be reached. -/
theorem finishData_payments {value : Int64} {calendar : Calendar} {act : ActivityKey}
    {relId : String} {group index : Int32} (hvalue : 0 < value) (payments : List Payment) :
    (recordOf value calendar act relId group index payments).finishData.toInt =
      min value.toInt payments.length := by
  have hnew : Counted value 0 (newCondRecVO act relId group index) := by
    have hpos := Int64.lt_iff_toInt_lt.mp hvalue
    rw [Int64.toInt_zero] at hpos
    exact ⟨(min_eq_right hpos.le).symm, fun hfinish => absurd hfinish Bool.false_ne_true, rfl⟩
  have hrun := (counted_run calendar hvalue hnew payments).finishData
  rw [Nat.zero_add] at hrun
  exact hrun

/-- **The members are counted** just if nobody pays twice, or as many members pay as are to be
reached. -/
theorem countsMembers_iff (value : Int64) (calendar : Calendar) (act : ActivityKey)
    (relId : String) (group index : Int32) (payments : List Payment) (hvalue : 1 ≤ value) :
    CountsMembers value calendar act relId group index payments ↔
      (payers payments).Nodup ∨ value.toInt ≤ (payers payments).dedup.length := by
  have hpos : 0 < value := by
    rw [Int64.lt_iff_toInt_lt]
    have hone := Int64.le_iff_toInt_le.mp hvalue
    have : (1 : Int64).toInt = 1 := rfl
    rw [Int64.toInt_zero]
    omega
  have hlength : payments.length = (payers payments).length := by rw [payers, List.length_map]
  have hle : (payers payments).dedup.length ≤ (payers payments).length :=
    (List.dedup_sublist _).length_le
  have hnodup : (payers payments).Nodup ↔
      (payers payments).dedup.length = (payers payments).length := by
    constructor
    · intro h
      rw [List.dedup_eq_self.mpr h]
    · intro h
      rw [← List.dedup_eq_self]
      exact (List.dedup_sublist _).eq_of_length h
  unfold CountsMembers
  rw [finishData_payments hpos, hlength, hnodup]
  omega

/-- Two payments of one member. -/
def twice : List Payment := [⟨7, 1700000000000, none⟩, ⟨7, 1700000060000, none⟩]

/-- The condition, where two members pay. -/
theorem countsMembers_two :
    CountsMembers 3 ⟨fun _ => 0⟩ ⟨"guild", 0⟩ "1" 1 1
        [⟨7, 1700000000000, none⟩, ⟨8, 1700000060000, none⟩] ↔
      (payers [⟨7, 1700000000000, none⟩, ⟨8, 1700000060000, none⟩]).Nodup ∨
        (3 : Int64).toInt ≤
          (payers [⟨7, 1700000000000, none⟩, ⟨8, 1700000060000, none⟩]).dedup.length :=
  countsMembers_iff 3 _ _ _ _ _ _ (by decide)

/-- **One member counts twice.** -/
theorem not_countsMembers :
    ¬CountsMembers 3 ⟨fun _ => 0⟩ ⟨"guild", 0⟩ "1" 1 1 twice := by
  unfold CountsMembers
  decide

end SrgpGame.Activity.PayMember
