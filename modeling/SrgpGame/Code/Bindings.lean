import SrgpGame.Lib.Runs
import Mathlib.Data.List.Dedup

set_option autoImplicit false

/-!
# Prize codes that are bound to each other

The table `prize_binding` has pairs of batches that are bound to each other: a player can redeem
one of the two. The check looks for the batch in the first column of the table, and in the second
column only if it is not in the first.

## Main definitions

* `isBindingCode` — `CodeService.isBindingCode`.
* `redeem` — a batch is redeemed if the check allows it.
* `Exclusive` — a player has redeemed no batch twice, and no two batches that are bound.
* `Mutual` — a batch that is in both columns has all its partners in the rows where it is first.

## Main results

* `exclusive_run_iff` — the tables for which all redemptions are exclusive.

## Design notes

What was redeemed is in the log `prize_code_use`, where `ADD_LOG` enters it. Players are of any
type; their equality is the one of the database.
-/

namespace SrgpGame.Code

variable {Pid : Type} [DecidableEq Pid]

/-! ## Tables and queries -/

/-- A row of `prize_binding`. -/
structure PrizeBinding where
  aid : Int32
  bid : Int32
  deriving DecidableEq, Repr

/-- A row of the log `prize_code_use`, as far as the check reads it. -/
structure CodeLog (Pid : Type) where
  pid : Pid
  /-- The batch of the code. -/
  achiveId : Int32
  deriving DecidableEq, Repr

/-- `AID_NUM`. -/
def aidNum (log : List (CodeLog Pid)) (pid : Pid) (achiveId : Int32) : ℕ :=
  log.countP fun use => use.pid = pid ∧ use.achiveId = achiveId

/-- `QUERY_BINDING_ONE`. -/
def queryBindingOne (bindings : List PrizeBinding) (aid : Int32) : List Int32 :=
  (bindings.filter fun row => row.aid = aid).map PrizeBinding.bid

/-- `QUERY_BINDING_TWO`. -/
def queryBindingTwo (bindings : List PrizeBinding) (bid : Int32) : List Int32 :=
  (bindings.filter fun row => row.bid = bid).map PrizeBinding.aid

/-- `PLAYER_USE_AID`. -/
def playerUseAid (log : List (CodeLog Pid)) (pid : Pid) : List Int32 :=
  ((log.filter fun use => use.pid = pid).map CodeLog.achiveId).dedup

/-! ## The check -/

/-- `isJudgeAchiveId`. -/
def isJudgeAchiveId (log : List (CodeLog Pid)) (aid : Int32) (pid : Pid) : Bool :=
  0 < aidNum log pid aid

/-- The loop over the batches that were found: it stops at one that the player has redeemed. -/
def noneRedeemed (aids uAids : List Int32) : Bool :=
  aids.all fun a => (uAids.filter fun it => a = it).isEmpty

/-- **`isBindingCode`**: whether a player may redeem a batch. -/
def isBindingCode (bindings : List PrizeBinding) (log : List (CodeLog Pid)) (aid : Int32)
    (pid : Pid) : Bool :=
  if isJudgeAchiveId log aid pid then false
  else
    let aids := queryBindingOne bindings aid
    let aids2 := queryBindingTwo bindings aid
    if aids.isEmpty && aids2.isEmpty then true
    else
      let aids := if aids.isEmpty then aids2 else aids
      let uAids := playerUseAid log pid
      if uAids.isEmpty then true else noneRedeemed aids uAids

/-- A player asks for a batch, which is redeemed if the check allows it. -/
def redeem (bindings : List PrizeBinding) (log : List (CodeLog Pid)) (request : Pid × Int32) :
    List (CodeLog Pid) :=
  if isBindingCode bindings log request.2 request.1 then log ++ [⟨request.1, request.2⟩] else log

/-! ## What is required -/

/-- Two batches are bound, whichever column has which. -/
def Bound (bindings : List PrizeBinding) (x y : Int32) : Prop :=
  ⟨x, y⟩ ∈ bindings ∨ ⟨y, x⟩ ∈ bindings

/-- **The redemptions of a player are exclusive**: no batch was redeemed twice, and no two batches
that are bound to each other. -/
def Exclusive (bindings : List PrizeBinding) (pid : Pid) (log : List (CodeLog Pid)) : Prop :=
  log.Pairwise fun use use' => use.pid = pid → use'.pid = pid →
    use.achiveId ≠ use'.achiveId ∧ ¬Bound bindings use.achiveId use'.achiveId

/-- **The table is mutual**: a batch that is in the second column of a row is not in the first
column of any other, unless it has its partner there as well. -/
def Mutual (bindings : List PrizeBinding) : Prop :=
  ∀ row ∈ bindings, row.aid ≠ row.bid → (∃ row' ∈ bindings, row'.aid = row.bid) →
    ⟨row.bid, row.aid⟩ ∈ bindings

/-! ## What the check finds -/

section Check

variable {bindings : List PrizeBinding} {log : List (CodeLog Pid)} {aid : Int32} {pid : Pid}

omit [DecidableEq Pid] in
lemma mem_queryBindingOne {y : Int32} :
    y ∈ queryBindingOne bindings aid ↔ ⟨aid, y⟩ ∈ bindings := by
  simp only [queryBindingOne, List.mem_map, List.mem_filter, decide_eq_true_eq]
  constructor
  · rintro ⟨row, ⟨hrow, rfl⟩, rfl⟩
    exact hrow
  · exact fun h => ⟨⟨aid, y⟩, ⟨h, rfl⟩, rfl⟩

omit [DecidableEq Pid] in
lemma mem_queryBindingTwo {y : Int32} :
    y ∈ queryBindingTwo bindings aid ↔ ⟨y, aid⟩ ∈ bindings := by
  simp only [queryBindingTwo, List.mem_map, List.mem_filter, decide_eq_true_eq]
  constructor
  · rintro ⟨row, ⟨hrow, rfl⟩, rfl⟩
    exact hrow
  · exact fun h => ⟨⟨y, aid⟩, ⟨h, rfl⟩, rfl⟩

lemma mem_playerUseAid {y : Int32} : y ∈ playerUseAid log pid ↔ ⟨pid, y⟩ ∈ log := by
  simp only [playerUseAid, List.mem_dedup, List.mem_map, List.mem_filter, decide_eq_true_eq]
  constructor
  · rintro ⟨use, ⟨huse, rfl⟩, rfl⟩
    exact huse
  · exact fun h => ⟨⟨pid, y⟩, ⟨h, rfl⟩, rfl⟩

lemma isJudgeAchiveId_iff : isJudgeAchiveId log aid pid = true ↔ ⟨pid, aid⟩ ∈ log := by
  simp only [isJudgeAchiveId, aidNum, decide_eq_true_eq, List.countP_pos_iff]
  constructor
  · rintro ⟨use, huse, rfl, rfl⟩
    exact huse
  · exact fun h => ⟨⟨pid, aid⟩, h, rfl, rfl⟩

omit [DecidableEq Pid] in
lemma noneRedeemed_iff {aids uAids : List Int32} :
    noneRedeemed aids uAids = true ↔ ∀ a ∈ aids, a ∉ uAids := by
  simp only [noneRedeemed, List.all_eq_true, List.isEmpty_iff, List.filter_eq_nil_iff,
    decide_eq_true_eq]
  exact forall₂_congr fun a _ => ⟨fun h ha => h a ha rfl, fun h b hb hab => h (hab ▸ hb)⟩

/-- The early returns make no difference: no batch is found, or none was redeemed. -/
lemma isBindingCode_eq : isBindingCode bindings log aid pid =
    (!isJudgeAchiveId log aid pid &&
      noneRedeemed (if (queryBindingOne bindings aid).isEmpty then queryBindingTwo bindings aid
        else queryBindingOne bindings aid) (playerUseAid log pid)) := by
  have hnone : ∀ aids, noneRedeemed aids [] = true := fun aids =>
    noneRedeemed_iff.mpr fun a _ => List.not_mem_nil
  unfold isBindingCode
  cases isJudgeAchiveId log aid pid with
  | true => rfl
  | false =>
    cases queryBindingOne bindings aid with
    | nil =>
      cases queryBindingTwo bindings aid with
      | nil => rfl
      | cons a aids => cases playerUseAid log pid <;> simp [hnone]
    | cons a aids => cases playerUseAid log pid <;> simp [hnone]

/-- **What the check allows**: a batch that the player has not redeemed, and no partner of which
that is found in the column that is consulted. -/
lemma isBindingCode_iff : isBindingCode bindings log aid pid = true ↔
    ⟨pid, aid⟩ ∉ log ∧ (∀ y, ⟨aid, y⟩ ∈ bindings → ⟨pid, y⟩ ∉ log) ∧
      ((∀ y, ⟨aid, y⟩ ∉ bindings) → ∀ y, ⟨y, aid⟩ ∈ bindings → ⟨pid, y⟩ ∉ log) := by
  have hjudge : isJudgeAchiveId log aid pid = false ↔ ⟨pid, aid⟩ ∉ log := by
    rw [← isJudgeAchiveId_iff, Bool.not_eq_true]
  have hone : queryBindingOne bindings aid = [] ↔ ∀ y, ⟨aid, y⟩ ∉ bindings := by
    simp only [List.eq_nil_iff_forall_not_mem, mem_queryBindingOne]
  rw [isBindingCode_eq, Bool.and_eq_true, Bool.not_eq_true', hjudge, noneRedeemed_iff]
  refine and_congr_right fun _ => ?_
  simp only [List.isEmpty_iff, mem_playerUseAid]
  split_ifs with hempty
  · have hfirst := hone.mp hempty
    simp only [mem_queryBindingTwo]
    exact ⟨fun h => ⟨fun y hy => absurd hy (hfirst y), fun _ => h⟩, fun h => h.2 hfirst⟩
  · have hfirst : ¬∀ y, ⟨aid, y⟩ ∉ bindings := fun h => hempty (hone.mpr h)
    simp only [mem_queryBindingOne]
    exact ⟨fun h => ⟨h, fun hnone => absurd hnone hfirst⟩, fun h => h.1⟩

end Check

/-! ## Redemptions -/

section Redeem

variable {bindings : List PrizeBinding} {log : List (CodeLog Pid)} {pid : Pid}

/-- **One redemption**: if the table is mutual, what the check allows keeps the redemptions of every
player exclusive. -/
lemma Exclusive.redeem (h : Exclusive bindings pid log) (hmutual : Mutual bindings)
    (request : Pid × Int32) : Exclusive bindings pid (redeem bindings log request) := by
  unfold Code.redeem
  split_ifs with hallowed
  · obtain ⟨hnew, hone, htwo⟩ := isBindingCode_iff.mp hallowed
    refine List.pairwise_append.mpr ⟨h, List.pairwise_singleton _ _, ?_⟩
    intro use huse use' huse' hpid hpid'
    obtain rfl := List.mem_singleton.mp huse'
    have hlog : ⟨request.1, use.achiveId⟩ ∈ log := by
      rw [show request.1 = use.pid from hpid'.trans hpid.symm]
      exact huse
    have hne : use.achiveId ≠ request.2 := by
      intro heq
      rw [heq] at hlog
      exact hnew hlog
    refine ⟨hne, ?_⟩
    rintro (hrow | hrow)
    · -- the batch is in the second column, and consulted there unless it is in the first as well
      by_cases hfirst : ∀ y, ⟨request.2, y⟩ ∉ bindings
      · exact htwo hfirst _ hrow hlog
      · push Not at hfirst
        obtain ⟨y, hy⟩ := hfirst
        exact hone _ (hmutual _ hrow hne ⟨_, hy, rfl⟩) hlog
    · exact hone _ hrow hlog
  · exact h

/-- **The tables for which redemptions are exclusive**: a player redeems no batch twice and no two
batches that are bound, in whatever order batches are asked for, just if the table is mutual. -/
theorem exclusive_run_iff (bindings : List PrizeBinding) (pid : Pid) :
    (∀ requests, Exclusive bindings pid (Runs.run (redeem bindings) [] requests)) ↔
      Mutual bindings := by
  constructor
  · rintro hall ⟨y, x⟩ hrow hne ⟨⟨x', b⟩, hrow', hx⟩
    obtain rfl : x' = x := hx
    by_contra hmissing
    -- the player redeems first the one and then the other
    have hfirst : redeem bindings ([] : List (CodeLog Pid)) (pid, y) = [⟨pid, y⟩] :=
      if_pos (isBindingCode_iff.mpr ⟨by simp, by simp, by simp⟩)
    have hsecond : redeem bindings [(⟨pid, y⟩ : CodeLog Pid)] (pid, x') =
        [⟨pid, y⟩, ⟨pid, x'⟩] := by
      refine if_pos (isBindingCode_iff.mpr ⟨?_, ?_, ?_⟩)
      · simpa using hne.symm
      · rintro y' hy' hused
        obtain rfl : y' = y := by simpa using hused
        exact hmissing hy'
      · exact fun hnone => absurd hrow' (hnone b)
    have hrun := hall [(pid, y), (pid, x')]
    rw [Runs.run_cons, Runs.run_cons, Runs.run_nil, hfirst, hsecond] at hrun
    have hpair := (List.pairwise_cons.mp hrun).1 ⟨pid, x'⟩ (List.mem_singleton_self _) rfl rfl
    exact hpair.2 (Or.inl hrow)
  · intro hmutual requests
    exact Runs.forall_inv_run (Exclusive bindings pid)
      (fun _ request h => h.redeem hmutual request) List.Pairwise.nil requests

/-- Batch 1 is bound to batch 2, and batch 3 to batch 1. -/
def chain : List PrizeBinding := [⟨1, 2⟩, ⟨3, 1⟩]

/-- **Not for every table**: a player who has redeemed batch 3 redeems batch 1, of which only the
row with batch 2 is consulted. -/
theorem not_exclusive_chain :
    ¬Exclusive chain "p" (Runs.run (redeem chain) [] [("p", 3), ("p", 1)]) := by
  have hrun : Runs.run (redeem chain) [] [("p", 3), ("p", 1)] = [⟨"p", 3⟩, ⟨"p", 1⟩] := by decide
  rw [hrun]
  intro h
  have hpair := (List.pairwise_cons.mp h).1 ⟨"p", 1⟩ (List.mem_singleton_self _) rfl rfl
  exact hpair.2 (Or.inl (by decide))

end Redeem

end SrgpGame.Code
