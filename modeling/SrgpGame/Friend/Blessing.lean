import Mathlib.Algebra.BigOperators.Group.Finset.Basic
import Mathlib.Data.Finset.Sort
import SrgpGame.Friend.Friendship

set_option autoImplicit false

/-!
# Blessings

A player blesses friends, a number of times a day, and each friend can be blessed a number of times
a day. The client says whom.

## Main definitions

* `FriendBlessVO`, `Blessings` — how often a player has blessed, and was blessed.
* `blessEach`, `blessFriend` — the loop over the ids of the client, and the operation.
* `BlessRight` — what is required of the operation.

## Main results

* `run_blessEach` — what the loop gives and to whom.
* `blessRight_blessFriend` — the operation is right.

## Design notes

A player without a record gets one when it is looked for, with no blessings. The record of the
player who blesses is found before the loop, and changed after it; it is one object with the one
that the loop may change. The messages to the client are left out, but the records that are made
for them are not.
-/

namespace SrgpGame.Friend

open EStateM Finset

/-! ## Records -/

/-- `FriendBlessVO`, without the prizes and the times. -/
structure FriendBlessVO where
  blessNum : Int32
  blessedNum : Int32
  deriving DecidableEq, Repr

/-- A new record. -/
def FriendBlessVO.init : FriendBlessVO := ⟨0, 0⟩

/-- `CacheFriendBlessing`: the records, by player. -/
structure Blessings where
  blessingVOs : AList fun _ : Int32 => FriendBlessVO

namespace Blessings

/-- The record of a player, a new one if there is none. -/
def getVO (s : Blessings) (pid : Int32) : FriendBlessVO := (s.blessingVOs.lookup pid).getD .init

/-- The record of a player is changed. -/
def setVO (s : Blessings) (pid : Int32) (vo : FriendBlessVO) : Blessings :=
  ⟨s.blessingVOs.insert pid vo⟩

lemma lookup_setVO (s : Blessings) (pid q : Int32) (vo : FriendBlessVO) :
    (s.setVO pid vo).blessingVOs.lookup q = if q = pid then some vo else s.blessingVOs.lookup q :=
  AList.lookup_insert_ite _ _ _ _

lemma getVO_setVO (s : Blessings) (pid q : Int32) (vo : FriendBlessVO) :
    (s.setVO pid vo).getVO q = if q = pid then vo else s.getVO q := by
  rw [getVO, lookup_setVO]
  split
  · rfl
  · rfl

end Blessings

/-- `CacheDisDataFriend`, as far as it is about blessings. -/
structure BlessCfgs where
  /-- `BLESSING_NUM`: how often a player can bless on a day. -/
  blessingNum : Int32
  /-- `BLESSED_NUM`: how often a player can be blessed on a day. -/
  blessedNum : Int32

/-- The order in which a hash set is gone through. -/
structure SetOrder where
  list : Finset Int32 → List Int32
  mem_list : ∀ set pid, pid ∈ list set ↔ pid ∈ set

/-! ## The operation -/

/-- `getFriendBlessVO`. -/
def getFriendBlessVO (pvoID : Int32) : EStateM Thrown Blessings FriendBlessVO := do
  let s ← get
  match s.blessingVOs.lookup pvoID with
  | some vo => pure vo
  | none =>
    set (s.setVO pvoID .init)
    pure .init

/-- The loop of `blessFriend` over the ids of the client: how many friends were blessed. -/
def blessEach (cfgs : BlessCfgs) (myFriends : Finset Int32) (maxBless : Int32) :
    Int32 → List Int32 → EStateM Thrown Blessings Int32
  | blessedNum, [] => pure blessedNum
  | blessedNum, pid :: pids =>
    if maxBless ≤ blessedNum then pure blessedNum
    else if pid ∈ myFriends then do
      let vo ← getFriendBlessVO pid
      if vo.blessedNum < cfgs.blessedNum then do
        modify fun s => s.setVO pid { vo with blessedNum := vo.blessedNum + 1 }
        blessEach cfgs myFriends maxBless (blessedNum + 1) pids
      else blessEach cfgs myFriends maxBless blessedNum pids
    else blessEach cfgs myFriends maxBless blessedNum pids

/-- `putCanBlessFriendMsg` looks for the records of all friends. -/
def putCanBlessFriendMsg (order : SetOrder) (myFriends : Finset Int32) :
    EStateM Thrown Blessings Unit :=
  each (fun pid => do let _ ← getFriendBlessVO pid) (order.list myFriends)

/-- **`blessFriend`**. The ids may be `null`, and so may be the list of friends. -/
def blessFriend (cfgs : BlessCfgs) (order : SetOrder) (pvo : Int32)
    (friendList : Option FriendListVO) (pids : Option (List Int32)) :
    EStateM Thrown Blessings Unit := do
  ofExcept fun _ => CodeGeneral.generalInvokeParamError.throwIfTrue (pids.getD [] = [])
  ofExcept fun _ => CodeFriend.notFriend.throwIfTrue (friendsIn friendList = ∅)
  let myBlessVO ← getFriendBlessVO pvo
  let maxBless := cfgs.blessingNum - myBlessVO.blessNum
  ofExcept fun _ => CodeFriend.maxBlessNum.throwIfTrue (maxBless ≤ 0)
  let blessedNum ← blessEach cfgs (friendsIn friendList) maxBless 0 (pids.getD [])
  modify fun s => s.setVO pvo
    { s.getVO pvo with blessNum := blessedNum + (s.getVO pvo).blessNum }
  putCanBlessFriendMsg order (friendsIn friendList)

/-! ## What is required -/

/-- By how much the numbers of blessings that the friends got have grown. -/
def increase (friends : Finset Int32) (s s' : Blessings) : ℤ :=
  ∑ pid ∈ friends, ((s'.getVO pid).blessedNum.toInt - (s.getVO pid).blessedNum.toInt)

/-- **What is required of blessing friends**, from one state to another. -/
structure BlessRight (cfgs : BlessCfgs) (pvo : Int32) (friends : Finset Int32)
    (s s' : Blessings) : Prop where
  /-- What the player has given is what the friends have got. -/
  conserved : (s'.getVO pvo).blessNum.toInt - (s.getVO pvo).blessNum.toInt = increase friends s s'
  /-- The record of anybody else is what it was. -/
  others : ∀ pid, pid ∉ friends → pid ≠ pvo →
    s'.blessingVOs.lookup pid = s.blessingVOs.lookup pid
  /-- Nobody else has blessed anybody, and a player who is no friend was not blessed. -/
  blessNum : ∀ pid, pid ≠ pvo → (s'.getVO pid).blessNum = (s.getVO pid).blessNum
  blessedNum : ∀ pid, pid ∉ friends → (s'.getVO pid).blessedNum = (s.getVO pid).blessedNum
  blessNum_le : (s.getVO pvo).blessNum ≤ cfgs.blessingNum →
    (s'.getVO pvo).blessNum ≤ cfgs.blessingNum
  blessedNum_le : ∀ pid, (s.getVO pid).blessedNum ≤ cfgs.blessedNum →
    (s'.getVO pid).blessedNum ≤ cfgs.blessedNum

/-- **What the loop may do**: it changes only how often friends were blessed, within the bound. -/
structure Blesses (cfgs : BlessCfgs) (friends : Finset Int32) (s s' : Blessings) : Prop where
  others : ∀ pid, pid ∉ friends → s'.blessingVOs.lookup pid = s.blessingVOs.lookup pid
  blessNum : ∀ pid, (s'.getVO pid).blessNum = (s.getVO pid).blessNum
  blessedNum_le : ∀ pid, (s.getVO pid).blessedNum ≤ cfgs.blessedNum →
    (s'.getVO pid).blessedNum ≤ cfgs.blessedNum

/-! ## Increases -/

section Increase

variable {friends : Finset Int32} {s s' s'' : Blessings}

/-- Records that say the same. -/
def SameVOs (s s' : Blessings) : Prop := ∀ pid, s'.getVO pid = s.getVO pid

/-- Nobody is blessed. -/
lemma increase_eq_zero (h : ∀ pid, (s'.getVO pid).blessedNum = (s.getVO pid).blessedNum) :
    increase friends s s' = 0 := by
  refine sum_eq_zero fun pid _ => ?_
  rw [h pid, sub_self]

lemma increase_of_same (h : SameVOs s s') : increase friends s s' = 0 :=
  increase_eq_zero fun pid => congrArg FriendBlessVO.blessedNum (h pid)

lemma increase_trans (s s' s'' : Blessings) :
    increase friends s s'' = increase friends s s' + increase friends s' s'' := by
  unfold increase
  rw [← sum_add_distrib]
  refine sum_congr rfl fun pid _ => ?_
  ring

/-- A friend is blessed. -/
lemma increase_setVO {pid : Int32} {vo : FriendBlessVO} (hpid : pid ∈ friends) :
    increase friends s (s.setVO pid vo) =
      vo.blessedNum.toInt - (s.getVO pid).blessedNum.toInt := by
  refine (sum_eq_single_of_mem pid hpid fun q _ hne => ?_).trans ?_
  · rw [Blessings.getVO_setVO, if_neg hne, sub_self]
  · rw [Blessings.getVO_setVO, if_pos rfl]

end Increase

/-! ## The loop -/

section Loop

variable {cfgs : BlessCfgs} {friends : Finset Int32} {s s' s'' : Blessings}

lemma Blesses.trans (h : Blesses cfgs friends s s') (h' : Blesses cfgs friends s' s'') :
    Blesses cfgs friends s s'' where
  others pid hpid := (h'.others pid hpid).trans (h.others pid hpid)
  blessNum pid := (h'.blessNum pid).trans (h.blessNum pid)
  blessedNum_le pid hle := h'.blessedNum_le pid (h.blessedNum_le pid hle)

lemma Blesses.of_same (h : SameVOs s s')
    (hothers : ∀ pid, pid ∉ friends → s'.blessingVOs.lookup pid = s.blessingVOs.lookup pid) :
    Blesses cfgs friends s s' where
  others := hothers
  blessNum pid := congrArg FriendBlessVO.blessNum (h pid)
  blessedNum_le pid hle := by rwa [h pid]

/-- A player's record is looked for. -/
lemma run_getFriendBlessVO (s : Blessings) (pid : Int32) :
    ∃ s', (getFriendBlessVO pid).run s = .ok (s.getVO pid) s' ∧ SameVOs s s' ∧
      ∀ q, q ≠ pid → s'.blessingVOs.lookup q = s.blessingVOs.lookup q := by
  rw [getFriendBlessVO, run_bind, run_get]
  dsimp only
  cases hlookup : s.blessingVOs.lookup pid with
  | some vo =>
    have hgetVO : s.getVO pid = vo := by
      rw [Blessings.getVO, hlookup]
      rfl
    rw [hgetVO]
    exact ⟨s, rfl, fun _ => rfl, fun _ _ => rfl⟩
  | none =>
    have hgetVO : s.getVO pid = .init := by
      rw [Blessings.getVO, hlookup]
      rfl
    rw [hgetVO]
    refine ⟨s.setVO pid .init, rfl, fun q => ?_, fun q hne => ?_⟩
    · rw [Blessings.getVO_setVO]
      split
      · next heq => rw [heq, hgetVO]
      · rfl
    · rw [Blessings.lookup_setVO, if_neg hne]

/-- A friend who can be blessed is. -/
lemma Blesses.setVO {pid : Int32} (hpid : pid ∈ friends)
    (hlt : (s.getVO pid).blessedNum < cfgs.blessedNum) :
    Blesses cfgs friends s (s.setVO pid
      { s.getVO pid with blessedNum := (s.getVO pid).blessedNum + 1 }) ∧
    increase friends s (s.setVO pid
      { s.getVO pid with blessedNum := (s.getVO pid).blessedNum + 1 }) = 1 := by
  have hadd : ((s.getVO pid).blessedNum + 1).toInt = (s.getVO pid).blessedNum.toInt + 1 :=
    Int32.toInt_succ_of_lt hlt
  refine ⟨⟨fun q hq => ?_, fun q => ?_, fun q hle => ?_⟩, ?_⟩
  · have hne : q ≠ pid := fun heq => hq (heq ▸ hpid)
    rw [Blessings.lookup_setVO, if_neg hne]
  · rw [Blessings.getVO_setVO]
    split
    · next heq => rw [heq]
    · rfl
  · rw [Blessings.getVO_setVO]
    split
    · rw [Int32.le_iff_toInt_le, hadd]
      rw [Int32.lt_iff_toInt_lt] at hlt
      omega
    · exact hle
  · rw [increase_setVO hpid, hadd]
    ring

/-- **The loop** counts the blessings that it gives, and does not give too many. -/
lemma run_blessEach (maxBless blessedNum : Int32) (pids : List Int32) (s : Blessings) :
    ∃ blessedNum' s', (blessEach cfgs friends maxBless blessedNum pids).run s =
        .ok blessedNum' s' ∧ Blesses cfgs friends s s' ∧
      blessedNum'.toInt = blessedNum.toInt + increase friends s s' ∧
      blessedNum.toInt ≤ blessedNum'.toInt ∧
      (blessedNum.toInt ≤ maxBless.toInt → blessedNum'.toInt ≤ maxBless.toInt) := by
  have hstop : ∀ s, increase friends s s = 0 := fun s => increase_of_same fun _ => rfl
  have hnone : ∀ s, Blesses cfgs friends s s := fun s => .of_same (fun _ => rfl) fun _ _ => rfl
  induction pids generalizing s blessedNum with
  | nil => exact ⟨blessedNum, s, rfl, hnone s, by rw [hstop, add_zero], le_rfl, id⟩
  | cons pid pids ih =>
    rw [blessEach]
    by_cases hmax : maxBless ≤ blessedNum
    · rw [if_pos hmax]
      exact ⟨blessedNum, s, rfl, hnone s, by rw [hstop, add_zero], le_rfl, id⟩
    · rw [if_neg hmax]
      by_cases hpid : pid ∈ friends
      · obtain ⟨s₁, hget, hsame, hothers⟩ := run_getFriendBlessVO s pid
        have hblesses : Blesses cfgs friends s s₁ :=
          .of_same hsame fun q hq => hothers q fun heq => hq (heq ▸ hpid)
        rw [if_pos hpid, run_bind, hget]
        dsimp only
        by_cases hlt : (s.getVO pid).blessedNum < cfgs.blessedNum
        · -- the friend is blessed
          rw [← hsame pid] at hlt ⊢
          obtain ⟨hgives, hone⟩ := Blesses.setVO hpid hlt
          rw [if_pos hlt, run_bind, run_modify]
          dsimp only
          obtain ⟨blessedNum', s', hrun, hrest, hcount, hle, hbound⟩ := ih (blessedNum + 1) _
          have hadd : (blessedNum + 1).toInt = blessedNum.toInt + 1 :=
            Int32.toInt_succ_of_lt (Int32.not_le.mp hmax)
          have hlt' := Int32.lt_iff_toInt_lt.mp (Int32.not_le.mp hmax)
          refine ⟨blessedNum', s', hrun, (hblesses.trans hgives).trans hrest, ?_, ?_, fun _ => ?_⟩
          · rw [hcount, hadd, increase_trans s s₁ s', increase_of_same hsame,
              increase_trans s₁ (s₁.setVO pid { s₁.getVO pid with
                blessedNum := (s₁.getVO pid).blessedNum + 1 }) s', hone]
            ring
          · omega
          · exact hbound (by omega)
        · rw [if_neg hlt]
          obtain ⟨blessedNum', s', hrun, hrest, hcount, hle, hbound⟩ := ih blessedNum s₁
          refine ⟨blessedNum', s', hrun, hblesses.trans hrest, ?_, hle, hbound⟩
          rw [hcount, increase_trans s s₁ s', increase_of_same hsame, zero_add]
      · rw [if_neg hpid]
        exact ih blessedNum s

end Loop

/-! ## The operation is right -/

section Right

variable {cfgs : BlessCfgs} {friends : Finset Int32} {pvo : Int32} {s s' : Blessings}

/-- Records are looked for. -/
lemma run_putCanBlessFriendMsg (order : SetOrder) (friends : Finset Int32) (s : Blessings) :
    ∃ s', (putCanBlessFriendMsg order friends).run s = .ok () s' ∧ SameVOs s s' ∧
      ∀ pid, pid ∉ friends → s'.blessingVOs.lookup pid = s.blessingVOs.lookup pid := by
  have heach : ∀ (pids : List Int32) (s : Blessings), ∃ s',
      (each (fun pid => do let _ ← getFriendBlessVO pid) pids).run s = .ok () s' ∧ SameVOs s s' ∧
        ∀ pid, pid ∉ pids → s'.blessingVOs.lookup pid = s.blessingVOs.lookup pid := by
    intro pids
    induction pids with
    | nil => exact fun s => ⟨s, rfl, fun _ => rfl, fun _ _ => rfl⟩
    | cons pid pids ih =>
      intro s
      obtain ⟨s₁, hget, hsame, hothers⟩ := run_getFriendBlessVO s pid
      obtain ⟨s', hrest, hsame', hothers'⟩ := ih s₁
      refine ⟨s', ?_, fun q => (hsame' q).trans (hsame q), fun q hq => ?_⟩
      · refine run_each_cons_eq_ok.mpr ⟨s₁, ?_, hrest⟩
        rw [run_bind, hget]
        rfl
      · rw [List.mem_cons, not_or] at hq
        exact (hothers' q hq.2).trans (hothers q hq.1)
  obtain ⟨s', hrun, hsame, hothers⟩ := heach (order.list friends) s
  exact ⟨s', hrun, hsame, fun pid hpid => hothers pid (by rwa [order.mem_list])⟩

/-- Nobody is blessed. -/
lemma BlessRight.of_same (h : SameVOs s s')
    (hothers : ∀ pid, pid ∉ friends → pid ≠ pvo →
      s'.blessingVOs.lookup pid = s.blessingVOs.lookup pid) : BlessRight cfgs pvo friends s s' where
  conserved := by rw [increase_of_same h, h pvo, sub_self]
  others := hothers
  blessNum pid _ := congrArg FriendBlessVO.blessNum (h pid)
  blessedNum pid _ := congrArg FriendBlessVO.blessedNum (h pid)
  blessNum_le hle := by rwa [h pvo]
  blessedNum_le pid hle := by rwa [h pid]

/-- What the player has given comes into the player's own record after the loop. -/
lemma Blesses.right (h : Blesses cfgs friends s s') (pvo blessNum : Int32)
    (hconserved : blessNum.toInt - (s.getVO pvo).blessNum.toInt = increase friends s s')
    (hle : blessNum ≤ cfgs.blessingNum) :
    BlessRight cfgs pvo friends s (s'.setVO pvo { s'.getVO pvo with blessNum := blessNum }) := by
  have hblessed : ∀ pid, ((s'.setVO pvo { s'.getVO pvo with blessNum := blessNum }).getVO
      pid).blessedNum = (s'.getVO pid).blessedNum := by
    intro pid
    rw [Blessings.getVO_setVO]
    split
    · next heq => rw [heq]
    · rfl
  have hmine : (s'.setVO pvo { s'.getVO pvo with blessNum := blessNum }).getVO pvo =
      { s'.getVO pvo with blessNum := blessNum } := by
    rw [Blessings.getVO_setVO, if_pos rfl]
  refine ⟨?_, fun pid hpid hne => ?_, fun pid hne => ?_, fun pid hpid => ?_, fun _ => ?_,
    fun pid hpid => ?_⟩
  · rw [hmine, increase_trans s s' _, increase_eq_zero hblessed, add_zero]
    exact hconserved
  · rw [Blessings.lookup_setVO, if_neg hne]
    exact h.others pid hpid
  · rw [Blessings.getVO_setVO, if_neg hne]
    exact h.blessNum pid
  · rw [hblessed]
    unfold Blessings.getVO
    rw [h.others pid hpid]
  · rw [hmine]
    exact hle
  · rw [hblessed]
    exact h.blessedNum_le pid hpid

/-- Records are looked for before and after. -/
lemma BlessRight.congr {s₁ s₂ : Blessings} (h : BlessRight cfgs pvo friends s₁ s₂)
    (hsame : SameVOs s s₁) (hsame' : SameVOs s₂ s')
    (hothers : ∀ pid, pid ∉ friends → pid ≠ pvo →
      s₁.blessingVOs.lookup pid = s.blessingVOs.lookup pid)
    (hothers' : ∀ pid, pid ∉ friends → pid ≠ pvo →
      s'.blessingVOs.lookup pid = s₂.blessingVOs.lookup pid) :
    BlessRight cfgs pvo friends s s' where
  conserved := by
    rw [increase_trans s s₁ s', increase_of_same hsame, zero_add, increase_trans s₁ s₂ s',
      increase_of_same hsame', add_zero, hsame' pvo, ← hsame pvo]
    exact h.conserved
  others pid hpid hne :=
    ((hothers' pid hpid hne).trans (h.others pid hpid hne)).trans (hothers pid hpid hne)
  blessNum pid hne := by
    rw [hsame' pid, ← hsame pid]
    exact h.blessNum pid hne
  blessedNum pid hpid := by
    rw [hsame' pid, ← hsame pid]
    exact h.blessedNum pid hpid
  blessNum_le hle := by
    rw [hsame' pvo]
    exact h.blessNum_le (by rwa [hsame pvo])
  blessedNum_le pid hle := by
    rw [hsame' pid]
    exact h.blessedNum_le pid (by rwa [hsame pid])

/-- **Blessing friends** costs the player as many blessings as the friends get, changes nobody else,
and keeps both bounds. The number of blessings on a day is not negative, or the player has not
exceeded it. -/
theorem blessRight_blessFriend (cfgs : BlessCfgs) (order : SetOrder) (pvo : Int32)
    (friendList : Option FriendListVO) (pids : Option (List Int32)) (s : Blessings)
    (hcfgs : 0 ≤ cfgs.blessingNum ∨ (s.getVO pvo).blessNum ≤ cfgs.blessingNum) :
    BlessRight cfgs pvo (friendsIn friendList) s
      ((blessFriend cfgs order pvo friendList pids).finalState s) := by
  have hrefl : BlessRight cfgs pvo (friendsIn friendList) s s :=
    .of_same (fun _ => rfl) fun _ _ _ => rfl
  rw [blessFriend, finalState_ofExcept_bind]
  split
  case h_2 => exact hrefl
  rw [finalState_ofExcept_bind]
  split
  case h_2 => exact hrefl
  obtain ⟨s₁, hget, hsame, hothers⟩ := run_getFriendBlessVO s pvo
  rw [finalState_bind, hget]
  dsimp only
  rw [finalState_ofExcept_bind]
  split
  case h_2 => exact .of_same hsame fun pid _ hne => hothers pid hne
  rename_i hmax
  -- the difference is what it is in the integers, since it is positive
  have hpos := Int32.not_le.mp (ICode.throwIfTrue_eq_ok.mp hmax)
  rw [Int32.le_iff_toInt_le, Int32.le_iff_toInt_le, Int32.toInt_zero] at hcfgs
  rw [Int32.lt_iff_toInt_lt, Int32.toInt_zero] at hpos
  have hnum := (s.getVO pvo).blessNum.toInt_lt
  have hnum' := (s.getVO pvo).blessNum.le_toInt
  have hbound := cfgs.blessingNum.toInt_lt
  have hdiff : (cfgs.blessingNum - (s.getVO pvo).blessNum).toInt =
      cfgs.blessingNum.toInt - (s.getVO pvo).blessNum.toInt := by
    have hite := Int32.toInt_sub_eq_ite (a := cfgs.blessingNum) (b := (s.getVO pvo).blessNum)
      (by omega)
    split at hite
    · exact hite
    · omega
  obtain ⟨blessedNum, s₂, hloop, hblesses, hcount, hnonneg, hle⟩ := run_blessEach
    (cfgs.blessingNum - (s.getVO pvo).blessNum) 0 (pids.getD []) s₁
  rw [finalState_bind, hloop]
  dsimp only
  rw [finalState_modify_bind]
  have hmine : (s₂.getVO pvo).blessNum = (s₁.getVO pvo).blessNum := hblesses.blessNum pvo
  have hmine' : (s₁.getVO pvo).blessNum = (s.getVO pvo).blessNum :=
    congrArg FriendBlessVO.blessNum (hsame pvo)
  rw [Int32.toInt_zero, zero_add] at hcount
  rw [Int32.toInt_zero] at hnonneg hle
  have hgiven := hle hpos.le
  rw [hdiff] at hgiven
  have hadd : (blessedNum + (s.getVO pvo).blessNum).toInt =
      blessedNum.toInt + (s.getVO pvo).blessNum.toInt :=
    Int32.toInt_add_of_fits (by omega) (by omega)
  have hright := hblesses.right pvo (blessedNum + (s₂.getVO pvo).blessNum) ?_ ?_
  · obtain ⟨s₄, hmsg, hsame', hothers'⟩ := run_putCanBlessFriendMsg order (friendsIn friendList)
      (s₂.setVO pvo { s₂.getVO pvo with blessNum := blessedNum + (s₂.getVO pvo).blessNum })
    rw [finalState_eq_of_ok hmsg]
    exact hright.congr hsame hsame' (fun pid _ hne => hothers pid hne)
      fun pid hpid _ => hothers' pid hpid
  · rw [hmine, hmine', hadd, ← hcount]
    ring
  · rw [hmine, hmine', Int32.le_iff_toInt_le, hadd]
    omega

end Right

/-- A hash set that is gone through in order. -/
def sorted : SetOrder := ⟨fun set => set.sort fun a b => a ≤ b, fun _ _ => Finset.mem_sort _⟩

/-- The client says some ids more than once, and one that is no friend's. -/
theorem blessRight_blessFriend_again :
    BlessRight ⟨3, 3⟩ 1 {2, 3} ⟨∅⟩ ((blessFriend ⟨3, 3⟩ sorted 1 (some ⟨{2, 3}, ∅, []⟩)
      (some [2, 2, 4, 3, 2, 3])).finalState ⟨∅⟩) :=
  blessRight_blessFriend ⟨3, 3⟩ sorted 1 (some ⟨{2, 3}, ∅, []⟩) (some [2, 2, 4, 3, 2, 3]) ⟨∅⟩
    (.inl (by decide))

end SrgpGame.Friend
