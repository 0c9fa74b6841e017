import Mathlib.Data.Finset.Card
import Mathlib.Data.List.Dedup
import SrgpGame.Core.Codes
import SrgpGame.Lib.Method

set_option autoImplicit false

/-!
# Friends

A player asks another one to be friends; when that one accepts, both are friends. A request stays
in a cache with its status as long as the server runs. Besides, a player has a list of friends and
a list of blocked players. This list is saved with the player, and is in memory only while the
player is.

## Main definitions

* `FriendReqVO`, `FriendListVO`, `FriendServer` — a request, the list of a player, and the server.
* `getSrcOrTgt`, `statusChg`, `getFriendByStatusSrcOrTgt` — the methods of `CacheFriendReq`.
* `addNewFriend`, `addNewFriendFeedback`, `deleteFriend`, `addFriend2BlackList`,
  `addRemoveFromBlackList` — the operations of `FriendsBOImpl`.
* `saveAll`, `buildAsLoad` — the saving of a list, and the loading of a player.

## Design notes

The tables of `CacheFriendReq`, one for each status, are one map whose keys begin with the status; a
table that is missing is an empty one. A request is one object, known to the cache and to the method
that changes it; its id is the key of the cache. A player has at most one saved list, so the saved
lists are a map by player. What other caches know of the players, and the configured sizes, are an
input of each operation, since they change without it. The messages to the client, the mail to a new
friend and the saved requests, which are read when the server starts, are left out.
-/

namespace SrgpGame.Friend

open EStateM

/-! ## Data -/

/-- The statuses of a request. -/
inductive Status where
  | create
  | requestSend
  | reject
  | accept
  | delete
  deriving DecidableEq, Repr

/-- `FriendReqVO`. -/
structure FriendReqVO where
  id : Int32
  src : Int32
  tgt : Int32
  status : Status
  deriving DecidableEq, Repr

/-- `FriendListVO`, without the ids of the row and of the player. -/
structure FriendListVO where
  myFriends : Finset Int32
  blackList : Finset Int32
  nearCharPlayer : List Int32
  deriving DecidableEq

/-- A new list. -/
def FriendListVO.init : FriendListVO := ⟨∅, ∅, []⟩

/-- The server, as far as friends are concerned. -/
structure FriendServer where
  /-- `CachePlayer`: the players in memory, each with a list or without. -/
  players : AList fun _ : Int32 => Option FriendListVO
  /-- The saved lists, by player. -/
  friendListDAO : AList fun _ : Int32 => FriendListVO
  /-- `CacheFriendReq.allReqs`, by id. -/
  allReqs : AList fun _ : Int32 => FriendReqVO
  /-- `CacheFriendReq.reqsByStatus`, by status, source and target. -/
  reqsByStatus : AList fun _ : Status × Int32 × Int32 => Int32

/-- The server before there are players. -/
def FriendServer.empty : FriendServer := ⟨∅, ∅, ∅, ∅⟩

/-- What an operation reads elsewhere. -/
structure Surroundings where
  /-- `CachePlayerBase.getBaseInfo` finds the player. -/
  hasBaseInfo : Int32 → Bool
  /-- `CachePlayerBase.getPnameByPid` finds the player. -/
  hasPname : Int32 → Bool
  friendListSize : Int32
  blackListSize : Int32

/-- `CachePlayer.getPlayerByPid` finds the player. -/
def FriendServer.loaded (s : FriendServer) (pid : Int32) : Bool := (s.players.lookup pid).isSome

/-- `getFriendList` of a player in memory. -/
def FriendServer.getFriendList (s : FriendServer) (pid : Int32) : Option FriendListVO :=
  (s.players.lookup pid).join

/-- `size` of a set, in an `int`. -/
def sizeOf (set : Finset Int32) : Int32 := Int32.ofNat set.card

/-- The list of a player in memory is changed. -/
def FriendServer.setFriendList (s : FriendServer) (pid : Int32) (friendList : FriendListVO) :
    FriendServer :=
  { s with players := s.players.insert pid (some friendList) }

/-- `friendListDAO.save`. -/
def FriendServer.saveFriendList (s : FriendServer) (pid : Int32) (friendList : FriendListVO) :
    FriendServer :=
  { s with friendListDAO := s.friendListDAO.insert pid friendList }

/-- `CacheFriendReq.add2Cache`. -/
def FriendServer.add2Cache (s : FriendServer) (vo : FriendReqVO) : FriendServer :=
  { s with
    allReqs := s.allReqs.insert vo.id vo
    reqsByStatus := s.reqsByStatus.insert (vo.status, vo.src, vo.tgt) vo.id }

/-- `casStatus` of a request in the cache, with the removal from the table of the old status. -/
def FriendServer.casStatus (s : FriendServer) (vo : FriendReqVO) (update : Status) : FriendServer :=
  { s with
    allReqs := s.allReqs.insert vo.id { vo with status := update }
    reqsByStatus := s.reqsByStatus.erase (vo.status, vo.src, vo.tgt) }

/-! ## The cache of requests -/

/-- `statusChg`. -/
def statusChg (vo : FriendReqVO) (expect update : Status) (removeOnly : Bool) :
    EStateM Thrown FriendServer Bool :=
  if vo.status = expect then do
    modify fun s => s.casStatus vo update
    if !removeOnly then modify fun s => s.add2Cache { vo with status := update }
    pure true
  else pure false

/-- `get` in the table of a status. A request whose status is another one is removed from it. -/
def getByStatus (src tgt : Int32) (expectStatus : Status) :
    EStateM Thrown FriendServer (Option FriendReqVO) :=
  if src ≤ 0 ∨ tgt ≤ 0 then pure none
  else do
    let s ← get
    match s.reqsByStatus.lookup (expectStatus, src, tgt) with
    | none => pure none
    | some voID =>
      match s.allReqs.lookup voID with
      | none => throw .nullPointer
      | some vo =>
        if vo.status ≠ expectStatus then do
          set { s with reqsByStatus := s.reqsByStatus.erase (expectStatus, src, tgt) }
          pure none
        else pure (some vo)

/-- The loop of `get` over the tables. -/
def getIn (src tgt : Int32) (unknown : Bool) :
    List Status → EStateM Thrown FriendServer (Option FriendReqVO)
  | [] => pure none
  | status :: statuses => do
    match ← getByStatus src tgt status with
    | some vo => pure (some vo)
    | none =>
      let vo ← (if unknown then getByStatus tgt src status else pure none)
      match vo with
      | some vo => pure (some vo)
      | none => getIn src tgt unknown statuses

/-- The private `get`: in all tables, with both directions if `unknown`. -/
def getReq (src tgt : Int32) (unknown : Bool) :
    EStateM Thrown FriendServer (Option FriendReqVO) :=
  if src ≤ 0 ∨ tgt ≤ 0 then pure none
  else getIn src tgt unknown [.create, .requestSend, .reject, .accept, .delete]

/-- **`getSrcOrTgt`**: a request between two players. -/
def getSrcOrTgt (src tgt : Int32) : EStateM Thrown FriendServer (Option FriendReqVO) :=
  getReq src tgt true

/-- **`get`**: a request of one player to another. -/
def getSrcTgt (src tgt : Int32) : EStateM Thrown FriendServer (Option FriendReqVO) :=
  getReq src tgt false

/-- `getFriendByStatusSrcOrTgt`: who has a request of a status with a player. -/
def getFriendByStatusSrcOrTgt (s : FriendServer) (status : Status) (srcOrTgt : Int32) :
    List Int32 :=
  let keys := s.reqsByStatus.keys.filter fun key => key.1 = status
  let row := (keys.filter fun key => key.2.1 = srcOrTgt).map fun key => key.2.2
  let column := (keys.filter fun key => key.2.2 = srcOrTgt).map fun key => key.2.1
  (row ++ column).dedup

/-! ## Requests and friends -/

/-- The checks of `addNewFriend` in the list of the player, if there is one. -/
def checkNewFriend (env : Surroundings) (me pid : Int32) (s : FriendServer) : Except Thrown Unit :=
  match s.getFriendList me with
  | none => .ok ()
  | some friendList => do
    CodeFriend.inMyFriendList.throwIfTrue (pid ∈ friendList.myFriends)
    CodeFriend.inMyBlackList.throwIfTrue (pid ∈ friendList.blackList)
    CodeFriend.maxFriendListSize.throwIfTrue (env.friendListSize ≤ sizeOf friendList.myFriends)

/-- **`addNewFriend`**; `id` is the primary key that a new request gets. -/
def addNewFriend (env : Surroundings) (id me pid : Int32) : EStateM Thrown FriendServer Unit := do
  ofExcept fun _ => CodePlayer.playerNotFindPlayer.throwIfTrue (!env.hasBaseInfo pid ∨ me = pid)
  ofExcept (checkNewFriend env me pid)
  match ← getSrcOrTgt me pid with
  | some _ => pure ()
  | none =>
    ofExcept fun s => CodeFriend.notAllowedAdd.throwIfTrue
      ((s.getFriendList pid).any fun list => me ∈ list.blackList)
    modify fun s => s.add2Cache { id := id, src := me, tgt := pid, status := .requestSend }

/-- `doFriendPid2List`. -/
def doFriendPid2List (pid friend : Int32) : EStateM Thrown FriendServer Unit := do
  let s ← get
  let friendList := (s.getFriendList pid).getD .init
  let friendList := { friendList with myFriends := insert friend friendList.myFriends }
  modify fun s => (s.setFriendList pid friendList).saveFriendList pid friendList

/-- The checks before a request is accepted: whether the other player, in memory or not, has blocked
this one or has too many friends. -/
def checkAccept (env : Surroundings) (me tgtPid : Int32) (s : FriendServer) :
    Except Thrown Unit := do
  let tgtPlayerFriendSize ←
    if s.loaded tgtPid then
      match s.getFriendList tgtPid with
      | none => .ok 0
      | some tgtFlist => do
        CodeFriend.inMyBlackList.throwIfTrue (me ∈ tgtFlist.blackList)
        .ok (sizeOf tgtFlist.myFriends)
    else .ok (Int32.ofNat (getFriendByStatusSrcOrTgt s .accept tgtPid).length)
  CodeFriend.maxFriendListSizeOther.throwIfTrue (env.friendListSize ≤ tgtPlayerFriendSize)

/-- **`addNewFriendFeedback`**. -/
def addNewFriendFeedback (env : Surroundings) (me tgtPid : Int32) (accept : Bool) :
    EStateM Thrown FriendServer Unit := do
  ofExcept fun _ => CodeFriend.badReq.throwIfTrue (!env.hasPname tgtPid ∨ me = tgtPid)
  match ← getSrcTgt tgtPid me with
  | none => throw (.logic CodeFriend.badReq.get)
  | some req =>
    ofExcept fun _ => CodeFriend.badReq.throwIfTrue (req.src ≠ tgtPid)
    ofExcept fun s => CodeFriend.inMyBlackList.throwIfTrue
      ((s.getFriendList me).any fun myFlist => tgtPid ∈ myFlist.blackList)
    if accept then
      ofExcept (checkAccept env me tgtPid)
      if ← statusChg req .requestSend .accept false then
        doFriendPid2List me tgtPid
        let s ← get
        if s.loaded tgtPid then doFriendPid2List tgtPid me
    else
      if ← statusChg req .requestSend .reject false then
        let _ ← statusChg { req with status := .reject } .reject .delete true

/-! ## Removing friends -/

/-- `doDeleteFriend`; the list of the player is `null` if it is missing. -/
def doDeleteFriend (me tgtPid : Int32) (vo : FriendReqVO) : EStateM Thrown FriendServer Unit := do
  let s ← get
  match s.getFriendList me with
  | none => throw .nullPointer
  | some myFriendList =>
    let chg ← statusChg vo vo.status .delete true
    modify fun s =>
      if chg then
        s.setFriendList me { myFriendList with myFriends := myFriendList.myFriends.erase tgtPid }
      else s
    let s ← get
    if s.loaded tgtPid then
      match s.getFriendList tgtPid with
      | none => throw .nullPointer
      | some friendList =>
        modify fun s => s.setFriendList tgtPid
          { friendList with myFriends := friendList.myFriends.erase me }

/-- **`deleteFriend`**. The list is not saved. -/
def deleteFriend (me pid : Int32) : EStateM Thrown FriendServer Unit := do
  match ← getSrcOrTgt me pid with
  | none => pure ()
  | some vo => doDeleteFriend me pid vo

/-- The list of a player, a new one if there is none. -/
def getOrNewFriendList (me : Int32) : EStateM Thrown FriendServer FriendListVO := do
  let s ← get
  match s.getFriendList me with
  | some friendList => pure friendList
  | none =>
    modify fun s => s.setFriendList me .init
    pure .init

/-- The part of `addFriend2BlackList` for a friend. -/
def removeFriend (me pid : Int32) (friendList : FriendListVO) :
    EStateM Thrown FriendServer Unit :=
  if pid ∈ friendList.myFriends then do
    modify fun s => s.setFriendList me
      { friendList with myFriends := friendList.myFriends.erase pid }
    match ← getSrcOrTgt me pid with
    | none => pure ()
    | some reqVO => doDeleteFriend me pid reqVO
  else pure ()

/-- The last part of `addFriend2BlackList`: the player is blocked, and the list is saved. -/
def blockPlayer (me pid : Int32) : EStateM Thrown FriendServer Unit := do
  let s ← get
  match s.getFriendList me with
  | none => throw .nullPointer
  | some friendList =>
    let friendList := { friendList with
      nearCharPlayer := friendList.nearCharPlayer.erase pid
      blackList := insert pid friendList.blackList }
    modify fun s => (s.setFriendList me friendList).saveFriendList me friendList

/-- **`addFriend2BlackList`**. -/
def addFriend2BlackList (env : Surroundings) (me pid : Int32) :
    EStateM Thrown FriendServer Unit := do
  ofExcept fun _ => CodePlayer.playerNotFindPlayer.throwIfTrue (!env.hasPname pid)
  ofExcept fun s => CodeFriend.maxFriendListSize.throwIfTrue
    ((s.getFriendList me).any fun friendList => env.blackListSize ≤ sizeOf friendList.blackList)
  let friendList ← getOrNewFriendList me
  removeFriend me pid friendList
  blockPlayer me pid

/-- **`addRemoveFromBlackList`**. -/
def addRemoveFromBlackList (me pid : Int32) : EStateM Thrown FriendServer Unit := do
  let s ← get
  match s.getFriendList me with
  | none => pure ()
  | some friendList =>
    let friendList := { friendList with blackList := friendList.blackList.erase pid }
    modify fun s => (s.setFriendList me friendList).saveFriendList me friendList

/-! ## Saving and loading -/

/-- **`saveAll`**. -/
def saveAll (pid : Int32) : EStateM Thrown FriendServer Unit := do
  let s ← get
  match s.getFriendList pid with
  | none => pure ()
  | some friendList => modify fun s => s.saveFriendList pid friendList

/-- The player leaves the memory. -/
def removePlayer (pid : Int32) : EStateM Thrown FriendServer Unit :=
  modify fun s => { s with players := s.players.erase pid }

/-- `checkAndRemoveReq`, with the players that are left in `reqList`. -/
def checkAndRemoveReq (player : Int32) (vo : FriendListVO) (remove : Bool) :
    List Int32 → EStateM Thrown FriendServer (List Int32)
  | [] => pure []
  | pid :: reqList => do
    if pid ∈ vo.blackList then
      match ← getSrcOrTgt pid player with
      | none =>
        let reqList ← checkAndRemoveReq player vo remove reqList
        pure (pid :: reqList)
      | some rvo =>
        let _ ← statusChg rvo rvo.status .delete true
        let reqList ← checkAndRemoveReq player vo remove reqList
        pure (if remove then reqList else pid :: reqList)
    else
      let reqList ← checkAndRemoveReq player vo remove reqList
      pure (pid :: reqList)

/-- **`buildAsLoad`**: a saved list gets the friends whose requests were accepted meanwhile. A
player without one gets none. -/
def buildAsLoad (player : Int32) : EStateM Thrown FriendServer Unit := do
  let s ← get
  match s.friendListDAO.lookup player with
  | none => modify fun s => { s with players := s.players.insert player none }
  | some vo =>
    modify fun s => s.setFriendList player vo
    let list := getFriendByStatusSrcOrTgt s .accept player
    let reqList := getFriendByStatusSrcOrTgt s .requestSend player
    let _ ← checkAndRemoveReq player vo false reqList
    let list ← checkAndRemoveReq player vo true list
    modify fun s => s.setFriendList player { vo with myFriends := vo.myFriends ∪ list.toFinset }

end SrgpGame.Friend
