import SrgpGame.Core.Codes
import SrgpGame.Guild.GuildExp
import SrgpGame.Guild.RightLevel
import SrgpGame.Lib.Roster

set_option autoImplicit false

/-!
# Guilds, members and requests

A guild keeps the rights of its members. The record of a player names the guild that the player is
in. Both are kept in `CacheGuild`, together with the requests to join.

## Main definitions

* `GuildVO`, `GuildMemberVO` — a guild, and the record of a player.
* `CacheGuild` — the guilds, the records and the requests.
* `CacheGuild.chgRight`, `setGuildID`, … — the changes that the methods make.
* `CacheGuild.roster` — the guilds and records as a roster.

## Main results

* `roster_chgRight`, `roster_setGuildID`, … — the changes, as changes of the roster.

## Implementation notes

A guild that was dissolved is no longer found by its id, but the list of guilds without requests may
still refer to it: `guilds` has all guilds that ever were, and `allGuildByID` the ids of those that
are found. The caches of names and of recommended guilds, the invitations and the log are left out:
no method modelled here reads them.
-/

namespace SrgpGame.Guild

/-! ## Guilds -/

/-- `GuildVO.status`. -/
inductive Status where
  | NORMAL
  | IN_DISSOLUTION
  | DISSOLUTION_END
  deriving DecidableEq, Repr

/-- `GuildVO`, with the level and the experience. -/
structure GuildVO extends GuildExp.GuildVO where
  exp := 0
  owner : ℤ
  enterNeedReq : Bool
  status : Status := .NORMAL
  dissolutionTime : ℤ := 0
  /-- The ids of the levels of the members. -/
  memberRights : AList (fun _ : ℤ => ℤ) := ∅

/-- `GuildMemberVO`. -/
structure GuildMemberVO where
  /-- The guild; no guild has an id that is not positive. -/
  guildID : ℤ
  nextEnterGuildTime : ℤ := 0

/-- `GuildReqVO.status`. -/
inductive ReqStatus where
  | STATUS_NORMAL
  | STATUS_ACCEPT
  | STATUS_REFUSE
  | STATUS_DONE
  deriving DecidableEq, Repr

/-- Whether a member has a right. -/
def GuildVO.hasRight (guildVO : GuildVO) (pid : ℤ) (right : GuildRight) : Bool :=
  match (guildVO.memberRights.lookup pid).bind RightLevel.get with
  | none => false
  | some rightLevel => rightLevel.haveRight right

/-- A member has a right if its level has it. -/
lemma GuildVO.hasRight_iff {guildVO : GuildVO} {pid : ℤ} {right : GuildRight} :
    guildVO.hasRight pid right = true ↔ ∃ level : RightLevel,
      guildVO.memberRights.lookup pid = some level.getId ∧ level.haveRight right = true := by
  rw [hasRight]
  cases hlookup : guildVO.memberRights.lookup pid with
  | none => simp
  | some id =>
    show (match RightLevel.get id with
      | none => false
      | some rightLevel => rightLevel.haveRight right) = true ↔ _
    cases hget : RightLevel.get id with
    | none =>
      refine iff_of_false Bool.false_ne_true ?_
      rintro ⟨level, hid, -⟩
      obtain rfl := Option.some.inj hid
      rw [RightLevel.get_eq_some.mpr rfl] at hget
      cases hget
    | some rightLevel =>
      obtain rfl := RightLevel.get_eq_some.mp hget
      constructor
      · exact fun h => ⟨rightLevel, rfl, h⟩
      · rintro ⟨level, hid, h⟩
        have hlevel := RightLevel.get_eq_some.mpr (Option.some.inj hid).symm
        rw [RightLevel.get_eq_some.mpr rfl] at hlevel
        exact Option.some.inj hlevel ▸ h

/-- A guild as a group. -/
def GuildVO.group (guildVO : GuildVO) : Roster.Group ℤ ℤ :=
  ⟨guildVO.owner, fun pid => guildVO.memberRights.lookup pid⟩

/-! ## The caches -/

/-- `CacheGuild`, with the counter of guild ids. -/
structure CacheGuild where
  /-- The last id that a guild was given. -/
  guildDBID : ℤ
  /-- All guilds, also those that were dissolved. -/
  guilds : AList (fun _ : ℤ => GuildVO) := ∅
  /-- The ids of the guilds that are found. -/
  allGuildByID : List ℤ := []
  /-- The guilds that can be joined without a request. -/
  noReqGuild : List ℤ := []
  inDissolutionGuild : List ℤ := []
  allGuildMemberByPID : AList (fun _ : ℤ => GuildMemberVO) := ∅
  /-- The requests, by player and guild. -/
  allReqsCache : AList (fun _ : ℤ × ℤ => ReqStatus) := ∅

namespace CacheGuild

/-- `CacheGuild.getGuildByID`. -/
def getGuildByID (cache : CacheGuild) (guildID : ℤ) : Option GuildVO :=
  if guildID ∈ cache.allGuildByID then cache.guilds.lookup guildID else none

/-- `CacheGuild.getGuildMemberVO`. -/
def getGuildMemberVO (cache : CacheGuild) (pid : ℤ) : Option GuildMemberVO :=
  cache.allGuildMemberByPID.lookup pid

/-- `CacheGuild.getReq`. -/
def getReq (cache : CacheGuild) (pid guildID : ℤ) : Option ReqStatus :=
  cache.allReqsCache.lookup (pid, guildID)

/-- `CacheGuild.getGuildReqedSize`. -/
def getGuildReqedSize (cache : CacheGuild) (guildID : ℤ) : ℤ :=
  (cache.allReqsCache.keys.filter fun req => req.2 = guildID).length

/-- Whether a player is in a guild that is found. -/
def inGuild (cache : CacheGuild) (pid : ℤ) : Bool :=
  match cache.getGuildMemberVO pid with
  | none => false
  | some memberVO => (cache.getGuildByID memberVO.guildID).isSome

/-! ## Changes -/

/-- Saves a new guild, which gets the next id. -/
def newGuild (cache : CacheGuild) (guildVO : GuildVO) : CacheGuild :=
  { cache with
    guildDBID := cache.guildDBID + 1
    guilds := cache.guilds.insert (cache.guildDBID + 1) guildVO }

/-- Changes a guild. -/
def updateGuild (cache : CacheGuild) (guildID : ℤ) (f : GuildVO → GuildVO) : CacheGuild :=
  match cache.guilds.lookup guildID with
  | none => cache
  | some guildVO => { cache with guilds := cache.guilds.insert guildID (f guildVO) }

/-- `GuildBOImpl.chgRight`. -/
def chgRight (cache : CacheGuild) (guildID pid : ℤ) (rightLevel : RightLevel) : CacheGuild :=
  cache.updateGuild guildID fun guildVO =>
    { guildVO with memberRights := guildVO.memberRights.insert pid rightLevel.getId }

/-- Takes the rights of a player in a guild away. -/
def removeRight (cache : CacheGuild) (guildID pid : ℤ) : CacheGuild :=
  cache.updateGuild guildID fun guildVO =>
    { guildVO with memberRights := guildVO.memberRights.erase pid }

/-- `GuildVO.setOwner`. -/
def setOwner (cache : CacheGuild) (guildID owner : ℤ) : CacheGuild :=
  cache.updateGuild guildID fun guildVO => { guildVO with owner := owner }

/-- Sets the guild of a player, whose record is made if there is none. -/
def setGuildID (cache : CacheGuild) (pid guildID : ℤ) : CacheGuild :=
  let memberVO := (cache.getGuildMemberVO pid).getD ⟨guildID, 0⟩
  { cache with allGuildMemberByPID :=
      cache.allGuildMemberByPID.insert pid { memberVO with guildID := guildID } }

/-- Sets the guild of a player who has a record to none. -/
def leaveGuild (cache : CacheGuild) (pid : ℤ) : CacheGuild :=
  if (cache.getGuildMemberVO pid).isSome then cache.setGuildID pid (-1) else cache

/-- Sets the time before which a player who has a record cannot enter a guild. -/
def setNextEnterGuildTime (cache : CacheGuild) (pid time : ℤ) : CacheGuild :=
  match cache.getGuildMemberVO pid with
  | none => cache
  | some memberVO =>
    { cache with allGuildMemberByPID :=
        cache.allGuildMemberByPID.insert pid { memberVO with nextEnterGuildTime := time } }

/-- `CacheGuild.cacheReq`, and changes of the status of a request. -/
def cacheReq (cache : CacheGuild) (pid guildID : ℤ) (status : ReqStatus) : CacheGuild :=
  { cache with allReqsCache := cache.allReqsCache.insert (pid, guildID) status }

/-- `CacheGuild.removeReq` of a request. -/
def removeReq (cache : CacheGuild) (pid guildID : ℤ) : CacheGuild :=
  { cache with allReqsCache := cache.allReqsCache.erase (pid, guildID) }

/-- `CacheGuild.removeReq` of all requests of a player. -/
def removeReqs (cache : CacheGuild) (pid : ℤ) : CacheGuild :=
  { cache with allReqsCache := cache.allReqsCache.filterKeys fun req => req.1 ≠ pid }

/-- `CacheGuild.addCache`. -/
def addCache (cache : CacheGuild) (guildID : ℤ) : CacheGuild :=
  { cache with allGuildByID := guildID :: cache.allGuildByID }

/-- `CacheGuild.removeCache`. -/
def removeCache (cache : CacheGuild) (guildID : ℤ) : CacheGuild :=
  { cache with allGuildByID := cache.allGuildByID.filter (· ≠ guildID) }

/-! ## The roster -/

/-- The guild of a player's record. -/
def homeOf (cache : CacheGuild) (pid : ℤ) : Option ℤ :=
  (cache.getGuildMemberVO pid).map GuildMemberVO.guildID

/-- The guilds that are found, and the records. -/
def roster (cache : CacheGuild) : Roster ℤ ℤ ℤ :=
  ⟨fun guildID => (cache.getGuildByID guildID).map GuildVO.group, cache.homeOf⟩

variable (cache : CacheGuild)

lemma getGuildByID_updateGuild (guildID : ℤ) (f : GuildVO → GuildVO) (guildID' : ℤ) :
    (cache.updateGuild guildID f).getGuildByID guildID' =
      if guildID' = guildID then (cache.getGuildByID guildID).map f
      else cache.getGuildByID guildID' := by
  unfold getGuildByID updateGuild
  by_cases heq : guildID' = guildID
  · subst heq
    rw [if_pos rfl]
    cases hlookup : cache.guilds.lookup guildID' with
    | none =>
      dsimp only
      rw [hlookup]
      split <;> rfl
    | some guildVO =>
      dsimp only
      rw [AList.lookup_insert]
      split <;> rfl
  · rw [if_neg heq]
    cases cache.guilds.lookup guildID with
    | none => rfl
    | some guildVO =>
      dsimp only
      rw [AList.lookup_insert_ne heq]

lemma homeOf_updateGuild (guildID : ℤ) (f : GuildVO → GuildVO) :
    (cache.updateGuild guildID f).homeOf = cache.homeOf := by
  unfold updateGuild
  split <;> rfl

/-- **A change of a guild** changes its group in the roster. -/
lemma roster_updateGuild_eq {f : GuildVO → GuildVO} {F : Roster.Group ℤ ℤ → Roster.Group ℤ ℤ}
    (hf : ∀ guildVO, (f guildVO).group = F guildVO.group) (guildID : ℤ) :
    (cache.updateGuild guildID f).roster =
      { cache.roster with group := fun guildID' =>
          if guildID' = guildID then (cache.roster.group guildID).map F
          else cache.roster.group guildID' } := by
  apply Roster.ext
  · funext guildID'
    show ((cache.updateGuild guildID f).getGuildByID guildID').map GuildVO.group =
      if guildID' = guildID then ((cache.getGuildByID guildID).map GuildVO.group).map F else _
    rw [getGuildByID_updateGuild]
    split
    · rw [Option.map_map, Option.map_map]
      exact congrArg (fun g => (cache.getGuildByID guildID).map g) (funext hf)
    · rfl
  · exact cache.homeOf_updateGuild guildID f

/-- A change of a guild that keeps its owner and the rights is none of the roster. -/
lemma roster_updateGuild {f : GuildVO → GuildVO} (hf : ∀ guildVO, (f guildVO).group = guildVO.group)
    (guildID : ℤ) : (cache.updateGuild guildID f).roster = cache.roster := by
  rw [cache.roster_updateGuild_eq (F := id) hf guildID]
  apply Roster.ext
  · funext guildID'
    simp only [Option.map_id, id_eq]
    split
    · next heq => rw [heq]
    · rfl
  · rfl

lemma group_insert (guildVO : GuildVO) (pid right : ℤ) :
    GuildVO.group { guildVO with memberRights := guildVO.memberRights.insert pid right } =
      { guildVO.group with rank := Function.update guildVO.group.rank pid (some right) } := by
  refine Roster.Group.ext rfl (funext fun pid' => ?_)
  show (guildVO.memberRights.insert pid right).lookup pid' =
    Function.update (fun pid => guildVO.memberRights.lookup pid) pid (some right) pid'
  rw [AList.lookup_insert_ite, Function.update_apply]

lemma group_erase (guildVO : GuildVO) (pid : ℤ) :
    GuildVO.group { guildVO with memberRights := guildVO.memberRights.erase pid } =
      { guildVO.group with rank := Function.update guildVO.group.rank pid none } := by
  refine Roster.Group.ext rfl (funext fun pid' => ?_)
  show (guildVO.memberRights.erase pid).lookup pid' =
    Function.update (fun pid => guildVO.memberRights.lookup pid) pid none pid'
  rw [AList.lookup_erase_ite, Function.update_apply]

@[simp] lemma roster_chgRight (guildID pid : ℤ) (rightLevel : RightLevel) :
    (cache.chgRight guildID pid rightLevel).roster =
      cache.roster.setRank guildID pid (some rightLevel.getId) :=
  cache.roster_updateGuild_eq (fun guildVO => group_insert guildVO pid _) guildID

@[simp] lemma roster_removeRight (guildID pid : ℤ) :
    (cache.removeRight guildID pid).roster = cache.roster.setRank guildID pid none :=
  cache.roster_updateGuild_eq (fun guildVO => group_erase guildVO pid) guildID

@[simp] lemma roster_setOwner (guildID owner : ℤ) :
    (cache.setOwner guildID owner).roster = cache.roster.setOwner guildID owner :=
  cache.roster_updateGuild_eq (fun _ => rfl) guildID

lemma homeOf_insert (pid : ℤ) (memberVO : GuildMemberVO) :
    homeOf { cache with allGuildMemberByPID := cache.allGuildMemberByPID.insert pid memberVO } =
      Function.update cache.homeOf pid (some memberVO.guildID) := by
  funext pid'
  show ((cache.allGuildMemberByPID.insert pid memberVO).lookup pid').map _ = _
  rw [AList.lookup_insert_ite, Function.update_apply]
  split <;> rfl

@[simp] lemma roster_setGuildID (pid guildID : ℤ) :
    (cache.setGuildID pid guildID).roster = cache.roster.setHome pid (some guildID) :=
  Roster.ext rfl (cache.homeOf_insert pid _)

@[simp] lemma roster_leaveGuild (pid : ℤ) :
    (cache.leaveGuild pid).roster =
      cache.roster.setHome pid ((cache.homeOf pid).map fun _ => -1) := by
  rw [leaveGuild, homeOf]
  cases hmember : cache.getGuildMemberVO pid with
  | none =>
    refine Roster.ext rfl (funext fun pid' => ?_)
    show cache.homeOf pid' = Function.update cache.homeOf pid none pid'
    rw [Function.update_apply]
    split
    · next heq =>
      rw [heq, homeOf, hmember]
      rfl
    · rfl
  | some memberVO => exact cache.roster_setGuildID pid (-1)

@[simp] lemma roster_setNextEnterGuildTime (pid time : ℤ) :
    (cache.setNextEnterGuildTime pid time).roster = cache.roster := by
  unfold setNextEnterGuildTime
  cases hmember : cache.getGuildMemberVO pid with
  | none => rfl
  | some memberVO =>
    refine Roster.ext rfl ((cache.homeOf_insert pid _).trans ?_)
    apply Function.update_eq_self_iff.mpr
    rw [homeOf, hmember]
    rfl

@[simp] lemma roster_cacheReq (pid guildID : ℤ) (status : ReqStatus) :
    (cache.cacheReq pid guildID status).roster = cache.roster := rfl

@[simp] lemma roster_removeReq (pid guildID : ℤ) :
    (cache.removeReq pid guildID).roster = cache.roster := rfl

@[simp] lemma roster_removeReqs (pid : ℤ) : (cache.removeReqs pid).roster = cache.roster := rfl

@[simp] lemma roster_addCache (guildID : ℤ) :
    (cache.addCache guildID).roster =
      cache.roster.setGroup guildID ((cache.guilds.lookup guildID).map GuildVO.group) := by
  refine Roster.ext (funext fun guildID' => ?_) rfl
  show (getGuildByID _ guildID').map _ = Function.update cache.roster.group guildID _ guildID'
  rw [Function.update_apply]
  unfold getGuildByID addCache
  by_cases heq : guildID' = guildID
  · rw [if_pos (by simp [heq]), if_pos heq, heq]
  · rw [if_neg heq]
    simp only [List.mem_cons, heq, false_or]
    rfl

@[simp] lemma roster_removeCache (guildID : ℤ) :
    (cache.removeCache guildID).roster = cache.roster.setGroup guildID none := by
  refine Roster.ext (funext fun guildID' => ?_) rfl
  show (getGuildByID _ guildID').map _ = Function.update cache.roster.group guildID _ guildID'
  rw [Function.update_apply]
  unfold getGuildByID removeCache
  by_cases heq : guildID' = guildID
  · rw [if_neg (by simp [heq]), if_pos heq]
    rfl
  · rw [if_neg heq]
    simp only [List.mem_filter, ne_eq, heq, not_false_eq_true, decide_true, and_true]
    rfl

end CacheGuild

end SrgpGame.Guild
