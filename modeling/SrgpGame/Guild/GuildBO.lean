import SrgpGame.Lib.Method
import SrgpGame.Guild.CacheGuild

set_option autoImplicit false

/-!
# The methods on guilds

The requests of players, the jobs that replace leaders and dissolve guilds, and what a login does.

## Main definitions

* `GuildCfgs`, `Surroundings` — the tables, and what the methods find outside of the guilds.
* `createGuild`, `joinGuild`, `acceptPlayerJoinGuild`, `modifyRight`, `outGuild`, `chgOwner`,
  `replaceGuildLeader`, `innerDissolutionGuild`, `buildAsLoad`, … — the methods of `GuildBOImpl`.
* `Call`, `step` — a call of one of them, and the guilds after it.

## Design notes

A method that throws keeps what it has changed. What only concerns answers, mails, the log, the
depot, the rank and the database is left out; where it can throw because something is `null`, the
throw is there. The checks of a guild's name and the payment for it are an argument of
`createGuild`. The order of a hash map is that of the surroundings.
-/

namespace SrgpGame.Guild

/-! ## Tables and surroundings -/

/-- `CacheDisGuild` and `GuildConfig`. -/
structure GuildCfgs where
  /-- By level. -/
  maxMemberSize : List ℤ
  rightLevel2MemberSize : List ℤ
  rightLevel1MemberSize : List ℤ
  leaderOfflineReplace : ℤ
  guildLVCfg : List GuildExp.GuildLVCfg
  /-- In hours. -/
  enterGuildCD : ℤ
  /-- In hours. -/
  dissolutionCD : ℤ

/-- What a method finds outside of the guilds. -/
structure Surroundings where
  now : ℤ
  /-- The players in `CachePlayer`. -/
  loaded : ℤ → Bool
  online : ℤ → Bool
  /-- The day of the last login, for the players in `CachePlayerBase`. -/
  lastLoginDay : ℤ → Option ℤ
  /-- `GuildMemberVO.historyGuildCoin`, which the depots change. -/
  historyGuildCoin : ℤ → ℤ
  /-- The coins that a player loses who leaves a guild. Listeners of `Currency` may throw. -/
  loseCoins : ℤ → Except Thrown Unit := fun _ => .ok ()
  /-- A random number. -/
  random : ℕ
  /-- The order in which a hash map is gone through. -/
  order : List ℤ → List ℤ
  order_perm : ∀ keys, (order keys).Perm keys

/-- `DateUtil.HOUR_MILLIS`. -/
def hourMillis : ℤ := 3600000

/-- A method on the guilds. -/
abbrev Method := EStateM Thrown CacheGuild

/-- An element of an array. -/
def dataAt (data : List ℤ) (index : ℤ) : Except Thrown ℤ :=
  if index < 0 then .error .indexOutOfBounds
  else
    match data[index.toNat]? with
    | none => .error .indexOutOfBounds
    | some value => .ok value

variable (cfgs : GuildCfgs) (env : Surroundings)

/-- `isMaxSize`. -/
def isMaxSize (guildVO : GuildVO) : Except Thrown Bool := do
  let maxMemberSize ← dataAt cfgs.maxMemberSize guildVO.level.toInt
  return maxMemberSize ≤ guildVO.memberRights.keys.length

/-- A guild. -/
def getGuild (guildID : ℤ) (cache : CacheGuild) : Except Thrown GuildVO :=
  match cache.guilds.lookup guildID with
  | none => .error .nullPointer
  | some guildVO => .ok guildVO

/-- `getGuildVOAndCheckRight`: the guild of a player who has the right. -/
def getGuildVOAndCheckRight (pid : ℤ) (right : GuildRight) (cache : CacheGuild) :
    Except Thrown (ℤ × GuildVO) :=
  match cache.getGuildMemberVO pid with
  | none => CodeGuild.notJoinGuild.throwException
  | some memberVO =>
    match cache.getGuildByID memberVO.guildID with
    | none => CodeGuild.notJoinGuild.throwException
    | some guildVO => do
      CodeGuild.rightMinus.throwIfTrue (guildVO.hasRight pid right = false)
      return (memberVO.guildID, guildVO)

/-- Throws if the player is not in `CachePlayer`. -/
def checkLoaded (pid : ℤ) : Method Unit :=
  EStateM.ofExcept fun _ => if env.loaded pid then .ok () else .error .nullPointer

/-! ## Joining -/

/-- `refNoNeedReqGuilds`. -/
def refNoNeedReqGuilds (guildID : ℤ) : Method Unit := do
  let guildVO ← EStateM.ofExcept (getGuild guildID)
  if guildVO.enterNeedReq then pure ()
  else
    let full ← EStateM.ofExcept fun _ => isMaxSize cfgs guildVO
    modify fun cache =>
      if full then { cache with noReqGuild := cache.noReqGuild.erase guildID }
      else if guildID ∈ cache.noReqGuild then cache
      else { cache with noReqGuild := cache.noReqGuild ++ [guildID] }

/-- `directJoinGuild`. A player who is in a guild already does not join. -/
def directJoinGuild (pid guildID : ℤ) (rightLevel : RightLevel) : Method Unit := do
  let cache ← get
  if cache.inGuild pid then pure ()
  else
    modify fun cache =>
      ((cache.setGuildID pid guildID).removeReqs pid).chgRight guildID pid rightLevel
    -- `updateBasInfo` takes the player, who may be `null`
    checkLoaded env pid
    let guildVO ← EStateM.ofExcept (getGuild guildID)
    let _ ← EStateM.ofExcept fun _ => isMaxSize cfgs guildVO

/-- `createGuild`. -/
def createGuild (pvo : ℤ) (needReq : Bool) (checked : Except Thrown Unit) : Method Unit := do
  EStateM.ofExcept fun cache => CodeGuild.alreadyInGuild.throwIfTrue (cache.inGuild pvo)
  EStateM.ofExcept fun _ => checked
  let guildID := (← get).guildDBID + 1
  modify fun cache => cache.newGuild { level := 1, owner := pvo, enterNeedReq := needReq }
  directJoinGuild cfgs env pvo guildID .Level0
  modify fun cache => cache.addCache guildID
  refNoNeedReqGuilds cfgs guildID

/-- The guild that a player wants to join: the one with the id, or any that can be joined without a
request. -/
def findGuild (guildID : ℤ) (cache : CacheGuild) : Except Thrown (ℤ × GuildVO) :=
  if 0 < guildID then
    match cache.getGuildByID guildID with
    | none => CodeGuild.notFindGuild.throwException
    | some guildVO => .ok (guildID, guildVO)
  else
    match cache.noReqGuild[env.random % cache.noReqGuild.length]? with
    | none => CodeGuild.notMatchGuild.throwException
    | some found => do return (found, ← getGuild found cache)

/-- The checks of `joinGuild`. -/
def checkJoinGuild (pvo guildID : ℤ) (cache : CacheGuild) : Except Thrown (ℤ × GuildVO) := do
  let (found, guildVO) ← findGuild env guildID cache
  (match cache.getGuildMemberVO pvo with
    | none => pure ()
    | some memberVO => do
      CodeGuild.alredyInGuild.throwIfTrue (cache.getGuildByID memberVO.guildID).isSome
      CodeGuild.enterGuildCD.throwIfTrue (env.now < memberVO.nextEnterGuildTime))
  CodeGuild.alreadyDissolution.throwIfTrue (guildVO.status ≠ .NORMAL)
  CodeGuild.memberFull.throwIfTrue (← isMaxSize cfgs guildVO)
  return (found, guildVO)

/-- Throws if the guild has as many requests as it can have. -/
def checkReqSize (guildID : ℤ) (guildVO : GuildVO) (cache : CacheGuild) : Except Thrown Unit :=
  match GuildExp.getByLV cfgs.guildLVCfg guildVO.level with
  | none => .error .nullPointer
  | some cfg =>
    CodeGuild.maxReqSize.throwIfTrue (cfg.maxCanReqSize.toInt ≤ cache.getGuildReqedSize guildID)

/-- `joinGuild`. -/
def joinGuild (pvo guildID : ℤ) : Method Unit := do
  let (found, guildVO) ← EStateM.ofExcept (checkJoinGuild cfgs env pvo guildID)
  if guildVO.enterNeedReq then
    EStateM.ofExcept (checkReqSize cfgs found guildVO)
    modify fun cache => cache.cacheReq pvo guildID .STATUS_NORMAL
  else
    directJoinGuild cfgs env pvo found .Level3
    refNoNeedReqGuilds cfgs found

/-- The guild of a player who may answer the request, and the status of the request. -/
def checkAccept (pvo pid : ℤ) (cache : CacheGuild) : Except Thrown (ℤ × GuildVO × ReqStatus) := do
  let (guildID, guildVO) ← getGuildVOAndCheckRight pvo .APPROVAL_JOIN_GUILD cache
  match cache.getReq pid guildID with
  | none => CodeGuild.reqTimeout.throwException
  | some status => return (guildID, guildVO, status)

/-- Whether a player has no record, or one without a guild. -/
def notInGuild (cache : CacheGuild) (pid : ℤ) : Bool :=
  match cache.getGuildMemberVO pid with
  | none => true
  | some memberVO => memberVO.guildID ≤ 0

/-- `acceptPlayerJoinGuild`. -/
def acceptPlayerJoinGuild (pvo pid : ℤ) (accept : Bool) : Method Unit := do
  let (guildID, guildVO, status) ← EStateM.ofExcept (checkAccept pvo pid)
  if accept then
    EStateM.ofExcept fun _ => do CodeGuild.memberFull.throwIfTrue (← isMaxSize cfgs guildVO)
    let cache ← get
    if notInGuild cache pid ∧ status = .STATUS_NORMAL then
      modify fun cache => cache.cacheReq pid guildID .STATUS_ACCEPT
      directJoinGuild cfgs env pid guildID .Level3
      checkLoaded env pid
    else
      -- in another guild by now, or the request was answered
      modify fun cache => cache.removeReq pid guildID
      checkLoaded env pid
  else
    modify fun cache =>
      if status = .STATUS_NORMAL then cache.removeReq pid guildID else cache
    checkLoaded env pid

/-! ## Rights -/

/-- How many members may have a level; no number that is positive is no limit. -/
def levelSize (level : ℤ) : RightLevel → Except Thrown ℤ
  | .Level2 => sizeIn cfgs.rightLevel2MemberSize
  | .Level1 => sizeIn cfgs.rightLevel1MemberSize
  | _ => .ok (-1)
where
  sizeIn (data : List ℤ) : Except Thrown ℤ := dataAt data (min (data.length : ℤ) level - 1)

/-- The checks of `modifyRight`: the guild, and the new level. -/
def checkModifyRight (pvo pid tgtRight : ℤ) (cache : CacheGuild) :
    Except Thrown (ℤ × RightLevel) := do
  let (guildID, guildVO) ← getGuildVOAndCheckRight pvo .MODIFY_RIGHT_LEVEL cache
  CodePlayer.playerNotFindPlayer.throwIfTrue (guildVO.memberRights.lookup pid = none)
  match guildVO.memberRights.lookup pvo with
  | none => .error .nullPointer
  | some myRight => do
    CodeGuild.rightMinus.throwIfTrue (myRight ≤ tgtRight)
    match RightLevel.get (max RightLevel.Level3.getId tgtRight) with
    | none => CodeGuild.rightMinus.throwException
    | some tgtRightLV => do
      let size ← levelSize cfgs guildVO.level.toInt tgtRightLV
      CodeGuild.rightLevelMemberFull.throwIfTrue
        (0 < size ∧ size ≤ guildVO.memberRights.values.count tgtRightLV.getId)
      return (guildID, tgtRightLV)

/-- `modifyRight`. -/
def modifyRight (pvo pid tgtRight : ℤ) : Method Unit := do
  let (guildID, tgtRightLV) ← EStateM.ofExcept (checkModifyRight cfgs pvo pid tgtRight)
  modify fun cache => cache.chgRight guildID pid tgtRightLV

/-- The checks of `chgOwner`: the guild. -/
def checkChgOwner (pvo tgtPid : ℤ) (cache : CacheGuild) : Except Thrown ℤ := do
  let (guildID, guildVO) ← getGuildVOAndCheckRight pvo .CHG_OWNER cache
  CodePlayer.playerNotFindPlayer.throwIfTrue (guildVO.memberRights.lookup tgtPid = none)
  return guildID

/-- `chgOwner`. -/
def chgOwner (pvo tgtPid : ℤ) : Method Unit := do
  let guildID ← EStateM.ofExcept (checkChgOwner pvo tgtPid)
  modify fun cache =>
    ((cache.chgRight guildID tgtPid .Level0).chgRight guildID pvo .Level1).setOwner guildID tgtPid

/-! ## Leaving -/

/-- The checks of `outGuild`: the guild. -/
def checkOutGuild (pvo pid : ℤ) (cache : CacheGuild) : Except Thrown ℤ :=
  if pvo = pid then do
    let (guildID, _) ← getGuildVOAndCheckRight pvo .OUT_GUILD cache
    return guildID
  else do
    let (guildID, guildVO) ← getGuildVOAndCheckRight pvo .DISMISS_GUILD_MEMBER cache
    match guildVO.memberRights.lookup pid, guildVO.memberRights.lookup pvo with
    | none, _ => CodePlayer.playerNotFindPlayer.throwException
    | some _, none => .error .nullPointer
    | some tgtRight, some myRight => do
      CodeGuild.rightMinus.throwIfTrue (myRight ≤ tgtRight)
      return guildID

/-- `outGuild`. -/
def outGuild (pvo pid : ℤ) : Method Unit := do
  let guildID ← EStateM.ofExcept (checkOutGuild pvo pid)
  modify fun cache =>
    ((cache.removeRight guildID pid).setNextEnterGuildTime pid
      (env.now + cfgs.enterGuildCD * hourMillis)).leaveGuild pid
  EStateM.ofExcept fun _ => if pvo = pid then env.loseCoins pvo else .ok ()
  refNoNeedReqGuilds cfgs guildID

/-- `dissolutionGuild`. -/
def dissolutionGuild (pvo : ℤ) : Method Unit := do
  let (guildID, guildVO) ← EStateM.ofExcept (getGuildVOAndCheckRight pvo .DISSOLUTION_GUILD)
  if guildVO.status = .NORMAL then
    modify fun cache => cache.updateGuild guildID fun guildVO =>
      { guildVO with
        status := .IN_DISSOLUTION
        dissolutionTime := env.now + cfgs.dissolutionCD * hourMillis }
    modify fun cache => { cache with inDissolutionGuild := guildID :: cache.inDissolutionGuild }
  else pure ()

/-- `cancelDissolutionGuild`. -/
def cancelDissolutionGuild (pvo : ℤ) : Method Unit := do
  let (guildID, guildVO) ← EStateM.ofExcept (getGuildVOAndCheckRight pvo .DISSOLUTION_GUILD)
  if guildVO.status = .IN_DISSOLUTION then
    modify fun cache => cache.updateGuild guildID fun guildVO =>
      { guildVO with status := .NORMAL, dissolutionTime := -1 }
    modify fun cache =>
      { cache with inDissolutionGuild := cache.inDissolutionGuild.filter (· ≠ guildID) }
  else pure ()

/-- Dissolves a guild: its members have no guild any more, and it is no longer found. -/
def dissolve (guildID : ℤ) : Method Unit := do
  let guildVO ← EStateM.ofExcept (getGuild guildID)
  if guildVO.status = .IN_DISSOLUTION then
    modify fun cache => cache.updateGuild guildID fun guildVO =>
      { guildVO with status := .DISSOLUTION_END }
    modify fun cache => guildVO.memberRights.keys.foldl CacheGuild.leaveGuild cache
  else pure ()
  modify fun cache =>
    { cache.removeCache guildID with
      inDissolutionGuild := cache.inDissolutionGuild.filter (· ≠ guildID) }

/-- `innerDissolutionGuild`. -/
def innerDissolutionGuild (guildIDs : List ℤ) : Method Unit := EStateM.each dissolve guildIDs

/-! ## Leaders -/

/-- Whether a leader is online, or was not long ago. -/
def keepsLeader (owner : ℤ) : Bool :=
  (env.loaded owner && env.online owner) ||
    match env.lastLoginDay owner with
    | none => false
    | some day => day < cfgs.leaderOfflineReplace

/-- A round of `getReplaceGuildLeaderMember`: whether a member comes before the one found so far. -/
def betterLeader (cache : CacheGuild) (found : Option ℤ) (pid : ℤ) : Option ℤ :=
  if (cache.getGuildMemberVO pid).isNone then found
  else
    match env.lastLoginDay pid with
    | none => found
    | some day =>
      if cfgs.leaderOfflineReplace ≤ day then found
      else
        match found with
        | none => some pid
        | some member =>
          if env.historyGuildCoin member < env.historyGuildCoin pid then some pid else found

/-- `getReplaceGuildLeaderMember`: of the members who were online not long ago, the one with the
most coins. -/
def getReplaceGuildLeaderMember (cache : CacheGuild) (guildVO : GuildVO) : Option ℤ :=
  (env.order guildVO.memberRights.keys).foldl (betterLeader cfgs env cache) none

/-- Who replaces the leader of a guild, if anybody does. -/
def newLeader (cache : CacheGuild) (guildVO : GuildVO) : Option ℤ :=
  if keepsLeader cfgs env guildVO.owner then none
  else getReplaceGuildLeaderMember cfgs env cache guildVO

/-- Replaces the leader of a guild. -/
def replaceLeader (guildID : ℤ) : Method Unit := do
  let guildVO ← EStateM.ofExcept (getGuild guildID)
  let cache ← get
  match newLeader cfgs env cache guildVO with
  | none => pure ()
  | some pid => do
    modify fun cache =>
      (cache.chgRight guildID pid .Level0).chgRight guildID guildVO.owner .Level1
    -- the name of the leader goes into the log, but nothing may be known of the leader
    EStateM.ofExcept fun _ =>
      if (env.lastLoginDay guildVO.owner).isSome then .ok () else .error .nullPointer
    modify fun cache => cache.setOwner guildID pid

/-- `replaceGuildLeader`. -/
def replaceGuildLeader : Method Unit := do
  let cache ← get
  EStateM.each (replaceLeader cfgs env) (env.order cache.allGuildByID)

/-! ## Logins -/

/-- The loop of `buildAsLoad` over the requests of a player who is in no guild: joins the guild
whose request was accepted. -/
def joinAccepted (pid : ℤ) : List ℤ → Method Unit
  | [] => pure ()
  | guildID :: guildIDs => do
    let cache ← get
    match cache.getGuildByID guildID with
    | none => throw .nullPointer
    | some guildVO => do
      let full ← EStateM.ofExcept fun _ => isMaxSize cfgs guildVO
      if full then joinAccepted pid guildIDs
      else if cache.getReq pid guildID = some .STATUS_ACCEPT then do
        modify fun cache => cache.cacheReq pid guildID .STATUS_DONE
        if guildVO.status ≠ .DISSOLUTION_END then directJoinGuild cfgs env pid guildID .Level3
        else joinAccepted pid guildIDs
      else joinAccepted pid guildIDs

/-- Whether the record of a player names a guild that is gone, or that the player was dismissed
from. -/
def outdated (cache : CacheGuild) (pid : ℤ) (memberVO : GuildMemberVO) : Bool :=
  match cache.getGuildByID memberVO.guildID with
  | none => true
  | some guildVO =>
    guildVO.status = .DISSOLUTION_END || (guildVO.memberRights.lookup pid).isNone

/-- `buildAsLoad`. -/
def buildAsLoad (pid : ℤ) : Method Unit := do
  let cache ← get
  if notInGuild cache pid then
    let guildIDs := (cache.allReqsCache.keys.filter fun req => req.1 = pid).map Prod.snd
    joinAccepted cfgs env pid (env.order guildIDs)
  else
    modify fun cache => cache.removeReqs pid
    modify fun cache =>
      match cache.getGuildMemberVO pid with
      | none => cache
      | some memberVO => if outdated cache pid memberVO then cache.leaveGuild pid else cache

/-- `GuildEvtListener.listen`, when a player enters the game. -/
def enterGame (pid : ℤ) : Method Unit :=
  modify fun cache =>
    match cache.getGuildMemberVO pid with
    | none => cache
    | some memberVO =>
      match cache.getGuildByID memberVO.guildID with
      | none => if 0 ≤ memberVO.guildID then cache.leaveGuild pid else cache
      | some guildVO =>
        if 0 ≤ memberVO.guildID ∧ (guildVO.memberRights.lookup pid).isNone then
          cache.leaveGuild pid
        else cache

/-! ## Others -/

/-- `modifyNeedReqStatus`. -/
def modifyNeedReqStatus (pvo : ℤ) (need : Bool) : Method Unit := do
  let (guildID, _) ← EStateM.ofExcept (getGuildVOAndCheckRight pvo .APPROVAL_JOIN_GUILD)
  modify fun cache => cache.updateGuild guildID fun guildVO => { guildVO with enterNeedReq := need }
  modify fun cache =>
    if need then { cache with noReqGuild := cache.noReqGuild.erase guildID } else cache

/-- `invitePlayerJoin`. The list of those who are invited is left out: no method reads it. -/
def invitePlayerJoin (pvo pid : ℤ) : Method Unit := do
  let _ ← EStateM.ofExcept (getGuildVOAndCheckRight pvo .APPROVAL_JOIN_GUILD)
  EStateM.ofExcept fun _ =>
    CodePlayer.playerNotFindPlayer.throwIfTrue (env.lastLoginDay pid = none)

/-- A guild after `addGuildExp`, whether that returned or threw. -/
def addExp (guildVO : GuildVO) (exp : Int32) : GuildVO :=
  { guildVO with
    toGuildVO := (GuildExp.addGuildExp cfgs.guildLVCfg exp).finalState guildVO.toGuildVO }

/-- `addGuildExp`, of a guild. -/
def addGuildExp (guildID : ℤ) (exp : Int32) : Method Unit := do
  let guildVO ← EStateM.ofExcept (getGuild guildID)
  modify fun cache => cache.updateGuild guildID fun guildVO => addExp cfgs guildVO exp
  EStateM.ofExcept fun _ =>
    match (GuildExp.addGuildExp cfgs.guildLVCfg exp).run guildVO.toGuildVO with
    | .ok _ _ => .ok ()
    | .error e _ => .error e

/-! ## Runs -/

/-- A call of a method. -/
inductive Call where
  | createGuild (pvo : ℤ) (needReq : Bool) (checked : Except Thrown Unit)
  | joinGuild (pvo guildID : ℤ)
  | acceptPlayerJoinGuild (pvo pid : ℤ) (accept : Bool)
  | modifyRight (pvo pid tgtRight : ℤ)
  | chgOwner (pvo tgtPid : ℤ)
  | outGuild (pvo pid : ℤ)
  | dissolutionGuild (pvo : ℤ)
  | cancelDissolutionGuild (pvo : ℤ)
  | innerDissolutionGuild (guildIDs : List ℤ)
  | replaceGuildLeader
  | buildAsLoad (pid : ℤ)
  | enterGame (pid : ℤ)
  | modifyNeedReqStatus (pvo : ℤ) (need : Bool)
  | addGuildExp (guildID : ℤ) (exp : Int32)

/-- The method that is called. -/
def Call.method : Call → Method Unit
  | .createGuild pvo needReq checked => Guild.createGuild cfgs env pvo needReq checked
  | .joinGuild pvo guildID => Guild.joinGuild cfgs env pvo guildID
  | .acceptPlayerJoinGuild pvo pid accept => Guild.acceptPlayerJoinGuild cfgs env pvo pid accept
  | .modifyRight pvo pid tgtRight => Guild.modifyRight cfgs pvo pid tgtRight
  | .chgOwner pvo tgtPid => Guild.chgOwner pvo tgtPid
  | .outGuild pvo pid => Guild.outGuild cfgs env pvo pid
  | .dissolutionGuild pvo => Guild.dissolutionGuild cfgs env pvo
  | .cancelDissolutionGuild pvo => Guild.cancelDissolutionGuild pvo
  | .innerDissolutionGuild guildIDs => Guild.innerDissolutionGuild guildIDs
  | .replaceGuildLeader => Guild.replaceGuildLeader cfgs env
  | .buildAsLoad pid => Guild.buildAsLoad cfgs env pid
  | .enterGame pid => Guild.enterGame pid
  | .modifyNeedReqStatus pvo need => Guild.modifyNeedReqStatus pvo need
  | .addGuildExp guildID exp => Guild.addGuildExp cfgs guildID exp

/-- The guilds after a call, whether it returned or threw. -/
def step (cache : CacheGuild) (call : Surroundings × Call) : CacheGuild :=
  (call.2.method cfgs call.1).finalState cache

/-- No guild yet; the next one gets the id after `guildDBID`. -/
def start (guildDBID : ℤ) : CacheGuild := { guildDBID := guildDBID }

end SrgpGame.Guild
