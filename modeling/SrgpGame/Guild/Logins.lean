import SrgpGame.Guild.Answers
import SrgpGame.Guild.Changes
import SrgpGame.Lib.Maintained

set_option autoImplicit false

/-!
# Logins

While a player is away, the guild of the player may be dissolved, the player may be dismissed, and
requests of the player may be accepted. `buildAsLoad` makes up for this when the player logs in.

## Main definitions

* `loginGuildID` — `buildAsLoad`, and the guild that the player is told then.
* `LoginRight` — what is required of a login.
* `Smooth` — the requests of a player who is in no guild can be gone through.
* `Homes` — records name guilds that were there, or none.

## Main results

* `homes_step` — what records name, after any call.
* `loginRight_iff` — when a login is as required.
* `loginRight_run_iff` — when all logins of a run are.

## Design notes

The requests of a player outlive the guild that they are for: `isMaxSize` is asked of a guild that
may be `null`, before the check that it is not. And `directJoinGuild` needs the player in
`CachePlayer`.
-/

namespace SrgpGame.Guild

open EStateM

variable (cfgs : GuildCfgs) (env : Surroundings)

/-! ## What is required -/

/-- The end of `buildAsLoad`: `player.guildID` is the guild of the record, or `-1` without one. -/
def loginGuildID (pid : ℤ) : Method ℤ := do
  buildAsLoad cfgs env pid
  let cache ← get
  return (cache.homeOf pid).getD (-1)

/-- A guild that is found and was not dissolved, with the player among its members. -/
def LiveMember (cache : CacheGuild) (guildID pid : ℤ) : Prop :=
  ∃ guildVO, cache.getGuildByID guildID = some guildVO ∧ guildVO.status ≠ .DISSOLUTION_END ∧
    (guildVO.memberRights.lookup pid).isSome = true

/-- **What is required of a login**: it throws nothing, and the player is told the guild that the
player is a member of, or none. -/
def LoginRight (pid : ℤ) (cache : CacheGuild) : Prop :=
  ∃ guildID cache', (loginGuildID cfgs env pid).run cache = .ok guildID cache' ∧
    (guildID = -1 ∨ LiveMember cache' guildID pid)

/-- **The requests can be gone through**: up to the first one that lets the player join, each guild
is found and has a size; and for that one the player is in `CachePlayer`. -/
def Smooth (pid : ℤ) (cache : CacheGuild) : List ℤ → Prop
  | [] => True
  | guildID :: guildIDs =>
    ∃ guildVO full, cache.getGuildByID guildID = some guildVO ∧
      isMaxSize cfgs guildVO = .ok full ∧
      if full = false ∧ cache.getReq pid guildID = some .STATUS_ACCEPT ∧
          guildVO.status ≠ .DISSOLUTION_END
      then env.loaded pid = true
      else Smooth pid cache guildIDs

/-- The guilds that a player asked to join. -/
def requestedGuilds (pid : ℤ) (cache : CacheGuild) : List ℤ :=
  (cache.allReqsCache.keys.filter fun req => req.1 = pid).map Prod.snd

/-- A login of a player who is in no guild goes through the requests. -/
def SmoothLogin (pid : ℤ) (cache : CacheGuild) : Prop :=
  notInGuild cache pid = true → Smooth cfgs env pid cache (env.order (requestedGuilds pid cache))

/-! ## What records name -/

/-- **Records name guilds** with positive ids, or none. -/
structure Homes (cache : CacheGuild) : Prop where
  nonneg : 0 ≤ cache.guildDBID
  guilds : ∀ guildID guildVO, cache.guilds.lookup guildID = some guildVO → 0 < guildID
  homes : ∀ pid guildID, cache.homeOf pid = some guildID → guildID = -1 ∨ 0 < guildID

namespace Homes

variable {cache cache' : CacheGuild} (h : Homes cache)

include h

/-- A change that concerns neither guilds nor records. -/
lemma of_eq (hcounter : cache'.guildDBID = cache.guildDBID) (hguilds : cache'.guilds = cache.guilds)
    (hmembers : cache'.allGuildMemberByPID = cache.allGuildMemberByPID) : Homes cache' where
  nonneg := hcounter ▸ h.nonneg
  guilds guildID guildVO hguild := h.guilds guildID guildVO (hguilds ▸ hguild)
  homes pid guildID hhome := by
    refine h.homes pid guildID ?_
    rwa [CacheGuild.homeOf, CacheGuild.getGuildMemberVO, hmembers] at hhome

lemma updateGuild (guildID : ℤ) (f : GuildVO → GuildVO) : Homes (cache.updateGuild guildID f) := by
  refine ⟨?_, fun guildID' guildVO hguild => ?_, ?_⟩
  · unfold CacheGuild.updateGuild
    split
    · exact h.nonneg
    · exact h.nonneg
  · rw [lookup_updateGuild] at hguild
    split at hguild
    · next heq =>
      obtain ⟨guildVO', hguild', -⟩ := Option.map_eq_some_iff.mp hguild
      exact heq ▸ h.guilds guildID guildVO' hguild'
    · exact h.guilds guildID' guildVO hguild
  · rw [CacheGuild.homeOf_updateGuild]
    exact h.homes

lemma insert (pid : ℤ) {memberVO : GuildMemberVO}
    (hmember : memberVO.guildID = -1 ∨ 0 < memberVO.guildID) :
    Homes { cache with
      allGuildMemberByPID := cache.allGuildMemberByPID.insert pid memberVO } := by
  refine ⟨h.nonneg, h.guilds, fun pid' guildID hhome => ?_⟩
  rw [CacheGuild.homeOf_insert, Function.update_apply] at hhome
  split at hhome
  · exact Option.some.inj hhome ▸ hmember
  · exact h.homes pid' guildID hhome

lemma setGuildID (pid : ℤ) {guildID : ℤ} (hguild : guildID = -1 ∨ 0 < guildID) :
    Homes (cache.setGuildID pid guildID) := h.insert pid hguild

lemma leaveGuild (pid : ℤ) : Homes (cache.leaveGuild pid) := by
  rw [CacheGuild.leaveGuild]
  split
  · exact h.setGuildID pid (.inl rfl)
  · exact h

lemma setNextEnterGuildTime (pid time : ℤ) : Homes (cache.setNextEnterGuildTime pid time) := by
  rw [CacheGuild.setNextEnterGuildTime]
  cases hmember : cache.getGuildMemberVO pid with
  | none => exact h
  | some memberVO =>
    refine h.insert pid (h.homes pid memberVO.guildID ?_)
    rw [CacheGuild.homeOf, hmember]
    rfl

lemma foldl_leaveGuild (pids : List ℤ) : Homes (pids.foldl CacheGuild.leaveGuild cache) := by
  induction pids generalizing cache with
  | nil => exact h
  | cons pid pids ih => exact ih (h.leaveGuild pid)

/-- A player joins a guild that is there. -/
lemma joined (pid : ℤ) {guildID : ℤ} (hguild : 0 < guildID) (rightLevel : RightLevel) :
    Homes (joined cache pid guildID rightLevel) := by
  have hrecord : Homes ((cache.setGuildID pid guildID).removeReqs pid) :=
    (h.setGuildID pid (.inr hguild)).of_eq rfl rfl rfl
  exact hrecord.updateGuild guildID _

lemma newGuild (guildVO : GuildVO) : Homes (cache.newGuild guildVO) := by
  have hpos : 0 < cache.guildDBID + 1 := Int.lt_add_one_of_le h.nonneg
  refine ⟨hpos.le, fun guildID guildVO' hguild => ?_, h.homes⟩
  rw [CacheGuild.newGuild, AList.lookup_insert_ite] at hguild
  split at hguild
  · next heq => exact heq ▸ hpos
  · exact h.guilds guildID guildVO' hguild

end Homes

/-! ## The methods keep it -/

section Step

lemma homes_refNoNeedReqGuilds (guildID : ℤ) :
    Maintains Homes (refNoNeedReqGuilds cfgs guildID) := by
  refine .bind (.ofExcept _) fun guildVO => .ite (.pure ()) (.bind (.ofExcept _) fun full => ?_)
  refine .modify fun cache h => ?_
  split_ifs
  · exact h.of_eq rfl rfl rfl
  · exact h
  · exact h.of_eq rfl rfl rfl

lemma homes_checkLoaded (pid : ℤ) : Maintains Homes (checkLoaded env pid) := .ofExcept _

lemma homes_directJoinGuild (pid : ℤ) {guildID : ℤ} (hguild : 0 < guildID)
    (rightLevel : RightLevel) :
    Maintains Homes (directJoinGuild cfgs env pid guildID rightLevel) := by
  intro cache h
  rw [finalState_directJoinGuild]
  split
  · exact h
  · exact h.joined pid hguild rightLevel

lemma homes_createGuild (pvo : ℤ) (needReq : Bool) (checked : Except Thrown Unit) :
    Maintains Homes (createGuild cfgs env pvo needReq checked) := by
  refine .bind (.ofExcept _) fun _ => .bind (.ofExcept _) fun _ cache h => ?_
  rw [finalState_get_bind]
  have hpos : 0 < cache.guildDBID + 1 := Int.lt_add_one_of_le h.nonneg
  refine Maintains.bind (.modify fun cache h => h.newGuild _) (fun _ => ?_) h
  refine .bind (homes_directJoinGuild cfgs env pvo hpos .Level0) fun _ => ?_
  exact .bind (.modify fun cache h => h.of_eq rfl rfl rfl) fun _ => homes_refNoNeedReqGuilds cfgs _

lemma homes_joinGuild (pvo guildID : ℤ) : Maintains Homes (joinGuild cfgs env pvo guildID) := by
  refine .ofExcept_bind fun cache found h hcheck => ?_
  obtain ⟨found, guildVO⟩ := found
  have hpos : 0 < found :=
    h.guilds found guildVO (lookup_of_findGuild env cache (of_checkJoinGuild env hcheck).1)
  have hjoin : Maintains Homes (ite (guildVO.enterNeedReq = true)
      (ofExcept (checkReqSize cfgs found guildVO) >>= fun _ =>
        modify fun cache => cache.cacheReq pvo guildID .STATUS_NORMAL)
      (directJoinGuild cfgs env pvo found .Level3 >>= fun _ => refNoNeedReqGuilds cfgs found)) :=
    .ite (.bind (.ofExcept _) fun _ => .modify fun cache h => h.of_eq rfl rfl rfl)
      (.bind (homes_directJoinGuild cfgs env pvo hpos .Level3) fun _ =>
        homes_refNoNeedReqGuilds cfgs found)
  exact hjoin h

lemma homes_acceptPlayerJoinGuild (pvo pid : ℤ) (accept : Bool) :
    Maintains Homes (acceptPlayerJoinGuild cfgs env pvo pid accept) := by
  refine .ofExcept_bind fun cache found h hcheck => ?_
  obtain ⟨guildID, guildVO, status⟩ := found
  have hpos : 0 < guildID :=
    h.guilds guildID guildVO (lookup_of_getGuildByID (of_checkAccept hcheck))
  have hanswer := homes_checkLoaded env pid
  cases accept with
  | false =>
    refine Maintains.bind (.modify fun cache h => ?_) (fun _ => hanswer) h
    split
    · exact h.of_eq rfl rfl rfl
    · exact h
  | true =>
    refine Maintains.bind (.ofExcept _) (fun _ => .bind .get fun cache => ?_) h
    refine .ite (.bind (.modify fun cache h => h.of_eq rfl rfl rfl) fun _ => ?_)
      (.bind (.modify fun cache h => h.of_eq rfl rfl rfl) fun _ => hanswer)
    exact .bind (homes_directJoinGuild cfgs env pid hpos .Level3) fun _ => hanswer

lemma homes_modifyRight (pvo pid tgtRight : ℤ) :
    Maintains Homes (modifyRight cfgs pvo pid tgtRight) :=
  .bind (.ofExcept _) fun _ => .modify fun _ h => h.updateGuild _ _

lemma homes_chgOwner (pvo tgtPid : ℤ) : Maintains Homes (chgOwner pvo tgtPid) :=
  .bind (.ofExcept _) fun _ => .modify fun _ h =>
    ((h.updateGuild _ _).updateGuild _ _).updateGuild _ _

lemma homes_outGuild (pvo pid : ℤ) : Maintains Homes (outGuild cfgs env pvo pid) := by
  refine .bind (.ofExcept _) fun guildID => .bind (.modify fun cache h => ?_) fun _ =>
    .bind (.ofExcept _) fun _ => homes_refNoNeedReqGuilds cfgs guildID
  exact ((h.updateGuild guildID _).setNextEnterGuildTime pid _).leaveGuild pid

lemma homes_dissolutionGuild (pvo : ℤ) : Maintains Homes (dissolutionGuild cfgs env pvo) := by
  refine .bind (.ofExcept _) fun found => .ite (.bind (.modify fun cache h => ?_) fun _ => ?_)
    (.pure ())
  · exact h.updateGuild found.1 _
  · exact .modify fun cache h => h.of_eq rfl rfl rfl

lemma homes_cancelDissolutionGuild (pvo : ℤ) : Maintains Homes (cancelDissolutionGuild pvo) := by
  refine .bind (.ofExcept _) fun found => .ite (.bind (.modify fun cache h => ?_) fun _ => ?_)
    (.pure ())
  · exact h.updateGuild found.1 _
  · exact .modify fun cache h => h.of_eq rfl rfl rfl

lemma homes_dissolve (guildID : ℤ) : Maintains Homes (dissolve guildID) := by
  have hremoved : Maintains Homes (modify fun cache : CacheGuild =>
      { cache.removeCache guildID with
        inDissolutionGuild := cache.inDissolutionGuild.filter (· ≠ guildID) } : Method Unit) :=
    .modify fun cache h => h.of_eq rfl rfl rfl
  refine .bind (.ofExcept _) fun guildVO => .ite (.bind (.modify fun cache h => ?_) fun _ =>
    .bind (.modify fun cache h => ?_) fun _ => hremoved) hremoved
  · exact h.updateGuild guildID _
  · exact h.foldl_leaveGuild _

lemma homes_replaceLeader (guildID : ℤ) : Maintains Homes (replaceLeader cfgs env guildID) := by
  refine .bind (.ofExcept _) fun guildVO => .bind .get fun cache => ?_
  cases newLeader cfgs env cache guildVO with
  | none => exact .pure ()
  | some pid =>
    refine .bind (.modify fun cache h => (h.updateGuild _ _).updateGuild _ _) fun _ => ?_
    exact .bind (.ofExcept _) fun _ => .modify fun cache h => h.updateGuild _ _

lemma homes_joinAccepted (pid : ℤ) (guildIDs : List ℤ) :
    Maintains Homes (joinAccepted cfgs env pid guildIDs) := by
  induction guildIDs with
  | nil => exact .pure ()
  | cons guildID guildIDs ih =>
    intro cache h
    rw [joinAccepted, finalState_get_bind]
    cases hguild : cache.getGuildByID guildID with
    | none => exact h
    | some guildVO =>
      have hpos : 0 < guildID := h.guilds guildID guildVO (lookup_of_getGuildByID hguild)
      refine Maintains.bind (.ofExcept _) (fun full => .ite ih (.ite ?_ ih)) h
      refine .bind (.modify fun cache h => h.of_eq rfl rfl rfl) fun _ => .ite ?_ ih
      exact homes_directJoinGuild cfgs env pid hpos .Level3

lemma homes_buildAsLoad (pid : ℤ) : Maintains Homes (buildAsLoad cfgs env pid) := by
  refine .bind .get fun cache => .ite (homes_joinAccepted cfgs env pid _) ?_
  refine .bind (.modify fun cache h => h.of_eq rfl rfl rfl) fun _ => .modify fun cache h => ?_
  split
  · exact h
  · split
    · exact h.leaveGuild pid
    · exact h

lemma homes_enterGame (pid : ℤ) : Maintains Homes (enterGame pid) := by
  refine .modify fun cache h => ?_
  split
  · exact h
  · split
    · split
      · exact h.leaveGuild pid
      · exact h
    · split
      · exact h.leaveGuild pid
      · exact h

lemma homes_modifyNeedReqStatus (pvo : ℤ) (need : Bool) :
    Maintains Homes (modifyNeedReqStatus pvo need) := by
  refine .bind (.ofExcept _) fun found => .bind (.modify fun cache h => h.updateGuild found.1 _)
    fun _ => .modify fun cache h => ?_
  split
  · exact h.of_eq rfl rfl rfl
  · exact h

lemma homes_addGuildExp (guildID : ℤ) (exp : Int32) :
    Maintains Homes (addGuildExp cfgs guildID exp) :=
  .bind (.ofExcept _) fun _ => .bind (.modify fun _ h => h.updateGuild guildID _) fun _ =>
    .ofExcept _

/-- **After any call** records name guilds or none. -/
theorem homes_step {cache : CacheGuild} (h : Homes cache) (call : Surroundings × Call) :
    Homes (step cfgs cache call) := by
  obtain ⟨env, call⟩ := call
  cases call with
  | createGuild pvo needReq checked => exact homes_createGuild cfgs env pvo needReq checked h
  | joinGuild pvo guildID => exact homes_joinGuild cfgs env pvo guildID h
  | acceptPlayerJoinGuild pvo pid accept =>
    exact homes_acceptPlayerJoinGuild cfgs env pvo pid accept h
  | modifyRight pvo pid tgtRight => exact homes_modifyRight cfgs pvo pid tgtRight h
  | chgOwner pvo tgtPid => exact homes_chgOwner pvo tgtPid h
  | outGuild pvo pid => exact homes_outGuild cfgs env pvo pid h
  | dissolutionGuild pvo => exact homes_dissolutionGuild cfgs env pvo h
  | cancelDissolutionGuild pvo => exact homes_cancelDissolutionGuild pvo h
  | innerDissolutionGuild guildIDs =>
    have hdissolve : ∀ guildID ∈ guildIDs, Maintains Homes (dissolve guildID) :=
      fun guildID _ => homes_dissolve guildID
    exact Maintains.each hdissolve h
  | replaceGuildLeader =>
    exact Maintains.bind .get (fun cache => .each fun guildID _ =>
      homes_replaceLeader cfgs env guildID) h
  | buildAsLoad pid => exact homes_buildAsLoad cfgs env pid h
  | enterGame pid => exact homes_enterGame pid h
  | modifyNeedReqStatus pvo need => exact homes_modifyNeedReqStatus pvo need h
  | addGuildExp guildID exp => exact homes_addGuildExp cfgs guildID exp h

end Step

/-! ## A login -/

section Login

variable {cfgs env} {cache : CacheGuild} {pid guildID : ℤ}

/-- What the player is told of the guild is so. -/
def Told (cache : CacheGuild) (pid : ℤ) : Prop :=
  (cache.homeOf pid).getD (-1) = -1 ∨ LiveMember cache ((cache.homeOf pid).getD (-1)) pid

lemma loginRight_iff_told :
    LoginRight cfgs env pid cache ↔
      ∃ cache', (buildAsLoad cfgs env pid).run cache = .ok () cache' ∧ Told cache' pid := by
  rw [LoginRight, loginGuildID, run_bind]
  cases hrun : (buildAsLoad cfgs env pid).run cache with
  | error e cache' =>
    refine iff_of_false ?_ ?_
    · rintro ⟨guildID, cache'', h, -⟩
      cases h
    · rintro ⟨cache'', h, -⟩
      cases h
  | ok u cache' =>
    constructor
    · rintro ⟨guildID, cache'', h, htold⟩
      cases h
      exact ⟨cache', rfl, htold⟩
    · rintro ⟨cache'', h, htold⟩
      cases h
      exact ⟨_, cache', rfl, htold⟩

/-- A player who is in no guild is told so. -/
lemma told_of_notInGuild (h : Homes cache) (hpid : notInGuild cache pid = true) :
    Told cache pid := by
  left
  rw [notInGuild] at hpid
  cases hmember : cache.getGuildMemberVO pid with
  | none =>
    rw [CacheGuild.homeOf, hmember]
    rfl
  | some memberVO =>
    have hhome : cache.homeOf pid = some memberVO.guildID := by
      rw [CacheGuild.homeOf, hmember]
      rfl
    rw [hmember] at hpid
    have hle : memberVO.guildID ≤ 0 := of_decide_eq_true hpid
    rw [hhome, Option.getD_some]
    rcases h.homes pid _ hhome with hnone | hpos
    · exact hnone
    · omega

/-- A player who joins a guild is a member. -/
lemma told_joined {guildVO : GuildVO} (hguild : cache.getGuildByID guildID = some guildVO)
    (hstatus : guildVO.status ≠ .DISSOLUTION_END) (rightLevel : RightLevel) :
    Told (joined cache pid guildID rightLevel) pid := by
  have hhome : (joined cache pid guildID rightLevel).homeOf pid = some guildID := by
    rw [joined, CacheGuild.chgRight, CacheGuild.homeOf_updateGuild]
    exact (congrFun (cache.homeOf_insert pid _) pid).trans (Function.update_self ..)
  right
  rw [hhome, Option.getD_some]
  exact ⟨_, getGuildByID_joined hguild rightLevel, hstatus,
    congrArg Option.isSome (AList.lookup_insert _)⟩

/-- A request to a guild that was dissolved does not matter. -/
lemma smooth_cacheReq {guildVO : GuildVO} (hguild : cache.getGuildByID guildID = some guildVO)
    (hstatus : guildVO.status = .DISSOLUTION_END) (guildIDs : List ℤ) :
    Smooth cfgs env pid (cache.cacheReq pid guildID .STATUS_DONE) guildIDs ↔
      Smooth cfgs env pid cache guildIDs := by
  induction guildIDs with
  | nil => rfl
  | cons guildID' guildIDs ih =>
    refine exists_congr fun guildVO' => exists_congr fun full => and_congr_right fun hguild' =>
      and_congr_right fun _ => ?_
    have hguild' : cache.getGuildByID guildID' = some guildVO' := hguild'
    by_cases heq : guildID' = guildID
    · subst heq
      obtain rfl := Option.some.inj (hguild'.symm.trans hguild)
      rw [if_neg fun h => h.2.2 hstatus, if_neg fun h => h.2.2 hstatus]
      exact ih
    · have hreq : (cache.cacheReq pid guildID .STATUS_DONE).getReq pid guildID' =
          cache.getReq pid guildID' :=
        AList.lookup_insert_ne fun h => heq (Prod.mk.inj h).2
      rw [hreq, ih]

/-- The first request is looked at. -/
lemma run_joinAccepted_cons {guildVO : GuildVO} {full : Bool} {guildIDs : List ℤ}
    (hguild : cache.getGuildByID guildID = some guildVO)
    (hsize : isMaxSize cfgs guildVO = .ok full) :
    (joinAccepted cfgs env pid (guildID :: guildIDs)).run cache =
      if full = false ∧ cache.getReq pid guildID = some .STATUS_ACCEPT then
        if guildVO.status ≠ .DISSOLUTION_END then
          (directJoinGuild cfgs env pid guildID .Level3).run
            (cache.cacheReq pid guildID .STATUS_DONE)
        else (joinAccepted cfgs env pid guildIDs).run (cache.cacheReq pid guildID .STATUS_DONE)
      else (joinAccepted cfgs env pid guildIDs).run cache := by
  rw [joinAccepted, run_bind, run_get]
  dsimp only
  rw [hguild]
  dsimp only
  rw [run_bind, run_ofExcept, hsize]
  cases full with
  | true => rfl
  | false =>
    dsimp only
    rw [if_neg Bool.false_ne_true]
    by_cases hreq : cache.getReq pid guildID = some .STATUS_ACCEPT
    · have haccept : false = false ∧ cache.getReq pid guildID = some .STATUS_ACCEPT := ⟨rfl, hreq⟩
      rw [if_pos hreq, run_bind, run_modify, if_pos haccept]
      by_cases hstatus : guildVO.status ≠ .DISSOLUTION_END
      · rw [if_pos hstatus, if_pos hstatus]
      · rw [if_neg hstatus, if_neg hstatus]
    · rw [if_neg hreq, if_neg fun haccept => hreq haccept.2]

lemma run_joinAccepted_of_none {guildIDs : List ℤ} (hguild : cache.getGuildByID guildID = none) :
    (joinAccepted cfgs env pid (guildID :: guildIDs)).run cache = .error .nullPointer cache := by
  rw [joinAccepted, run_bind, run_get]
  dsimp only
  rw [hguild]
  rfl

lemma run_joinAccepted_of_error {guildVO : GuildVO} {e : Thrown} {guildIDs : List ℤ}
    (hguild : cache.getGuildByID guildID = some guildVO)
    (hsize : isMaxSize cfgs guildVO = .error e) :
    (joinAccepted cfgs env pid (guildID :: guildIDs)).run cache = .error e cache := by
  rw [joinAccepted, run_bind, run_get]
  dsimp only
  rw [hguild]
  dsimp only
  rw [run_bind, run_ofExcept, hsize]

/-- Somebody who is in no guild joins one, and has to be in `CachePlayer` for it. -/
lemma told_directJoinGuild_iff {guildVO : GuildVO} {full : Bool} (hpid : cache.inGuild pid = false)
    (hguild : cache.getGuildByID guildID = some guildVO)
    (hsize : isMaxSize cfgs guildVO = .ok full) (hstatus : guildVO.status ≠ .DISSOLUTION_END) :
    (∃ cache', (directJoinGuild cfgs env pid guildID .Level3).run cache = .ok () cache' ∧
      Told cache' pid) ↔ env.loaded pid = true := by
  have hjoined : (joined cache pid guildID .Level3).guilds.lookup guildID = some { guildVO with
      memberRights := guildVO.memberRights.insert pid RightLevel.Level3.getId } :=
    lookup_of_getGuildByID (getGuildByID_joined hguild .Level3)
  obtain ⟨full', hfull⟩ : ∃ full', isMaxSize cfgs { guildVO with
      memberRights := guildVO.memberRights.insert pid RightLevel.Level3.getId } = .ok full' :=
    isMaxSize_of_level hsize rfl
  rw [run_directJoinGuild env hpid hjoined, hfull]
  cases env.loaded pid with
  | false =>
    refine iff_of_false ?_ Bool.false_ne_true
    rintro ⟨cache', hrun, -⟩
    cases hrun
  | true => exact iff_of_true ⟨_, rfl, told_joined hguild hstatus .Level3⟩ rfl

/-- **The requests of a player who is in no guild** are gone through to the end, or to a guild that
the player joins, just if they can be. -/
lemma told_joinAccepted_iff (hnumbered : Numbered cache) (h : Homes cache)
    (hpid : notInGuild cache pid = true) (guildIDs : List ℤ) :
    (∃ cache', (joinAccepted cfgs env pid guildIDs).run cache = .ok () cache' ∧ Told cache' pid) ↔
      Smooth cfgs env pid cache guildIDs := by
  induction guildIDs generalizing cache with
  | nil => exact iff_of_true ⟨cache, rfl, told_of_notInGuild h hpid⟩ trivial
  | cons guildID guildIDs ih =>
    rw [Smooth]
    cases hguild : cache.getGuildByID guildID with
    | none =>
      refine iff_of_false ?_ ?_
      · rintro ⟨cache', hrun, -⟩
        cases (run_joinAccepted_of_none hguild).symm.trans hrun
      · rintro ⟨guildVO, full, hnone, -⟩
        cases hnone
    | some guildVO =>
      cases hsize : isMaxSize cfgs guildVO with
      | error e =>
        refine iff_of_false ?_ ?_
        · rintro ⟨cache', hrun, -⟩
          cases (run_joinAccepted_of_error hguild hsize).symm.trans hrun
        · rintro ⟨guildVO', full, heq, hsize', -⟩
          cases heq
          cases hsize.symm.trans hsize'
      | ok full =>
        have hone (Q : GuildVO → Bool → Prop) :
            (∃ guildVO' full', some guildVO = some guildVO' ∧
              isMaxSize cfgs guildVO' = .ok full' ∧ Q guildVO' full') ↔ Q guildVO full := by
          constructor
          · rintro ⟨guildVO', full', heq, hsize', hQ⟩
            cases heq
            cases hsize.symm.trans hsize'
            exact hQ
          · exact fun hQ => ⟨guildVO, full, rfl, hsize, hQ⟩
        rw [hone, run_joinAccepted_cons hguild hsize]
        by_cases haccept : full = false ∧ cache.getReq pid guildID = some .STATUS_ACCEPT
        · rw [if_pos haccept]
          have hnumbered' : Numbered (cache.cacheReq pid guildID .STATUS_DONE) :=
            ⟨hnumbered.nonneg, hnumbered.live, hnumbered.nodup⟩
          by_cases hstatus : guildVO.status = .DISSOLUTION_END
          · -- the guild was dissolved
            rw [if_neg fun hne => hne hstatus, if_neg fun hne => hne.2.2 hstatus,
              ← smooth_cacheReq hguild hstatus]
            exact ih hnumbered' (h.of_eq rfl rfl rfl) hpid
          · -- the player joins
            rw [if_pos hstatus, if_pos ⟨haccept.1, haccept.2, hstatus⟩]
            exact told_directJoinGuild_iff (inGuild_of_notInGuild hnumbered' hpid) hguild
              (haccept.1 ▸ hsize) hstatus
        · rw [if_neg haccept, if_neg fun hne => haccept ⟨hne.1, hne.2.1⟩]
          exact ih hnumbered h hpid

/-- The record of a player who has left. -/
lemma told_leaveGuild (cache : CacheGuild) (pid : ℤ) : Told (cache.leaveGuild pid) pid := by
  have hhome : (cache.leaveGuild pid).homeOf pid = (cache.homeOf pid).map fun _ => -1 :=
    (congrFun (congrArg Roster.home (cache.roster_leaveGuild pid)) pid).trans
      (Function.update_self ..)
  left
  rw [hhome]
  cases cache.homeOf pid with
  | none => rfl
  | some guildID => rfl

/-- The record of a player who is in a guild is looked at again. -/
lemma told_buildAsLoad_of_inGuild (hpid : notInGuild cache pid = false) :
    ∃ cache', (buildAsLoad cfgs env pid).run cache = .ok () cache' ∧ Told cache' pid := by
  rw [buildAsLoad, run_bind, run_get]
  dsimp only
  rw [if_neg (by simp [hpid]), run_bind, run_modify]
  refine ⟨_, rfl, ?_⟩
  rw [notInGuild] at hpid
  cases hmember : cache.getGuildMemberVO pid with
  | none =>
    rw [hmember] at hpid
    cases hpid
  | some memberVO =>
    have hmember' : (cache.removeReqs pid).getGuildMemberVO pid = some memberVO := hmember
    dsimp only
    rw [hmember']
    dsimp only
    split
    · exact told_leaveGuild _ pid
    · next hcurrent =>
      have hhome : (cache.removeReqs pid).homeOf pid = some memberVO.guildID := by
        rw [CacheGuild.homeOf, hmember']
        rfl
      right
      rw [hhome, Option.getD_some]
      rw [outdated] at hcurrent
      cases hguild : (cache.removeReqs pid).getGuildByID memberVO.guildID with
      | none =>
        rw [hguild] at hcurrent
        exact absurd rfl hcurrent
      | some guildVO =>
        rw [hguild] at hcurrent
        simp only [Bool.or_eq_true, decide_eq_true_eq, not_or, Bool.not_eq_true,
          Option.isNone_eq_false_iff] at hcurrent
        exact ⟨guildVO, hguild, hcurrent.1, hcurrent.2⟩

/-- **A login is as required** just if the requests of a player who is in no guild can be gone
through. -/
theorem loginRight_iff (hnumbered : Numbered cache) (h : Homes cache) :
    LoginRight cfgs env pid cache ↔ SmoothLogin cfgs env pid cache := by
  rw [loginRight_iff_told, SmoothLogin]
  cases hpid : notInGuild cache pid with
  | false =>
    exact iff_of_true (told_buildAsLoad_of_inGuild hpid) fun htrue => absurd htrue (by decide)
  | true =>
    have hrun : (buildAsLoad cfgs env pid).run cache =
        (joinAccepted cfgs env pid (env.order (requestedGuilds pid cache))).run cache := by
      rw [buildAsLoad, run_bind, run_get]
      dsimp only
      rw [if_pos hpid]
      rfl
    rw [hrun, told_joinAccepted_iff hnumbered h hpid]
    exact ⟨fun hsmooth _ => hsmooth, fun hsmooth => hsmooth rfl⟩

end Login

/-! ## Runs -/

variable {cfgs}

lemma homes_start {guildDBID : ℤ} (hid : 0 ≤ guildDBID) : Homes (start guildDBID) where
  nonneg := hid
  guilds guildID guildVO hguild := by cases hguild
  homes pid guildID hhome := by cases hhome

/-- Ids are in order after any call. -/
lemma numbered_step {cache : CacheGuild} (hnumbered : Numbered cache)
    (call : Surroundings × Call) : Numbered (step cfgs cache call) := by
  have hchecked : Checked cfgs fun _ => True :=
    ⟨fun _ _ _ _ _ => trivial, fun _ _ _ => trivial, fun _ _ _ _ _ _ _ => trivial,
      fun _ _ => trivial⟩
  exact (stepIff_step hchecked hnumbered (fun _ _ _ => trivial) call).1

/-- **A login in any state** that calls can lead to is as required, just if the requests of a player
who is in no guild can be gone through. -/
theorem loginRight_run_iff {guildDBID : ℤ} (hid : 0 ≤ guildDBID)
    (calls : List (Surroundings × Call)) (env : Surroundings) (pid : ℤ) :
    LoginRight cfgs env pid (Runs.run (step cfgs) (start guildDBID) calls) ↔
      SmoothLogin cfgs env pid (Runs.run (step cfgs) (start guildDBID) calls) := by
  have hinv : Numbered (Runs.run (step cfgs) (start guildDBID) calls) ∧
      Homes (Runs.run (step cfgs) (start guildDBID) calls) := by
    refine Runs.forall_inv_run (fun cache => Numbered cache ∧ Homes cache)
      (fun cache call h => ⟨numbered_step h.1 call, homes_step cfgs h.2 call⟩) ?_ calls
    exact ⟨⟨hid, by simp [start], by simp [start]⟩, homes_start hid⟩
  exact loginRight_iff hinv.1 hinv.2

/-- The guild is still there when the player logs in. -/
theorem loginRight_run_iff_asked :
    LoginRight requestCfgs (without 0) 2 (Runs.run (step requestCfgs) (start 0) asked) :=
  (loginRight_run_iff le_rfl asked (without 0) 2).mpr fun _ => ⟨_, _, rfl, rfl, trivial⟩

/-- **Not so in general**: the guild is dissolved, and the player asked to join it. -/
theorem not_loginRight :
    ¬LoginRight requestCfgs (without 0) 2 (Runs.run (step requestCfgs) (start 0) (asked ++
      [(without 0, .dissolutionGuild 1), (without 0, .innerDissolutionGuild [1])])) := by
  rintro ⟨guildID, cache', hrun, -⟩
  cases hrun

end SrgpGame.Guild
