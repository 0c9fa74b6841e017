import SrgpGame.Guild.NoReqGuild

set_option autoImplicit false

/-!
# Answers to requests

A member who has the right to accepts or refuses the request of a player to join the guild. The
player may be gone meanwhile, or in another guild.

## Main definitions

* `Joins`, `Withdrawn` — the player becomes a member, or only the request is gone.
* `AnswerRight` — what is required of an answer.

## Main results

* `answerRight_iff` — when an answer is as required.

## Design notes

`acceptPlayerJoinGuild` asks whether the player is online, to send an answer, and `directJoinGuild`
updates what is known of the player. Both go to the player in `CachePlayer`, who may be `null`.
-/

namespace SrgpGame.Guild

open EStateM

/-! ## What is required -/

/-- **The player becomes a member** of the lowest level, nobody else does, and no request of the
player is left. -/
structure Joins (cache cache' : CacheGuild) (pid guildID : ℤ) : Prop where
  home : cache'.homeOf pid = some guildID
  member : ∃ guildVO, cache'.getGuildByID guildID = some guildVO ∧
    guildVO.memberRights.lookup pid = some RightLevel.Level3.getId
  roster : cache'.roster = (cache.roster.setHome pid (some guildID)).setRank guildID pid
    (some RightLevel.Level3.getId)
  reqs : ∀ guildID', cache'.getReq pid guildID' = none

/-- **The request is gone**, and nobody becomes a member or leaves. -/
structure Withdrawn (cache cache' : CacheGuild) (pid guildID : ℤ) : Prop where
  roster : cache'.roster = cache.roster
  req : cache'.getReq pid guildID = none

variable (cfgs : GuildCfgs) (env : Surroundings)

/-- The player may join: the answer is yes, the player is in no guild, and there is room. -/
def MayJoin (pid : ℤ) (accept : Bool) (guildVO : GuildVO) (cache : CacheGuild) : Prop :=
  accept = true ∧ notInGuild cache pid = true ∧ isMaxSize cfgs guildVO = .ok false

/-- **What is required of an answer**: it throws no unchecked exception, a player who may join does,
and otherwise the request is gone. -/
def AnswerRight (pvo pid : ℤ) (accept : Bool) (guildID : ℤ) (guildVO : GuildVO)
    (cache : CacheGuild) : Prop :=
  (∀ e cache', (acceptPlayerJoinGuild cfgs env pvo pid accept).run cache = .error e cache' →
    ∃ code, e = .logic code) ∧
  (MayJoin cfgs pid accept guildVO cache →
    Joins cache ((acceptPlayerJoinGuild cfgs env pvo pid accept).finalState cache) pid guildID) ∧
  (¬MayJoin cfgs pid accept guildVO cache →
    Withdrawn cache ((acceptPlayerJoinGuild cfgs env pvo pid accept).finalState cache) pid guildID)

/-! ## An answer -/

section Answer

variable {cfgs env} {cache : CacheGuild} {pvo pid guildID : ℤ} {guildVO : GuildVO}

lemma run_checkLoaded (pid : ℤ) (cache : CacheGuild) :
    (checkLoaded env pid).run cache =
      if env.loaded pid then .ok () cache else .error .nullPointer cache := by
  rw [checkLoaded, run_ofExcept]
  cases env.loaded pid with
  | true => rfl
  | false => rfl

/-- The request is taken away, and then the player is asked for. -/
lemma run_withdraw (f : CacheGuild → CacheGuild) (cache : CacheGuild) :
    (do modify f; checkLoaded env pid : Method Unit).run cache =
      if env.loaded pid then .ok () (f cache) else .error .nullPointer (f cache) := by
  rw [run_bind, run_modify]
  exact run_checkLoaded pid (f cache)

lemma checkAccept_of_req
    (hright : getGuildVOAndCheckRight pvo .APPROVAL_JOIN_GUILD cache = .ok (guildID, guildVO))
    (hreq : cache.getReq pid guildID = some .STATUS_NORMAL) :
    checkAccept pvo pid cache = .ok (guildID, guildVO, .STATUS_NORMAL) := by
  refine Except.bind_eq_ok.mpr ⟨(guildID, guildVO), hright, ?_⟩
  simp only [hreq]
  rfl

/-- A refusal takes the request away. -/
lemma run_refuse (hcheck : checkAccept pvo pid cache = .ok (guildID, guildVO, .STATUS_NORMAL)) :
    (acceptPlayerJoinGuild cfgs env pvo pid false).run cache =
      if env.loaded pid then .ok () (cache.removeReq pid guildID)
      else .error .nullPointer (cache.removeReq pid guildID) := by
  rw [acceptPlayerJoinGuild, run_bind, run_ofExcept, hcheck]
  simp only [Bool.false_eq_true, if_false, if_true]
  exact run_withdraw _ cache

/-- The table has no entry for the level. -/
lemma indexOutOfBounds_of_isMaxSize {e : Thrown} (h : isMaxSize cfgs guildVO = .error e) :
    e = .indexOutOfBounds := by
  rw [isMaxSize, dataAt] at h
  split_ifs at h with hneg
  · exact (Except.error.inj h).symm
  · cases hdata : cfgs.maxMemberSize[guildVO.level.toInt.toNat]? with
    | none =>
      rw [hdata] at h
      exact (Except.error.inj h).symm
    | some value =>
      rw [hdata] at h
      cases h

/-- The guild has no size. -/
lemma run_accept_of_error {e : Thrown}
    (hcheck : checkAccept pvo pid cache = .ok (guildID, guildVO, .STATUS_NORMAL))
    (hsize : isMaxSize cfgs guildVO = .error e) :
    (acceptPlayerJoinGuild cfgs env pvo pid true).run cache = .error e cache := by
  rw [acceptPlayerJoinGuild, run_bind, run_ofExcept, hcheck]
  simp only [if_true]
  rw [run_bind, run_ofExcept, hsize]
  rfl

/-- The guild is full. -/
lemma run_accept_of_full
    (hcheck : checkAccept pvo pid cache = .ok (guildID, guildVO, .STATUS_NORMAL))
    (hsize : isMaxSize cfgs guildVO = .ok true) :
    (acceptPlayerJoinGuild cfgs env pvo pid true).run cache =
      .error (.logic CodeGuild.memberFull.get) cache := by
  rw [acceptPlayerJoinGuild, run_bind, run_ofExcept, hcheck]
  simp only [if_true]
  rw [run_bind, run_ofExcept, hsize]
  rfl

/-- The player is in a guild by now. -/
lemma run_accept_of_inGuild
    (hcheck : checkAccept pvo pid cache = .ok (guildID, guildVO, .STATUS_NORMAL))
    (hsize : isMaxSize cfgs guildVO = .ok false) (hpid : notInGuild cache pid = false) :
    (acceptPlayerJoinGuild cfgs env pvo pid true).run cache =
      if env.loaded pid then .ok () (cache.removeReq pid guildID)
      else .error .nullPointer (cache.removeReq pid guildID) := by
  rw [acceptPlayerJoinGuild, run_bind, run_ofExcept, hcheck]
  simp only [if_true]
  rw [run_bind, run_ofExcept, hsize]
  show (ite (notInGuild cache pid = true ∧ _) _ _ : Method Unit).run cache = _
  rw [if_neg (by simp [hpid])]
  exact run_withdraw _ cache

lemma getGuildByID_joined_cacheReq (hguild : cache.getGuildByID guildID = some guildVO) (pid : ℤ) :
    (joined (cache.cacheReq pid guildID .STATUS_ACCEPT) pid guildID .Level3).getGuildByID guildID =
      some { guildVO with
        memberRights := guildVO.memberRights.insert pid RightLevel.Level3.getId } := by
  have hguild' : (cache.cacheReq pid guildID .STATUS_ACCEPT).getGuildByID guildID = some guildVO :=
    hguild
  exact getGuildByID_joined hguild' .Level3

/-- The player joins. -/
lemma run_accept_of_room (hnumbered : Numbered cache)
    (hcheck : checkAccept pvo pid cache = .ok (guildID, guildVO, .STATUS_NORMAL))
    (hguild : cache.getGuildByID guildID = some guildVO)
    (hsize : isMaxSize cfgs guildVO = .ok false) (hpid : notInGuild cache pid = true) :
    (acceptPlayerJoinGuild cfgs env pvo pid true).run cache =
      if env.loaded pid then
        .ok () (joined (cache.cacheReq pid guildID .STATUS_ACCEPT) pid guildID .Level3)
      else .error .nullPointer
        (joined (cache.cacheReq pid guildID .STATUS_ACCEPT) pid guildID .Level3) := by
  have hnone : cache.inGuild pid = false := inGuild_of_notInGuild hnumbered hpid
  have hpid' : (cache.cacheReq pid guildID .STATUS_ACCEPT).inGuild pid = false := hnone
  have hjoined := getGuildByID_joined_cacheReq hguild pid
  obtain ⟨full, hfull⟩ : ∃ full, isMaxSize cfgs { guildVO with
      memberRights := guildVO.memberRights.insert pid RightLevel.Level3.getId } = .ok full :=
    isMaxSize_of_level hsize rfl
  rw [acceptPlayerJoinGuild, run_bind, run_ofExcept, hcheck]
  simp only [if_true]
  rw [run_bind, run_ofExcept, hsize]
  show (ite (notInGuild cache pid = true ∧ _) _ _ : Method Unit).run cache = _
  rw [if_pos ⟨hpid, trivial⟩, run_bind, run_modify]
  show (directJoinGuild cfgs env pid guildID .Level3 >>= fun _ => checkLoaded env pid).run
    (cache.cacheReq pid guildID .STATUS_ACCEPT) = _
  rw [run_bind, run_directJoinGuild env hpid' (lookup_of_getGuildByID hjoined), hfull]
  cases hloaded : env.loaded pid with
  | false => rfl
  | true => exact (run_checkLoaded pid _).trans (if_pos hloaded)

lemma getReq_removeReq (cache : CacheGuild) (pid guildID : ℤ) :
    (cache.removeReq pid guildID).getReq pid guildID = none := AList.lookup_erase _ _

/-- A request is taken away. -/
lemma withdrawn_removeReq (cache : CacheGuild) (pid guildID : ℤ) :
    Withdrawn cache (cache.removeReq pid guildID) pid guildID :=
  ⟨rfl, getReq_removeReq cache pid guildID⟩

lemma getReq_updateGuild (cache : CacheGuild) (guildID : ℤ) (f : GuildVO → GuildVO)
    (pid guildID' : ℤ) :
    (cache.updateGuild guildID f).getReq pid guildID' = cache.getReq pid guildID' := by
  unfold CacheGuild.updateGuild
  cases cache.guilds.lookup guildID with
  | none => rfl
  | some guildVO => rfl

lemma roster_joined_cacheReq (cache : CacheGuild) (pid guildID : ℤ) :
    (joined (cache.cacheReq pid guildID .STATUS_ACCEPT) pid guildID .Level3).roster =
      (cache.roster.setHome pid (some guildID)).setRank guildID pid
        (some RightLevel.Level3.getId) := by
  rw [joined, CacheGuild.roster_chgRight, CacheGuild.roster_removeReqs,
    CacheGuild.roster_setGuildID, CacheGuild.roster_cacheReq]

/-- The player becomes a member. -/
lemma joins_joined (hguild : cache.getGuildByID guildID = some guildVO) :
    Joins cache (joined (cache.cacheReq pid guildID .STATUS_ACCEPT) pid guildID .Level3) pid
      guildID where
  home := (congrFun (congrArg Roster.home (roster_joined_cacheReq ..)) pid).trans
    (Function.update_self ..)
  member := ⟨_, getGuildByID_joined_cacheReq hguild pid, AList.lookup_insert _⟩
  roster := roster_joined_cacheReq ..
  reqs guildID' := by
    rw [joined, CacheGuild.chgRight, getReq_updateGuild]
    exact (AList.lookup_filterKeys _ _ _).trans (if_neg (by simp))

/-- A run that ends in one way with the player loaded and in a `NullPointerException` without. -/
lemma answerRight_of_loaded {accept : Bool} {cache' : CacheGuild}
    (hrun : (acceptPlayerJoinGuild cfgs env pvo pid accept).run cache =
      if env.loaded pid then .ok () cache' else .error .nullPointer cache')
    (hjoins : MayJoin cfgs pid accept guildVO cache → Joins cache cache' pid guildID)
    (hwithdrawn : ¬MayJoin cfgs pid accept guildVO cache → Withdrawn cache cache' pid guildID) :
    AnswerRight cfgs env pvo pid accept guildID guildVO cache ↔ env.loaded pid = true := by
  cases hloaded : env.loaded pid with
  | false =>
    rw [hloaded, if_neg Bool.false_ne_true] at hrun
    refine iff_of_false (fun hright => ?_) Bool.false_ne_true
    obtain ⟨code, hcode⟩ := hright.1 _ _ hrun
    cases hcode
  | true =>
    rw [hloaded, if_pos rfl] at hrun
    refine iff_of_true ⟨fun e cache₁ herror => ?_, ?_, ?_⟩ rfl
    · cases hrun.symm.trans herror
    · rw [finalState_eq_of_ok hrun]
      exact hjoins
    · rw [finalState_eq_of_ok hrun]
      exact hwithdrawn

/-- **An answer is as required** just if the player is loaded, and there is room for one who is
accepted. -/
theorem answerRight_iff (hnumbered : Numbered cache) (accept : Bool)
    (hright : getGuildVOAndCheckRight pvo .APPROVAL_JOIN_GUILD cache = .ok (guildID, guildVO))
    (hreq : cache.getReq pid guildID = some .STATUS_NORMAL) :
    AnswerRight cfgs env pvo pid accept guildID guildVO cache ↔
      env.loaded pid = true ∧ (accept = true → isMaxSize cfgs guildVO = .ok false) := by
  have hcheck := checkAccept_of_req hright hreq
  have hguild := of_checkAccept hcheck
  cases accept with
  | false =>
    rw [answerRight_of_loaded (run_refuse hcheck) (fun hmay => absurd hmay.1 Bool.false_ne_true)
      fun _ => withdrawn_removeReq cache pid guildID]
    exact (and_iff_left fun h => absurd h Bool.false_ne_true).symm
  | true =>
    cases hsize : isMaxSize cfgs guildVO with
    | error e =>
      have herror := indexOutOfBounds_of_isMaxSize hsize
      subst herror
      refine iff_of_false (fun hanswer => ?_) fun hroom => absurd (hroom.2 rfl) (by simp)
      obtain ⟨code, hcode⟩ := hanswer.1 _ _ (run_accept_of_error hcheck hsize)
      cases hcode
    | ok full =>
      cases full with
      | true =>
        -- the request stays
        refine iff_of_false (fun hanswer => ?_) fun hroom => absurd (hroom.2 rfl) (by simp)
        have hgone := (hanswer.2.2 fun hmay => absurd (hsize.symm.trans hmay.2.2) (by simp)).req
        rw [finalState_eq_of_error (run_accept_of_full hcheck hsize), hreq] at hgone
        cases hgone
      | false =>
        simp only [imp_self, and_true]
        cases hpid : notInGuild cache pid with
        | false =>
          refine answerRight_of_loaded (run_accept_of_inGuild hcheck hsize hpid)
            (fun hmay => ?_) fun _ => withdrawn_removeReq cache pid guildID
          exact absurd (hpid.symm.trans hmay.2.1) Bool.false_ne_true
        | true =>
          refine answerRight_of_loaded (run_accept_of_room hnumbered hcheck hguild hsize hpid)
            (fun _ => joins_joined hguild) fun hmay => ?_
          exact absurd ⟨rfl, hpid, hsize⟩ hmay

end Answer

/-- Guilds of the first level can have ten requests. -/
def requestCfgs : GuildCfgs :=
  { smallCfgs with guildLVCfg := [{ lv := 1, reqExp := 0, maxCanReqSize := 10 }] }

/-- Player 1 creates a guild, and player 2 asks to join it. -/
def asked : List (Surroundings × Call) :=
  [(without 0, .createGuild 1 true (.ok ())), (without 0, .joinGuild 2 1)]

/-- The guilds then. -/
def requested : CacheGuild := Runs.run (step requestCfgs) (start 0) asked

/-- Player 2 is not loaded. -/
def absent : Surroundings := { without 0 with loaded := fun pid => pid ≠ 2 }

lemma numbered_requested : Numbered requested := ⟨by decide, by decide, by decide⟩

/-- Player 2 is loaded and accepted. -/
theorem answerRight_iff_accepted :
    ∃ guildVO, getGuildVOAndCheckRight 1 .APPROVAL_JOIN_GUILD requested = .ok (1, guildVO) ∧
      AnswerRight requestCfgs (without 0) 1 2 true 1 guildVO requested :=
  ⟨_, rfl, (answerRight_iff numbered_requested true rfl rfl).mpr ⟨rfl, fun _ => rfl⟩⟩

/-- **Not so in general**: a player who is not loaded joins, and then there is nobody to ask. -/
theorem not_answerRight :
    ∃ guildVO, getGuildVOAndCheckRight 1 .APPROVAL_JOIN_GUILD requested = .ok (1, guildVO) ∧
      requested.getReq 2 1 = some .STATUS_NORMAL ∧
      ¬AnswerRight requestCfgs absent 1 2 true 1 guildVO requested := by
  refine ⟨_, rfl, rfl, ?_⟩
  rintro ⟨hchecked, -⟩
  obtain ⟨code, hcode⟩ := hchecked _ _ rfl
  cases hcode

end SrgpGame.Guild
