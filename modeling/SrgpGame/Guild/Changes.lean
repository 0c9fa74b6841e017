import SrgpGame.Guild.NoReqGuild

set_option autoImplicit false

/-!
# What a call makes of the guilds

Every call changes the level and the rights of a guild in one of a few ways. So a property of guilds
that only concerns these holds of all guilds after a call, if it is kept by the ways that the
methods check, and by the ones they do not check where the call takes them.

## Main definitions

* `Checked` — a property of guilds that is kept by the changes that are checked.
* `reached`, `replaced` — the guilds to which the loop over the leaders comes, and what it makes of
  them.
* `KeepsGuilds` — the changes of a call that are not checked keep a property.

## Main results

* `stepIff_step` — all guilds have a checked property after a call if and only if its changes that
  are not checked keep it.
-/

namespace SrgpGame.Guild

/-! ## Changes of a guild -/

section Changes

/-- A guild with a level for a player. -/
def GuildVO.withRight (guildVO : GuildVO) (pid : ℤ) (rightLevel : RightLevel) : GuildVO :=
  { guildVO with memberRights := guildVO.memberRights.insert pid rightLevel.getId }

/-- A guild without a player. -/
def GuildVO.withoutRight (guildVO : GuildVO) (pid : ℤ) : GuildVO :=
  { guildVO with memberRights := guildVO.memberRights.erase pid }

/-- A guild whose new leader has the highest level, and whose old one has the next. -/
def GuildVO.transfer (guildVO : GuildVO) (old new : ℤ) : GuildVO :=
  (guildVO.withRight new .Level0).withRight old .Level1

/-- A guild that a player creates. -/
def newGuildVO (pvo : ℤ) (needReq : Bool) : GuildVO :=
  { level := 1, owner := pvo, enterNeedReq := needReq }

variable (cfgs : GuildCfgs) (env : Surroundings) (cache : CacheGuild)

/-- What the loop over the leaders makes of a guild. -/
def replaced (guildVO : GuildVO) : GuildVO :=
  match newLeader cfgs env cache guildVO with
  | none => guildVO
  | some pid =>
    if (env.lastLoginDay guildVO.owner).isSome then
      { guildVO.transfer guildVO.owner pid with owner := pid }
    else guildVO.transfer guildVO.owner pid

/-- The guilds to which the loop over the leaders comes, until it throws. -/
def reached : List ℤ → List ℤ
  | [] => []
  | guildID :: guildIDs =>
    match cache.guilds.lookup guildID with
    | none => []
    | some guildVO => guildID :: if stumbles cfgs env cache guildVO then [] else reached guildIDs

end Changes

/-! ## Properties of guilds -/

/-- All guilds have a property, also those that were dissolved. -/
def AllGuilds (P : GuildVO → Prop) (cache : CacheGuild) : Prop :=
  ∀ guildID guildVO, cache.guilds.lookup guildID = some guildVO → P guildVO

/-- **A property of the level and the rights of guilds** that is kept when a player joins a guild
that is not full or leaves one, and when a member gets a level that is not taken. -/
structure Checked (cfgs : GuildCfgs) (P : GuildVO → Prop) : Prop where
  congr : ∀ (guildVO guildVO' : GuildVO), guildVO'.level = guildVO.level →
    guildVO'.memberRights = guildVO.memberRights → P guildVO → P guildVO'
  join : ∀ {guildVO : GuildVO}, P guildVO → isMaxSize cfgs guildVO = .ok false → ∀ pid,
    P (guildVO.withRight pid .Level3)
  promote : ∀ {guildVO : GuildVO}, P guildVO → ∀ {pid : ℤ}, pid ∈ guildVO.memberRights →
    ∀ {rightLevel : RightLevel} {size : ℤ},
      levelSize cfgs guildVO.level.toInt rightLevel = .ok size →
      ¬(0 < size ∧ size ≤ guildVO.memberRights.values.count rightLevel.getId) →
        P (guildVO.withRight pid rightLevel)
  leave : ∀ {guildVO : GuildVO}, P guildVO → ∀ pid, P (guildVO.withoutRight pid)

/-- **The changes of a call that are not checked** keep a property of guilds: a guild that is
created, a transfer, a new leader, and a guild that gets points. -/
def KeepsGuilds (cfgs : GuildCfgs) (P : GuildVO → Prop) (cache : CacheGuild)
    (call : Surroundings × Call) : Prop :=
  match call.2 with
  | .createGuild pvo needReq checked =>
    cache.inGuild pvo = false → checked = .ok () →
      P ((newGuildVO pvo needReq).withRight pvo .Level0)
  | .chgOwner pvo tgtPid =>
    ∀ guildID guildVO, checkChgOwner pvo tgtPid cache = .ok guildID →
      cache.guilds.lookup guildID = some guildVO → P (guildVO.transfer pvo tgtPid)
  | .replaceGuildLeader =>
    ∀ guildID ∈ reached cfgs call.1 cache (call.1.order cache.allGuildByID), ∀ guildVO,
      cache.guilds.lookup guildID = some guildVO → P (replaced cfgs call.1 cache guildVO)
  | .addGuildExp guildID exp =>
    ∀ guildVO, cache.guilds.lookup guildID = some guildVO → P (addExp cfgs guildVO exp)
  | _ => True

section Books

variable {cfgs : GuildCfgs} {P : GuildVO → Prop} {cache cache' : CacheGuild}

/-- The guilds, and their ids. -/
def books (cache : CacheGuild) : ℤ × List ℤ × AList fun _ : ℤ => GuildVO :=
  (cache.guildDBID, cache.allGuildByID, cache.guilds)

/-- Ids are in order after a call, and the guilds have a property just if `kept`. -/
def StepIff (P : GuildVO → Prop) (cache' : CacheGuild) (kept : Prop) : Prop :=
  Numbered cache' ∧ (AllGuilds P cache' ↔ kept)

lemma stepIff_of_books (hnumbered : Numbered cache) (h : AllGuilds P cache) {kept : Prop}
    (hkept : kept) (hbooks : books cache' = books cache) : StepIff P cache' kept := by
  obtain ⟨hcounter, hbooks⟩ := Prod.mk.inj hbooks
  obtain ⟨hlive, hguilds⟩ := Prod.mk.inj hbooks
  refine ⟨⟨?_, ?_, ?_⟩, iff_of_true ?_ hkept⟩
  · rw [hcounter]
    exact hnumbered.nonneg
  · rw [hcounter, hlive]
    exact hnumbered.live
  · rw [hlive]
    exact hnumbered.nodup
  · rw [AllGuilds, hguilds]
    exact h

lemma StepIff.of_books {kept : Prop} (h : StepIff P cache kept)
    (hbooks : books cache' = books cache) : StepIff P cache' kept := by
  obtain ⟨hcounter, hbooks⟩ := Prod.mk.inj hbooks
  obtain ⟨hlive, hguilds⟩ := Prod.mk.inj hbooks
  obtain ⟨⟨hnonneg, hids, hnodup⟩, hall⟩ := h
  refine ⟨⟨?_, ?_, ?_⟩, ?_⟩
  · rw [hcounter]
    exact hnonneg
  · rw [hcounter, hlive]
    exact hids
  · rw [hlive]
    exact hnodup
  · rw [AllGuilds, hguilds]
    exact hall

lemma lookup_updateGuild (cache : CacheGuild) (guildID : ℤ) (f : GuildVO → GuildVO)
    (guildID' : ℤ) :
    (cache.updateGuild guildID f).guilds.lookup guildID' =
      if guildID' = guildID then (cache.guilds.lookup guildID).map f
      else cache.guilds.lookup guildID' := by
  unfold CacheGuild.updateGuild
  cases hguild : cache.guilds.lookup guildID with
  | none =>
    dsimp only
    by_cases heq : guildID' = guildID
    · rw [if_pos heq, heq, hguild]
      rfl
    · rw [if_neg heq]
  | some guildVO =>
    dsimp only
    rw [AList.lookup_insert_ite]
    rfl

/-- **A change of a guild** keeps a property just if it keeps it of that guild. -/
lemma stepIff_updateGuild (hnumbered : Numbered cache) (h : AllGuilds P cache) (guildID : ℤ)
    (f : GuildVO → GuildVO) :
    StepIff P (cache.updateGuild guildID f)
      (∀ guildVO, cache.guilds.lookup guildID = some guildVO → P (f guildVO)) := by
  refine ⟨hnumbered.updateGuild guildID f, ?_⟩
  constructor
  · intro hall guildVO hguild
    apply hall guildID
    rw [lookup_updateGuild, if_pos rfl, hguild]
    rfl
  · intro hf guildID' guildVO' hguild
    rw [lookup_updateGuild] at hguild
    split at hguild
    · obtain ⟨guildVO, hbefore, rfl⟩ := Option.map_eq_some_iff.mp hguild
      exact hf guildVO hbefore
    · exact h guildID' guildVO' hguild

/-- A change of a guild that keeps a property of it. -/
lemma stepIff_updateGuild_of (hnumbered : Numbered cache) (h : AllGuilds P cache) {guildID : ℤ}
    {f : GuildVO → GuildVO}
    (hf : ∀ guildVO, cache.guilds.lookup guildID = some guildVO → P guildVO → P (f guildVO))
    {kept : Prop} (hkept : kept) : StepIff P (cache.updateGuild guildID f) kept := by
  obtain ⟨hnumbered', hall⟩ := stepIff_updateGuild hnumbered h guildID f
  exact ⟨hnumbered', iff_of_true (hall.mpr fun guildVO hguild =>
    hf guildVO hguild (h guildID guildVO hguild)) hkept⟩

/-- A property of the level and the rights does not concern the owner. -/
lemma Checked.owner_iff (hchecked : Checked cfgs P) {guildVO : GuildVO} {owner : ℤ} :
    P { guildVO with owner := owner } ↔ P guildVO :=
  ⟨hchecked.congr _ guildVO rfl rfl, hchecked.congr guildVO _ rfl rfl⟩

/-- A change of a guild that keeps its level and the rights. -/
lemma stepIff_updateGuild_same (hchecked : Checked cfgs P) (hnumbered : Numbered cache)
    (h : AllGuilds P cache) (guildID : ℤ) {f : GuildVO → GuildVO}
    (hf : ∀ guildVO, (f guildVO).level = guildVO.level ∧
      (f guildVO).memberRights = guildVO.memberRights) :
    StepIff P (cache.updateGuild guildID f) True :=
  stepIff_updateGuild_of hnumbered h
    (fun guildVO _ hP => hchecked.congr guildVO _ (hf guildVO).1 (hf guildVO).2 hP) trivial

lemma books_refNoNeedReqGuilds (cfgs : GuildCfgs) (guildID : ℤ) (cache : CacheGuild) :
    books ((refNoNeedReqGuilds cfgs guildID).finalState cache) = books cache := by
  rw [refNoNeedReqGuilds, EStateM.finalState_ofExcept_bind]
  split
  · split
    · rfl
    · rw [EStateM.finalState_ofExcept_bind]
      split
      · rw [EStateM.finalState_modify]
        split_ifs <;> rfl
      · rfl
  · rfl

lemma books_checkLoaded (env : Surroundings) (pid : ℤ) (cache : CacheGuild) :
    books ((checkLoaded env pid).finalState cache) = books cache := by
  rw [checkLoaded, EStateM.finalState_ofExcept]

lemma books_leaveGuild (cache : CacheGuild) (pid : ℤ) :
    books (cache.leaveGuild pid) = books cache := by
  unfold CacheGuild.leaveGuild
  split <;> rfl

lemma books_setNextEnterGuildTime (cache : CacheGuild) (pid time : ℤ) :
    books (cache.setNextEnterGuildTime pid time) = books cache := by
  unfold CacheGuild.setNextEnterGuildTime
  split <;> rfl

end Books

/-! ## Joining -/

section Joining

variable {cfgs : GuildCfgs} (env : Surroundings) {P : GuildVO → Prop} {cache : CacheGuild}

/-- A player who joins a guild. -/
lemma stepIff_joined (hnumbered : Numbered cache) (h : AllGuilds P cache) {pid guildID : ℤ}
    {rightLevel : RightLevel}
    (hjoin : ∀ guildVO, cache.guilds.lookup guildID = some guildVO →
      P (guildVO.withRight pid rightLevel)) :
    StepIff P (joined cache pid guildID rightLevel) True := by
  have hrecord : StepIff P ((cache.setGuildID pid guildID).removeReqs pid) True :=
    stepIff_of_books hnumbered h trivial rfl
  exact stepIff_updateGuild_of hrecord.1 (hrecord.2.mpr trivial)
    (fun guildVO hguild _ => hjoin guildVO hguild) trivial

/-- A player may join a guild that is not full. -/
lemma stepIff_directJoinGuild (hchecked : Checked cfgs P) (hnumbered : Numbered cache)
    (h : AllGuilds P cache) (pid : ℤ) {guildID : ℤ} {guildVO : GuildVO}
    (hguild : cache.guilds.lookup guildID = some guildVO)
    (hroom : isMaxSize cfgs guildVO = .ok false) :
    StepIff P ((directJoinGuild cfgs env pid guildID .Level3).finalState cache) True := by
  rw [finalState_directJoinGuild]
  split
  · exact stepIff_of_books hnumbered h trivial rfl
  · apply stepIff_joined hnumbered h
    intro guildVO' hguild'
    obtain rfl := Option.some.inj (hguild.symm.trans hguild')
    exact hchecked.join (h guildID guildVO hguild) hroom pid

lemma stepIff_joinGuild (hchecked : Checked cfgs P) (hnumbered : Numbered cache)
    (h : AllGuilds P cache) (pvo guildID : ℤ) :
    StepIff P ((joinGuild cfgs env pvo guildID).finalState cache) True := by
  rw [joinGuild, EStateM.finalState_ofExcept_bind]
  cases hcheck : checkJoinGuild cfgs env pvo guildID cache with
  | error e => exact stepIff_of_books hnumbered h trivial rfl
  | ok result =>
    obtain ⟨found, guildVO⟩ := result
    obtain ⟨hfind, -, hroom⟩ := of_checkJoinGuild env hcheck
    have hguild := lookup_of_findGuild env cache hfind
    dsimp only
    split
    · rw [EStateM.finalState_ofExcept_bind]
      split <;> exact stepIff_of_books hnumbered h trivial rfl
    · exact (stepIff_directJoinGuild env hchecked hnumbered h pvo hguild hroom).of_books
        (EStateM.finalState_bind_eq_of_leaves _
          (fun _ => books_refNoNeedReqGuilds cfgs found) cache)

lemma stepIff_acceptPlayerJoinGuild (hchecked : Checked cfgs P) (hnumbered : Numbered cache)
    (h : AllGuilds P cache) (pvo pid : ℤ) (accept : Bool) :
    StepIff P ((acceptPlayerJoinGuild cfgs env pvo pid accept).finalState cache) True := by
  have hsame : ∀ f : CacheGuild → CacheGuild, books (f cache) = books cache →
      StepIff P ((do modify f; checkLoaded env pid : Method Unit).finalState cache) True := by
    intro f hf
    apply stepIff_of_books hnumbered h trivial
    rw [EStateM.finalState_modify_bind, books_checkLoaded, hf]
  rw [acceptPlayerJoinGuild, EStateM.finalState_ofExcept_bind]
  cases hcheck : checkAccept pvo pid cache with
  | error e => exact stepIff_of_books hnumbered h trivial rfl
  | ok result =>
    obtain ⟨guildID, guildVO, status⟩ := result
    have hguild := lookup_of_getGuildByID (of_checkAccept hcheck)
    dsimp only
    split
    · rw [EStateM.finalState_ofExcept_bind]
      split
      · next hroom =>
        rw [EStateM.finalState_get_bind]
        split
        · rw [EStateM.finalState_modify_bind]
          obtain ⟨full, hfull, hcheck⟩ := Except.bind_eq_ok.mp hroom
          rw [ICode.throwIfTrue_eq_ok, Bool.not_eq_true] at hcheck
          subst hcheck
          have haccept : StepIff P (cache.cacheReq pid guildID .STATUS_ACCEPT) True :=
            stepIff_of_books hnumbered h trivial rfl
          exact (stepIff_directJoinGuild env hchecked haccept.1 (haccept.2.mpr trivial) pid hguild
            hfull).of_books
              (EStateM.finalState_bind_eq_of_leaves _ (fun _ => books_checkLoaded env pid) _)
        · exact hsame _ rfl
      · exact stepIff_of_books hnumbered h trivial rfl
    · apply hsame
      split <;> rfl

lemma stepIff_joinAccepted (hchecked : Checked cfgs P) (hnumbered : Numbered cache)
    (h : AllGuilds P cache) (pid : ℤ) (guildIDs : List ℤ) :
    StepIff P ((joinAccepted cfgs env pid guildIDs).finalState cache) True := by
  induction guildIDs generalizing cache with
  | nil => exact stepIff_of_books hnumbered h trivial rfl
  | cons guildID guildIDs ih =>
    rw [joinAccepted, EStateM.finalState_get_bind]
    cases hguild : cache.getGuildByID guildID with
    | none => exact stepIff_of_books hnumbered h trivial rfl
    | some guildVO =>
      dsimp only
      rw [EStateM.finalState_ofExcept_bind]
      cases hroom : isMaxSize cfgs guildVO with
      | error e => exact stepIff_of_books hnumbered h trivial rfl
      | ok full =>
        dsimp only
        split
        · exact ih hnumbered h
        · next hfull =>
          rw [Bool.not_eq_true] at hfull
          subst hfull
          split
          · have hdone : StepIff P (cache.cacheReq pid guildID .STATUS_DONE) True :=
              stepIff_of_books hnumbered h trivial rfl
            rw [EStateM.finalState_modify_bind]
            split
            · exact stepIff_directJoinGuild env hchecked hdone.1 (hdone.2.mpr trivial) pid
                (lookup_of_getGuildByID hguild) hroom
            · exact ih hdone.1 (hdone.2.mpr trivial)
          · exact ih hnumbered h

/-- **A player enters the game**, and may join a guild that is not full. -/
lemma stepIff_buildAsLoad (hchecked : Checked cfgs P) (hnumbered : Numbered cache)
    (h : AllGuilds P cache) (pid : ℤ) :
    StepIff P ((buildAsLoad cfgs env pid).finalState cache) True := by
  rw [buildAsLoad, EStateM.finalState_get_bind]
  split
  · exact stepIff_joinAccepted env hchecked hnumbered h pid _
  · apply stepIff_of_books hnumbered h trivial
    rw [EStateM.finalState_modify_bind, EStateM.finalState_modify]
    split
    · rfl
    · split
      · exact books_leaveGuild _ pid
      · rfl

lemma stepIff_enterGame (hnumbered : Numbered cache) (h : AllGuilds P cache) (pid : ℤ) :
    StepIff P ((enterGame pid).finalState cache) True := by
  apply stepIff_of_books hnumbered h trivial
  rw [enterGame, EStateM.finalState_modify]
  split
  · rfl
  · split
    · split
      · exact books_leaveGuild cache pid
      · rfl
    · split
      · exact books_leaveGuild cache pid
      · rfl

/-- A new guild has its founder, and the others are as they were. -/
lemma lookup_joined_newGuild (guildVO : GuildVO) (pid : ℤ) (rightLevel : RightLevel)
    (guildID : ℤ) :
    (joined (cache.newGuild guildVO) pid (cache.guildDBID + 1) rightLevel).guilds.lookup guildID =
      if guildID = cache.guildDBID + 1 then some (guildVO.withRight pid rightLevel)
      else cache.guilds.lookup guildID := by
  have hnew : (cache.newGuild guildVO).guilds.lookup (cache.guildDBID + 1) = some guildVO :=
    AList.lookup_insert _
  rw [joined, CacheGuild.chgRight, lookup_updateGuild]
  split
  · exact congrArg (Option.map _) hnew
  · next hne => exact AList.lookup_insert_ne hne

lemma allGuilds_joined_newGuild (h : AllGuilds P cache) (guildVO : GuildVO) (pid : ℤ)
    (rightLevel : RightLevel) :
    AllGuilds P (joined (cache.newGuild guildVO) pid (cache.guildDBID + 1) rightLevel) ↔
      P (guildVO.withRight pid rightLevel) := by
  constructor
  · intro hall
    apply hall (cache.guildDBID + 1)
    rw [lookup_joined_newGuild, if_pos rfl]
  · intro hfounder guildID guildVO' hguild
    rw [lookup_joined_newGuild] at hguild
    split at hguild
    · exact Option.some.inj hguild ▸ hfounder
    · exact h guildID guildVO' hguild

/-- **A player creates a guild**, of which only the founder is a member. -/
lemma stepIff_createGuild (hnumbered : Numbered cache) (h : AllGuilds P cache) (pvo : ℤ)
    (needReq : Bool) (checked : Except Thrown Unit) :
    StepIff P ((createGuild cfgs env pvo needReq checked).finalState cache)
      (KeepsGuilds cfgs P cache (env, .createGuild pvo needReq checked)) := by
  unfold KeepsGuilds
  dsimp only
  rw [createGuild, EStateM.finalState_ofExcept_bind]
  cases hcheck : CodeGuild.alreadyInGuild.throwIfTrue (cache.inGuild pvo = true) with
  | error e =>
    refine stepIff_of_books hnumbered h (fun hpid => ?_) rfl
    rw [hpid, ICode.throwIfTrue, if_neg Bool.false_ne_true] at hcheck
    cases hcheck
  | ok u =>
    rw [ICode.throwIfTrue_eq_ok, Bool.not_eq_true] at hcheck
    dsimp only
    rw [EStateM.finalState_ofExcept_bind]
    cases checked with
    | error e => exact stepIff_of_books hnumbered h (fun _ hok => by cases hok) rfl
    | ok u =>
      have hpid : (cache.newGuild (newGuildVO pvo needReq)).inGuild pvo = false := by
        rw [← hcheck]
        unfold CacheGuild.inGuild
        simp only [getGuildByID_newGuild hnumbered]
        rfl
      have hnew : (cache.newGuild (newGuildVO pvo needReq)).guilds.lookup (cache.guildDBID + 1) =
          some (newGuildVO pvo needReq) := AList.lookup_insert _
      have hkept : AllGuilds P (joined (cache.newGuild (newGuildVO pvo needReq)) pvo
          (cache.guildDBID + 1) .Level0) ↔ (cache.inGuild pvo = false →
            Except.ok u = (Except.ok () : Except Thrown Unit) →
              P ((newGuildVO pvo needReq).withRight pvo .Level0)) := by
        rw [allGuilds_joined_newGuild h]
        exact ⟨fun hfounder _ _ => hfounder, fun hfounder => hfounder hcheck rfl⟩
      dsimp only
      have hrun := @run_directJoinGuild cfgs env _ _ _ _ hpid _ (lookup_joined hnew .Level0)
      unfold newGuildVO at hrun
      rw [EStateM.finalState_get_bind, EStateM.finalState_modify_bind, EStateM.finalState_bind,
        hrun]
      have hjoined : StepIff P (joined (cache.newGuild (newGuildVO pvo needReq)) pvo
          (cache.guildDBID + 1) .Level0) _ :=
        ⟨(sameBook_joined _ _ _ _).numbered (hnumbered.newGuild _), hkept⟩
      cases env.loaded pvo with
      | false => exact hjoined
      | true =>
        rw [if_pos rfl]
        split
        · next hrun =>
          split at hrun
          · cases hrun
            rw [EStateM.finalState_modify_bind]
            have hadded : StepIff P ((joined (cache.newGuild (newGuildVO pvo needReq)) pvo
                (cache.guildDBID + 1) .Level0).addCache (cache.guildDBID + 1)) _ :=
              ⟨hnumbered.addCache (newGuildVO pvo needReq) pvo .Level0, hkept⟩
            exact hadded.of_books (books_refNoNeedReqGuilds cfgs _ _)
          · cases hrun
        · next hrun =>
          split at hrun
          · cases hrun
          · cases hrun
            exact hjoined

end Joining

/-! ## Rights and leaving -/

section Rights

variable {cfgs : GuildCfgs} (env : Surroundings) {P : GuildVO → Prop} {cache : CacheGuild}

/-- Two changes of a guild are one. -/
lemma updateGuild_updateGuild (cache : CacheGuild) (guildID : ℤ) (f f' : GuildVO → GuildVO) :
    (cache.updateGuild guildID f).updateGuild guildID f' =
      cache.updateGuild guildID fun guildVO => f' (f guildVO) := by
  unfold CacheGuild.updateGuild
  cases hguild : cache.guilds.lookup guildID with
  | none =>
    dsimp only
    rw [hguild]
  | some guildVO =>
    dsimp only
    rw [AList.lookup_insert]
    dsimp only
    rw [AList.insert_insert]

lemma chgRight_chgRight (cache : CacheGuild) (guildID old new : ℤ) :
    (cache.chgRight guildID new .Level0).chgRight guildID old .Level1 =
      cache.updateGuild guildID fun guildVO => guildVO.transfer old new :=
  updateGuild_updateGuild cache guildID _ _

lemma transfer_eq_updateGuild (cache : CacheGuild) (guildID old new : ℤ) :
    ((cache.chgRight guildID new .Level0).chgRight guildID old .Level1).setOwner guildID new =
      cache.updateGuild guildID fun guildVO => { guildVO.transfer old new with owner := new } := by
  rw [chgRight_chgRight]
  exact updateGuild_updateGuild cache guildID _ _

/-- `modifyRight` gives a member a level that is not taken. -/
lemma room_of_checkModifyRight {pvo pid tgtRight guildID : ℤ} {tgtRightLV : RightLevel}
    (hcheck : checkModifyRight cfgs pvo pid tgtRight cache = .ok (guildID, tgtRightLV)) :
    ∃ guildVO size, cache.guilds.lookup guildID = some guildVO ∧ pid ∈ guildVO.memberRights ∧
      levelSize cfgs guildVO.level.toInt tgtRightLV = .ok size ∧
      ¬(0 < size ∧ size ≤ guildVO.memberRights.values.count tgtRightLV.getId) := by
  obtain ⟨⟨guildID', guildVO⟩, hright, hrest⟩ := Except.bind_eq_ok.mp hcheck
  have hguild := lookup_of_getGuildByID (of_getGuildVOAndCheckRight hright).2.1
  obtain ⟨_, hmember, hrest⟩ := Except.bind_eq_ok.mp hrest
  rw [ICode.throwIfTrue_eq_ok] at hmember
  split at hrest
  · cases hrest
  · obtain ⟨_, -, hrest⟩ := Except.bind_eq_ok.mp hrest
    split at hrest
    · cases hrest
    · obtain ⟨size, hsize, hrest⟩ := Except.bind_eq_ok.mp hrest
      obtain ⟨_, hroom, hpure⟩ := Except.bind_eq_ok.mp hrest
      rw [ICode.throwIfTrue_eq_ok] at hroom
      cases hpure
      have hmem := AList.lookup_isSome.mp (Option.isSome_iff_ne_none.mpr hmember)
      exact ⟨guildVO, size, hguild, hmem, hsize, hroom⟩

lemma stepIff_modifyRight (hchecked : Checked cfgs P) (hnumbered : Numbered cache)
    (h : AllGuilds P cache) (pvo pid tgtRight : ℤ) :
    StepIff P ((modifyRight cfgs pvo pid tgtRight).finalState cache) True := by
  rw [modifyRight, EStateM.finalState_ofExcept_bind]
  cases hcheck : checkModifyRight cfgs pvo pid tgtRight cache with
  | error e => exact stepIff_of_books hnumbered h trivial rfl
  | ok result =>
    obtain ⟨guildID, tgtRightLV⟩ := result
    obtain ⟨guildVO, size, hguild, hmember, hsize, hroom⟩ := room_of_checkModifyRight hcheck
    refine stepIff_updateGuild_of hnumbered h (fun guildVO' hguild' hP => ?_) trivial
    obtain rfl := Option.some.inj (hguild.symm.trans hguild')
    exact hchecked.promote hP hmember hsize hroom

/-- **A transfer** is one of the guild that is handed over. -/
lemma stepIff_chgOwner (hchecked : Checked cfgs P) (hnumbered : Numbered cache)
    (h : AllGuilds P cache) (pvo tgtPid : ℤ) :
    StepIff P ((chgOwner pvo tgtPid).finalState cache)
      (KeepsGuilds cfgs P cache (env, .chgOwner pvo tgtPid)) := by
  unfold KeepsGuilds
  dsimp only
  rw [chgOwner, EStateM.finalState_ofExcept_bind]
  cases hcheck : checkChgOwner pvo tgtPid cache with
  | error e =>
    refine stepIff_of_books hnumbered h (fun guildID guildVO hok => ?_) rfl
    cases hok
  | ok guildID =>
    obtain ⟨hnumbered', hall⟩ := stepIff_updateGuild hnumbered h guildID fun guildVO =>
      { guildVO.transfer pvo tgtPid with owner := tgtPid }
    have hkept : (∀ guildVO, cache.guilds.lookup guildID = some guildVO →
        P { guildVO.transfer pvo tgtPid with owner := tgtPid }) ↔
          ∀ guildID' guildVO, (Except.ok guildID : Except Thrown ℤ) = .ok guildID' →
            cache.guilds.lookup guildID' = some guildVO → P (guildVO.transfer pvo tgtPid) := by
      constructor
      · rintro hP guildID' guildVO ⟨⟩ hguild
        exact hchecked.owner_iff.mp (hP guildVO hguild)
      · intro hP guildVO hguild
        exact hchecked.owner_iff.mpr (hP guildID guildVO rfl hguild)
    show StepIff P (((cache.chgRight guildID tgtPid .Level0).chgRight guildID pvo .Level1).setOwner
      guildID tgtPid) _
    rw [transfer_eq_updateGuild]
    exact ⟨hnumbered', hall.trans hkept⟩

lemma stepIff_outGuild (hchecked : Checked cfgs P) (hnumbered : Numbered cache)
    (h : AllGuilds P cache) (pvo pid : ℤ) :
    StepIff P ((outGuild cfgs env pvo pid).finalState cache) True := by
  rw [outGuild, EStateM.finalState_ofExcept_bind]
  cases checkOutGuild pvo pid cache with
  | error e => exact stepIff_of_books hnumbered h trivial rfl
  | ok guildID =>
    have hremoved : StepIff P (cache.removeRight guildID pid) True :=
      stepIff_updateGuild_of hnumbered h (fun _ _ hP => hchecked.leave hP pid) trivial
    dsimp only
    rw [EStateM.finalState_modify_bind, EStateM.finalState_ofExcept_bind]
    apply hremoved.of_books
    split
    · rw [books_refNoNeedReqGuilds, books_leaveGuild, books_setNextEnterGuildTime]
    · rw [books_leaveGuild, books_setNextEnterGuildTime]

/-! ## Dissolving -/

lemma stepIff_announced {cache' : CacheGuild} (hchecked : Checked cfgs P)
    (hnumbered : Numbered cache) (h : AllGuilds P cache) (hannounced : Announced cache cache') :
    StepIff P cache' True := by
  cases hannounced with
  | refl => exact stepIff_of_books hnumbered h trivial rfl
  | @chgStatus guildID hmem status hstatus dissolutionTime inDissolutionGuild =>
    have hchanged : StepIff P (cache.updateGuild guildID fun guildVO =>
        { guildVO with status := status, dissolutionTime := dissolutionTime }) True :=
      stepIff_updateGuild_same hchecked hnumbered h guildID fun _ => ⟨rfl, rfl⟩
    exact hchanged.of_books rfl

lemma books_foldl_leaveGuild (cache : CacheGuild) (pids : List ℤ) :
    books (pids.foldl CacheGuild.leaveGuild cache) = books cache := by
  induction pids generalizing cache with
  | nil => rfl
  | cons pid pids ih => exact (ih _).trans (books_leaveGuild cache pid)

/-- A guild may be no longer found. -/
lemma StepIff.removeCache {kept : Prop} (h : StepIff P cache kept) (guildID : ℤ) :
    StepIff P (cache.removeCache guildID) kept := by
  obtain ⟨⟨hnonneg, hlive, hnodup⟩, hall⟩ := h
  refine ⟨⟨hnonneg, fun guildID' hmem => ?_, hnodup.filter _⟩, hall⟩
  exact hlive guildID' (List.mem_filter.mp hmem).1

lemma stepIff_dissolve (hchecked : Checked cfgs P) (hnumbered : Numbered cache)
    (h : AllGuilds P cache) (guildID : ℤ) :
    StepIff P ((dissolve guildID).finalState cache) True := by
  rw [dissolve, EStateM.finalState_ofExcept_bind]
  split
  · next guildVO _ =>
    split
    · have hended : StepIff P (cache.updateGuild guildID fun guildVO =>
          { guildVO with status := .DISSOLUTION_END }) True :=
        stepIff_updateGuild_same hchecked hnumbered h guildID fun _ => ⟨rfl, rfl⟩
      have hleft := hended.of_books (books_foldl_leaveGuild _ guildVO.memberRights.keys)
      exact (hleft.removeCache guildID).of_books rfl
    · have hsame : StepIff P cache True := stepIff_of_books hnumbered h trivial rfl
      exact (hsame.removeCache guildID).of_books rfl
  · exact stepIff_of_books hnumbered h trivial rfl

lemma stepIff_innerDissolutionGuild (hchecked : Checked cfgs P) (hnumbered : Numbered cache)
    (h : AllGuilds P cache) (guildIDs : List ℤ) :
    StepIff P ((innerDissolutionGuild guildIDs).finalState cache) True := by
  have hstart : StepIff P cache True := stepIff_of_books hnumbered h trivial rfl
  rw [innerDissolutionGuild]
  exact EStateM.finalState_each_of_keeps (P := fun cache' => StepIff P cache' True)
    (fun guildID _ hkept => stepIff_dissolve hchecked hkept.1 (hkept.2.mpr trivial) guildID) hstart

end Rights

/-! ## Leaders -/

section Leaders

variable {cfgs : GuildCfgs} (env : Surroundings) {P : GuildVO → Prop} {cache : CacheGuild}

/-- **A round of the loop over the leaders** changes the guild that it comes to, and no other. -/
lemma run_replaceLeader_cases {cache' : CacheGuild} {guildID : ℤ} {guildIDs : List ℤ}
    {guildVO : GuildVO} (huntouched : Untouched cache cache' (guildID :: guildIDs))
    (hnotin : guildID ∉ guildIDs) (hguild : cache.guilds.lookup guildID = some guildVO) :
    ∃ cache'', Untouched cache cache'' guildIDs ∧
      (∀ guildID', cache''.guilds.lookup guildID' =
        if guildID' = guildID then some (replaced cfgs env cache guildVO)
        else cache'.guilds.lookup guildID') ∧
      (replaceLeader cfgs env guildID).run cache' =
        if stumbles cfgs env cache guildVO then .error .nullPointer cache''
        else .ok () cache'' := by
  have hlookup : cache'.guilds.lookup guildID = some guildVO :=
    (huntouched.guilds guildID List.mem_cons_self).trans hguild
  have hchanged : ∀ f : GuildVO → GuildVO, f guildVO = replaced cfgs env cache guildVO →
      ∀ guildID', (cache'.updateGuild guildID f).guilds.lookup guildID' =
        if guildID' = guildID then some (replaced cfgs env cache guildVO)
        else cache'.guilds.lookup guildID' := by
    intro f hf guildID'
    rw [lookup_updateGuild, hlookup, Option.map_some, hf]
  rw [run_replaceLeader cfgs env hlookup, newLeader_congr huntouched.members, stumbles]
  cases hnew : newLeader cfgs env cache guildVO with
  | none =>
    refine ⟨cache', huntouched.tail, fun guildID' => ?_, rfl⟩
    split
    · next heq => rw [heq, hlookup, replaced, hnew]
    · rfl
  | some pid =>
    dsimp only
    rw [chgRight_chgRight]
    cases hknown : (env.lastLoginDay guildVO.owner).isSome with
    | true =>
      have hnone := Option.isNone_eq_false_iff.mpr hknown
      let f : GuildVO → GuildVO := fun guildVO' =>
        { guildVO'.transfer guildVO.owner pid with owner := pid }
      refine ⟨cache'.updateGuild guildID f, huntouched.tail.updateGuild hnotin f, hchanged f ?_, ?_⟩
      · rw [replaced, hnew]
        dsimp only
        rw [if_pos hknown]
      · rw [if_pos rfl, hnone]
        exact congrArg (EStateM.Result.ok ()) (updateGuild_updateGuild cache' guildID _ _)
    | false =>
      have hnone := Option.isSome_eq_false_iff.mp hknown
      let f : GuildVO → GuildVO := fun guildVO' => guildVO'.transfer guildVO.owner pid
      refine ⟨cache'.updateGuild guildID f, huntouched.tail.updateGuild hnotin f, hchanged f ?_, ?_⟩
      · rw [replaced, hnew]
        dsimp only
        rw [if_neg (by rw [hknown]; exact Bool.false_ne_true)]
      · rw [hnone]
        rfl

/-- The loop comes to guilds of its list. -/
lemma mem_of_mem_reached {guildID : ℤ} {guildIDs : List ℤ}
    (h : guildID ∈ reached cfgs env cache guildIDs) : guildID ∈ guildIDs := by
  induction guildIDs with
  | nil => exact h
  | cons guildID' guildIDs ih =>
    rw [reached] at h
    split at h
    · cases h
    · rcases List.mem_cons.mp h with rfl | hrest
      · exact List.mem_cons_self
      · split at hrest
        · cases hrest
        · exact List.mem_cons_of_mem _ (ih hrest)

/-- **The guilds to which the loop comes** are changed, and the others are not. -/
lemma lookup_each_replaceLeader {cache' : CacheGuild} {guildIDs : List ℤ}
    (huntouched : Untouched cache cache' guildIDs) (hnodup : guildIDs.Nodup) (guildID : ℤ) :
    ((EStateM.each (replaceLeader cfgs env) guildIDs).finalState cache').guilds.lookup guildID =
      if guildID ∈ reached cfgs env cache guildIDs then
        (cache.guilds.lookup guildID).map (replaced cfgs env cache)
      else cache'.guilds.lookup guildID := by
  induction guildIDs generalizing cache' with
  | nil => rfl
  | cons first guildIDs ih =>
    obtain ⟨hnotin, hnodup⟩ := List.nodup_cons.mp hnodup
    rw [EStateM.each, EStateM.finalState_bind]
    cases hguild : cache.guilds.lookup first with
    | none =>
      have hlookup := (huntouched.guilds first List.mem_cons_self).trans hguild
      have hreached : reached cfgs env cache (first :: guildIDs) = [] := by
        rw [reached, hguild]
      rw [run_replaceLeader_of_none cfgs env hlookup, hreached]
      rfl
    | some guildVO =>
      obtain ⟨cache'', huntouched'', hlookup, hrun⟩ :=
        run_replaceLeader_cases env huntouched hnotin hguild
      have hfirst : (cache.guilds.lookup first).map (replaced cfgs env cache) =
          some (replaced cfgs env cache guildVO) := by
        rw [hguild]
        rfl
      by_cases hstumbles : stumbles cfgs env cache guildVO = true
      · have hreached : reached cfgs env cache (first :: guildIDs) = [first] := by
          rw [reached, hguild]
          dsimp only
          rw [if_pos hstumbles]
        rw [hrun, if_pos hstumbles, hreached]
        dsimp only
        rw [hlookup]
        by_cases heq : guildID = first
        · rw [if_pos heq, if_pos (List.mem_singleton.mpr heq), heq, hfirst]
        · rw [if_neg heq, if_neg fun hmem => heq (List.mem_singleton.mp hmem)]
      · have hreached : reached cfgs env cache (first :: guildIDs) =
            first :: reached cfgs env cache guildIDs := by
          rw [reached, hguild]
          dsimp only
          rw [if_neg hstumbles]
        rw [hrun, if_neg hstumbles, hreached]
        dsimp only
        rw [ih huntouched'' hnodup, hlookup]
        by_cases heq : guildID = first
        · subst heq
          rw [if_neg fun hmem => hnotin (mem_of_mem_reached env hmem), if_pos rfl,
            if_pos List.mem_cons_self, hfirst]
        · rw [if_neg heq]
          by_cases hmem : guildID ∈ reached cfgs env cache guildIDs
          · rw [if_pos hmem, if_pos (List.mem_cons_of_mem _ hmem)]
          · rw [if_neg hmem, if_neg fun hcons => (List.mem_cons.mp hcons).elim heq hmem]

/-- **The job that replaces leaders.** -/
lemma stepIff_replaceGuildLeader (hnumbered : Numbered cache) (h : AllGuilds P cache) :
    StepIff P ((replaceGuildLeader cfgs env).finalState cache)
      (KeepsGuilds cfgs P cache (env, .replaceGuildLeader)) := by
  unfold KeepsGuilds
  dsimp only
  have hperm := env.order_perm cache.allGuildByID
  have huntouched : Untouched cache cache (env.order cache.allGuildByID) :=
    ⟨rfl, rfl, fun _ _ => rfl⟩
  have hnodup := hperm.nodup_iff.mpr hnumbered.nodup
  have hbook : SameBook cache ((EStateM.each (replaceLeader cfgs env)
      (env.order cache.allGuildByID)).finalState cache) :=
    (replaced_each huntouched hnodup fun _ hmem => hperm.mem_iff.mp hmem).book
  have hlookup : ∀ guildID, ((EStateM.each (replaceLeader cfgs env)
      (env.order cache.allGuildByID)).finalState cache).guilds.lookup guildID = _ :=
    lookup_each_replaceLeader env huntouched hnodup
  rw [finalState_replaceGuildLeader]
  refine ⟨hbook.numbered hnumbered, ?_⟩
  · constructor
    · intro hall guildID hmem guildVO hguild
      apply hall guildID
      rw [hlookup, if_pos hmem, hguild]
      rfl
    · intro hkept guildID guildVO hguild
      rw [hlookup] at hguild
      split at hguild
      · next hmem =>
        obtain ⟨guildVO', hguild', rfl⟩ := Option.map_eq_some_iff.mp hguild
        exact hkept guildID hmem guildVO' hguild'
      · exact h guildID guildVO hguild

end Leaders

/-! ## Other calls -/

section Others

variable {cfgs : GuildCfgs} (env : Surroundings) {P : GuildVO → Prop} {cache : CacheGuild}

lemma stepIff_modifyNeedReqStatus (hchecked : Checked cfgs P) (hnumbered : Numbered cache)
    (h : AllGuilds P cache) (pvo : ℤ) (need : Bool) :
    StepIff P ((modifyNeedReqStatus pvo need).finalState cache) True := by
  rw [modifyNeedReqStatus, EStateM.finalState_ofExcept_bind]
  cases getGuildVOAndCheckRight pvo .APPROVAL_JOIN_GUILD cache with
  | error e => exact stepIff_of_books hnumbered h trivial rfl
  | ok result =>
    obtain ⟨guildID, guildVO⟩ := result
    have hchanged : StepIff P (cache.updateGuild guildID fun guildVO =>
        { guildVO with enterNeedReq := need }) True :=
      stepIff_updateGuild_same hchecked hnumbered h guildID fun _ => ⟨rfl, rfl⟩
    dsimp only
    rw [EStateM.finalState_modify_bind, EStateM.finalState_modify]
    split
    · exact hchanged.of_books rfl
    · exact hchanged

/-- **A guild gets points**, and may go up a level. -/
lemma stepIff_addGuildExp (hnumbered : Numbered cache) (h : AllGuilds P cache) (guildID : ℤ)
    (exp : Int32) :
    StepIff P ((addGuildExp cfgs guildID exp).finalState cache)
      (KeepsGuilds cfgs P cache (env, .addGuildExp guildID exp)) := by
  rw [finalState_addGuildExp]
  exact stepIff_updateGuild hnumbered h guildID fun guildVO => addExp cfgs guildVO exp

end Others

/-! ## Steps -/

/-- **What a call makes of the guilds.** A property of the level and the rights that is kept by the
changes which the methods check holds of all guilds after a call if and only if it is kept by those
that they do not check. -/
theorem stepIff_step {cfgs : GuildCfgs} {P : GuildVO → Prop} (hchecked : Checked cfgs P)
    {cache : CacheGuild} (hnumbered : Numbered cache) (h : AllGuilds P cache)
    (call : Surroundings × Call) :
    StepIff P (step cfgs cache call) (KeepsGuilds cfgs P cache call) := by
  obtain ⟨env, call⟩ := call
  cases call with
  | createGuild pvo needReq checked => exact stepIff_createGuild env hnumbered h pvo needReq checked
  | joinGuild pvo guildID => exact stepIff_joinGuild env hchecked hnumbered h pvo guildID
  | acceptPlayerJoinGuild pvo pid accept =>
    exact stepIff_acceptPlayerJoinGuild env hchecked hnumbered h pvo pid accept
  | modifyRight pvo pid tgtRight => exact stepIff_modifyRight hchecked hnumbered h pvo pid tgtRight
  | chgOwner pvo tgtPid => exact stepIff_chgOwner env hchecked hnumbered h pvo tgtPid
  | outGuild pvo pid => exact stepIff_outGuild env hchecked hnumbered h pvo pid
  | dissolutionGuild pvo =>
    exact stepIff_announced hchecked hnumbered h (announced_dissolutionGuild cfgs env cache pvo)
  | cancelDissolutionGuild pvo =>
    exact stepIff_announced hchecked hnumbered h (announced_cancelDissolutionGuild cache pvo)
  | innerDissolutionGuild guildIDs =>
    exact stepIff_innerDissolutionGuild hchecked hnumbered h guildIDs
  | replaceGuildLeader => exact stepIff_replaceGuildLeader env hnumbered h
  | buildAsLoad pid => exact stepIff_buildAsLoad env hchecked hnumbered h pid
  | enterGame pid => exact stepIff_enterGame hnumbered h pid
  | modifyNeedReqStatus pvo need =>
    exact stepIff_modifyNeedReqStatus hchecked hnumbered h pvo need
  | addGuildExp guildID exp => exact stepIff_addGuildExp env hnumbered h guildID exp

end SrgpGame.Guild
