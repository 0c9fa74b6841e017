import SrgpGame.Guild.Kept

set_option autoImplicit false

/-!
# What the methods on guilds keep

All methods but three keep the invariants of the caches, whoever calls them with whatever arguments,
and whether they return or throw. The other three change the rights of members and are the subject
of `SrgpGame.Guild.Leaders`.

## Main results

* `advances_createGuild`, `advances_joinGuild`, `advances_acceptPlayerJoinGuild` — joining.
* `advances_buildAsLoad`, `advances_enterGame` — logins.
* `advances_outGuild` — leaving.
* `Announced.advances`, `advances_innerDissolutionGuild` — dissolving.
-/

namespace SrgpGame.Guild

open Roster

/-! ## Joining -/

section Joining

variable (cfgs : GuildCfgs) (env : Surroundings) (cache : CacheGuild)

lemma advances_refNoNeedReqGuilds (guildID : ℤ) :
    Advances cache ((refNoNeedReqGuilds cfgs guildID).finalState cache) := by
  rw [refNoNeedReqGuilds, EStateM.finalState_ofExcept_bind]
  cases getGuild guildID cache with
  | error e => exact .refl cache
  | ok guildVO =>
    dsimp only
    split
    · exact .refl cache
    · rw [EStateM.finalState_ofExcept_bind]
      cases isMaxSize cfgs guildVO with
      | error e => exact .refl cache
      | ok full =>
        dsimp only
        rw [EStateM.finalState_modify]
        split_ifs
        · exact advances_of_eq rfl rfl rfl rfl
        · exact .refl cache
        · exact advances_of_eq rfl rfl rfl rfl

/-- What `directJoinGuild` leaves, whether or not it throws. -/
lemma finalState_directJoinGuild (pid guildID : ℤ) (rightLevel : RightLevel) :
    (directJoinGuild cfgs env pid guildID rightLevel).finalState cache =
      if cache.inGuild pid then cache
      else ((cache.setGuildID pid guildID).removeReqs pid).chgRight guildID pid rightLevel := by
  rw [directJoinGuild, EStateM.finalState_get_bind]
  split
  · rfl
  · rw [EStateM.finalState_modify_bind, checkLoaded, EStateM.finalState_ofExcept_bind]
    split
    · rw [EStateM.finalState_ofExcept_bind]
      split
      · rw [EStateM.finalState_ofExcept_bind]
        split <;> rfl
      · rfl
    · rfl

lemma advances_directJoinGuild {pid guildID : ℤ} {rightLevel : RightLevel} {guildVO : GuildVO}
    (hguild : cache.guilds.lookup guildID = some guildVO) (hlevel : rightLevel ≠ .Level0) :
    Advances cache ((directJoinGuild cfgs env pid guildID rightLevel).finalState cache) := by
  rw [finalState_directJoinGuild]
  split
  · exact .refl cache
  · next hpid =>
    rw [Bool.not_eq_true, inGuild_eq_false_iff] at hpid
    exact advances_join hpid hguild hlevel

lemma getGuild_eq_ok {guildID : ℤ} {guildVO : GuildVO} :
    getGuild guildID cache = .ok guildVO ↔ cache.guilds.lookup guildID = some guildVO := by
  rw [getGuild]
  cases cache.guilds.lookup guildID with
  | none => simp
  | some guildVO' => simp

lemma lookup_of_findGuild {guildID found : ℤ} {guildVO : GuildVO}
    (h : findGuild env guildID cache = .ok (found, guildVO)) :
    cache.guilds.lookup found = some guildVO := by
  rw [findGuild] at h
  split at h
  · cases hguild : cache.getGuildByID guildID with
    | none =>
      rw [hguild] at h
      cases h
    | some guildVO' =>
      rw [hguild] at h
      cases h
      exact lookup_of_getGuildByID hguild
  · split at h
    · cases h
    · obtain ⟨guildVO', hguild, hpure⟩ := Except.bind_eq_ok.mp h
      cases hpure
      exact (getGuild_eq_ok cache).mp hguild

lemma advances_joinGuild (pvo guildID : ℤ) :
    Advances cache ((joinGuild cfgs env pvo guildID).finalState cache) := by
  rw [joinGuild, EStateM.finalState_ofExcept_bind]
  cases hcheck : checkJoinGuild cfgs env pvo guildID cache with
  | error e => exact .refl cache
  | ok result =>
    obtain ⟨found, guildVO⟩ := result
    have hguild : cache.guilds.lookup found = some guildVO := by
      obtain ⟨⟨found', guildVO'⟩, hfind, hrest⟩ := Except.bind_eq_ok.mp hcheck
      obtain ⟨-, -, hrest⟩ := Except.bind_eq_ok.mp hrest
      obtain ⟨-, -, hrest⟩ := Except.bind_eq_ok.mp hrest
      obtain ⟨full, -, hrest⟩ := Except.bind_eq_ok.mp hrest
      obtain ⟨-, -, hrest⟩ := Except.bind_eq_ok.mp hrest
      have heq := Prod.mk.inj (Except.ok.inj hrest)
      rw [← heq.1, ← heq.2]
      exact lookup_of_findGuild env cache hfind
    dsimp only
    split
    · rw [EStateM.finalState_ofExcept_bind]
      split
      · exact advances_of_eq rfl rfl rfl rfl
      · exact .refl cache
    · exact (advances_directJoinGuild cfgs env cache hguild (by decide)).bind
        fun _ cache' _ => advances_refNoNeedReqGuilds cfgs cache' found

variable {cache} in
/-- A new guild has an id that no guild had. -/
lemma Filed.newGuild (h : Filed cache) {guildVO : GuildVO} (hstatus : guildVO.status = .NORMAL) :
    Filed (cache.newGuild guildVO) := by
  have hlookup : ∀ {guildID guildVO'},
      (cache.newGuild guildVO).guilds.lookup guildID = some guildVO' →
        (guildID = cache.guildDBID + 1 ∧ guildVO' = guildVO) ∨
          cache.guilds.lookup guildID = some guildVO' := by
    intro guildID guildVO' hguild
    replace hguild :
      (cache.guilds.insert (cache.guildDBID + 1) guildVO).lookup guildID = some guildVO' := hguild
    rw [AList.lookup_insert_ite] at hguild
    split at hguild
    · next heq => exact .inl ⟨heq, (Option.some.inj hguild).symm⟩
    · exact .inr hguild
  refine ⟨?_, ?_, h.nodup, ?_, ?_, ?_, ?_⟩
  · have hnonneg := h.nonneg
    show 0 ≤ cache.guildDBID + 1
    omega
  · intro guildID hmem
    have hlive := h.live guildID hmem
    exact ⟨hlive.1, hlive.2.trans (Int.le_add_one le_rfl)⟩
  · intro guildID guildVO' hguild
    rcases hlookup hguild with ⟨heq, -⟩ | hguild
    · exact heq.le
    · exact (h.guilds guildID guildVO' hguild).trans (Int.le_add_one le_rfl)
  · intro pid guildID hhome
    exact (h.homes pid guildID hhome).trans (Int.le_add_one le_rfl)
  · intro guildID guildVO' hguild hdissolving
    rcases hlookup hguild with ⟨-, rfl⟩ | hguild
    · rw [hstatus] at hdissolving
      cases hdissolving
    · exact h.dissolving guildID guildVO' hguild hdissolving
  · intro guildID guildVO' hguild hended
    rcases hlookup hguild with ⟨-, rfl⟩ | hguild
    · rw [hstatus] at hended
      cases hended
    · exact h.ended guildID guildVO' hguild hended

variable {cache} in
/-- A new guild is not found yet. -/
lemma Filed.roster_newGuild (h : Filed cache) (guildVO : GuildVO) :
    (cache.newGuild guildVO).roster = cache.roster := by
  refine Roster.ext (funext fun guildID => ?_) rfl
  show (if guildID ∈ cache.allGuildByID then
      (cache.guilds.insert (cache.guildDBID + 1) guildVO).lookup guildID else none).map _ =
    (if guildID ∈ cache.allGuildByID then cache.guilds.lookup guildID else none).map _
  split
  · next hmem =>
    rw [AList.lookup_insert_ne]
    rintro rfl
    have hlive := h.live _ hmem
    omega
  · rfl

/-- A new guild with its founder, not found yet. -/
def founded (guildVO : GuildVO) : CacheGuild :=
  (((cache.newGuild guildVO).setGuildID guildVO.owner (cache.guildDBID + 1)).removeReqs
    guildVO.owner).chgRight (cache.guildDBID + 1) guildVO.owner .Level0

variable {cache} in
/-- The roster then only has the note of the founder. -/
lemma Filed.roster_founded (h : Filed cache) (guildVO : GuildVO) :
    (founded cache guildVO).roster =
      cache.roster.setHome guildVO.owner (some (cache.guildDBID + 1)) := by
  have hgroup : (cache.roster.setHome guildVO.owner (some (cache.guildDBID + 1))).group
      (cache.guildDBID + 1) = none := h.group_eq_none (Or.inr (Int.lt_succ _))
  rw [founded, CacheGuild.roster_chgRight, CacheGuild.roster_removeReqs,
    CacheGuild.roster_setGuildID, h.roster_newGuild]
  exact Roster.setRank_of_none hgroup _

lemma advances_founded {guildVO : GuildVO} (hstatus : guildVO.status = .NORMAL)
    (howner : cache.roster.Homeless guildVO.owner) : Advances cache (founded cache guildVO) := by
  intro h
  have hfiled : Filed (((cache.newGuild guildVO).setGuildID guildVO.owner
      (cache.guildDBID + 1)).removeReqs guildVO.owner) :=
    ((h.filed.newGuild hstatus).setGuildID _ le_rfl).of_eq rfl rfl rfl rfl
  refine ⟨⟨hfiled.chgRight _ _ _, ?_⟩, ?_⟩
  · rw [h.filed.roster_founded]
    apply h.linked.setHome howner
    rintro guildID heq
    obtain rfl := Option.some.inj heq
    exact h.filed.group_eq_none (Or.inr (Int.lt_succ _))
  · rw [h.filed.roster_founded]
    exact fun hled => hled.setHome _ _

/-- The founder is the only member of the new guild. -/
lemma lookup_founded {guildVO : GuildVO} (hrights : guildVO.memberRights = ∅) :
    ∃ guildVO', (founded cache guildVO).guilds.lookup (cache.guildDBID + 1) = some guildVO' ∧
      guildVO'.status = guildVO.status ∧
      guildVO'.group =
        ⟨guildVO.owner, Function.update (fun _ => none) guildVO.owner (some head)⟩ := by
  have hnew : (((cache.newGuild guildVO).setGuildID guildVO.owner
      (cache.guildDBID + 1)).removeReqs guildVO.owner).guilds.lookup (cache.guildDBID + 1) =
        some guildVO := AList.lookup_insert _
  refine ⟨{ guildVO with memberRights := guildVO.memberRights.insert guildVO.owner head }, ?_, rfl,
    ?_⟩
  · rw [founded, CacheGuild.chgRight, CacheGuild.updateGuild, hnew]
    exact AList.lookup_insert _
  · rw [CacheGuild.group_insert, GuildVO.group, hrights]
    rfl

/-- **A player in no guild founds one.** -/
lemma advances_addCache {guildVO : GuildVO} (hstatus : guildVO.status = .NORMAL)
    (hrights : guildVO.memberRights = ∅) (howner : cache.roster.Homeless guildVO.owner) :
    Advances cache ((founded cache guildVO).addCache (cache.guildDBID + 1)) := by
  intro h
  obtain ⟨guildVO', hlookup, hstatus', hgroup⟩ := lookup_founded cache hrights
  obtain ⟨hkept, -⟩ := advances_founded cache hstatus howner h
  have hroster : ((founded cache guildVO).addCache (cache.guildDBID + 1)).roster =
      (cache.roster.setHome guildVO.owner (some (cache.guildDBID + 1))).setGroup
        (cache.guildDBID + 1)
        (some ⟨guildVO.owner, Function.update (fun _ => none) guildVO.owner (some head)⟩) := by
    rw [CacheGuild.roster_addCache, h.filed.roster_founded, hlookup, ← hgroup]
    rfl
  have hcounter : (founded cache guildVO).guildDBID = cache.guildDBID + 1 := by
    unfold founded CacheGuild.chgRight CacheGuild.updateGuild
    split <;> rfl
  have hlive : (founded cache guildVO).allGuildByID = cache.allGuildByID := by
    unfold founded CacheGuild.chgRight CacheGuild.updateGuild
    split <;> rfl
  have hnew : cache.guildDBID + 1 ∉ (founded cache guildVO).allGuildByID := fun hmem => by
    rw [hlive] at hmem
    have hle := h.filed.live _ hmem
    omega
  refine ⟨⟨⟨hkept.filed.nonneg, ?_, hkept.filed.nodup.cons hnew, hkept.filed.guilds,
    hkept.filed.homes, ?_, ?_⟩, ?_⟩, ?_⟩
  · intro guildID hmem
    show _ ∧ guildID ≤ (founded cache guildVO).guildDBID
    rcases List.mem_cons.mp hmem with rfl | hmem
    · have hnonneg := h.filed.nonneg
      rw [hcounter]
      omega
    · exact hkept.filed.live guildID hmem
  · intro guildID guildVO₁ hguild hdissolving
    exact List.mem_cons_of_mem _ (hkept.filed.dissolving guildID guildVO₁ hguild hdissolving)
  · intro guildID guildVO₁ hguild hended hmem
    rcases List.mem_cons.mp hmem with rfl | hmem
    · have heq := hlookup.symm.trans hguild
      rw [← Option.some.inj heq, hstatus', hstatus] at hended
      cases hended
    · exact hkept.filed.ended guildID guildVO₁ hguild hended hmem
  · rw [hroster]
    apply h.linked.found howner
    intro pid hhome
    have hle := h.filed.homes pid _ hhome
    omega
  · rw [hroster]
    exact fun hled => (hled.setHome _ _).found _ _

lemma advances_createGuild (pvo : ℤ) (needReq : Bool) (checked : Except Thrown Unit) :
    Advances cache ((createGuild cfgs env pvo needReq checked).finalState cache) := by
  rw [createGuild, EStateM.finalState_ofExcept_bind]
  cases hcheck : CodeGuild.alreadyInGuild.throwIfTrue (cache.inGuild pvo = true) with
  | error e => exact .refl cache
  | ok u =>
    rw [ICode.throwIfTrue_eq_ok, Bool.not_eq_true, inGuild_eq_false_iff] at hcheck
    dsimp only
    rw [EStateM.finalState_ofExcept_bind]
    split
    · rw [EStateM.finalState_get_bind, EStateM.finalState_modify_bind]
      intro h
      let guildVO : GuildVO := { level := 1, owner := pvo, enterNeedReq := needReq }
      have hpid : (cache.newGuild guildVO).inGuild pvo = false := by
        rw [inGuild_eq_false_iff, h.filed.roster_newGuild]
        exact hcheck
      have hjoin : (directJoinGuild cfgs env pvo (cache.guildDBID + 1) .Level0).finalState
          (cache.newGuild guildVO) = founded cache guildVO := by
        rw [finalState_directJoinGuild, hpid, if_neg Bool.false_ne_true]
        rfl
      rw [EStateM.finalState_bind]
      cases hrun : (directJoinGuild cfgs env pvo (cache.guildDBID + 1) .Level0).run
          (cache.newGuild guildVO) with
      | error e cache' =>
        obtain rfl := (EStateM.finalState_eq_of_error hrun).symm.trans hjoin
        exact advances_founded cache rfl hcheck h
      | ok u cache' =>
        obtain rfl := (EStateM.finalState_eq_of_ok hrun).symm.trans hjoin
        dsimp only
        rw [EStateM.finalState_modify_bind]
        exact ((advances_addCache cache rfl rfl hcheck).trans
          (advances_refNoNeedReqGuilds cfgs _ _)) h
    · exact .refl cache

variable {cache}

/-- The guild of a player who has a right. -/
lemma of_getGuildVOAndCheckRight {pid guildID : ℤ} {guildVO : GuildVO} {right : GuildRight}
    (h : getGuildVOAndCheckRight pid right cache = .ok (guildID, guildVO)) :
    cache.homeOf pid = some guildID ∧ cache.getGuildByID guildID = some guildVO ∧
      guildVO.hasRight pid right = true := by
  rw [getGuildVOAndCheckRight] at h
  cases hmember : cache.getGuildMemberVO pid with
  | none =>
    rw [hmember] at h
    cases h
  | some memberVO =>
    rw [hmember] at h
    dsimp only at h
    cases hguild : cache.getGuildByID memberVO.guildID with
    | none =>
      rw [hguild] at h
      cases h
    | some guildVO' =>
      rw [hguild] at h
      obtain ⟨_, hright, hpure⟩ := Except.bind_eq_ok.mp h
      rw [ICode.throwIfTrue_eq_ok, Bool.not_eq_false] at hright
      cases hpure
      exact ⟨by rw [CacheGuild.homeOf, hmember]; rfl, hguild, hright⟩

lemma of_checkAccept {pvo pid guildID : ℤ} {guildVO : GuildVO} {status : ReqStatus}
    (h : checkAccept pvo pid cache = .ok (guildID, guildVO, status)) :
    cache.getGuildByID guildID = some guildVO := by
  obtain ⟨⟨guildID', guildVO'⟩, hright, hrest⟩ := Except.bind_eq_ok.mp h
  dsimp only at hrest
  split at hrest
  · cases hrest
  · cases hrest
    exact (of_getGuildVOAndCheckRight hright).2.1

variable (cache)

lemma advances_checkLoaded (pid : ℤ) : Advances cache ((checkLoaded env pid).finalState cache) := by
  rw [checkLoaded, EStateM.finalState_ofExcept]
  exact .refl cache

lemma advances_acceptPlayerJoinGuild (pvo pid : ℤ) (accept : Bool) :
    Advances cache ((acceptPlayerJoinGuild cfgs env pvo pid accept).finalState cache) := by
  rw [acceptPlayerJoinGuild, EStateM.finalState_ofExcept_bind]
  cases hcheck : checkAccept pvo pid cache with
  | error e => exact .refl cache
  | ok result =>
    obtain ⟨guildID, guildVO, status⟩ := result
    have hguild := lookup_of_getGuildByID (of_checkAccept hcheck)
    have hmodify : ∀ (f : CacheGuild → CacheGuild), Advances cache (f cache) →
        Advances cache ((do modify f; checkLoaded env pid : Method Unit).finalState cache) :=
      fun f hf => Advances.bind hf fun _ cache' _ => advances_checkLoaded env cache' pid
    dsimp only
    split
    · rw [EStateM.finalState_ofExcept_bind]
      split
      · rw [EStateM.finalState_get_bind]
        split
        · rw [EStateM.finalState_modify_bind]
          have haccept : Advances cache (cache.cacheReq pid guildID .STATUS_ACCEPT) :=
            advances_of_eq rfl rfl rfl rfl
          refine haccept.trans (Advances.bind ?_ fun _ cache' _ =>
            advances_checkLoaded env cache' pid)
          exact advances_directJoinGuild cfgs env (cache.cacheReq pid guildID .STATUS_ACCEPT)
            hguild (by decide)
        · exact hmodify _ (advances_of_eq rfl rfl rfl rfl)
      · exact .refl cache
    · apply hmodify
      split
      · exact advances_of_eq rfl rfl rfl rfl
      · exact .refl cache

/-! ## Logins -/

lemma advances_joinAccepted (pid : ℤ) (guildIDs : List ℤ) :
    Advances cache ((joinAccepted cfgs env pid guildIDs).finalState cache) := by
  induction guildIDs generalizing cache with
  | nil => exact .refl cache
  | cons guildID guildIDs ih =>
    rw [joinAccepted, EStateM.finalState_get_bind]
    cases hguild : cache.getGuildByID guildID with
    | none => exact .refl cache
    | some guildVO =>
      dsimp only
      rw [EStateM.finalState_ofExcept_bind]
      split
      · split
        · exact ih cache
        · split
          · have hdone : Advances cache (cache.cacheReq pid guildID .STATUS_DONE) :=
              advances_of_eq rfl rfl rfl rfl
            rw [EStateM.finalState_modify_bind]
            refine hdone.trans ?_
            split
            · exact advances_directJoinGuild cfgs env _ (lookup_of_getGuildByID hguild) (by decide)
            · exact ih _
          · exact ih cache
      · exact .refl cache

variable {cache} in
/-- A player who is in a guild is among its members. -/
lemma Kept.isSome_lookup (h : Kept cache) {pid guildID : ℤ} {guildVO : GuildVO}
    (hhome : cache.homeOf pid = some guildID)
    (hguild : cache.getGuildByID guildID = some guildVO) :
    (guildVO.memberRights.lookup pid).isSome :=
  (h.linked guildID guildVO.group (group_eq_some.mpr ⟨guildVO, hguild, rfl⟩) pid).mpr hhome

variable {cache} in
/-- A record that is outdated names no guild that is found. -/
lemma Kept.homeless_of_outdated (h : Kept cache) {pid : ℤ} {memberVO : GuildMemberVO}
    (hmember : cache.getGuildMemberVO pid = some memberVO)
    (houtdated : outdated cache pid memberVO = true) : cache.roster.Homeless pid := by
  have hhome : cache.homeOf pid = some memberVO.guildID := by
    rw [CacheGuild.homeOf, hmember]
    rfl
  rw [← inGuild_eq_false_iff, CacheGuild.inGuild, hmember]
  show (cache.getGuildByID memberVO.guildID).isSome = false
  cases hguild : cache.getGuildByID memberVO.guildID with
  | none => rfl
  | some guildVO =>
    rw [outdated, hguild] at houtdated
    dsimp only at houtdated
    rw [Bool.or_eq_true, decide_eq_true_eq] at houtdated
    rcases houtdated with hended | hnone
    · exact absurd (mem_of_getGuildByID hguild)
        (h.filed.ended _ guildVO (lookup_of_getGuildByID hguild) hended)
    · have hsome := h.isSome_lookup hhome hguild
      rw [Option.isNone_iff_eq_none] at hnone
      rw [hnone] at hsome
      cases hsome

lemma advances_buildAsLoad (pid : ℤ) :
    Advances cache ((buildAsLoad cfgs env pid).finalState cache) := by
  rw [buildAsLoad, EStateM.finalState_get_bind]
  split
  · exact advances_joinAccepted cfgs env cache pid _
  · rw [EStateM.finalState_modify_bind, EStateM.finalState_modify]
    have hreqs : Advances cache (cache.removeReqs pid) := advances_of_eq rfl rfl rfl rfl
    refine hreqs.trans ?_
    split
    · exact .refl _
    · next memberVO hmember =>
      split
      · next houtdated =>
        exact fun h => advances_leaveGuild (h.homeless_of_outdated hmember houtdated) h
      · exact .refl _

lemma advances_enterGame (pid : ℤ) : Advances cache ((enterGame pid).finalState cache) := by
  rw [enterGame, EStateM.finalState_modify]
  split
  · exact .refl _
  · next memberVO hmember =>
    have hleave : outdated cache pid memberVO = true → Advances cache (cache.leaveGuild pid) :=
      fun houtdated h => advances_leaveGuild (h.homeless_of_outdated hmember houtdated) h
    split
    · next hguild =>
      split
      · apply hleave
        rw [outdated, hguild]
      · exact .refl _
    · next guildVO hguild =>
      split
      · next hnone =>
        apply hleave
        rw [outdated, hguild]
        show (_ || (guildVO.memberRights.lookup pid).isNone) = true
        rw [hnone.2, Bool.or_true]
      · exact .refl _

/-! ## Leaving -/

variable {cache}

/-- A member who has a right is at a level that has it. -/
lemma of_right {pvo guildID : ℤ} {guildVO : GuildVO} {right : GuildRight}
    (h : getGuildVOAndCheckRight pvo right cache = .ok (guildID, guildVO)) :
    cache.homeOf pvo = some guildID ∧ cache.roster.group guildID = some guildVO.group ∧
      ∃ level : RightLevel, guildVO.memberRights.lookup pvo = some level.getId ∧
        level.haveRight right = true := by
  obtain ⟨hhome, hguild, hright⟩ := of_getGuildVOAndCheckRight h
  exact ⟨hhome, group_eq_some.mpr ⟨guildVO, hguild, rfl⟩, GuildVO.hasRight_iff.mp hright⟩

lemma getId_le_head (level : RightLevel) : level.getId ≤ head := by
  cases level <;> decide

lemma getId_eq_head {level : RightLevel} : level.getId = head ↔ level = .Level0 := by
  cases level <;> decide

/-- Who leaves a guild, or is dismissed from it, is a member below the highest level. -/
lemma of_checkOutGuild {pvo pid guildID : ℤ} (h : checkOutGuild pvo pid cache = .ok guildID) :
    ∃ G, cache.roster.group guildID = some G ∧ ∃ right, G.rank pid = some right ∧ right ≠ head := by
  rw [checkOutGuild] at h
  split at h
  · next heq =>
    obtain ⟨⟨guildID', guildVO⟩, hcheck, hpure⟩ := Except.bind_eq_ok.mp h
    cases hpure
    obtain ⟨-, hgroup, level, hlevel, hright⟩ := of_right hcheck
    refine ⟨guildVO.group, hgroup, level.getId, heq ▸ hlevel, fun hhead => ?_⟩
    obtain rfl := getId_eq_head.mp hhead
    rw [RightLevel.not_haveRight_OUT_GUILD] at hright
    cases hright
  · obtain ⟨⟨guildID', guildVO⟩, hcheck, hrest⟩ := Except.bind_eq_ok.mp h
    obtain ⟨-, hgroup, level, hlevel, -⟩ := of_right hcheck
    dsimp only at hrest
    rw [hlevel] at hrest
    cases htgt : guildVO.memberRights.lookup pid with
    | none =>
      rw [htgt] at hrest
      cases hrest
    | some tgtRight =>
      rw [htgt] at hrest
      obtain ⟨_, hless, hpure⟩ := Except.bind_eq_ok.mp hrest
      rw [ICode.throwIfTrue_eq_ok] at hless
      cases hpure
      have hle := getId_le_head level
      exact ⟨guildVO.group, hgroup, tgtRight, htgt, by omega⟩

/-- **A member below the highest level leaves.** -/
lemma advances_leave {pid guildID : ℤ} {G : Roster.Group ℤ ℤ}
    (hgroup : cache.roster.group guildID = some G) {right : ℤ} (hright : G.rank pid = some right)
    (hne : right ≠ head) (time : ℤ) :
    Advances cache
      (((cache.removeRight guildID pid).setNextEnterGuildTime pid time).leaveGuild pid) := by
  intro h
  have hhome : cache.homeOf pid = some guildID := by
    apply (h.linked guildID G hgroup pid).mp
    rw [hright]
    rfl
  have hroster : (((cache.removeRight guildID pid).setNextEnterGuildTime pid time).leaveGuild
      pid).roster = (cache.roster.setRank guildID pid none).setHome pid (some (-1)) := by
    have hhome' : ((cache.removeRight guildID pid).setNextEnterGuildTime pid time).homeOf pid =
        some guildID := by
      show ((cache.removeRight guildID pid).setNextEnterGuildTime pid time).roster.home pid = _
      rw [CacheGuild.roster_setNextEnterGuildTime, CacheGuild.roster_removeRight]
      exact hhome
    rw [CacheGuild.roster_leaveGuild, hhome', CacheGuild.roster_setNextEnterGuildTime,
      CacheGuild.roster_removeRight]
    rfl
  refine ⟨⟨?_, ?_⟩, ?_⟩
  · exact ((h.filed.removeRight guildID pid).setNextEnterGuildTime pid time).leaveGuild pid
  · rw [hroster]
    apply h.linked.leave hhome
    rintro guildID' heq
    obtain rfl := Option.some.inj heq
    exact h.filed.group_eq_none (Or.inl (by decide))
  · rw [hroster]
    intro hled
    apply Roster.Led.setHome
    apply hled.setRank
    · rintro G' hG' rfl
      rw [hgroup] at hG'
      obtain rfl := Option.some.inj hG'
      have hhead := (hled guildID G hgroup G.owner).mpr rfl
      rw [hright] at hhead
      exact hne (Option.some.inj hhead)
    · exact (Option.some_ne_none head).symm

variable (cache)

lemma advances_outGuild (pvo pid : ℤ) :
    Advances cache ((outGuild cfgs env pvo pid).finalState cache) := by
  rw [outGuild, EStateM.finalState_ofExcept_bind]
  cases hcheck : checkOutGuild pvo pid cache with
  | error e => exact .refl cache
  | ok guildID =>
    obtain ⟨G, hgroup, right, hright, hne⟩ := of_checkOutGuild hcheck
    dsimp only
    rw [EStateM.finalState_modify_bind, EStateM.finalState_ofExcept_bind]
    have hleft := advances_leave hgroup hright hne (env.now + cfgs.enterGuildCD * hourMillis)
    split
    · exact hleft.trans (advances_refNoNeedReqGuilds cfgs _ guildID)
    · exact hleft

/-! ## Dissolving -/

/-- The dissolution of a guild that is found is begun or cancelled, or nothing is changed. -/
inductive Announced (cache : CacheGuild) : CacheGuild → Prop
  | refl : Announced cache cache
  | chgStatus {guildID : ℤ} (hmem : guildID ∈ cache.allGuildByID) {status : Status}
      (hstatus : status ≠ .DISSOLUTION_END) (dissolutionTime : ℤ) (inDissolutionGuild : List ℤ) :
      Announced cache
        { cache.updateGuild guildID fun guildVO =>
            { guildVO with status := status, dissolutionTime := dissolutionTime } with
          inDissolutionGuild := inDissolutionGuild }

lemma announced_dissolutionGuild (pvo : ℤ) :
    Announced cache ((dissolutionGuild cfgs env pvo).finalState cache) := by
  rw [dissolutionGuild, EStateM.finalState_ofExcept_bind]
  cases hcheck : getGuildVOAndCheckRight pvo .DISSOLUTION_GUILD cache with
  | error e => exact .refl
  | ok result =>
    obtain ⟨guildID, guildVO⟩ := result
    have hmem := mem_of_getGuildByID (of_getGuildVOAndCheckRight hcheck).2.1
    dsimp only
    split
    · exact .chgStatus hmem (by decide) _ _
    · exact .refl

lemma announced_cancelDissolutionGuild (pvo : ℤ) :
    Announced cache ((cancelDissolutionGuild pvo).finalState cache) := by
  rw [cancelDissolutionGuild, EStateM.finalState_ofExcept_bind]
  cases hcheck : getGuildVOAndCheckRight pvo .DISSOLUTION_GUILD cache with
  | error e => exact .refl
  | ok result =>
    obtain ⟨guildID, guildVO⟩ := result
    have hmem := mem_of_getGuildByID (of_getGuildVOAndCheckRight hcheck).2.1
    dsimp only
    split
    · exact .chgStatus hmem (by decide) _ _
    · exact .refl

variable {cache} in
lemma Announced.advances {cache' : CacheGuild} (h : Announced cache cache') :
    Advances cache cache' := by
  cases h with
  | refl => exact .refl cache
  | @chgStatus guildID hmem status hstatus dissolutionTime inDissolutionGuild =>
    have hguild : Advances cache (cache.updateGuild guildID fun guildVO =>
        { guildVO with status := status, dissolutionTime := dissolutionTime }) :=
      advances_updateGuild (fun _ => rfl) fun _ => Or.inr ⟨hstatus, hmem⟩
    exact hguild.trans (advances_of_eq rfl rfl rfl rfl)

/-- Players who are in no guild may have none. -/
lemma advances_foldl_leaveGuild (pids : List ℤ) (hpids : ∀ pid ∈ pids, cache.roster.Homeless pid) :
    Advances cache (pids.foldl CacheGuild.leaveGuild cache) := by
  induction pids generalizing cache with
  | nil => exact .refl cache
  | cons pid pids ih =>
    obtain ⟨hpid, hpids⟩ := List.forall_mem_cons.mp hpids
    intro h
    refine ((advances_leaveGuild hpid).trans (ih _ ?_)) h
    intro pid' hmem guildID hhome
    have hgroup : (cache.leaveGuild pid).roster.group guildID = cache.roster.group guildID := by
      rw [CacheGuild.roster_leaveGuild]
      rfl
    rw [hgroup]
    rw [CacheGuild.roster_leaveGuild, Roster.home_setHome] at hhome
    split at hhome
    · obtain ⟨-, -, rfl⟩ := Option.map_eq_some_iff.mp hhome
      exact h.filed.group_eq_none (Or.inl (by decide))
    · exact hpids pid' hmem guildID hhome

/-- Whether a guild is found has nothing to do with the records. -/
lemma removeCache_leaveGuild (guildID pid : ℤ) :
    (cache.leaveGuild pid).removeCache guildID = (cache.removeCache guildID).leaveGuild pid := by
  unfold CacheGuild.leaveGuild
  show _ = if (cache.getGuildMemberVO pid).isSome then _ else _
  split <;> rfl

lemma removeCache_foldl_leaveGuild (guildID : ℤ) (pids : List ℤ) :
    (pids.foldl CacheGuild.leaveGuild cache).removeCache guildID =
      pids.foldl CacheGuild.leaveGuild (cache.removeCache guildID) := by
  induction pids generalizing cache with
  | nil => rfl
  | cons pid pids ih => rw [List.foldl_cons, List.foldl_cons, ih, removeCache_leaveGuild]

/-- **A guild is dissolved.** -/
lemma advances_dissolve (guildID : ℤ) :
    Advances cache ((dissolve guildID).finalState cache) := by
  rw [dissolve, EStateM.finalState_ofExcept_bind]
  cases hguild : getGuild guildID cache with
  | error e => exact .refl cache
  | ok guildVO =>
    rw [getGuild_eq_ok] at hguild
    dsimp only
    split
    · next hstatus =>
      rw [EStateM.finalState_modify_bind, EStateM.finalState_modify_bind,
        EStateM.finalState_modify]
      intro h
      let ended := cache.updateGuild guildID fun guildVO =>
        { guildVO with status := .DISSOLUTION_END }
      have hroster : (ended.removeCache guildID).roster = cache.roster.setGroup guildID none := by
        have hsame : ended.roster = cache.roster := by
          apply cache.roster_updateGuild
          intro guildVO
          rfl
        rw [CacheGuild.roster_removeCache, hsame]
      have hended : Kept (ended.removeCache guildID) ∧ (cache.roster.Led head →
          (ended.removeCache guildID).roster.Led head) := by
        refine ⟨⟨h.filed.removeCache_end fun _ => rfl, ?_⟩, ?_⟩
        · rw [hroster]
          exact h.linked.disband guildID
        · rw [hroster]
          exact fun hled => hled.disband guildID
      have hpids : ∀ pid ∈ guildVO.memberRights.keys,
          (ended.removeCache guildID).roster.Homeless pid := by
        intro pid hmem guildID' hhome
        rw [hroster] at hhome ⊢
        rw [Roster.group_setGroup]
        have hlive := h.filed.dissolving guildID guildVO hguild hstatus
        have hhome' : cache.homeOf pid = some guildID := by
          apply (h.linked guildID guildVO.group ?_ pid).mp
          · exact AList.lookup_isSome.mpr (AList.mem_keys.mpr hmem)
          · apply group_eq_some.mpr
            refine ⟨guildVO, ?_, rfl⟩
            rw [CacheGuild.getGuildByID, if_pos hlive, hguild]
        rw [if_pos]
        exact (Option.some.inj (hhome.symm.trans hhome'))
      obtain ⟨hkept, hled⟩ := advances_foldl_leaveGuild _ _ hpids hended.1
      rw [← removeCache_foldl_leaveGuild] at hkept hled
      exact ⟨⟨hkept.filed.of_eq rfl rfl rfl rfl, hkept.linked⟩, hled ∘ hended.2⟩
    · next hstatus =>
      rw [EStateM.finalState_modify]
      intro h
      have hfiled : Filed (cache.removeCache guildID) := by
        refine h.filed.removeCache fun guildVO' hguild' => ?_
        rw [hguild] at hguild'
        exact Option.some.inj hguild' ▸ hstatus
      refine ⟨⟨hfiled.of_eq rfl rfl rfl rfl, ?_⟩, ?_⟩
      · show (cache.removeCache guildID).roster.Linked
        rw [CacheGuild.roster_removeCache]
        exact h.linked.disband guildID
      · show _ → (cache.removeCache guildID).roster.Led head
        rw [CacheGuild.roster_removeCache]
        exact fun hled => hled.disband guildID

lemma advances_innerDissolutionGuild (guildIDs : List ℤ) :
    Advances cache ((innerDissolutionGuild guildIDs).finalState cache) := by
  rw [innerDissolutionGuild]
  induction guildIDs generalizing cache with
  | nil => exact .refl cache
  | cons guildID guildIDs ih =>
    rw [EStateM.each]
    exact (advances_dissolve cache guildID).bind fun _ cache' _ => ih cache'

/-! ## Others -/

lemma advances_modifyNeedReqStatus (pvo : ℤ) (need : Bool) :
    Advances cache ((modifyNeedReqStatus pvo need).finalState cache) := by
  rw [modifyNeedReqStatus, EStateM.finalState_ofExcept_bind]
  cases getGuildVOAndCheckRight pvo .APPROVAL_JOIN_GUILD cache with
  | error e => exact .refl cache
  | ok result =>
    obtain ⟨guildID, guildVO⟩ := result
    dsimp only
    rw [EStateM.finalState_modify_bind, EStateM.finalState_modify]
    have hguild : Advances cache (cache.updateGuild guildID fun guildVO =>
        { guildVO with enterNeedReq := need }) :=
      advances_updateGuild (fun _ => rfl) fun _ => Or.inl rfl
    refine hguild.trans ?_
    split
    · exact advances_of_eq rfl rfl rfl rfl
    · exact .refl _

/-- What `addGuildExp` makes of the guilds, whether it returns or throws. -/
lemma finalState_addGuildExp (guildID : ℤ) (exp : Int32) :
    (addGuildExp cfgs guildID exp).finalState cache =
      cache.updateGuild guildID fun guildVO => addExp cfgs guildVO exp := by
  rw [addGuildExp, EStateM.finalState_ofExcept_bind, getGuild]
  cases hguild : cache.guilds.lookup guildID with
  | none =>
    rw [CacheGuild.updateGuild, hguild]
  | some guildVO =>
    dsimp only
    rw [EStateM.finalState_modify_bind, EStateM.finalState_ofExcept]

lemma advances_addGuildExp (guildID : ℤ) (exp : Int32) :
    Advances cache ((addGuildExp cfgs guildID exp).finalState cache) := by
  rw [finalState_addGuildExp]
  exact advances_updateGuild (fun _ => rfl) fun _ => Or.inl rfl

end Joining

end SrgpGame.Guild
