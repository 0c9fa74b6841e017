import SrgpGame.Guild.NoReqGuild
import SrgpGame.Guild.RecommendGuild

set_option autoImplicit false

/-!
# What is recommended

The set of recommended guilds is to be in order and to have only guilds that are found and not full.
It loses its order when `updateGuildFightForce` gives the guilds another fight force while they are
in the set. And a guild stays in the set that is filled by a player who is not loaded, since
`directJoinGuild` throws before it removes the guild.

## Main definitions

* `Recommends`, `Removes` — the set is as it should be, and removing from it succeeds.
* `KeepsRecommended` — the calls after which it is.

## Main results

* `recommends_step` — the set is right after a call if and only if the call is one of these.
* `recommends_run_iff` — the same for all states of a run.
-/

namespace SrgpGame.Guild.Recommend

open SearchTree

variable (cfgs : GuildCfgs)

/-! ## The set as it should be -/

/-- A guild that is found and is not full. -/
def recommendable (cache : CacheGuild) (guildID : ℤ) : Bool :=
  (cache.getGuildByID guildID).any fun guildVO => decide (isMaxSize cfgs guildVO ≠ .ok true)

/-- **The set** is in order for the fight forces and dates of the moment, and all its guilds are
found and not full. -/
structure Recommends (s : GuildCaches) : Prop where
  sorted : Sorted s.key s.recommendGuild
  guilds : ∀ guildID ∈ elems s.recommendGuild, recommendable cfgs s.cache guildID = true

/-- What is removed from the set is gone. -/
def Removes (s : GuildCaches) : Prop :=
  ∀ guildID, guildID ∉ elems (s.removeRecommend guildID).recommendGuild

/-- From a set in order every guild can be removed. -/
lemma Recommends.removes {s : GuildCaches} (h : Recommends cfgs s) : Removes s :=
  fun guildID => not_mem_remove h.sorted guildID

/-! ## The calls after which it is -/

/-- A guild is full with a player. -/
def fullWith (guildVO : GuildVO) (pid : ℤ) : Bool :=
  decide (isMaxSize cfgs { guildVO with
    memberRights := guildVO.memberRights.insert pid RightLevel.Level3.getId } = .ok true)

/-- A player who is not loaded fills a guild of the set. -/
def staysFull (env : Surroundings) (s : GuildCaches) (guildID : ℤ) (guildVO : GuildVO) (pid : ℤ) :
    Prop :=
  env.loaded pid = false ∧ guildID ∈ elems s.recommendGuild ∧ fullWith cfgs guildVO pid = true

/-- The set has so many guilds, all before a new one, that this does not stay in it. -/
def crowdedOut (s : GuildCaches) (createDate : ℤ) : Prop :=
  recommentGuildSize ≤
    ((elems s.recommendGuild).filter (s.key · < toLex (0, createDate))).length + 1 ∧
      ∀ guildID ∈ elems s.recommendGuild, s.key guildID ≤ toLex (0, createDate)

/-- **The calls after which the set is right.** No guild of the set is filled by a player who is not
loaded, no new guild is full at once, and new fight forces leave the guilds in order. -/
def KeepsRecommended (s : GuildCaches) (op : Surroundings × Op) : Prop :=
  match op.2 with
  | .createGuild pvo needReq checked createDate =>
    s.cache.inGuild pvo = false → checked = .ok () → op.1.loaded pvo = true →
      fullWith cfgs { level := 1, owner := pvo, enterNeedReq := needReq } pvo = true →
        crowdedOut s createDate
  | .joinGuild pvo guildID =>
    match checkJoinGuild cfgs op.1 pvo guildID s.cache with
    | .error _ => True
    | .ok (found, guildVO) =>
      guildVO.enterNeedReq = false → ¬staysFull cfgs op.1 s found guildVO pvo
  | .acceptPlayerJoinGuild pvo pid accept =>
    match checkAccept pvo pid s.cache with
    | .error _ => True
    | .ok (guildID, guildVO, status) =>
      accept = true → isMaxSize cfgs guildVO = .ok false → notInGuild s.cache pid = true →
        status = .STATUS_NORMAL → ¬staysFull cfgs op.1 s guildID guildVO pid
  | .buildAsLoad pid =>
    let guildIDs := (s.cache.allReqsCache.keys.filter fun req => req.1 = pid).map Prod.snd
    notInGuild s.cache pid = true →
      ∀ guild ∈ accepted cfgs s.cache pid (op.1.order guildIDs),
        ¬staysFull cfgs op.1 s guild.1 guild.2 pid
  | .updateGuildFightForce fightForceOf =>
    (elems s.recommendGuild).Pairwise fun guildID guildID' =>
      toLex (-newFightForce fightForceOf s guildID, s.createDate guildID) <
        toLex (-newFightForce fightForceOf s guildID', s.createDate guildID')
  | _ => True

variable {cfgs} {env : Surroundings} {s s' : GuildCaches}

/-! ## What a change does to the set -/

section Changes

/-- What the set is compared with is the same. -/
lemma recommends_congr (htree : s'.recommendGuild = s.recommendGuild)
    (hkey : ∀ guildID ∈ elems s.recommendGuild, s'.key guildID = s.key guildID)
    (hsame : ∀ guildID ∈ elems s.recommendGuild,
      recommendable cfgs s'.cache guildID = recommendable cfgs s.cache guildID) :
    Recommends cfgs s' ↔ Recommends cfgs s := by
  constructor
  · rintro ⟨hsorted, hall⟩
    rw [htree] at hsorted hall
    refine ⟨(sorted_congr hkey).mp hsorted, fun guildID hmem => ?_⟩
    exact hsame guildID hmem ▸ hall guildID hmem
  · rintro ⟨hsorted, hall⟩
    refine ⟨?_, ?_⟩
    · rw [htree]
      exact (sorted_congr hkey).mpr hsorted
    · rw [htree]
      exact fun guildID hmem => (hsame guildID hmem).trans (hall guildID hmem)

lemma recommendable_of_eq {cache cache' : CacheGuild}
    (hlive : cache'.allGuildByID = cache.allGuildByID) (hguilds : cache'.guilds = cache.guilds)
    (guildID : ℤ) : recommendable cfgs cache' guildID = recommendable cfgs cache guildID := by
  rw [recommendable, CacheGuild.getGuildByID, hlive, hguilds]
  rfl

/-- A change of the other caches. -/
lemma recommends_withCache {cache : CacheGuild}
    (hsame : ∀ guildID, recommendable cfgs cache guildID = recommendable cfgs s.cache guildID) :
    Recommends cfgs { s with cache := cache } ↔ Recommends cfgs s :=
  recommends_congr rfl (fun _ _ => rfl) fun guildID _ => hsame guildID

/-- A change of the other caches that leaves the guilds. -/
lemma recommends_onCache (cache : CacheGuild) (hlive : cache.allGuildByID = s.cache.allGuildByID)
    (hguilds : cache.guilds = s.cache.guilds) :
    Recommends cfgs { s with cache := cache } ↔ Recommends cfgs s :=
  recommends_withCache (recommendable_of_eq hlive hguilds)

lemma recommends_cacheReq (pid guildID : ℤ) (status : ReqStatus) :
    Recommends cfgs { s with cache := s.cache.cacheReq pid guildID status } ↔ Recommends cfgs s :=
  recommends_onCache (s.cache.cacheReq pid guildID status) rfl rfl

lemma recommends_removeReq (pid guildID : ℤ) :
    Recommends cfgs { s with cache := s.cache.removeReq pid guildID } ↔ Recommends cfgs s :=
  recommends_onCache (s.cache.removeReq pid guildID) rfl rfl

lemma recommendable_updateGuild (cache : CacheGuild) (guildID : ℤ) (f : GuildVO → GuildVO)
    (guildID' : ℤ) :
    recommendable cfgs (cache.updateGuild guildID f) guildID' =
      if guildID' = guildID then
        (cache.getGuildByID guildID).any fun guildVO =>
          decide (isMaxSize cfgs (f guildVO) ≠ .ok true)
      else recommendable cfgs cache guildID' := by
  rw [recommendable, CacheGuild.getGuildByID_updateGuild]
  split
  · cases cache.getGuildByID guildID <;> rfl
  · rfl

/-- Whether a guild is full depends on its level and its members only. -/
lemma recommendable_updateGuild_of_same (cache : CacheGuild) (guildID : ℤ) {f : GuildVO → GuildVO}
    (hf : ∀ guildVO, (f guildVO).level = guildVO.level ∧
      (f guildVO).memberRights = guildVO.memberRights) (guildID' : ℤ) :
    recommendable cfgs (cache.updateGuild guildID f) guildID' =
      recommendable cfgs cache guildID' := by
  rw [recommendable_updateGuild]
  split
  · next heq =>
    rw [heq, recommendable]
    congr 1
    funext guildVO
    rw [isMaxSize_congr (hf guildVO).1 (by rw [(hf guildVO).2])]
  · rfl

variable {pid guildID : ℤ} {guildVO : GuildVO}

/-- Whether a guild is full does not depend on the levels of its members. -/
lemma isMaxSize_insert (right : ℤ) :
    isMaxSize cfgs { guildVO with memberRights := guildVO.memberRights.insert pid right } =
      isMaxSize cfgs { guildVO with
        memberRights := guildVO.memberRights.insert pid RightLevel.Level3.getId } :=
  isMaxSize_congr rfl (by simp only [AList.keys_insert])

lemma recommendable_joined (hguild : s.cache.getGuildByID guildID = some guildVO)
    (rightLevel : RightLevel) :
    recommendable cfgs (joined s.cache pid guildID rightLevel) guildID =
      !fullWith cfgs guildVO pid := by
  rw [joined, CacheGuild.chgRight, recommendable_updateGuild, if_pos rfl]
  show (s.cache.getGuildByID guildID).any _ = _
  rw [hguild, fullWith, ← isMaxSize_insert rightLevel.getId]
  exact decide_not

lemma recommendable_joined_of_ne {guildID' : ℤ} (hne : guildID' ≠ guildID)
    (rightLevel : RightLevel) :
    recommendable cfgs (joined s.cache pid guildID rightLevel) guildID' =
      recommendable cfgs s.cache guildID' := by
  rw [joined, CacheGuild.chgRight, recommendable_updateGuild, if_neg hne]
  exact recommendable_of_eq rfl rfl guildID'

/-- The guilds of the set are found. -/
lemma Recommends.getGuildByID_of_mem (h : Recommends cfgs s)
    (hmem : guildID ∈ elems s.recommendGuild)
    (hguild : s.cache.guilds.lookup guildID = some guildVO) :
    s.cache.getGuildByID guildID = some guildVO := by
  obtain ⟨guildVO', hfound, -⟩ := (Option.any_eq_true _ _).mp (h.guilds guildID hmem)
  rw [CacheGuild.getGuildByID, if_pos (mem_of_getGuildByID hfound), hguild]

end Changes

/-! ## Joining -/

section Joining

variable {pid guildID : ℤ} {guildVO : GuildVO}

/-- A run of `directJoinGuild` of a player who is in no guild. -/
lemma run_directJoinGuild (hpid : s.cache.inGuild pid = false)
    (hguild : s.cache.guilds.lookup guildID = some guildVO) (rightLevel : RightLevel) :
    (directJoinGuild cfgs env pid guildID rightLevel).run s =
      let s' := { s with cache := joined s.cache pid guildID rightLevel }
      if env.loaded pid then
        match isMaxSize cfgs { guildVO with
          memberRights := guildVO.memberRights.insert pid rightLevel.getId } with
        | .ok full => .ok () (if full then s'.removeRecommend guildID else s')
        | .error e => .error e s'
      else .error .nullPointer s' := by
  have hget : getGuild guildID (joined s.cache pid guildID rightLevel) = .ok { guildVO with
      memberRights := guildVO.memberRights.insert pid rightLevel.getId } :=
    (getGuild_eq_ok _).mpr (lookup_joined hguild rightLevel)
  show EStateM.run (if s.cache.inGuild pid = true then _ else _) s = _
  rw [hpid, if_neg Bool.false_ne_true]
  show EStateM.run (onCache (checkLoaded env pid) >>= fun _ =>
    onCache (EStateM.ofExcept (getGuild guildID)) >>= fun guildVO =>
      onCache (EStateM.ofExcept fun _ => isMaxSize cfgs guildVO) >>= fun full =>
        modify fun s => if full = true then s.removeRecommend guildID else s)
    { s with cache := joined s.cache pid guildID rightLevel } = _
  rw [EStateM.run_bind, checkLoaded, run_onCache_ofExcept]
  cases env.loaded pid with
  | false => rfl
  | true =>
    rw [if_pos rfl, if_pos rfl]
    dsimp only
    rw [EStateM.run_bind, run_onCache_ofExcept]
    dsimp only
    rw [hget]
    dsimp only
    rw [EStateM.run_bind, run_onCache_ofExcept]
    cases isMaxSize cfgs { guildVO with
      memberRights := guildVO.memberRights.insert pid rightLevel.getId } <;> rfl

/-- **A player joins a guild.** The set is right unless the player fills a guild of it and is not
loaded. -/
lemma Recommends.directJoinGuild_iff (h : Recommends cfgs s) (hpid : s.cache.inGuild pid = false)
    (hguild : s.cache.guilds.lookup guildID = some guildVO) (rightLevel : RightLevel) :
    Recommends cfgs ((directJoinGuild cfgs env pid guildID rightLevel).finalState s) ↔
      ¬staysFull cfgs env s guildID guildVO pid := by
  let s' := { s with cache := joined s.cache pid guildID rightLevel }
  have hothers : ∀ guildID', guildID' ≠ guildID →
      recommendable cfgs s'.cache guildID' = recommendable cfgs s.cache guildID' :=
    fun guildID' hne => recommendable_joined_of_ne hne rightLevel
  have hself : guildID ∈ elems s.recommendGuild →
      recommendable cfgs s'.cache guildID = !fullWith cfgs guildVO pid :=
    fun hmem => recommendable_joined (h.getGuildByID_of_mem hmem hguild) rightLevel
  -- as long as the guild is not removed
  have hstays : Recommends cfgs s' ↔
      (guildID ∈ elems s.recommendGuild → fullWith cfgs guildVO pid = false) := by
    constructor
    · intro hall hmem
      have hrec := hall.guilds guildID hmem
      rw [hself hmem, Bool.not_eq_true'] at hrec
      exact hrec
    · intro hroom
      refine ⟨h.sorted, fun guildID' hmem => ?_⟩
      by_cases heq : guildID' = guildID
      · rw [heq] at hmem ⊢
        rw [hself hmem, hroom hmem]
        rfl
      · rw [hothers guildID' heq]
        exact h.guilds guildID' hmem
  have hfull : isMaxSize cfgs { guildVO with
      memberRights := guildVO.memberRights.insert pid rightLevel.getId } = .ok true ↔
        fullWith cfgs guildVO pid = true := by
    rw [isMaxSize_insert, fullWith, decide_eq_true_eq]
  rw [EStateM.finalState, run_directJoinGuild hpid hguild, staysFull]
  cases env.loaded pid with
  | false =>
    rw [if_neg Bool.false_ne_true]
    refine hstays.trans ?_
    rw [and_iff_right rfl, not_and, Bool.not_eq_true]
  | true =>
    rw [if_pos rfl]
    refine iff_of_true ?_ fun hall => Bool.noConfusion hall.1
    have hroom : isMaxSize cfgs { guildVO with
        memberRights := guildVO.memberRights.insert pid rightLevel.getId } ≠ .ok true →
          Recommends cfgs s' := fun hne =>
      hstays.mpr fun _ => Bool.eq_false_iff.mpr fun hyes => hne (hfull.mpr hyes)
    cases hresult : isMaxSize cfgs { guildVO with
        memberRights := guildVO.memberRights.insert pid rightLevel.getId } with
    | error e => exact hroom (by rw [hresult]; simp)
    | ok full =>
      cases full with
      | false => exact hroom (by rw [hresult]; simp)
      | true =>
        refine ⟨h.sorted.remove guildID, fun guildID' hmem => ?_⟩
        obtain ⟨hmem, hkey⟩ := (mem_remove h.sorted).mp hmem
        have hne : guildID' ≠ guildID := fun heq => hkey (congrArg s.key heq)
        exact (hothers guildID' hne).trans (h.guilds guildID' hmem)

/-- What follows does not concern the set. -/
lemma recommends_bind {x : Method Unit} {y : Unit → Method Unit}
    (hy : ∀ s, Recommends cfgs ((y ()).finalState s) ↔ Recommends cfgs s) :
    Recommends cfgs ((x >>= y).finalState s) ↔ Recommends cfgs (x.finalState s) := by
  rw [EStateM.finalState_bind, EStateM.finalState]
  cases x.run s with
  | ok u s' => exact hy s'
  | error e s' => rfl

lemma recommends_refNoNeedReqGuilds (guildID : ℤ) (s : GuildCaches) :
    Recommends cfgs ((onCache (refNoNeedReqGuilds cfgs guildID)).finalState s) ↔
      Recommends cfgs s := by
  have hleaves : ∀ cache, ((refNoNeedReqGuilds cfgs guildID).finalState cache).allGuildByID =
      cache.allGuildByID ∧
        ((refNoNeedReqGuilds cfgs guildID).finalState cache).guilds = cache.guilds := by
    intro cache
    rw [refNoNeedReqGuilds, EStateM.finalState_ofExcept_bind]
    split
    · split
      · exact ⟨rfl, rfl⟩
      · rw [EStateM.finalState_ofExcept_bind]
        split
        · rw [EStateM.finalState_modify]
          split_ifs <;> exact ⟨rfl, rfl⟩
        · exact ⟨rfl, rfl⟩
    · exact ⟨rfl, rfl⟩
  rw [finalState_onCache]
  exact recommends_onCache _ (hleaves s.cache).1 (hleaves s.cache).2

lemma recommends_checkLoaded (pid : ℤ) (s : GuildCaches) :
    Recommends cfgs ((onCache (checkLoaded env pid)).finalState s) ↔ Recommends cfgs s := by
  rw [finalState_onCache, checkLoaded, EStateM.finalState_ofExcept]

lemma recommends_joinGuild (h : Recommends cfgs s) (pvo guildID : ℤ) :
    Recommends cfgs ((joinGuild cfgs env pvo guildID).finalState s) ↔
      KeepsRecommended cfgs s (env, .joinGuild pvo guildID) := by
  unfold KeepsRecommended
  dsimp only
  rw [joinGuild, finalState_onCache_ofExcept_bind]
  cases hcheck : checkJoinGuild cfgs env pvo guildID s.cache with
  | error e => exact iff_of_true h trivial
  | ok result =>
    obtain ⟨found, guildVO⟩ := result
    obtain ⟨hfind, hpid, -⟩ := of_checkJoinGuild env hcheck
    dsimp only
    cases guildVO.enterNeedReq with
    | true =>
      rw [if_pos rfl, finalState_onCache_ofExcept_bind]
      refine iff_of_true ?_ fun hreq => Bool.noConfusion hreq
      split
      · exact (recommends_cacheReq pvo guildID .STATUS_NORMAL).mpr h
      · exact h
    | false =>
      rw [if_neg Bool.false_ne_true, recommends_bind (recommends_refNoNeedReqGuilds found),
        h.directJoinGuild_iff hpid (lookup_of_findGuild env s.cache hfind)]
      exact ⟨fun hnot _ => hnot, fun hnot => hnot rfl⟩

variable (hnumbered : Numbered s.cache)

include hnumbered

lemma recommends_acceptPlayerJoinGuild (h : Recommends cfgs s) (pvo pid : ℤ) (accept : Bool) :
    Recommends cfgs ((acceptPlayerJoinGuild cfgs env pvo pid accept).finalState s) ↔
      KeepsRecommended cfgs s (env, .acceptPlayerJoinGuild pvo pid accept) := by
  unfold KeepsRecommended
  dsimp only
  rw [acceptPlayerJoinGuild, finalState_onCache_ofExcept_bind]
  cases hcheck : checkAccept pvo pid s.cache with
  | error e => exact iff_of_true h trivial
  | ok result =>
    obtain ⟨guildID, guildVO, status⟩ := result
    have hguild := lookup_of_getGuildByID (of_checkAccept hcheck)
    dsimp only
    cases accept with
    | false =>
      rw [if_neg Bool.false_ne_true, recommends_bind (recommends_checkLoaded pid),
        finalState_onCache, EStateM.finalState_modify]
      refine iff_of_true ?_ fun haccept => Bool.noConfusion haccept
      split
      · exact (recommends_removeReq pid guildID).mpr h
      · exact h
    | true =>
      rw [if_pos rfl, finalState_onCache_ofExcept_bind]
      cases hfull : isMaxSize cfgs guildVO with
      | error e =>
        refine iff_of_true h fun _ hroom => ?_
        cases hroom
      | ok full =>
        cases full with
        | true =>
          refine iff_of_true h fun _ hroom => ?_
          cases hroom
        | false =>
          show Recommends cfgs ((do
            let s ← get
            if notInGuild s.cache pid = true ∧ status = .STATUS_NORMAL then _ else _ :
              Method Unit).finalState s) ↔ _
          rw [EStateM.finalState_get_bind]
          split
          · next hnew =>
            obtain ⟨hpid, hstatus⟩ := hnew
            have haccepted := (recommends_cacheReq pid guildID .STATUS_ACCEPT).mpr h
            have hnotIn := inGuild_of_notInGuild
              ((sameGuilds_cacheReq s.cache pid guildID .STATUS_ACCEPT).numbered hnumbered) hpid
            rw [finalState_onCache_modify_bind, recommends_bind (recommends_checkLoaded pid),
              haccepted.directJoinGuild_iff hnotIn hguild]
            exact ⟨fun hnot _ _ _ _ => hnot, fun hnot => hnot rfl rfl hpid hstatus⟩
          · next hold =>
            rw [finalState_onCache_modify_bind, recommends_checkLoaded]
            refine iff_of_true ((recommends_removeReq pid guildID).mpr h) fun _ _ hpid hstatus => ?_
            exact absurd ⟨hpid, hstatus⟩ hold

omit hnumbered in
/-- **A player who enters the game** joins the guild that accepted the player. -/
lemma recommends_joinAccepted (guildIDs : List ℤ) (hnumbered : Numbered s.cache)
    (h : Recommends cfgs s) (hpid : notInGuild s.cache pid = true) :
    Recommends cfgs ((joinAccepted cfgs env pid guildIDs).finalState s) ↔
      ∀ guild ∈ accepted cfgs s.cache pid guildIDs, ¬staysFull cfgs env s guild.1 guild.2 pid := by
  induction guildIDs generalizing s with
  | nil =>
    refine iff_of_true h fun guild hmem => ?_
    cases hmem
  | cons guildID guildIDs ih =>
    rw [joinAccepted, EStateM.finalState_get_bind, accepted]
    cases hguild : s.cache.getGuildByID guildID with
    | none =>
      refine iff_of_true h fun guild hmem => ?_
      cases hmem
    | some guildVO =>
      dsimp only
      rw [finalState_onCache_ofExcept_bind]
      cases isMaxSize cfgs guildVO with
      | error e =>
        refine iff_of_true h fun guild hmem => ?_
        cases hmem
      | ok full =>
        dsimp only
        cases full with
        | true =>
          rw [if_pos rfl, if_neg fun hall => Bool.noConfusion hall.1]
          exact ih hnumbered h hpid
        | false =>
          rw [if_neg Bool.false_ne_true]
          by_cases hreq : s.cache.getReq pid guildID = some .STATUS_ACCEPT
          · have hnumbered' :=
              (sameGuilds_cacheReq s.cache pid guildID .STATUS_DONE).numbered hnumbered
            have hdone := (recommends_cacheReq pid guildID .STATUS_DONE).mpr h
            rw [if_pos hreq, finalState_onCache_modify_bind]
            by_cases hended : guildVO.status = .DISSOLUTION_END
            · rw [if_neg (not_not_intro hended), if_neg fun hall => hall.2.2 hended,
                ← accepted_cacheReq hguild hended .STATUS_DONE guildIDs]
              exact ih hnumbered' hdone hpid
            · rw [if_pos hended, if_pos ⟨rfl, hreq, hended⟩, hdone.directJoinGuild_iff
                (inGuild_of_notInGuild hnumbered' hpid) (lookup_of_getGuildByID hguild)]
              constructor
              · rintro hnot guild hmem
                obtain rfl := Option.some.inj hmem
                exact hnot
              · exact fun hall => hall (guildID, guildVO) rfl
          · rw [if_neg hreq, if_neg fun hall => hreq hall.2.1]
            exact ih hnumbered h hpid

lemma recommends_buildAsLoad (h : Recommends cfgs s) (pid : ℤ) :
    Recommends cfgs ((buildAsLoad cfgs env pid).finalState s) ↔
      KeepsRecommended cfgs s (env, .buildAsLoad pid) := by
  unfold KeepsRecommended
  dsimp only
  rw [buildAsLoad, EStateM.finalState_get_bind]
  split
  · next hpid =>
    rw [recommends_joinAccepted _ hnumbered h hpid]
    exact ⟨fun hall _ => hall, fun hall => hall hpid⟩
  · next hpid =>
    have hsame : SameGuilds s.cache ((Guild.buildAsLoad cfgs env pid).finalState s.cache) := by
      have hreqs := sameGuilds_removeReqs s.cache pid
      rw [Guild.buildAsLoad, EStateM.finalState_get_bind, if_neg hpid,
        EStateM.finalState_modify_bind, EStateM.finalState_modify]
      split
      · exact hreqs
      · split
        · exact hreqs.trans (sameGuilds_leaveGuild _ pid)
        · exact hreqs
    rw [finalState_onCache, recommends_onCache _ hsame.live hsame.guilds]
    exact iff_of_true h fun hyes => absurd hyes hpid

end Joining

/-! ## A new guild -/

section Creating

/-- A guild is added to a set in order. -/
lemma recommends_addRecommend (hsorted : Sorted s.key s.recommendGuild)
    (hothers : ∀ guildID ∈ elems s.recommendGuild, recommendable cfgs s.cache guildID = true)
    (guildID : ℤ) :
    Recommends cfgs (s.addRecommend guildID) ↔
      (guildID ∈ elems (s.addRecommend guildID).recommendGuild →
        recommendable cfgs s.cache guildID = true) := by
  have hadded := hsorted.add guildID
  constructor
  · exact fun hall hmem => hall.guilds guildID hmem
  · intro hself
    refine ⟨?_, fun guildID' hmem => ?_⟩
    · show Sorted s.key (if _ then _ else _)
      split
      · exact hadded.pollLast
      · exact hadded
    · have hmem' : guildID' ∈ elems (add s.key guildID s.recommendGuild) := by
        change guildID' ∈ elems (if _ then _ else _) at hmem
        split at hmem
        · rw [elems_pollLast] at hmem
          exact List.dropLast_subset _ hmem
        · exact hmem
      rcases mem_add hsorted hmem' with rfl | hold
      · exact hself hmem
      · exact hothers guildID' hold

/-- Whether a guild stays in the set that is added when no other has its key. -/
lemma not_mem_addRecommend {guildID : ℤ} (hsorted : Sorted s.key s.recommendGuild)
    (hnew : ∀ guildID' ∈ elems s.recommendGuild, s.key guildID' ≠ s.key guildID) :
    guildID ∉ elems (s.addRecommend guildID).recommendGuild ↔
      recommentGuildSize ≤ (elems s.recommendGuild).length + 1 ∧
        ∀ guildID' ∈ elems s.recommendGuild, s.key guildID' < s.key guildID := by
  show guildID ∉ elems (if _ then _ else _) ↔ _
  rw [length_add hsorted hnew]
  split
  · next hmany => rw [not_mem_pollLast_add hsorted hnew, and_iff_right hmany]
  · next hfew =>
    exact iff_of_false (fun hnot => hnot (mem_add_self hsorted hnew)) fun hall => hfew hall.1

lemma recommendable_addCache_of_ne {cache : CacheGuild} {guildID guildID' : ℤ}
    (hne : guildID' ≠ guildID) :
    recommendable cfgs (cache.addCache guildID) guildID' = recommendable cfgs cache guildID' := by
  have hlive : guildID' ∈ (cache.addCache guildID).allGuildByID ↔ guildID' ∈ cache.allGuildByID :=
    List.mem_cons.trans (or_iff_right hne)
  unfold recommendable CacheGuild.getGuildByID
  simp only [hlive]
  rfl

variable (hnumbered : Numbered s.cache)

include hnumbered

/-- The guilds of the set were given ids. -/
lemma Recommends.le_guildDBID (h : Recommends cfgs s) {guildID : ℤ}
    (hmem : guildID ∈ elems s.recommendGuild) : guildID ≤ s.cache.guildDBID := by
  obtain ⟨guildVO, hfound, -⟩ := (Option.any_eq_true _ _).mp (h.guilds guildID hmem)
  exact (hnumbered.live _ (mem_of_getGuildByID hfound)).2

lemma Recommends.key_newGuild (h : Recommends cfgs s) (guildVO : GuildVO) (createDate : ℤ)
    {guildID : ℤ} (hmem : guildID ∈ elems s.recommendGuild) :
    (s.newGuild guildVO createDate).key guildID = s.key guildID := by
  have hne : guildID ≠ s.cache.guildDBID + 1 := by
    have hle := h.le_guildDBID hnumbered hmem
    omega
  unfold GuildCaches.key GuildCaches.newGuild
  dsimp only
  rw [Function.update_of_ne hne, Function.update_of_ne hne]

lemma Recommends.newGuild (h : Recommends cfgs s) (guildVO : GuildVO) (createDate : ℤ) :
    Recommends cfgs (s.newGuild guildVO createDate) := by
  have hiff : Recommends cfgs (s.newGuild guildVO createDate) ↔ Recommends cfgs s := by
    refine recommends_congr rfl ?_ ?_
    · exact fun guildID hmem => h.key_newGuild hnumbered guildVO createDate hmem
    · intro guildID hmem
      show recommendable cfgs (s.cache.newGuild guildVO) guildID = _
      rw [recommendable, getGuildByID_newGuild hnumbered]
      rfl
  exact hiff.mpr h

/-- A guild that was full at once does not stay in the set if and only if it is crowded out. -/
lemma Recommends.crowdedOut_iff (h : Recommends cfgs s) (guildVO : GuildVO) (createDate : ℤ)
    {s₁ : GuildCaches} (hkey : s₁.key = (s.newGuild guildVO createDate).key)
    (htree : s₁.recommendGuild = remove s₁.key (s.cache.guildDBID + 1) s.recommendGuild) :
    s.cache.guildDBID + 1 ∉ elems (s₁.addRecommend (s.cache.guildDBID + 1)).recommendGuild ↔
      crowdedOut s createDate := by
  have hsorted : Sorted s₁.key s.recommendGuild := hkey ▸ (h.newGuild hnumbered _ _).sorted
  have hself : s₁.key (s.cache.guildDBID + 1) = toLex (0, createDate) := by
    rw [hkey]
    simp [GuildCaches.key, GuildCaches.newGuild]
  have hothers : ∀ guildID ∈ elems s.recommendGuild, s₁.key guildID = s.key guildID :=
    fun guildID hmem => hkey ▸ h.key_newGuild hnumbered guildVO createDate hmem
  have hremoved : elems s₁.recommendGuild =
      (elems s.recommendGuild).filter (s.key · ≠ toLex (0, createDate)) := by
    rw [htree, elems_remove hsorted, hself]
    apply List.filter_congr
    intro guildID hmem
    rw [hothers guildID hmem]
  have hbefore : (∀ guildID ∈ elems s₁.recommendGuild, s₁.key guildID < toLex (0, createDate)) ↔
      ∀ guildID ∈ elems s.recommendGuild, s.key guildID ≤ toLex (0, createDate) := by
    simp only [hremoved, List.mem_filter, decide_eq_true_eq, and_imp]
    apply forall₂_congr
    intro guildID hmem
    rw [hothers guildID hmem]
    exact ⟨fun hlt => le_of_not_gt fun hgt => lt_asymm hgt (hlt (ne_of_gt hgt)),
      fun hle hne => lt_of_le_of_ne hle hne⟩
  rw [not_mem_addRecommend (htree ▸ hsorted.remove _), hself, hbefore, crowdedOut]
  · refine and_congr_left fun hle => ?_
    have hsame : elems s₁.recommendGuild =
        (elems s.recommendGuild).filter (s.key · < toLex (0, createDate)) := by
      rw [hremoved]
      apply List.filter_congr
      intro guildID hmem
      rw [decide_eq_decide]
      exact ⟨fun hne => lt_of_le_of_ne (hle guildID hmem) hne, ne_of_lt⟩
    rw [hsame]
  · intro guildID hmem
    rw [htree] at hmem
    exact ((mem_remove hsorted).mp hmem).2

/-- **A new guild with its founder is added.** -/
lemma Recommends.addCache_iff (h : Recommends cfgs s) {guildVO : GuildVO} {createDate pvo : ℤ}
    {rightLevel : RightLevel} {full : Bool}
    (hlookup : (s.newGuild guildVO createDate).cache.guilds.lookup (s.cache.guildDBID + 1) =
      some guildVO)
    (hfull : isMaxSize cfgs { guildVO with
      memberRights := guildVO.memberRights.insert pvo rightLevel.getId } = .ok full)
    (hjoined :
      let s₁ := s.newGuild guildVO createDate
      let s₂ := { s₁ with cache := joined s₁.cache pvo (s.cache.guildDBID + 1) rightLevel }
      Recommends cfgs (if full then s₂.removeRecommend (s.cache.guildDBID + 1) else s₂)) :
    let s₁ := s.newGuild guildVO createDate
    let s₂ := { s₁ with cache := joined s₁.cache pvo (s.cache.guildDBID + 1) rightLevel }
    Recommends cfgs (GuildCaches.addCache
      (if full then s₂.removeRecommend (s.cache.guildDBID + 1) else s₂) (s.cache.guildDBID + 1)) ↔
        (full = true → crowdedOut s createDate) := by
  intro s₁ s₂
  have hfound (cache : CacheGuild) (hsame : cache = s₂.cache) :
      recommendable cfgs (cache.addCache (s.cache.guildDBID + 1)) (s.cache.guildDBID + 1) =
        !full := by
    have hguild : (s₂.cache.addCache (s.cache.guildDBID + 1)).getGuildByID
        (s.cache.guildDBID + 1) = some { guildVO with
          memberRights := guildVO.memberRights.insert pvo rightLevel.getId } :=
      (if_pos List.mem_cons_self).trans (lookup_joined hlookup rightLevel)
    rw [hsame, recommendable, hguild, Option.any_some, hfull]
    cases full <;> rfl
  have hothers {s₃ : GuildCaches} (hright : Recommends cfgs s₃) (hcache : s₃.cache = s₂.cache)
      (hunadded : s.cache.guildDBID + 1 ∉ elems s₃.recommendGuild) :
      Recommends cfgs (s₃.addCache (s.cache.guildDBID + 1)) ↔
        (s.cache.guildDBID + 1 ∈ elems (s₃.addRecommend (s.cache.guildDBID + 1)).recommendGuild →
          full = false) := by
    rw [GuildCaches.addCache, recommends_addRecommend]
    · rw [hfound s₃.cache hcache, Bool.not_eq_true']
      rfl
    · exact hright.sorted
    · intro guildID hmem
      have hne : guildID ≠ s.cache.guildDBID + 1 := fun heq => hunadded (heq ▸ hmem)
      exact (recommendable_addCache_of_ne hne).trans (hright.guilds guildID hmem)
  have hnotin : s.cache.guildDBID + 1 ∉ elems s.recommendGuild := fun hmem => by
    have hle := h.le_guildDBID hnumbered hmem
    omega
  cases full with
  | false => exact (hothers hjoined rfl hnotin).trans (by simp)
  | true =>
    have hgone : s.cache.guildDBID + 1 ∉
        elems (s₂.removeRecommend (s.cache.guildDBID + 1)).recommendGuild :=
      not_mem_remove (h.newGuild hnumbered guildVO createDate).sorted _
    have hright : Recommends cfgs (s₂.removeRecommend (s.cache.guildDBID + 1)) := hjoined
    have hcrowded : s.cache.guildDBID + 1 ∉ elems ((s₂.removeRecommend
        (s.cache.guildDBID + 1)).addRecommend (s.cache.guildDBID + 1)).recommendGuild ↔
          crowdedOut s createDate :=
      h.crowdedOut_iff hnumbered guildVO createDate rfl rfl
    rw [if_pos rfl, hothers hright rfl hgone, ← hcrowded]
    simp

lemma recommends_createGuild (h : Recommends cfgs s) (pvo : ℤ) (needReq : Bool)
    (checked : Except Thrown Unit) (createDate : ℤ) :
    Recommends cfgs ((createGuild cfgs env pvo needReq checked createDate).finalState s) ↔
      KeepsRecommended cfgs s (env, .createGuild pvo needReq checked createDate) := by
  let guildID := s.cache.guildDBID + 1
  let guildVO : GuildVO := { level := 1, owner := pvo, enterNeedReq := needReq }
  let s₁ := s.newGuild guildVO createDate
  let s₂ := { s₁ with cache := joined s₁.cache pvo guildID .Level0 }
  unfold KeepsRecommended
  dsimp only
  rw [createGuild, finalState_onCache_ofExcept_bind]
  cases hcheck : CodeGuild.alreadyInGuild.throwIfTrue (s.cache.inGuild pvo = true) with
  | error e =>
    refine iff_of_true h fun hpid => ?_
    rw [hpid] at hcheck
    cases hcheck
  | ok u =>
    rw [ICode.throwIfTrue_eq_ok, Bool.not_eq_true] at hcheck
    dsimp only
    rw [finalState_onCache_ofExcept_bind]
    cases checked with
    | error e =>
      refine iff_of_true h fun _ hchecked => ?_
      cases hchecked
    | ok u =>
      have hpid : s₁.cache.inGuild pvo = false := by
        show (s.cache.newGuild guildVO).inGuild pvo = false
        rw [← hcheck]
        unfold CacheGuild.inGuild
        simp only [getGuildByID_newGuild hnumbered]
        rfl
      have hlookup : s₁.cache.guilds.lookup guildID = some guildVO := AList.lookup_insert _
      have hnew := h.newGuild hnumbered guildVO createDate
      have hnotin : guildID ∉ elems s.recommendGuild := fun hmem => by
        have hle : guildID ≤ s.cache.guildDBID := h.le_guildDBID hnumbered hmem
        omega
      have hjoined : Recommends cfgs
          ((directJoinGuild cfgs env pvo guildID .Level0).finalState s₁) :=
        (hnew.directJoinGuild_iff hpid hlookup .Level0).mpr fun hstays => hnotin hstays.2.1
      have hrun := @run_directJoinGuild cfgs env s₁ pvo guildID guildVO hpid hlookup .Level0
      rw [EStateM.finalState, hrun] at hjoined
      rw [EStateM.finalState_get_bind, EStateM.finalState_modify_bind, EStateM.finalState_bind,
        hrun]
      revert hjoined
      cases env.loaded pvo with
      | false =>
        exact fun hjoined => iff_of_true hjoined fun _ _ hloaded => Bool.noConfusion hloaded
      | true =>
        have hsize := @isMaxSize_insert cfgs pvo guildVO RightLevel.Level0.getId
        rw [if_pos rfl]
        cases hfull : isMaxSize cfgs { guildVO with
          memberRights := guildVO.memberRights.insert pvo RightLevel.Level0.getId } with
        | error e =>
          refine fun hjoined => iff_of_true hjoined fun _ _ _ hyes => ?_
          rw [fullWith, ← hsize, hfull] at hyes
          cases hyes
        | ok full =>
          intro hjoined
          have hfullWith : fullWith cfgs guildVO pvo = full := by
            rw [fullWith, ← hsize, hfull]
            cases full <;> rfl
          have hkept : full = true → crowdedOut s createDate ↔
              (s.cache.inGuild pvo = false → (.ok u : Except Thrown Unit) = .ok () → true = true →
                fullWith cfgs guildVO pvo = true → crowdedOut s createDate) := by
            rw [hfullWith]
            exact ⟨fun hall _ _ _ => hall, fun hall => hall hcheck rfl rfl⟩
          refine Iff.trans ?_ hkept
          show Recommends cfgs ((onCache (refNoNeedReqGuilds cfgs guildID)).finalState
            (GuildCaches.addCache (if full = true then s₂.removeRecommend guildID else s₂) guildID))
              ↔ _
          rw [recommends_refNoNeedReqGuilds]
          exact h.addCache_iff hnumbered hlookup hfull hjoined

end Creating

/-! ## Dissolving -/

section Dissolving

/-- A dissolution that is begun or cancelled leaves the set right. -/
lemma recommends_announced {x : EStateM Thrown CacheGuild Unit}
    (hannounced : Announced s.cache (x.finalState s.cache)) :
    Recommends cfgs ((onCache x).finalState s) ↔ Recommends cfgs s := by
  rw [finalState_onCache]
  apply recommends_withCache
  intro guildID'
  generalize x.finalState s.cache = cache' at hannounced
  cases hannounced with
  | refl => rfl
  | @chgStatus guildID =>
    refine recommendable_updateGuild_of_same s.cache guildID ?_ guildID'
    exact fun _ => ⟨rfl, rfl⟩

/-- What is dissolved is removed from a set in order. -/
lemma Recommends.removeCache (h : Recommends cfgs s) (guildID : ℤ) (inDissolutionGuild : List ℤ) :
    Recommends cfgs
      { s.removeCache guildID with
        cache := { s.cache.removeCache guildID with
          inDissolutionGuild := inDissolutionGuild } } := by
  refine ⟨h.sorted.remove guildID, fun guildID' hmem => ?_⟩
  obtain ⟨hmem, hkey⟩ := (mem_remove h.sorted).mp hmem
  have hne : guildID' ≠ guildID := fun heq => hkey (congrArg s.key heq)
  have hlive : guildID' ∈ (s.cache.removeCache guildID).allGuildByID ↔
      guildID' ∈ s.cache.allGuildByID := by
    rw [CacheGuild.removeCache, List.mem_filter, decide_eq_true_eq, and_iff_left hne]
  have hsame : recommendable cfgs (s.cache.removeCache guildID) guildID' =
      recommendable cfgs s.cache guildID' := by
    unfold recommendable CacheGuild.getGuildByID
    simp only [hlive]
    rfl
  exact hsame.trans (h.guilds guildID' hmem)

lemma Recommends.dissolve (h : Recommends cfgs s) (guildID : ℤ) :
    Recommends cfgs ((dissolve guildID).finalState s) := by
  rw [Recommend.dissolve, finalState_onCache_ofExcept_bind]
  split
  · next guildVO hguild =>
    split
    · let ended := s.cache.updateGuild guildID fun guildVO =>
        { guildVO with status := .DISSOLUTION_END }
      let left := guildVO.memberRights.keys.foldl CacheGuild.leaveGuild ended
      have hsame : SameGuilds ended left := sameGuilds_foldl_leaveGuild ended _
      have hleft : Recommends cfgs { s with cache := left } := by
        refine (recommends_withCache fun guildID' => ?_).mpr h
        rw [recommendable_of_eq hsame.live hsame.guilds]
        refine recommendable_updateGuild_of_same s.cache guildID ?_ guildID'
        exact fun _ => ⟨rfl, rfl⟩
      exact hleft.removeCache guildID _
    · exact h.removeCache guildID _
  · exact h

/-- **Guilds are dissolved.** -/
lemma Recommends.innerDissolutionGuild (h : Recommends cfgs s) (guildIDs : List ℤ) :
    Recommends cfgs ((innerDissolutionGuild guildIDs).finalState s) :=
  EStateM.finalState_each_of_keeps (fun guildID _ h => h.dissolve guildID) h

end Dissolving

/-! ## Fight forces -/

section FightForces

/-- The guilds of the set have new fight forces, and are where they were. -/
lemma recommends_updateGuildFightForce (h : Recommends cfgs s) (fightForceOf : ℤ → Option ℤ) :
    Recommends cfgs ((updateGuildFightForce fightForceOf).finalState s) ↔
      KeepsRecommended cfgs s (env, .updateGuildFightForce fightForceOf) := by
  have hkey : ∀ guildID ∈ elems s.recommendGuild,
      ((updateGuildFightForce fightForceOf).finalState s).key guildID =
        toLex (-newFightForce fightForceOf s guildID, s.createDate guildID) := by
    intro guildID hmem
    obtain ⟨guildVO, hfound, -⟩ := (Option.any_eq_true _ _).mp (h.guilds guildID hmem)
    rw [updateGuildFightForce, EStateM.finalState_modify, foldl_updateFightForce, GuildCaches.key]
    dsimp only
    rw [if_pos (mem_of_getGuildByID hfound)]
  have hcache : ((updateGuildFightForce fightForceOf).finalState s).cache = s.cache := by
    rw [updateGuildFightForce, EStateM.finalState_modify, foldl_updateFightForce]
  have htree : ((updateGuildFightForce fightForceOf).finalState s).recommendGuild =
      s.recommendGuild := by
    rw [updateGuildFightForce, EStateM.finalState_modify, foldl_updateFightForce]
  constructor
  · intro hright
    have hsorted := hright.sorted
    rw [htree] at hsorted
    exact (sorted_congr hkey).mp hsorted
  · intro hsorted
    refine ⟨?_, fun guildID hmem => ?_⟩
    · rw [htree]
      exact (sorted_congr hkey).mpr hsorted
    · rw [htree] at hmem
      rw [hcache]
      exact h.guilds guildID hmem

end FightForces

/-! ## Steps and runs -/

section Runs

variable (cfgs)

/-- **The set is right after a call** if and only if it is one of the calls that keep it so. -/
theorem recommends_step (hkept : Kept s.cache) (h : Recommends cfgs s)
    (op : Surroundings × Op) :
    Kept (step cfgs s op).cache ∧
      (Recommends cfgs (step cfgs s op) ↔ KeepsRecommended cfgs s op) := by
  refine ⟨kept_step_cache cfgs hkept op, ?_⟩
  have hnumbered : Numbered s.cache :=
    ⟨hkept.filed.nonneg, hkept.filed.live, hkept.filed.nodup⟩
  obtain ⟨env, op⟩ := op
  cases op with
  | createGuild pvo needReq checked createDate =>
    exact recommends_createGuild hnumbered h pvo needReq checked createDate
  | joinGuild pvo guildID => exact recommends_joinGuild h pvo guildID
  | acceptPlayerJoinGuild pvo pid accept =>
    exact recommends_acceptPlayerJoinGuild hnumbered h pvo pid accept
  | buildAsLoad pid => exact recommends_buildAsLoad hnumbered h pid
  | dissolutionGuild pvo =>
    refine iff_of_true ((recommends_announced ?_).mpr h) trivial
    exact announced_dissolutionGuild cfgs env s.cache pvo
  | cancelDissolutionGuild pvo =>
    refine iff_of_true ((recommends_announced ?_).mpr h) trivial
    exact announced_cancelDissolutionGuild s.cache pvo
  | innerDissolutionGuild guildIDs => exact iff_of_true (h.innerDissolutionGuild guildIDs) trivial
  | updateGuildFightForce fightForceOf => exact recommends_updateGuildFightForce h fightForceOf

/-- **The set of recommended guilds.** In all states of a run the set is in order and has only
guilds that are found and not full, and what is removed from it is gone, if and only if no guild of
the set is filled by a player who is not loaded, no new guild that stays in it is full at once, and
new fight forces leave the guilds in order. -/
theorem recommends_run_iff {s : GuildCaches} (hkept : Kept s.cache) (h : Recommends cfgs s)
    (ops : List (Surroundings × Op)) :
    (∀ pre, pre <+: ops → Recommends cfgs (Runs.run (step cfgs) s pre) ∧
      Removes (Runs.run (step cfgs) s pre)) ↔
    Runs.EveryStep (step cfgs) (KeepsRecommended cfgs) s ops := by
  have hiff : (∀ pre, pre <+: ops → Recommends cfgs (Runs.run (step cfgs) s pre)) ↔
      Runs.EveryStep (step cfgs) (KeepsRecommended cfgs) s ops :=
    Runs.forall_prefix_iff (fun s => Kept s.cache) (Recommends cfgs)
      (fun _ op hkept h => recommends_step cfgs hkept h op) hkept h ops
  rw [← hiff]
  exact forall₂_congr fun pre _ => and_iff_left_of_imp (Recommends.removes cfgs)

/-- A guild may have two members. -/
def pairCfgs : GuildCfgs :=
  { smallCfgs with
    maxMemberSize := [2, 2]
    guildLVCfg := [{ lv := 1, reqExp := 0, maxCanReqSize := 10 }] }

/-- The caches without guilds. -/
def emptyCaches : GuildCaches := { cache := start 0 }

lemma recommends_emptyCaches : Recommends cfgs emptyCaches :=
  ⟨List.Pairwise.nil, fun _ hmem => absurd hmem List.not_mem_nil⟩

/-- Player 1 creates a guild that player 2 wants to join, who may be `loaded` or not when player 1
accepts. -/
def secondMember (loaded : Bool) : List (Surroundings × Op) :=
  [(without 0, .createGuild 1 true (.ok ()) 1), (without 0, .joinGuild 2 1),
    ({ without 0 with loaded := fun pid => pid ≠ 2 || loaded }, .acceptPlayerJoinGuild 1 2 true)]

/-- Player 2 fills the guild, which is not recommended any more. -/
theorem recommends_secondMember :
    Recommends pairCfgs (Runs.run (step pairCfgs) emptyCaches (secondMember true)) ∧
      Removes (Runs.run (step pairCfgs) emptyCaches (secondMember true)) := by
  refine (recommends_run_iff pairCfgs (kept_start le_rfl) (recommends_emptyCaches pairCfgs)
    (secondMember true)).mpr ⟨?_, ?_, ?_, trivial⟩ _ List.prefix_rfl
  · intro _ _ _ hfull
    exact absurd hfull (by decide)
  · exact fun hneed => Bool.noConfusion hneed
  · intro _ _ _ _ hstays
    exact Bool.noConfusion hstays.1

/-- Two guilds of one member each, the second of which is to be dissolved. -/
def twoGuilds : GuildCaches :=
  let guildVO : ℤ → Status → GuildVO := fun owner status =>
    { level := 1, owner := owner, enterNeedReq := true, status := status,
      memberRights := (∅ : AList fun _ : ℤ => ℤ).insert owner RightLevel.Level0.getId }
  let rows : List GuildRow :=
    [⟨1, guildVO 1 .NORMAL, 3, 1⟩, ⟨2, guildVO 2 .IN_DISSOLUTION, 5, 2⟩]
  rows.foldl (fun s row => (load pairCfgs row).finalState s) { cache := start 2 }

/-- A guild that is full stays in the set, since player 2 is not loaded; and after new fight forces
a guild that is dissolved is not removed. -/
theorem not_recommends_run :
    ¬Recommends pairCfgs (Runs.run (step pairCfgs) emptyCaches (secondMember false)) ∧
      ¬Removes (Runs.run (step pairCfgs) twoGuilds
        [(without 0, .updateGuildFightForce fun _ => none)]) ∧
      2 ∈ elems (Runs.run (step pairCfgs) twoGuilds
        [(without 0, .updateGuildFightForce fun _ => none),
          (without 0, .innerDissolutionGuild [2])]).recommendGuild := by
  refine ⟨fun h => ?_, fun h => ?_, by decide⟩
  · have hroom := h.guilds 1 (by decide)
    revert hroom
    decide
  · exact h 2 (by decide)

end Runs

end SrgpGame.Guild.Recommend
