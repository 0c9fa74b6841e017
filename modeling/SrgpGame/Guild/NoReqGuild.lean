import SrgpGame.Lib.Listing
import SrgpGame.Guild.Leaders

set_option autoImplicit false

/-!
# The guilds that can be joined without a request

`CacheGuild.NoReqGuild` is to have the guilds that are found, need no request and are not full. It
is changed by `refNoNeedReqGuilds`, which is called where a guild is created, joined by its id or at
random, and left. Nothing calls it where a request is accepted, where a guild goes up a level, where
a guild no longer needs requests, and where a guild is dissolved.

## Main definitions

* `openGuild`, `isOpen` — a guild that can be joined without a request.
* `Listed` — the list has those guilds, each once.
* `QuickJoins` — what a player gets who joins any guild.
* `KeepsList` — the calls after which the list is right.

## Main results

* `Listed.quickJoins` — with such a list a player who joins any guild gets one that is open.
* `listed_step` — the list is right after a call if and only if the call is one of these.
* `listed_run_iff` — the same for all states of a run.
-/

namespace SrgpGame.Guild

open Listing

variable (cfgs : GuildCfgs) (env : Surroundings) (cache : CacheGuild)

/-! ## Open guilds -/

/-- A guild that needs no request and is not full. -/
def openGuild (guildVO : GuildVO) : Bool :=
  !guildVO.enterNeedReq && decide (isMaxSize cfgs guildVO = .ok false)

/-- Whether a guild is found, needs no request and is not full. -/
def isOpen (guildID : ℤ) : Bool := (cache.getGuildByID guildID).any (openGuild cfgs)

/-- **The list has exactly the open guilds**, each once. -/
def Listed : Prop := Lists (fun guildID => isOpen cfgs cache guildID = true) cache.noReqGuild

/-- **A player who joins any guild** gets an open one, and may get each of them. -/
def QuickJoins : Prop :=
  (∀ (env : Surroundings) (found : ℤ) (guildVO : GuildVO),
    findGuild env 0 cache = .ok (found, guildVO) → isOpen cfgs cache found = true) ∧
  ∀ (env : Surroundings) (guildID : ℤ), isOpen cfgs cache guildID = true →
    ∃ random guildVO,
      findGuild { env with random := random } 0 cache = .ok (guildID, guildVO)

/-- Ids that were given out, the first ones first. -/
structure Numbered : Prop where
  nonneg : 0 ≤ cache.guildDBID
  live : ∀ guildID ∈ cache.allGuildByID, 0 < guildID ∧ guildID ≤ cache.guildDBID
  nodup : cache.allGuildByID.Nodup

/-! ## The calls after which the list is right -/

/-- A player joins an open guild, and it is full then. -/
def fills (guildVO : GuildVO) (pid : ℤ) : Bool :=
  openGuild cfgs guildVO && !openGuild cfgs
    { guildVO with memberRights := guildVO.memberRights.insert pid RightLevel.Level3.getId }

/-- A player leaves a full guild that is open then. -/
def opens (guildVO : GuildVO) (pid : ℤ) : Bool :=
  !openGuild cfgs guildVO && openGuild cfgs
    { guildVO with memberRights := guildVO.memberRights.erase pid }

/-- The loop over the guilds comes to one that is full with its old leader, who was no member. -/
def fillsIn : List ℤ → Bool
  | [] => false
  | guildID :: guildIDs =>
    match cache.guilds.lookup guildID with
    | none => false
    | some guildVO =>
      ((newLeader cfgs env cache guildVO).isSome && fills cfgs guildVO guildVO.owner) ||
        (!stumbles cfgs env cache guildVO && fillsIn guildIDs)

/-- The guild whose acceptance a player finds who enters the game. -/
def accepted (pid : ℤ) : List ℤ → Option (ℤ × GuildVO)
  | [] => none
  | guildID :: guildIDs =>
    match cache.getGuildByID guildID with
    | none => none
    | some guildVO =>
      match isMaxSize cfgs guildVO with
      | .error _ => none
      | .ok full =>
        if full = false ∧ cache.getReq pid guildID = some .STATUS_ACCEPT ∧
            guildVO.status ≠ .DISSOLUTION_END then
          some (guildID, guildVO)
        else accepted pid guildIDs

/-- **The calls after which the list is right.** No player fills an open guild, and none opens a
full one, without a `refNoNeedReqGuilds`; no guild opens because it needs no requests any more, none
opens or closes because it goes up a level, and none is open that is dissolved. -/
def KeepsList (call : Surroundings × Call) : Prop :=
  match call.2 with
  | .joinGuild pvo guildID =>
    -- throws before the list is changed, if the player is not there
    match checkJoinGuild cfgs call.1 pvo guildID cache with
    | .error _ => True
    | .ok (_, guildVO) => call.1.loaded pvo = true ∨ fills cfgs guildVO pvo = false
  | .acceptPlayerJoinGuild pvo pid accept =>
    match checkAccept pvo pid cache with
    | .error _ => True
    | .ok (_, guildVO, status) =>
      accept = true → notInGuild cache pid = true → status = .STATUS_NORMAL →
        fills cfgs guildVO pid = false
  | .outGuild pvo pid =>
    match checkOutGuild pvo pid cache with
    | .error _ => True
    | .ok guildID => pvo = pid → (call.1.loseCoins pvo).toBool = false →
      ∀ guildVO ∈ cache.getGuildByID guildID, opens cfgs guildVO pid = false
  | .innerDissolutionGuild guildIDs =>
    ∀ guildID ∈ guildIDs.takeWhile fun guildID => (cache.guilds.lookup guildID).isSome,
      isOpen cfgs cache guildID = false
  | .replaceGuildLeader => fillsIn cfgs call.1 cache (call.1.order cache.allGuildByID) = false
  | .buildAsLoad pid =>
    let guildIDs := (cache.allReqsCache.keys.filter fun req => req.1 = pid).map Prod.snd
    notInGuild cache pid = true →
      ∀ guild ∈ accepted cfgs cache pid (call.1.order guildIDs), fills cfgs guild.2 pid = false
  | .modifyNeedReqStatus pvo need =>
    match getGuildVOAndCheckRight pvo .APPROVAL_JOIN_GUILD cache with
    | .error _ => True
    | .ok (_, guildVO) =>
      need = false → guildVO.enterNeedReq = true → isMaxSize cfgs guildVO ≠ .ok false
  | .addGuildExp guildID exp =>
    ∀ guildVO ∈ cache.getGuildByID guildID,
      openGuild cfgs (addExp cfgs guildVO exp) = openGuild cfgs guildVO
  | _ => True

variable {cfgs cache}

/-! ## What a change does to the list -/

section Changes

variable {cache' : CacheGuild}

/-- Ids and the list are the same in both states. -/
structure SameBook (cache cache' : CacheGuild) : Prop where
  counter : cache'.guildDBID = cache.guildDBID
  live : cache'.allGuildByID = cache.allGuildByID
  list : cache'.noReqGuild = cache.noReqGuild

lemma SameBook.refl (cache : CacheGuild) : SameBook cache cache := ⟨rfl, rfl, rfl⟩

lemma SameBook.trans {cache'' : CacheGuild} (h : SameBook cache cache')
    (h' : SameBook cache' cache'') : SameBook cache cache'' :=
  ⟨h'.counter.trans h.counter, h'.live.trans h.live, h'.list.trans h.list⟩

lemma SameBook.numbered (h : SameBook cache cache') (hnumbered : Numbered cache) :
    Numbered cache' := by
  obtain ⟨hnonneg, hlive, hnodup⟩ := hnumbered
  rw [← h.counter] at hnonneg
  rw [← h.counter, ← h.live] at hlive
  rw [← h.live] at hnodup
  exact ⟨hnonneg, hlive, hnodup⟩

/-- As long as the list is not changed, it is right if and only if no guild opens or closes. -/
lemma SameBook.listed_iff (h : SameBook cache cache') (hlisted : Listed cfgs cache) :
    Listed cfgs cache' ↔ ∀ guildID, isOpen cfgs cache' guildID = isOpen cfgs cache guildID := by
  unfold Listed
  rw [h.list, hlisted.iff_of_lists]
  exact forall_congr' fun guildID => Bool.eq_iff_iff.symm

lemma sameBook_updateGuild (cache : CacheGuild) (guildID : ℤ) (f : GuildVO → GuildVO) :
    SameBook cache (cache.updateGuild guildID f) := by
  unfold CacheGuild.updateGuild
  split
  · exact .refl cache
  · exact ⟨rfl, rfl, rfl⟩

/-- The guilds are the same, too. -/
structure SameGuilds (cache cache' : CacheGuild) : Prop extends SameBook cache cache' where
  guilds : cache'.guilds = cache.guilds

lemma SameGuilds.refl (cache : CacheGuild) : SameGuilds cache cache := ⟨.refl cache, rfl⟩

lemma SameGuilds.trans {cache'' : CacheGuild} (h : SameGuilds cache cache')
    (h' : SameGuilds cache' cache'') : SameGuilds cache cache'' :=
  ⟨h.toSameBook.trans h'.toSameBook, h'.guilds.trans h.guilds⟩

lemma sameGuilds_cacheReq (cache : CacheGuild) (pid guildID : ℤ) (status : ReqStatus) :
    SameGuilds cache (cache.cacheReq pid guildID status) := ⟨⟨rfl, rfl, rfl⟩, rfl⟩

lemma sameGuilds_removeReq (cache : CacheGuild) (pid guildID : ℤ) :
    SameGuilds cache (cache.removeReq pid guildID) := ⟨⟨rfl, rfl, rfl⟩, rfl⟩

lemma sameGuilds_removeReqs (cache : CacheGuild) (pid : ℤ) :
    SameGuilds cache (cache.removeReqs pid) := ⟨⟨rfl, rfl, rfl⟩, rfl⟩

lemma sameGuilds_setGuildID (cache : CacheGuild) (pid guildID : ℤ) :
    SameGuilds cache (cache.setGuildID pid guildID) := ⟨⟨rfl, rfl, rfl⟩, rfl⟩

lemma sameGuilds_inDissolutionGuild (cache : CacheGuild) (guildIDs : List ℤ) :
    SameGuilds cache { cache with inDissolutionGuild := guildIDs } := ⟨⟨rfl, rfl, rfl⟩, rfl⟩

lemma sameGuilds_leaveGuild (cache : CacheGuild) (pid : ℤ) :
    SameGuilds cache (cache.leaveGuild pid) := by
  unfold CacheGuild.leaveGuild
  split
  · exact sameGuilds_setGuildID cache pid (-1)
  · exact .refl cache

lemma sameGuilds_setNextEnterGuildTime (cache : CacheGuild) (pid time : ℤ) :
    SameGuilds cache (cache.setNextEnterGuildTime pid time) := by
  unfold CacheGuild.setNextEnterGuildTime
  split
  · exact .refl cache
  · exact ⟨⟨rfl, rfl, rfl⟩, rfl⟩

lemma isOpen_of_getGuildByID {guildID : ℤ} {guildVO : GuildVO}
    (h : cache.getGuildByID guildID = some guildVO) :
    isOpen cfgs cache guildID = openGuild cfgs guildVO := by
  rw [isOpen, h]
  rfl

lemma isOpen_of_eq (hlive : cache'.allGuildByID = cache.allGuildByID)
    (hguilds : cache'.guilds = cache.guilds) (guildID : ℤ) :
    isOpen cfgs cache' guildID = isOpen cfgs cache guildID := by
  rw [isOpen, CacheGuild.getGuildByID, hlive, hguilds]
  rfl

/-- A change of one guild opens and closes no other. -/
lemma isOpen_updateGuild (cache : CacheGuild) (guildID : ℤ) (f : GuildVO → GuildVO)
    (guildID' : ℤ) :
    isOpen cfgs (cache.updateGuild guildID f) guildID' =
      if guildID' = guildID then
        (cache.getGuildByID guildID).any fun guildVO => openGuild cfgs (f guildVO)
      else isOpen cfgs cache guildID' := by
  rw [isOpen, CacheGuild.getGuildByID_updateGuild]
  split
  · cases cache.getGuildByID guildID <;> rfl
  · rfl

/-- **A change of one guild**: the list stays right if and only if the guild does not open or
close. -/
lemma Listed.updateGuild_iff (h : Listed cfgs cache) {guildID : ℤ} {guildVO : GuildVO}
    (hguild : cache.getGuildByID guildID = some guildVO) (f : GuildVO → GuildVO) :
    Listed cfgs (cache.updateGuild guildID f) ↔
      openGuild cfgs (f guildVO) = openGuild cfgs guildVO := by
  rw [(sameBook_updateGuild cache guildID f).listed_iff h]
  constructor
  · intro hall
    have hopen := hall guildID
    rw [isOpen_updateGuild, if_pos rfl, hguild, isOpen_of_getGuildByID hguild] at hopen
    exact hopen
  · intro hopen guildID'
    rw [isOpen_updateGuild]
    split
    · next heq =>
      rw [heq, isOpen_of_getGuildByID hguild, hguild]
      exact hopen
    · rfl

/-- A change of a guild that is not found. -/
lemma Listed.updateGuild_of_none (h : Listed cfgs cache) {guildID : ℤ}
    (hguild : cache.getGuildByID guildID = none) (f : GuildVO → GuildVO) :
    Listed cfgs (cache.updateGuild guildID f) := by
  rw [(sameBook_updateGuild cache guildID f).listed_iff h]
  intro guildID'
  rw [isOpen_updateGuild]
  split
  · next heq =>
    rw [heq, isOpen, hguild]
    rfl
  · rfl

/-- A change that neither opens nor closes the guild. -/
lemma Listed.updateGuild (h : Listed cfgs cache) {guildID : ℤ} {f : GuildVO → GuildVO}
    (hf : ∀ guildVO, cache.getGuildByID guildID = some guildVO →
      openGuild cfgs (f guildVO) = openGuild cfgs guildVO) :
    Listed cfgs (cache.updateGuild guildID f) := by
  cases hguild : cache.getGuildByID guildID with
  | none => exact h.updateGuild_of_none hguild f
  | some guildVO => exact (h.updateGuild_iff hguild f).mpr (hf guildVO hguild)

/-- The list is right in both of two states with the same guilds, or in none. -/
lemma SameGuilds.listed_congr (hsame : SameGuilds cache cache') :
    Listed cfgs cache' ↔ Listed cfgs cache := by
  rw [Listed, Listed, hsame.list]
  simp only [isOpen_of_eq hsame.live hsame.guilds]

/-- A change that concerns no guild. -/
lemma Listed.of_same (h : Listed cfgs cache) (hsame : SameGuilds cache cache') :
    Listed cfgs cache' :=
  hsame.listed_congr.mpr h

/-- `refNoNeedReqGuilds` of a guild that is found. -/
lemma finalState_refNoNeedReqGuilds {guildID : ℤ} {guildVO : GuildVO}
    (hguild : cache.getGuildByID guildID = some guildVO) :
    (refNoNeedReqGuilds cfgs guildID).finalState cache =
      if guildVO.enterNeedReq then cache
      else
        match isMaxSize cfgs guildVO with
        | .error _ => cache
        | .ok full => { cache with noReqGuild := refresh guildID (!full) cache.noReqGuild } := by
  have hget : getGuild guildID cache = .ok guildVO :=
    (getGuild_eq_ok cache).mpr (lookup_of_getGuildByID hguild)
  rw [refNoNeedReqGuilds, EStateM.finalState_ofExcept_bind, hget]
  dsimp only
  split
  · rfl
  · rw [EStateM.finalState_ofExcept_bind]
    cases isMaxSize cfgs guildVO with
    | error e => rfl
    | ok full =>
      dsimp only
      rw [EStateM.finalState_modify, refresh]
      cases full with
      | true => rfl
      | false =>
        by_cases hmem : guildID ∈ cache.noReqGuild
        · simp [hmem]
        · simp [hmem]

/-- **`refNoNeedReqGuilds`** makes the list right, if it is right but for the guild, and if the
guild is not listed in vain. -/
lemma listed_refNoNeedReqGuilds {guildID : ℤ} {guildVO : GuildVO}
    (hguild : cache.getGuildByID guildID = some guildVO) (hnodup : cache.noReqGuild.Nodup)
    (hothers : ∀ guildID', guildID' ≠ guildID →
      (guildID' ∈ cache.noReqGuild ↔ isOpen cfgs cache guildID' = true))
    (hself : guildID ∈ cache.noReqGuild →
      guildVO.enterNeedReq = false ∧ ∃ full, isMaxSize cfgs guildVO = .ok full) :
    Listed cfgs ((refNoNeedReqGuilds cfgs guildID).finalState cache) := by
  have hopen : isOpen cfgs cache guildID = openGuild cfgs guildVO := isOpen_of_getGuildByID hguild
  have hunlisted : openGuild cfgs guildVO = false → guildID ∉ cache.noReqGuild →
      Listed cfgs cache := by
    intro hclosed hmem
    refine ⟨hnodup, fun guildID' => ?_⟩
    by_cases heq : guildID' = guildID
    · rw [heq, hopen, hclosed]
      exact iff_of_false hmem Bool.false_ne_true
    · exact hothers guildID' heq
  rw [finalState_refNoNeedReqGuilds hguild]
  cases hreq : guildVO.enterNeedReq with
  | true =>
    rw [if_pos rfl]
    apply hunlisted
    · rw [openGuild, hreq]
      rfl
    · intro hmem
      cases hreq.symm.trans (hself hmem).1
  | false =>
    rw [if_neg Bool.false_ne_true]
    cases hfull : isMaxSize cfgs guildVO with
    | error e =>
      apply hunlisted
      · rw [openGuild, hfull]
        exact Bool.and_eq_false_iff.mpr (Or.inr (decide_eq_false (by simp)))
      · intro hmem
        obtain ⟨full, hok⟩ := (hself hmem).2
        cases hfull.symm.trans hok
    | ok full =>
      apply Lists.refresh hnodup hothers
      rw [hopen, openGuild, hreq, hfull]
      cases full <;> simp

/-- `refNoNeedReqGuilds` gives no ids out. -/
lemma numbered_refNoNeedReqGuilds (h : Numbered cache) {guildID : ℤ} {guildVO : GuildVO}
    (hguild : cache.getGuildByID guildID = some guildVO) :
    Numbered ((refNoNeedReqGuilds cfgs guildID).finalState cache) := by
  rw [finalState_refNoNeedReqGuilds hguild]
  split
  · exact h
  · split
    · exact h
    · exact ⟨h.nonneg, h.live, h.nodup⟩

/-- **Any guild**: what the list has is open, and any element of it may be drawn. -/
theorem Listed.quickJoins (h : Listed cfgs cache) : QuickJoins cfgs cache := by
  constructor
  · intro env found guildVO hfind
    rw [findGuild, if_neg (lt_irrefl 0)] at hfind
    cases hdrawn : cache.noReqGuild[env.random % cache.noReqGuild.length]? with
    | none =>
      rw [hdrawn] at hfind
      cases hfind
    | some guildID =>
      rw [hdrawn] at hfind
      obtain ⟨guildVO', -, hpure⟩ := Except.bind_eq_ok.mp hfind
      cases hpure
      exact (h.mem_iff found).mp (List.mem_of_getElem? hdrawn)
  · intro env guildID hopen
    obtain ⟨random, hlt, hdrawn⟩ := List.mem_iff_getElem.mp ((h.mem_iff guildID).mpr hopen)
    obtain ⟨guildVO, hguild, -⟩ := (Option.any_eq_true _ _).mp hopen
    refine ⟨random, guildVO, ?_⟩
    rw [findGuild, if_neg (lt_irrefl 0)]
    dsimp only
    rw [Nat.mod_eq_of_lt hlt, List.getElem?_eq_getElem hlt, hdrawn]
    show (getGuild guildID cache >>= _) = _
    rw [(getGuild_eq_ok cache).mpr (lookup_of_getGuildByID hguild)]
    rfl

end Changes

/-! ## Members -/

section Members

variable {guildVO guildVO' : GuildVO}

/-- Whether a guild is full depends on its level and on the number of members. -/
lemma isMaxSize_congr (hlevel : guildVO'.level = guildVO.level)
    (hsize : guildVO'.memberRights.keys.length = guildVO.memberRights.keys.length) :
    isMaxSize cfgs guildVO' = isMaxSize cfgs guildVO := by
  rw [isMaxSize, isMaxSize, hlevel, hsize]

lemma openGuild_congr (hreq : guildVO'.enterNeedReq = guildVO.enterNeedReq)
    (hlevel : guildVO'.level = guildVO.level)
    (hsize : guildVO'.memberRights.keys.length = guildVO.memberRights.keys.length) :
    openGuild cfgs guildVO' = openGuild cfgs guildVO := by
  rw [openGuild, openGuild, hreq, isMaxSize_congr hlevel hsize]

lemma isMaxSize_eq_ok {full : Bool} :
    isMaxSize cfgs guildVO = .ok full ↔
      ∃ maxMemberSize, dataAt cfgs.maxMemberSize guildVO.level.toInt = .ok maxMemberSize ∧
        decide (maxMemberSize ≤ guildVO.memberRights.keys.length) = full := by
  rw [isMaxSize, Except.bind_eq_ok]
  refine exists_congr fun maxMemberSize => and_congr_right fun _ => ?_
  constructor
  · exact Except.ok.inj
  · exact congrArg Except.ok

/-- The table has an entry for a level, or it has none. -/
lemma isMaxSize_of_level {full : Bool} (h : isMaxSize cfgs guildVO = .ok full)
    (hlevel : guildVO'.level = guildVO.level) : ∃ full', isMaxSize cfgs guildVO' = .ok full' := by
  obtain ⟨maxMemberSize, hdata, -⟩ := isMaxSize_eq_ok.mp h
  rw [← hlevel] at hdata
  exact ⟨_, isMaxSize_eq_ok.mpr ⟨maxMemberSize, hdata, rfl⟩⟩

lemma openGuild_eq_true :
    openGuild cfgs guildVO = true ↔
      guildVO.enterNeedReq = false ∧ isMaxSize cfgs guildVO = .ok false := by
  rw [openGuild, Bool.and_eq_true, Bool.not_eq_true', decide_eq_true_eq]

/-- A guild that is open with more members is open with fewer. -/
lemma openGuild_of_le (hreq : guildVO'.enterNeedReq = guildVO.enterNeedReq)
    (hlevel : guildVO'.level = guildVO.level)
    (hsize : guildVO.memberRights.keys.length ≤ guildVO'.memberRights.keys.length)
    (h : openGuild cfgs guildVO' = true) : openGuild cfgs guildVO = true := by
  obtain ⟨hneed, hfull⟩ := openGuild_eq_true.mp h
  obtain ⟨maxMemberSize, hdata, hlt⟩ := isMaxSize_eq_ok.mp hfull
  rw [decide_eq_false_iff_not] at hlt
  refine openGuild_eq_true.mpr ⟨hreq ▸ hneed, isMaxSize_eq_ok.mpr ⟨maxMemberSize, ?_, ?_⟩⟩
  · rw [← hlevel]
    exact hdata
  · rw [decide_eq_false_iff_not]
    omega

/-- A new member counts, and one who gets another level does not. -/
lemma length_insert (rights : AList fun _ : ℤ => ℤ) (pid right : ℤ) :
    (rights.insert pid right).keys.length =
      if pid ∈ rights then rights.keys.length else rights.keys.length + 1 := by
  rw [AList.keys_insert, List.length_cons]
  split
  · next hmem =>
    have hkey := AList.mem_keys.mp hmem
    have hpos := List.length_pos_of_mem hkey
    rw [List.length_erase_of_mem hkey]
    omega
  · next hmem => rw [List.erase_of_not_mem fun hkey => hmem (AList.mem_keys.mpr hkey)]

lemma length_insert_of_mem {rights : AList fun _ : ℤ => ℤ} {pid : ℤ} (h : pid ∈ rights)
    (right : ℤ) : (rights.insert pid right).keys.length = rights.keys.length := by
  rw [length_insert, if_pos h]

lemma length_le_insert (rights : AList fun _ : ℤ => ℤ) (pid right : ℤ) :
    rights.keys.length ≤ (rights.insert pid right).keys.length := by
  rw [length_insert]
  split <;> omega

/-- A guild that a player leaves may open, but does not close. -/
lemma openGuild_erase (pid : ℤ) :
    openGuild cfgs { guildVO with memberRights := guildVO.memberRights.erase pid } =
        openGuild cfgs guildVO ↔ opens cfgs guildVO pid = false := by
  have hle : (guildVO.memberRights.erase pid).keys.length ≤ guildVO.memberRights.keys.length := by
    rw [AList.keys_erase]
    exact List.length_erase_le
  have hless : openGuild cfgs guildVO = true →
      openGuild cfgs { guildVO with memberRights := guildVO.memberRights.erase pid } = true :=
    openGuild_of_le rfl rfl hle
  rw [opens]
  cases hopen : openGuild cfgs guildVO with
  | true =>
    exact iff_of_true (hless hopen) rfl
  | false => simp

/-- The level of a member does not matter. -/
lemma openGuild_insert (pid right : ℤ) :
    openGuild cfgs { guildVO with memberRights := guildVO.memberRights.insert pid right } =
      openGuild cfgs
        { guildVO with
          memberRights := guildVO.memberRights.insert pid RightLevel.Level3.getId } := by
  refine openGuild_congr rfl rfl ?_
  show (guildVO.memberRights.insert pid right).keys.length = _
  rw [AList.keys_insert, AList.keys_insert]

/-- A member who joins does not close the guild if and only if it does not fill the guild. -/
lemma openGuild_insert_iff (pid right : ℤ) :
    openGuild cfgs { guildVO with memberRights := guildVO.memberRights.insert pid right } =
      openGuild cfgs guildVO ↔ fills cfgs guildVO pid = false := by
  have hless : openGuild cfgs
      { guildVO with memberRights := guildVO.memberRights.insert pid RightLevel.Level3.getId } =
        true → openGuild cfgs guildVO = true :=
    openGuild_of_le rfl rfl (length_le_insert _ pid _)
  rw [openGuild_insert, fills]
  revert hless
  cases openGuild cfgs guildVO <;> cases openGuild cfgs
    { guildVO with memberRights := guildVO.memberRights.insert pid RightLevel.Level3.getId } <;>
    simp

end Members

/-! ## Joining -/

section Joining

variable (cfgs) in
/-- After a call ids are in order, and the list is right if and only if `kept` holds. -/
def RightIff (cache' : CacheGuild) (kept : Prop) : Prop :=
  Numbered cache' ∧ (Listed cfgs cache' ↔ kept)

lemma Listed.rightIff_of_same (h : Listed cfgs cache) (hnumbered : Numbered cache)
    {cache' : CacheGuild} (hsame : SameGuilds cache cache') {kept : Prop} (hkept : kept) :
    RightIff cfgs cache' kept :=
  ⟨hsame.numbered hnumbered, iff_of_true (h.of_same hsame) hkept⟩

/-- The guilds after a player joined one. -/
def joined (cache : CacheGuild) (pid guildID : ℤ) (rightLevel : RightLevel) : CacheGuild :=
  ((cache.setGuildID pid guildID).removeReqs pid).chgRight guildID pid rightLevel

variable {pid guildID : ℤ} {guildVO : GuildVO}

lemma sameBook_joined (cache : CacheGuild) (pid guildID : ℤ) (rightLevel : RightLevel) :
    SameBook cache (joined cache pid guildID rightLevel) := by
  have hrecord := (sameGuilds_setGuildID cache pid guildID).trans (sameGuilds_removeReqs _ pid)
  exact hrecord.toSameBook.trans (sameBook_updateGuild _ guildID _)

lemma getGuildByID_joined (hguild : cache.getGuildByID guildID = some guildVO)
    (rightLevel : RightLevel) :
    (joined cache pid guildID rightLevel).getGuildByID guildID =
      some { guildVO with
        memberRights := guildVO.memberRights.insert pid rightLevel.getId } := by
  rw [joined, CacheGuild.chgRight, CacheGuild.getGuildByID_updateGuild, if_pos rfl]
  show (cache.getGuildByID guildID).map _ = _
  rw [hguild]
  rfl

lemma isOpen_joined_of_ne {guildID' : ℤ} (hne : guildID' ≠ guildID) (rightLevel : RightLevel) :
    isOpen cfgs (joined cache pid guildID rightLevel) guildID' = isOpen cfgs cache guildID' := by
  rw [joined, CacheGuild.chgRight, isOpen_updateGuild, if_neg hne]
  exact isOpen_of_eq rfl rfl guildID'

/-- **A player joins.** The list stays right if and only if the guild is not filled. -/
lemma Listed.joined_iff (h : Listed cfgs cache)
    (hguild : cache.getGuildByID guildID = some guildVO) (rightLevel : RightLevel) :
    Listed cfgs (joined cache pid guildID rightLevel) ↔ fills cfgs guildVO pid = false := by
  have hbefore : Listed cfgs ((cache.setGuildID pid guildID).removeReqs pid) :=
    h.of_same
      ((sameGuilds_setGuildID cache pid guildID).trans (sameGuilds_removeReqs _ pid))
  rw [joined, CacheGuild.chgRight, hbefore.updateGuild_iff hguild, openGuild_insert_iff]

/-- A guild that is not found may get members. -/
lemma Listed.joined_of_none (h : Listed cfgs cache) (hguild : cache.getGuildByID guildID = none)
    (rightLevel : RightLevel) : Listed cfgs (joined cache pid guildID rightLevel) := by
  have hbefore : Listed cfgs ((cache.setGuildID pid guildID).removeReqs pid) := h.of_same
      ((sameGuilds_setGuildID cache pid guildID).trans (sameGuilds_removeReqs _ pid))
  exact hbefore.updateGuild_of_none hguild _

/-- A run of `directJoinGuild` of a player who is in no guild. -/
lemma run_directJoinGuild (hpid : cache.inGuild pid = false) {rightLevel : RightLevel}
    (hguild : (joined cache pid guildID rightLevel).guilds.lookup guildID = some guildVO) :
    (directJoinGuild cfgs env pid guildID rightLevel).run cache =
      if env.loaded pid then
        match isMaxSize cfgs guildVO with
        | .ok _ => .ok () (joined cache pid guildID rightLevel)
        | .error e => .error e (joined cache pid guildID rightLevel)
      else .error .nullPointer (joined cache pid guildID rightLevel) := by
  have hget : getGuild guildID (joined cache pid guildID rightLevel) = .ok guildVO :=
    (getGuild_eq_ok _).mpr hguild
  have hrun : (directJoinGuild cfgs env pid guildID rightLevel).run cache =
      (checkLoaded env pid >>= fun _ => EStateM.ofExcept (getGuild guildID) >>= fun guildVO =>
        EStateM.ofExcept (fun _ => isMaxSize cfgs guildVO) >>= fun _ => pure ()).run
          (joined cache pid guildID rightLevel) := by
    rw [directJoinGuild]
    show EStateM.run (if cache.inGuild pid = true then _ else _) cache = _
    rw [hpid, if_neg Bool.false_ne_true]
    rfl
  rw [hrun, checkLoaded, EStateM.run_bind, EStateM.run_ofExcept]
  cases env.loaded pid with
  | false => rfl
  | true =>
    rw [if_pos rfl, if_pos rfl]
    dsimp only
    rw [EStateM.run_bind, EStateM.run_ofExcept, hget]
    dsimp only
    rw [EStateM.run_bind, EStateM.run_ofExcept]
    cases isMaxSize cfgs guildVO <;> rfl

/-- Who joins a guild is in no other, and the guild is not full. -/
lemma of_checkJoinGuild {pvo found : ℤ}
    (h : checkJoinGuild cfgs env pvo guildID cache = .ok (found, guildVO)) :
    findGuild env guildID cache = .ok (found, guildVO) ∧ cache.inGuild pvo = false ∧
      isMaxSize cfgs guildVO = .ok false := by
  obtain ⟨⟨found', guildVO'⟩, hfind, hrest⟩ := Except.bind_eq_ok.mp h
  obtain ⟨_, hmember, hrest⟩ := Except.bind_eq_ok.mp hrest
  obtain ⟨_, -, hrest⟩ := Except.bind_eq_ok.mp hrest
  obtain ⟨full, hfull, hrest⟩ := Except.bind_eq_ok.mp hrest
  obtain ⟨_, hroom, hpure⟩ := Except.bind_eq_ok.mp hrest
  cases hpure
  refine ⟨hfind, ?_, ?_⟩
  · rw [CacheGuild.inGuild]
    cases hvo : cache.getGuildMemberVO pvo with
    | none => rfl
    | some memberVO =>
      rw [hvo] at hmember
      obtain ⟨_, halready, -⟩ := Except.bind_eq_ok.mp hmember
      rw [ICode.throwIfTrue_eq_ok, Bool.not_eq_true] at halready
      exact halready
  · rw [ICode.throwIfTrue_eq_ok, Bool.not_eq_true] at hroom
    rw [← hroom]
    exact hfull

/-- The guild that a player joins is found, if the list is right. -/
lemma getGuildByID_of_findGuild (h : Listed cfgs cache) {found : ℤ}
    (hfind : findGuild env guildID cache = .ok (found, guildVO)) :
    cache.getGuildByID found = some guildVO := by
  have hlookup := lookup_of_findGuild env cache hfind
  have hlive : found ∈ cache.allGuildByID := by
    rw [findGuild] at hfind
    split at hfind
    · cases hguild : cache.getGuildByID guildID with
      | none =>
        rw [hguild] at hfind
        cases hfind
      | some guildVO' =>
        rw [hguild] at hfind
        cases hfind
        exact mem_of_getGuildByID hguild
    · split at hfind
      · cases hfind
      · next hdrawn =>
        obtain ⟨guildVO', -, hpure⟩ := Except.bind_eq_ok.mp hfind
        cases hpure
        have hopen := (h.mem_iff found).mp (List.mem_of_getElem? hdrawn)
        obtain ⟨guildVO', hguild, -⟩ := (Option.any_eq_true _ _).mp hopen
        exact mem_of_getGuildByID hguild
  rw [CacheGuild.getGuildByID, if_pos hlive, hlookup]

variable (hnumbered : Numbered cache) (h : Listed cfgs cache)

include hnumbered h

lemma rightIff_joinGuild (pvo guildID : ℤ) :
    RightIff cfgs ((joinGuild cfgs env pvo guildID).finalState cache)
      (KeepsList cfgs cache (env, .joinGuild pvo guildID)) := by
  unfold KeepsList
  dsimp only
  rw [joinGuild, EStateM.finalState_ofExcept_bind]
  cases hcheck : checkJoinGuild cfgs env pvo guildID cache with
  | error e => exact ⟨hnumbered, iff_of_true h trivial⟩
  | ok result =>
    obtain ⟨found, guildVO⟩ := result
    obtain ⟨hfind, hpid, hroom⟩ := of_checkJoinGuild env hcheck
    have hguild := getGuildByID_of_findGuild env h hfind
    dsimp only
    cases hreq : guildVO.enterNeedReq with
    | true =>
      have hclosed : openGuild cfgs guildVO = false := by
        rw [openGuild, hreq]
        rfl
      have hfills : fills cfgs guildVO pvo = false := by
        rw [fills, hclosed]
        rfl
      rw [if_pos rfl, EStateM.finalState_ofExcept_bind]
      split
      · exact h.rightIff_of_same hnumbered (sameGuilds_cacheReq cache pvo guildID _)
          (Or.inr hfills)
      · exact h.rightIff_of_same hnumbered (.refl cache) (Or.inr hfills)
    | false =>
      have hbook := sameBook_joined cache pvo found .Level3
      have hjoined : (joined cache pvo found .Level3).getGuildByID found = some { guildVO with
          memberRights := guildVO.memberRights.insert pvo RightLevel.Level3.getId } :=
        getGuildByID_joined hguild .Level3
      obtain ⟨full, hfull⟩ : ∃ full, isMaxSize cfgs { guildVO with
          memberRights := guildVO.memberRights.insert pvo RightLevel.Level3.getId } = .ok full :=
        isMaxSize_of_level hroom rfl
      rw [if_neg Bool.false_ne_true, EStateM.finalState_bind,
        run_directJoinGuild env hpid (lookup_of_getGuildByID hjoined), hfull]
      cases env.loaded pvo with
      | false =>
        rw [if_neg Bool.false_ne_true]
        refine ⟨hbook.numbered hnumbered, ?_⟩
        rw [h.joined_iff hguild]
        simp
      | true =>
        rw [if_pos rfl]
        refine ⟨numbered_refNoNeedReqGuilds (hbook.numbered hnumbered) hjoined,
          iff_of_true ?_ (Or.inl rfl)⟩
        refine listed_refNoNeedReqGuilds hjoined ?_ ?_ fun _ => ⟨hreq, full, hfull⟩
        · rw [hbook.list]
          exact h.nodup
        · intro guildID' hne
          rw [hbook.list, isOpen_joined_of_ne hne]
          exact h.mem_iff guildID'

omit h in
/-- A record without a guild names none that is found. -/
lemma inGuild_of_notInGuild (hpid : notInGuild cache pid = true) : cache.inGuild pid = false := by
  rw [notInGuild] at hpid
  rw [CacheGuild.inGuild]
  cases hmember : cache.getGuildMemberVO pid with
  | none => rfl
  | some memberVO =>
    rw [hmember] at hpid
    show (cache.getGuildByID memberVO.guildID).isSome = false
    rw [CacheGuild.getGuildByID, if_neg]
    · rfl
    · intro hlive
      have hpos := (hnumbered.live _ hlive).1
      have hle := of_decide_eq_true hpid
      omega

/-- A player who is in no guild joins one, and the list is not changed. -/
lemma rightIff_directJoinGuild (hpid : notInGuild cache pid = true)
    (hguild : cache.getGuildByID guildID = some guildVO) (rightLevel : RightLevel) :
    RightIff cfgs ((directJoinGuild cfgs env pid guildID rightLevel).finalState cache)
      (fills cfgs guildVO pid = false) := by
  rw [finalState_directJoinGuild, inGuild_of_notInGuild hnumbered hpid, if_neg Bool.false_ne_true]
  exact ⟨(sameBook_joined cache pid guildID rightLevel).numbered hnumbered,
    h.joined_iff hguild rightLevel⟩

lemma rightIff_acceptPlayerJoinGuild (pvo pid : ℤ) (accept : Bool) :
    RightIff cfgs ((acceptPlayerJoinGuild cfgs env pvo pid accept).finalState cache)
      (KeepsList cfgs cache (env, .acceptPlayerJoinGuild pvo pid accept)) := by
  unfold KeepsList
  dsimp only
  rw [acceptPlayerJoinGuild, EStateM.finalState_ofExcept_bind]
  cases hcheck : checkAccept pvo pid cache with
  | error e => exact ⟨hnumbered, iff_of_true h trivial⟩
  | ok result =>
    obtain ⟨guildID, guildVO, status⟩ := result
    have hguild := of_checkAccept hcheck
    dsimp only
    cases accept with
    | false =>
      rw [if_neg Bool.false_ne_true, checkLoaded, EStateM.finalState_bind_ofExcept,
        EStateM.finalState_modify]
      split
      · apply h.rightIff_of_same hnumbered (sameGuilds_removeReq cache pid guildID)
        simp
      · apply h.rightIff_of_same hnumbered (.refl cache)
        simp
    | true =>
      rw [if_pos rfl, EStateM.finalState_ofExcept_bind]
      split
      · rw [EStateM.finalState_get_bind]
        split
        · next hnew =>
          obtain ⟨hpid, hstatus⟩ := hnew
          have hsame := sameGuilds_cacheReq cache pid guildID .STATUS_ACCEPT
          have hjoin : RightIff cfgs ((directJoinGuild cfgs env pid guildID .Level3).finalState
              (cache.cacheReq pid guildID .STATUS_ACCEPT)) (fills cfgs guildVO pid = false) :=
            rightIff_directJoinGuild env (hsame.numbered hnumbered) (h.of_same hsame) hpid hguild
              .Level3
          rw [EStateM.finalState_modify_bind, checkLoaded, EStateM.finalState_bind_ofExcept]
          refine ⟨hjoin.1, hjoin.2.trans ?_⟩
          constructor
          · exact fun hfills _ _ _ => hfills
          · exact fun hfills => hfills rfl hpid hstatus
        · next hold =>
          rw [checkLoaded, EStateM.finalState_bind_ofExcept, EStateM.finalState_modify]
          apply h.rightIff_of_same hnumbered (sameGuilds_removeReq cache pid guildID)
          exact fun _ hpid hstatus => absurd ⟨hpid, hstatus⟩ hold
      · next e hfull =>
        refine ⟨hnumbered, iff_of_true h fun _ _ _ => ?_⟩
        rw [fills, Bool.and_eq_false_iff]
        left
        rw [openGuild, Bool.and_eq_false_iff]
        right
        apply decide_eq_false
        intro hroom
        rw [hroom] at hfull
        cases hfull

omit hnumbered h in
/-- A request to a guild that was dissolved is not looked at. -/
lemma accepted_cacheReq (hguild : cache.getGuildByID guildID = some guildVO)
    (hended : guildVO.status = .DISSOLUTION_END) (status : ReqStatus) (guildIDs : List ℤ) :
    accepted cfgs (cache.cacheReq pid guildID status) pid guildIDs =
      accepted cfgs cache pid guildIDs := by
  induction guildIDs with
  | nil => rfl
  | cons guildID' guildIDs ih =>
    rw [accepted, accepted, ih]
    show (match cache.getGuildByID guildID' with
      | none => none
      | some guildVO => _) = _
    cases hguild' : cache.getGuildByID guildID' with
    | none => rfl
    | some guildVO' =>
      dsimp only
      cases isMaxSize cfgs guildVO' with
      | error e => rfl
      | ok full =>
        dsimp only
        by_cases heq : guildID' = guildID
        · obtain rfl := Option.some.inj (hguild.symm.trans (heq ▸ hguild'))
          rw [if_neg fun hall => hall.2.2 hended, if_neg fun hall => hall.2.2 hended]
        · have hreq : (cache.cacheReq pid guildID status).getReq pid guildID' =
              cache.getReq pid guildID' := by
            show (cache.allReqsCache.insert (pid, guildID) status).lookup (pid, guildID') = _
            rw [AList.lookup_insert_ne fun hkey => heq (Prod.mk.inj hkey).2]
            rfl
          rw [hreq]

omit hnumbered h in
/-- **A player who enters the game** joins the guild that accepted the player. -/
lemma rightIff_joinAccepted (guildIDs : List ℤ) (hnumbered : Numbered cache)
    (h : Listed cfgs cache) (hpid : notInGuild cache pid = true) :
    RightIff cfgs ((joinAccepted cfgs env pid guildIDs).finalState cache)
      (∀ guild ∈ accepted cfgs cache pid guildIDs, fills cfgs guild.2 pid = false) := by
  induction guildIDs generalizing cache with
  | nil =>
    refine h.rightIff_of_same hnumbered (.refl cache) fun guild hmem => ?_
    cases hmem
  | cons guildID guildIDs ih =>
    rw [joinAccepted, EStateM.finalState_get_bind, accepted]
    cases hguild : cache.getGuildByID guildID with
    | none =>
      refine h.rightIff_of_same hnumbered (.refl cache) fun guild hmem => ?_
      cases hmem
    | some guildVO =>
      dsimp only
      rw [EStateM.finalState_ofExcept_bind]
      cases isMaxSize cfgs guildVO with
      | error e =>
        refine h.rightIff_of_same hnumbered (.refl cache) fun guild hmem => ?_
        cases hmem
      | ok full =>
        dsimp only
        cases full with
        | true =>
          rw [if_pos rfl, if_neg fun hall => Bool.noConfusion hall.1]
          exact ih hnumbered h hpid
        | false =>
          rw [if_neg Bool.false_ne_true]
          by_cases hreq : cache.getReq pid guildID = some .STATUS_ACCEPT
          · have hsame := sameGuilds_cacheReq cache pid guildID .STATUS_DONE
            rw [if_pos hreq, EStateM.finalState_modify_bind]
            by_cases hended : guildVO.status = .DISSOLUTION_END
            · rw [if_neg (not_not_intro hended), if_neg fun hall => hall.2.2 hended,
                ← accepted_cacheReq hguild hended .STATUS_DONE guildIDs]
              exact ih (hsame.numbered hnumbered) (h.of_same hsame) hpid
            · rw [if_pos hended, if_pos ⟨rfl, hreq, hended⟩]
              have hjoin : RightIff cfgs ((directJoinGuild cfgs env pid guildID .Level3).finalState
                  (cache.cacheReq pid guildID .STATUS_DONE)) (fills cfgs guildVO pid = false) :=
                rightIff_directJoinGuild env (hsame.numbered hnumbered) (h.of_same hsame) hpid
                  hguild .Level3
              refine ⟨hjoin.1, hjoin.2.trans ?_⟩
              constructor
              · rintro hfills guild hmem
                obtain rfl := Option.some.inj hmem
                exact hfills
              · exact fun hfills => hfills (guildID, guildVO) rfl
          · rw [if_neg hreq, if_neg fun hall => hreq hall.2.1]
            exact ih hnumbered h hpid

lemma rightIff_buildAsLoad (pid : ℤ) :
    RightIff cfgs ((buildAsLoad cfgs env pid).finalState cache)
      (KeepsList cfgs cache (env, .buildAsLoad pid)) := by
  unfold KeepsList
  dsimp only
  rw [buildAsLoad, EStateM.finalState_get_bind]
  split
  · next hpid =>
    obtain ⟨hnumbered', hiff⟩ := rightIff_joinAccepted env
      (env.order ((cache.allReqsCache.keys.filter fun req => req.1 = pid).map Prod.snd))
      hnumbered h hpid
    exact ⟨hnumbered', hiff.trans ⟨fun hall _ => hall, fun hall => hall hpid⟩⟩
  · next hpid =>
    have hnot : ∀ kept : Prop, notInGuild cache pid = true → kept :=
      fun _ hyes => absurd hyes hpid
    have hreqs := sameGuilds_removeReqs cache pid
    rw [EStateM.finalState_modify_bind, EStateM.finalState_modify]
    split
    · exact h.rightIff_of_same hnumbered hreqs (hnot _)
    · split
      · exact h.rightIff_of_same hnumbered (hreqs.trans (sameGuilds_leaveGuild _ pid)) (hnot _)
      · exact h.rightIff_of_same hnumbered hreqs (hnot _)

end Joining

/-! ## A new guild -/

section Creating

variable {guildVO : GuildVO}

/-- A new guild is not found yet. -/
lemma getGuildByID_newGuild (hnumbered : Numbered cache) (guildVO : GuildVO) (guildID : ℤ) :
    (cache.newGuild guildVO).getGuildByID guildID = cache.getGuildByID guildID := by
  show (if guildID ∈ cache.allGuildByID then
      (cache.guilds.insert (cache.guildDBID + 1) guildVO).lookup guildID else none) =
    if guildID ∈ cache.allGuildByID then cache.guilds.lookup guildID else none
  split
  · next hlive =>
    have hle := (hnumbered.live guildID hlive).2
    exact AList.lookup_insert_ne (by omega)
  · rfl

lemma Numbered.newGuild (hnumbered : Numbered cache) (guildVO : GuildVO) :
    Numbered (cache.newGuild guildVO) := by
  obtain ⟨hnonneg, hlive, hnodup⟩ := hnumbered
  refine ⟨?_, fun guildID hmem => ?_, hnodup⟩
  · show 0 ≤ cache.guildDBID + 1
    omega
  · obtain ⟨hpos, hle⟩ := hlive guildID hmem
    exact ⟨hpos, hle.trans (Int.le_add_one le_rfl)⟩

/-- A new guild gets an id of its own. -/
lemma Numbered.addCache (hnumbered : Numbered cache) (guildVO : GuildVO) (pid : ℤ)
    (rightLevel : RightLevel) :
    Numbered ((joined (cache.newGuild guildVO) pid (cache.guildDBID + 1) rightLevel).addCache
      (cache.guildDBID + 1)) := by
  have hbook := sameBook_joined (cache.newGuild guildVO) pid (cache.guildDBID + 1) rightLevel
  have hcounter : (joined (cache.newGuild guildVO) pid (cache.guildDBID + 1)
      rightLevel).guildDBID = cache.guildDBID + 1 := hbook.counter
  obtain ⟨hnonneg, hlive, hnodup⟩ := hbook.numbered (hnumbered.newGuild guildVO)
  refine ⟨hnonneg, fun guildID hmem => ?_, hnodup.cons fun hmem => ?_⟩
  · rcases List.mem_cons.mp hmem with rfl | hmem
    · have hbefore := hnumbered.nonneg
      exact ⟨by omega, hcounter.ge⟩
    · exact hlive guildID hmem
  · rw [hbook.live] at hmem
    have hle := (hnumbered.live _ hmem).2
    omega

lemma isOpen_newGuild (hnumbered : Numbered cache) (guildVO : GuildVO) (guildID : ℤ) :
    isOpen cfgs (cache.newGuild guildVO) guildID = isOpen cfgs cache guildID := by
  rw [isOpen, getGuildByID_newGuild hnumbered]
  rfl

lemma isOpen_addCache_of_ne {guildID guildID' : ℤ} (hne : guildID' ≠ guildID) :
    isOpen cfgs (cache.addCache guildID) guildID' = isOpen cfgs cache guildID' := by
  have hlive : guildID' ∈ (cache.addCache guildID).allGuildByID ↔ guildID' ∈ cache.allGuildByID :=
    List.mem_cons.trans (or_iff_right hne)
  unfold isOpen CacheGuild.getGuildByID
  simp only [hlive]
  rfl

/-- The guild that a player joins, found or not. -/
lemma lookup_joined {pid guildID : ℤ} (hguild : cache.guilds.lookup guildID = some guildVO)
    (rightLevel : RightLevel) :
    (joined cache pid guildID rightLevel).guilds.lookup guildID =
      some { guildVO with
        memberRights := guildVO.memberRights.insert pid rightLevel.getId } := by
  have hsame : ((cache.setGuildID pid guildID).removeReqs pid).guilds.lookup guildID =
      some guildVO := hguild
  rw [joined, CacheGuild.chgRight, CacheGuild.updateGuild, hsame]
  exact AList.lookup_insert _

variable (hnumbered : Numbered cache) (h : Listed cfgs cache)

include hnumbered h

/-- Only guilds that were given an id are listed. -/
lemma not_mem_noReqGuild : cache.guildDBID + 1 ∉ cache.noReqGuild := by
  intro hmem
  obtain ⟨guildVO, hguild, -⟩ := (Option.any_eq_true _ _).mp ((h.mem_iff _).mp hmem)
  have hle := (hnumbered.live _ (mem_of_getGuildByID hguild)).2
  omega

/-- A new guild with its founder, not found yet. -/
lemma rightIff_joined_newGuild (guildVO : GuildVO) (pid : ℤ) (rightLevel : RightLevel) :
    RightIff cfgs (joined (cache.newGuild guildVO) pid (cache.guildDBID + 1) rightLevel) True := by
  have hnew : Listed cfgs (cache.newGuild guildVO) := by
    refine ⟨h.nodup, fun guildID => ?_⟩
    rw [isOpen_newGuild hnumbered]
    exact h.mem_iff guildID
  have hnone : (cache.newGuild guildVO).getGuildByID (cache.guildDBID + 1) = none := by
    rw [CacheGuild.getGuildByID, if_neg]
    intro hlive
    have hle := (hnumbered.live _ hlive).2
    omega
  exact ⟨(sameBook_joined _ pid _ rightLevel).numbered (hnumbered.newGuild guildVO),
    iff_of_true (hnew.joined_of_none hnone rightLevel) trivial⟩

/-- **A new guild is found**, and listed if it is open. -/
lemma rightIff_addCache (guildVO : GuildVO) (pid : ℤ) (rightLevel : RightLevel) :
    RightIff cfgs ((refNoNeedReqGuilds cfgs (cache.guildDBID + 1)).finalState
      ((joined (cache.newGuild guildVO) pid (cache.guildDBID + 1) rightLevel).addCache
        (cache.guildDBID + 1))) True := by
  have hbook := sameBook_joined (cache.newGuild guildVO) pid (cache.guildDBID + 1) rightLevel
  have hunlisted := not_mem_noReqGuild hnumbered h
  have hlist : ((joined (cache.newGuild guildVO) pid (cache.guildDBID + 1) rightLevel).addCache
      (cache.guildDBID + 1)).noReqGuild = cache.noReqGuild := hbook.list
  have hadded := hnumbered.addCache guildVO pid rightLevel
  have hfound : ((joined (cache.newGuild guildVO) pid (cache.guildDBID + 1) rightLevel).addCache
      (cache.guildDBID + 1)).getGuildByID (cache.guildDBID + 1) = some { guildVO with
        memberRights := guildVO.memberRights.insert pid rightLevel.getId } := by
    have hlookup : (cache.newGuild guildVO).guilds.lookup (cache.guildDBID + 1) = some guildVO :=
      AList.lookup_insert _
    exact (if_pos List.mem_cons_self).trans (lookup_joined hlookup rightLevel)
  refine ⟨numbered_refNoNeedReqGuilds hadded hfound, iff_of_true ?_ trivial⟩
  refine listed_refNoNeedReqGuilds hfound (hlist ▸ h.nodup) (fun guildID hne => ?_) fun hmem => ?_
  · have hopen : isOpen cfgs ((joined (cache.newGuild guildVO) pid (cache.guildDBID + 1)
        rightLevel).addCache (cache.guildDBID + 1)) guildID = isOpen cfgs cache guildID := by
      rw [isOpen_addCache_of_ne hne, isOpen_joined_of_ne hne, isOpen_newGuild hnumbered]
    rw [hlist, hopen]
    exact h.mem_iff guildID
  · rw [hlist] at hmem
    exact absurd hmem hunlisted

lemma rightIff_createGuild (pvo : ℤ) (needReq : Bool) (checked : Except Thrown Unit) :
    RightIff cfgs ((createGuild cfgs env pvo needReq checked).finalState cache) True := by
  have hunchanged : RightIff cfgs cache True := ⟨hnumbered, iff_of_true h trivial⟩
  rw [createGuild, EStateM.finalState_ofExcept_bind]
  cases hcheck : CodeGuild.alreadyInGuild.throwIfTrue (cache.inGuild pvo = true) with
  | error e => exact hunchanged
  | ok u =>
    rw [ICode.throwIfTrue_eq_ok, Bool.not_eq_true] at hcheck
    dsimp only
    rw [EStateM.finalState_ofExcept_bind]
    split
    · let guildVO : GuildVO := { level := 1, owner := pvo, enterNeedReq := needReq }
      have hpid : (cache.newGuild guildVO).inGuild pvo = false := by
        rw [← hcheck]
        unfold CacheGuild.inGuild
        simp only [getGuildByID_newGuild hnumbered]
        rfl
      have hnew : (cache.newGuild guildVO).guilds.lookup (cache.guildDBID + 1) = some guildVO :=
        AList.lookup_insert _
      have hfresh := rightIff_joined_newGuild hnumbered h guildVO pvo .Level0
      rw [EStateM.finalState_get_bind, EStateM.finalState_modify_bind, EStateM.finalState_bind,
        run_directJoinGuild env hpid (lookup_joined hnew .Level0)]
      cases env.loaded pvo with
      | false => exact hfresh
      | true =>
        rw [if_pos rfl]
        split
        · next hrun =>
          split at hrun
          · cases hrun
            rw [EStateM.finalState_modify_bind]
            exact rightIff_addCache hnumbered h guildVO pvo .Level0
          · cases hrun
        · next hrun =>
          split at hrun
          · cases hrun
          · cases hrun
            exact hfresh
    · exact hunchanged

end Creating

/-! ## Rights and leaving -/

section Rights

variable {guildID pid : ℤ} {guildVO : GuildVO}

/-- A member of the guild gets another level. -/
lemma Listed.chgRight (h : Listed cfgs cache) (rightLevel : RightLevel)
    (hmember : ∀ guildVO, cache.getGuildByID guildID = some guildVO → pid ∈ guildVO.memberRights) :
    Listed cfgs (cache.chgRight guildID pid rightLevel) := by
  apply h.updateGuild
  intro guildVO hguild
  exact openGuild_congr rfl rfl (length_insert_of_mem (hmember guildVO hguild) _)

/-- A change of one guild gives no ids out. -/
lemma Numbered.updateGuild (hnumbered : Numbered cache) (guildID : ℤ) (f : GuildVO → GuildVO) :
    Numbered (cache.updateGuild guildID f) :=
  (sameBook_updateGuild cache guildID f).numbered hnumbered

lemma getGuildByID_chgRight (hguild : cache.getGuildByID guildID = some guildVO)
    (rightLevel : RightLevel) :
    (cache.chgRight guildID pid rightLevel).getGuildByID guildID =
      some { guildVO with
        memberRights := guildVO.memberRights.insert pid rightLevel.getId } := by
  rw [CacheGuild.chgRight, CacheGuild.getGuildByID_updateGuild, if_pos rfl, hguild]
  rfl

variable (hnumbered : Numbered cache) (h : Listed cfgs cache)

include hnumbered h

lemma rightIff_modifyRight (pvo pid tgtRight : ℤ) :
    RightIff cfgs ((modifyRight cfgs pvo pid tgtRight).finalState cache) True := by
  rw [modifyRight, EStateM.finalState_ofExcept_bind]
  cases hcheck : checkModifyRight cfgs pvo pid tgtRight cache with
  | error e => exact ⟨hnumbered, iff_of_true h trivial⟩
  | ok result =>
    obtain ⟨guildID, tgtRightLV⟩ := result
    obtain ⟨guildVO, hguild, hmember, -⟩ := of_checkModifyRight hcheck
    refine ⟨hnumbered.updateGuild guildID _, iff_of_true (h.chgRight tgtRightLV ?_) trivial⟩
    intro guildVO' hguild'
    obtain rfl := Option.some.inj (hguild.symm.trans hguild')
    exact AList.lookup_isSome.mp hmember

lemma rightIff_chgOwner (pvo tgtPid : ℤ) :
    RightIff cfgs ((chgOwner pvo tgtPid).finalState cache) True := by
  rw [chgOwner, EStateM.finalState_ofExcept_bind]
  cases hcheck : checkChgOwner pvo tgtPid cache with
  | error e => exact ⟨hnumbered, iff_of_true h trivial⟩
  | ok guildID =>
    obtain ⟨⟨_, guildVO⟩, hright, hrest⟩ := Except.bind_eq_ok.mp hcheck
    obtain ⟨_, hmember, hpure⟩ := Except.bind_eq_ok.mp hrest
    cases hpure
    rw [ICode.throwIfTrue_eq_ok] at hmember
    obtain ⟨-, hguild, hhas⟩ := of_getGuildVOAndCheckRight hright
    obtain ⟨level, hlevel, -⟩ := GuildVO.hasRight_iff.mp hhas
    have htgt : Listed cfgs (cache.chgRight guildID tgtPid .Level0) := by
      apply h.chgRight
      intro guildVO' hguild'
      obtain rfl := Option.some.inj (hguild.symm.trans hguild')
      exact AList.lookup_isSome.mp (Option.isSome_iff_ne_none.mpr hmember)
    have hpvo : Listed cfgs ((cache.chgRight guildID tgtPid .Level0).chgRight guildID pvo
        .Level1) := by
      apply htgt.chgRight
      intro guildVO' hguild'
      obtain rfl := Option.some.inj ((getGuildByID_chgRight hguild .Level0).symm.trans hguild')
      refine (AList.mem_insert _).mpr (Or.inr ?_)
      rw [← AList.lookup_isSome, hlevel]
      rfl
    exact ⟨((hnumbered.updateGuild guildID _).updateGuild guildID _).updateGuild guildID _,
      iff_of_true (hpvo.updateGuild fun _ _ => rfl) trivial⟩

/-- A player leaves a guild, which is not looked at again if a listener throws before. -/
lemma rightIff_outGuild (pvo pid : ℤ) :
    RightIff cfgs ((outGuild cfgs env pvo pid).finalState cache)
      (KeepsList cfgs cache (env, .outGuild pvo pid)) := by
  unfold KeepsList
  dsimp only
  rw [outGuild, EStateM.finalState_ofExcept_bind]
  cases hcheck : checkOutGuild pvo pid cache with
  | error e => exact ⟨hnumbered, iff_of_true h trivial⟩
  | ok guildID =>
    obtain ⟨G, hgroup, -⟩ := of_checkOutGuild hcheck
    obtain ⟨guildVO, hguild, -⟩ := group_eq_some.mp hgroup
    dsimp only
    rw [EStateM.finalState_modify_bind, EStateM.finalState_ofExcept_bind]
    have hsame : SameGuilds (cache.removeRight guildID pid)
        (((cache.removeRight guildID pid).setNextEnterGuildTime pid
          (env.now + cfgs.enterGuildCD * hourMillis)).leaveGuild pid) :=
      (sameGuilds_setNextEnterGuildTime _ pid _).trans (sameGuilds_leaveGuild _ pid)
    have hbook := (sameBook_updateGuild cache guildID _).trans hsame.toSameBook
    cases hcoins : if pvo = pid then env.loseCoins pvo else .ok () with
    | error e =>
      -- the list stays as it is
      dsimp only
      split_ifs at hcoins with hself
      refine ⟨hbook.numbered hnumbered, ?_⟩
      rw [hsame.listed_congr, CacheGuild.removeRight, h.updateGuild_iff hguild, openGuild_erase,
        hguild, hcoins]
      constructor
      · rintro hopens - - _ ⟨⟩
        exact hopens
      · exact fun hkept => hkept hself rfl guildVO rfl
    | ok result =>
      have hkept : pvo = pid → (env.loseCoins pvo).toBool = false →
          ∀ guildVO ∈ cache.getGuildByID guildID, opens cfgs guildVO pid = false := by
        intro hself hthrows
        rw [if_pos hself] at hcoins
        rw [hcoins] at hthrows
        cases hthrows
      have hleft : (((cache.removeRight guildID pid).setNextEnterGuildTime pid
          (env.now + cfgs.enterGuildCD * hourMillis)).leaveGuild pid).getGuildByID guildID =
            some { guildVO with memberRights := guildVO.memberRights.erase pid } := by
        rw [CacheGuild.getGuildByID, hsame.live, hsame.guilds]
        show (cache.updateGuild guildID _).getGuildByID guildID = _
        rw [CacheGuild.getGuildByID_updateGuild, if_pos rfl, hguild]
        rfl
      refine ⟨numbered_refNoNeedReqGuilds (hbook.numbered hnumbered) hleft,
        iff_of_true ?_ hkept⟩
      apply listed_refNoNeedReqGuilds hleft
      · rw [hbook.list]
        exact h.nodup
      · intro guildID' hne
        rw [hbook.list, isOpen_of_eq hsame.live hsame.guilds, CacheGuild.removeRight,
          isOpen_updateGuild, if_neg hne]
        exact h.mem_iff guildID'
      · intro hmem
        rw [hbook.list] at hmem
        have hopen := (h.mem_iff guildID).mp hmem
        rw [isOpen_of_getGuildByID hguild] at hopen
        obtain ⟨hreq, hroom⟩ := openGuild_eq_true.mp hopen
        exact ⟨hreq, isMaxSize_of_level hroom rfl⟩

/-- A guild is neither opened nor closed because it is to be dissolved. -/
lemma rightIff_announced {cache' : CacheGuild} (hannounced : Announced cache cache') :
    RightIff cfgs cache' True := by
  cases hannounced with
  | refl => exact ⟨hnumbered, iff_of_true h trivial⟩
  | @chgStatus guildID hmem status hstatus dissolutionTime inDissolutionGuild =>
    have hguild : Listed cfgs (cache.updateGuild guildID fun guildVO =>
        { guildVO with status := status, dissolutionTime := dissolutionTime }) :=
      h.updateGuild fun _ _ => rfl
    exact hguild.rightIff_of_same (hnumbered.updateGuild _ _)
      (sameGuilds_inDissolutionGuild _ _) trivial

lemma rightIff_enterGame (pid : ℤ) :
    RightIff cfgs ((enterGame pid).finalState cache) True := by
  have hunchanged : RightIff cfgs cache True := ⟨hnumbered, iff_of_true h trivial⟩
  have hleave : RightIff cfgs (cache.leaveGuild pid) True :=
    h.rightIff_of_same hnumbered (sameGuilds_leaveGuild cache pid) trivial
  rw [enterGame, EStateM.finalState_modify]
  split
  · exact hunchanged
  · split
    · split
      · exact hleave
      · exact hunchanged
    · split
      · exact hleave
      · exact hunchanged

end Rights

/-! ## Dissolving -/

section Dissolving

/-- What is dissolved is no longer found. -/
lemma isOpen_removeCache (cache : CacheGuild) (guildID guildID' : ℤ) :
    isOpen cfgs (cache.removeCache guildID) guildID' =
      (decide (guildID' ≠ guildID) && isOpen cfgs cache guildID') := by
  have hlive : guildID' ∈ (cache.removeCache guildID).allGuildByID ↔
      guildID' ∈ cache.allGuildByID ∧ guildID' ≠ guildID := by
    rw [CacheGuild.removeCache, List.mem_filter, decide_eq_true_eq]
  unfold isOpen CacheGuild.getGuildByID
  simp only [hlive]
  by_cases heq : guildID' = guildID
  · simp [heq]
  · simp only [heq, ne_eq, not_false_eq_true, and_true, decide_true, Bool.true_and]
    rfl

lemma sameGuilds_foldl_leaveGuild (cache : CacheGuild) (pids : List ℤ) :
    SameGuilds cache (pids.foldl CacheGuild.leaveGuild cache) := by
  induction pids generalizing cache with
  | nil => exact .refl cache
  | cons pid pids ih => exact (sameGuilds_leaveGuild cache pid).trans (ih _)

/-- What the dissolution of a guild leaves. -/
structure Dissolved (cache cache' : CacheGuild) (guildIDs : List ℤ) : Prop where
  list : cache'.noReqGuild = cache.noReqGuild
  numbered : Numbered cache → Numbered cache'
  isOpen_eq : ∀ cfgs guildID,
    isOpen cfgs cache' guildID = (decide (guildID ∉ guildIDs) && isOpen cfgs cache guildID)
  isSome_eq : ∀ guildID,
    (cache'.guilds.lookup guildID).isSome = (cache.guilds.lookup guildID).isSome

lemma isSome_updateGuild (cache : CacheGuild) (guildID : ℤ) (f : GuildVO → GuildVO)
    (guildID' : ℤ) : ((cache.updateGuild guildID f).guilds.lookup guildID').isSome =
      (cache.guilds.lookup guildID').isSome := by
  unfold CacheGuild.updateGuild
  cases hguild : cache.guilds.lookup guildID with
  | none => rfl
  | some guildVO =>
    dsimp only
    rw [AList.lookup_insert_ite]
    split
    · next heq => rw [heq, hguild]; rfl
    · rfl

/-- A guild of which only the status is changed is dissolved. -/
lemma dissolved_removeCache {cache' : CacheGuild} (guildID : ℤ) (hbook : SameBook cache cache')
    (hopen : ∀ cfgs guildID', isOpen cfgs cache' guildID' = isOpen cfgs cache guildID')
    (hsome : ∀ guildID', (cache'.guilds.lookup guildID').isSome =
      (cache.guilds.lookup guildID').isSome) (inDissolutionGuild : List ℤ) :
    Dissolved cache { cache'.removeCache guildID with inDissolutionGuild := inDissolutionGuild }
      [guildID] := by
  refine ⟨hbook.list, fun hnumbered => ?_, fun cfgs guildID' => ?_, hsome⟩
  · obtain ⟨hnonneg, hlive, hnodup⟩ := hbook.numbered hnumbered
    exact ⟨hnonneg, fun guildID' hmem => hlive guildID' (List.mem_filter.mp hmem).1,
      hnodup.filter _⟩
  · have hremove : isOpen cfgs (cache'.removeCache guildID) guildID' =
        (decide (guildID' ≠ guildID) && isOpen cfgs cache' guildID') :=
      isOpen_removeCache cache' guildID guildID'
    have hmem : guildID' ∉ [guildID] ↔ guildID' ≠ guildID := not_congr List.mem_singleton
    rw [hopen] at hremove
    rw [decide_eq_decide.mpr hmem]
    exact hremove

lemma dissolved_dissolve {guildID : ℤ} {guildVO : GuildVO}
    (hguild : cache.guilds.lookup guildID = some guildVO) :
    ∃ cache', (dissolve guildID).run cache = .ok () cache' ∧ Dissolved cache cache' [guildID] := by
  have hget : getGuild guildID cache = .ok guildVO := (getGuild_eq_ok cache).mpr hguild
  by_cases hstatus : guildVO.status = .IN_DISSOLUTION
  · let ended := cache.updateGuild guildID fun guildVO =>
      { guildVO with status := .DISSOLUTION_END }
    let left := guildVO.memberRights.keys.foldl CacheGuild.leaveGuild ended
    have hsame : SameGuilds ended left := sameGuilds_foldl_leaveGuild ended _
    refine ⟨{ left.removeCache guildID with
      inDissolutionGuild := left.inDissolutionGuild.filter (· ≠ guildID) }, ?_, ?_⟩
    · rw [dissolve, EStateM.run_bind, EStateM.run_ofExcept, hget]
      dsimp only
      rw [if_pos hstatus]
      rfl
    · refine dissolved_removeCache guildID
        ((sameBook_updateGuild cache guildID _).trans hsame.toSameBook) ?_ ?_ _
      · intro cfgs guildID'
        rw [isOpen_of_eq hsame.live hsame.guilds, isOpen_updateGuild]
        split
        · next heq =>
          rw [heq, isOpen]
          rfl
        · rfl
      · intro guildID'
        rw [hsame.guilds]
        exact isSome_updateGuild cache guildID _ guildID'
  · refine ⟨{ cache.removeCache guildID with
      inDissolutionGuild := cache.inDissolutionGuild.filter (· ≠ guildID) }, ?_, ?_⟩
    · rw [dissolve, EStateM.run_bind, EStateM.run_ofExcept, hget]
      dsimp only
      rw [if_neg hstatus]
      rfl
    · exact dissolved_removeCache guildID (.refl cache) (fun _ _ => rfl) (fun _ => rfl) _

/-- **The guilds of a list are dissolved**, up to the first one that never was. -/
lemma dissolved_innerDissolutionGuild (cache : CacheGuild) (guildIDs : List ℤ) :
    Dissolved cache ((innerDissolutionGuild guildIDs).finalState cache)
      (guildIDs.takeWhile fun guildID => (cache.guilds.lookup guildID).isSome) := by
  rw [innerDissolutionGuild]
  induction guildIDs generalizing cache with
  | nil => exact ⟨rfl, id, fun _ _ => rfl, fun _ => rfl⟩
  | cons guildID guildIDs ih =>
    rw [EStateM.each, EStateM.finalState_bind]
    cases hguild : cache.guilds.lookup guildID with
    | none =>
      have hget : getGuild guildID cache = .error .nullPointer := by
        rw [getGuild, hguild]
      rw [dissolve, EStateM.run_bind, EStateM.run_ofExcept, hget,
        List.takeWhile_cons_of_neg (by rw [hguild]; exact Bool.false_ne_true)]
      exact ⟨rfl, id, fun _ _ => rfl, fun _ => rfl⟩
    | some guildVO =>
      obtain ⟨cache', hrun, hfirst⟩ := dissolved_dissolve hguild
      have hrest := ih cache'
      simp only [hfirst.isSome_eq] at hrest
      rw [hrun, List.takeWhile_cons_of_pos (by rw [hguild]; rfl)]
      refine ⟨hrest.list.trans hfirst.list, hrest.numbered ∘ hfirst.numbered, ?_, ?_⟩
      · intro cfgs guildID'
        show isOpen cfgs ((EStateM.each dissolve guildIDs).finalState cache') guildID' = _
        rw [hrest.isOpen_eq, hfirst.isOpen_eq, ← Bool.and_assoc, ← Bool.decide_and]
        congr 2
        simp only [List.mem_cons, List.not_mem_nil, or_false, not_or, and_comm]
      · exact fun guildID' => (hrest.isSome_eq guildID').trans (hfirst.isSome_eq guildID')

lemma rightIff_innerDissolutionGuild (hnumbered : Numbered cache) (h : Listed cfgs cache)
    (guildIDs : List ℤ) :
    RightIff cfgs ((innerDissolutionGuild guildIDs).finalState cache)
      (KeepsList cfgs cache (env, .innerDissolutionGuild guildIDs)) := by
  have hdissolved := dissolved_innerDissolutionGuild cache guildIDs
  refine ⟨hdissolved.numbered hnumbered, ?_⟩
  unfold Listed KeepsList
  rw [hdissolved.list, h.iff_of_lists]
  apply forall_congr'
  intro guildID
  rw [hdissolved.isOpen_eq]
  by_cases hmem : guildID ∈ guildIDs.takeWhile fun guildID => (cache.guilds.lookup guildID).isSome
  · simp [hmem]
  · simp [hmem]

end Dissolving

/-! ## Leaders -/

section Leaders

variable {env} {guildID : ℤ} {guildVO : GuildVO}

/-- What the loop over the guilds leaves: only guilds of the list are opened or closed. -/
structure Replaced (cfgs : GuildCfgs) (cache cache' : CacheGuild) (guildIDs : List ℤ)
    (kept : Prop) : Prop where
  book : SameBook cache cache'
  others : ∀ guildID, guildID ∉ guildIDs → isOpen cfgs cache' guildID = isOpen cfgs cache guildID
  kept_iff : (∀ guildID ∈ guildIDs, isOpen cfgs cache' guildID = isOpen cfgs cache guildID) ↔ kept

lemma Replaced.refl (cache : CacheGuild) (guildIDs : List ℤ) {kept : Prop} (hkept : kept) :
    Replaced cfgs cache cache guildIDs kept :=
  ⟨.refl cache, fun _ _ => rfl, iff_of_true (fun _ _ => rfl) hkept⟩

/-- A round of the loop, and the rest of it, which does not come to the guild again. -/
lemma Replaced.cons {cache' cache'' : CacheGuild} {guildIDs : List ℤ} {kept kept' : Prop}
    (hbook : SameBook cache cache')
    (hothers : ∀ guildID', guildID' ≠ guildID →
      isOpen cfgs cache' guildID' = isOpen cfgs cache guildID')
    (hkept : isOpen cfgs cache' guildID = isOpen cfgs cache guildID ↔ kept)
    (hnotin : guildID ∉ guildIDs) (hrest : Replaced cfgs cache' cache'' guildIDs kept') :
    Replaced cfgs cache cache'' (guildID :: guildIDs) (kept ∧ kept') := by
  refine ⟨hbook.trans hrest.book, fun guildID' hmem => ?_, ?_⟩
  · rw [List.mem_cons, not_or] at hmem
    obtain ⟨hne, hmem⟩ := hmem
    exact (hrest.others guildID' hmem).trans (hothers guildID' hne)
  · rw [List.forall_mem_cons, ← hkept, ← hrest.kept_iff, hrest.others guildID hnotin]
    refine and_congr_right fun _ => forall₂_congr fun guildID' hmem => ?_
    rw [hothers guildID' fun heq => hnotin (heq ▸ hmem)]

/-- The new leader and the old one get their levels. -/
lemma isOpen_transfer (hguild : cache.getGuildByID guildID = some guildVO) {pid : ℤ}
    (hmember : pid ∈ guildVO.memberRights) (guildID' : ℤ) :
    isOpen cfgs ((cache.chgRight guildID pid .Level0).chgRight guildID guildVO.owner .Level1)
        guildID' =
      if guildID' = guildID then openGuild cfgs { guildVO with
        memberRights := guildVO.memberRights.insert guildVO.owner RightLevel.Level1.getId }
      else isOpen cfgs cache guildID' := by
  rw [CacheGuild.chgRight, isOpen_updateGuild, getGuildByID_chgRight hguild]
  split
  · have hkeys : ((guildVO.memberRights.insert pid RightLevel.Level0.getId).insert guildVO.owner
        RightLevel.Level1.getId).keys.length =
          (guildVO.memberRights.insert guildVO.owner RightLevel.Level1.getId).keys.length := by
      have howner : guildVO.owner ∈ guildVO.memberRights.insert pid RightLevel.Level0.getId ↔
          guildVO.owner ∈ guildVO.memberRights := by
        rw [AList.mem_insert]
        exact or_iff_right_of_imp fun heq => heq ▸ hmember
      rw [length_insert, length_insert_of_mem hmember, length_insert]
      simp only [howner]
    exact openGuild_congr rfl rfl hkeys
  · next hne =>
    rw [CacheGuild.chgRight, isOpen_updateGuild, if_neg hne]

/-- The old leader is a member then, and may fill the guild. -/
lemma isOpen_transfer_iff (hguild : cache.getGuildByID guildID = some guildVO) {pid : ℤ}
    (hmember : pid ∈ guildVO.memberRights) :
    isOpen cfgs ((cache.chgRight guildID pid .Level0).chgRight guildID guildVO.owner .Level1)
        guildID = isOpen cfgs cache guildID ↔ fills cfgs guildVO guildVO.owner = false := by
  rw [isOpen_transfer hguild hmember, if_pos rfl, isOpen_of_getGuildByID hguild,
    openGuild_insert_iff]

lemma sameBook_transfer (cache : CacheGuild) (guildID old new : ℤ) :
    SameBook cache ((cache.chgRight guildID new .Level0).chgRight guildID old .Level1) :=
  (sameBook_updateGuild cache guildID _).trans (sameBook_updateGuild _ guildID _)

/-- A change of the owner neither opens nor closes a guild. -/
lemma isOpen_setOwner (cache : CacheGuild) (guildID owner guildID' : ℤ) :
    isOpen cfgs (cache.setOwner guildID owner) guildID' = isOpen cfgs cache guildID' := by
  rw [CacheGuild.setOwner, isOpen_updateGuild]
  split
  · next heq =>
    rw [heq, isOpen]
    rfl
  · rfl

/-- **The loop that replaces leaders** closes a guild if and only if it comes to one that is full
with its old leader. -/
lemma replaced_each {cache cache' : CacheGuild} {guildIDs : List ℤ}
    (huntouched : Untouched cache cache' guildIDs) (hnodup : guildIDs.Nodup)
    (hlive : ∀ guildID ∈ guildIDs, guildID ∈ cache.allGuildByID) :
    Replaced cfgs cache' ((EStateM.each (replaceLeader cfgs env) guildIDs).finalState cache')
      guildIDs (fillsIn cfgs env cache guildIDs = false) := by
  induction guildIDs generalizing cache' with
  | nil => exact .refl cache' [] rfl
  | cons guildID guildIDs ih =>
    obtain ⟨hnotin, hnodup⟩ := List.nodup_cons.mp hnodup
    obtain ⟨hmem, hlive⟩ := List.forall_mem_cons.mp hlive
    have hlookup := huntouched.guilds guildID List.mem_cons_self
    rw [EStateM.each, EStateM.finalState_bind, fillsIn]
    cases hguild : cache.guilds.lookup guildID with
    | none =>
      rw [run_replaceLeader_of_none cfgs env (hlookup.trans hguild)]
      exact .refl cache' _ rfl
    | some guildVO =>
      rw [hguild] at hlookup
      dsimp only
      rw [run_replaceLeader cfgs env hlookup, newLeader_congr huntouched.members,
        Bool.or_eq_false_iff, stumbles]
      cases hnew : newLeader cfgs env cache guildVO with
      | none =>
        have hrest := ih huntouched.tail hnodup hlive
        exact hrest.cons (.refl cache') (fun _ _ => rfl) (iff_of_true rfl rfl) hnotin
      | some pid =>
        have hfound : cache'.getGuildByID guildID = some guildVO := by
          rw [CacheGuild.getGuildByID, huntouched.live, if_pos hmem, hlookup]
        have hmember := AList.lookup_isSome.mp (of_newLeader hnew).1
        have hbook := sameBook_transfer cache' guildID guildVO.owner pid
        have hothers : ∀ guildID', guildID' ≠ guildID → isOpen cfgs
            ((cache'.chgRight guildID pid .Level0).chgRight guildID guildVO.owner .Level1)
              guildID' = isOpen cfgs cache' guildID' := fun guildID' hne =>
          (isOpen_transfer hfound hmember guildID').trans (if_neg hne)
        have hkept : isOpen cfgs
            ((cache'.chgRight guildID pid .Level0).chgRight guildID guildVO.owner .Level1)
              guildID = isOpen cfgs cache' guildID ↔
                ((some pid).isSome && fills cfgs guildVO guildVO.owner) = false :=
          isOpen_transfer_iff hfound hmember
        cases hknown : (env.lastLoginDay guildVO.owner).isSome with
        | true =>
          have hnone := Option.isNone_eq_false_iff.mpr hknown
          have huntouched' := huntouched.transfer hnotin guildVO.owner pid
          have hbook' : SameBook cache' (((cache'.chgRight guildID pid .Level0).chgRight guildID
              guildVO.owner .Level1).setOwner guildID pid) :=
            hbook.trans (sameBook_updateGuild _ guildID _)
          rw [hnone]
          refine (ih huntouched' hnodup hlive).cons hbook' ?_ ?_ hnotin
          · exact fun guildID' hne => (isOpen_setOwner _ _ _ _).trans (hothers guildID' hne)
          · rw [isOpen_setOwner]
            exact hkept
        | false =>
          have hnone := Option.isSome_eq_false_iff.mp hknown
          rw [hnone]
          exact (Replaced.refl _ guildIDs rfl).cons hbook hothers hkept hnotin

lemma rightIff_replaceGuildLeader (hnumbered : Numbered cache) (h : Listed cfgs cache) :
    RightIff cfgs ((replaceGuildLeader cfgs env).finalState cache)
      (KeepsList cfgs cache (env, .replaceGuildLeader)) := by
  have hperm := env.order_perm cache.allGuildByID
  have hreplaced : Replaced cfgs cache ((replaceGuildLeader cfgs env).finalState cache)
      (env.order cache.allGuildByID)
      (fillsIn cfgs env cache (env.order cache.allGuildByID) = false) := by
    rw [finalState_replaceGuildLeader]
    exact replaced_each ⟨rfl, rfl, fun _ _ => rfl⟩ (hperm.nodup_iff.mpr hnumbered.nodup)
      fun _ hmem => hperm.mem_iff.mp hmem
  refine ⟨hreplaced.book.numbered hnumbered, ?_⟩
  unfold KeepsList
  dsimp only
  rw [hreplaced.book.listed_iff h, ← hreplaced.kept_iff]
  constructor
  · exact fun hall guildID _ => hall guildID
  · intro hall guildID
    by_cases hmem : guildID ∈ env.order cache.allGuildByID
    · exact hall guildID hmem
    · exact hreplaced.others guildID hmem

end Leaders

/-! ## Other changes of a guild -/

section Others

variable (hnumbered : Numbered cache) (h : Listed cfgs cache)

include hnumbered h

lemma rightIff_modifyNeedReqStatus (pvo : ℤ) (need : Bool) :
    RightIff cfgs ((modifyNeedReqStatus pvo need).finalState cache)
      (KeepsList cfgs cache (env, .modifyNeedReqStatus pvo need)) := by
  unfold KeepsList
  dsimp only
  rw [modifyNeedReqStatus, EStateM.finalState_ofExcept_bind]
  cases hcheck : getGuildVOAndCheckRight pvo .APPROVAL_JOIN_GUILD cache with
  | error e => exact ⟨hnumbered, iff_of_true h trivial⟩
  | ok result =>
    obtain ⟨guildID, guildVO⟩ := result
    have hguild := (of_getGuildVOAndCheckRight hcheck).2.1
    have hbook := sameBook_updateGuild cache guildID fun guildVO =>
      { guildVO with enterNeedReq := need }
    have hnumbered' := hbook.numbered hnumbered
    dsimp only
    rw [EStateM.finalState_modify_bind, EStateM.finalState_modify]
    cases need with
    | true =>
      rw [if_pos rfl]
      refine ⟨⟨hnumbered'.nonneg, hnumbered'.live, hnumbered'.nodup⟩, iff_of_true ?_ ?_⟩
      · have hlists : Lists (fun guildID' => isOpen cfgs (cache.updateGuild guildID fun guildVO =>
            { guildVO with enterNeedReq := true }) guildID' = true)
            (refresh guildID false cache.noReqGuild) := by
          apply Lists.refresh h.nodup
          · intro guildID' hne
            rw [isOpen_updateGuild, if_neg hne]
            exact h.mem_iff guildID'
          · rw [isOpen_updateGuild, if_pos rfl, hguild]
            rfl
        have hlist : ((cache.updateGuild guildID fun guildVO =>
            { guildVO with enterNeedReq := true }).noReqGuild.erase guildID) =
              refresh guildID false cache.noReqGuild := by
          rw [hbook.list]
          rfl
        unfold Listed
        rw [hlist]
        exact hlists
      · exact fun hneed => Bool.noConfusion hneed
    | false =>
      rw [if_neg Bool.false_ne_true]
      refine ⟨hnumbered', ?_⟩
      rw [h.updateGuild_iff hguild, openGuild, openGuild]
      show (!false && decide (isMaxSize cfgs guildVO = .ok false)) = _ ↔ _
      cases guildVO.enterNeedReq <;> simp

/-- **A guild gets points.** They do not matter, but its level does. -/
lemma rightIff_addGuildExp (guildID : ℤ) (exp : Int32) :
    RightIff cfgs ((addGuildExp cfgs guildID exp).finalState cache)
      (KeepsList cfgs cache (env, .addGuildExp guildID exp)) := by
  unfold KeepsList
  dsimp only
  rw [finalState_addGuildExp]
  refine ⟨hnumbered.updateGuild guildID _, ?_⟩
  cases hguild : cache.getGuildByID guildID with
  | none =>
    refine iff_of_true (h.updateGuild_of_none hguild _) fun guildVO hmem => ?_
    cases hmem
  | some guildVO =>
    rw [h.updateGuild_iff hguild]
    constructor
    · rintro hopen _ ⟨⟩
      exact hopen
    · exact fun hall => hall guildVO rfl

end Others

/-! ## Steps and runs -/

section Runs

variable (cfgs)

/-- **The list is right after a call** if and only if it is one of the calls that keep it so. -/
theorem listed_step (hnumbered : Numbered cache) (h : Listed cfgs cache)
    (call : Surroundings × Call) :
    Numbered (step cfgs cache call) ∧
      (Listed cfgs (step cfgs cache call) ↔ KeepsList cfgs cache call) := by
  obtain ⟨env, call⟩ := call
  cases call with
  | createGuild pvo needReq checked =>
    exact rightIff_createGuild env hnumbered h pvo needReq checked
  | joinGuild pvo guildID => exact rightIff_joinGuild env hnumbered h pvo guildID
  | acceptPlayerJoinGuild pvo pid accept =>
    exact rightIff_acceptPlayerJoinGuild env hnumbered h pvo pid accept
  | modifyRight pvo pid tgtRight => exact rightIff_modifyRight hnumbered h pvo pid tgtRight
  | chgOwner pvo tgtPid => exact rightIff_chgOwner hnumbered h pvo tgtPid
  | outGuild pvo pid => exact rightIff_outGuild env hnumbered h pvo pid
  | dissolutionGuild pvo =>
    exact rightIff_announced hnumbered h (announced_dissolutionGuild cfgs env cache pvo)
  | cancelDissolutionGuild pvo =>
    exact rightIff_announced hnumbered h (announced_cancelDissolutionGuild cache pvo)
  | innerDissolutionGuild guildIDs => exact rightIff_innerDissolutionGuild env hnumbered h guildIDs
  | replaceGuildLeader => exact rightIff_replaceGuildLeader hnumbered h
  | buildAsLoad pid => exact rightIff_buildAsLoad env hnumbered h pid
  | enterGame pid => exact rightIff_enterGame hnumbered h pid
  | modifyNeedReqStatus pvo need => exact rightIff_modifyNeedReqStatus env hnumbered h pvo need
  | addGuildExp guildID exp => exact rightIff_addGuildExp env hnumbered h guildID exp

lemma listed_start (guildDBID : ℤ) : Listed cfgs (start guildDBID) := by
  refine ⟨List.nodup_nil, fun guildID => ?_⟩
  exact iff_of_false List.not_mem_nil Bool.false_ne_true

/-- **The guilds that can be joined without a request.** In all states of a run the list has exactly
the guilds that are found, need no request and are not full, each once, and a player who joins any
guild gets one of them, if and only if no player fills a guild without a `refNoNeedReqGuilds`, and
no guild that is open or becomes so is dissolved, goes up a level or no longer needs requests. -/
theorem listed_run_iff {guildDBID : ℤ} (hid : 0 ≤ guildDBID)
    (calls : List (Surroundings × Call)) :
    (∀ pre, pre <+: calls → Listed cfgs (Runs.run (step cfgs) (start guildDBID) pre) ∧
      QuickJoins cfgs (Runs.run (step cfgs) (start guildDBID) pre)) ↔
    Runs.EveryStep (step cfgs) (KeepsList cfgs) (start guildDBID) calls := by
  have hstart : Numbered (start guildDBID) :=
    ⟨hid, fun _ hmem => absurd hmem List.not_mem_nil, List.nodup_nil⟩
  have hiff : (∀ pre, pre <+: calls → Listed cfgs (Runs.run (step cfgs) (start guildDBID) pre)) ↔
      Runs.EveryStep (step cfgs) (KeepsList cfgs) (start guildDBID) calls :=
    Runs.forall_prefix_iff Numbered (Listed cfgs)
      (fun _ call hnumbered h => listed_step cfgs hnumbered h call) hstart
      (listed_start cfgs guildDBID) calls
  rw [← hiff]
  exact forall₂_congr fun pre _ => and_iff_left_of_imp Listed.quickJoins

/-- Anybody may join a guild, which player 2 does and leaves it. -/
def smallRun : List (Surroundings × Call) :=
  [(without 0, .createGuild 1 false (.ok ())), (without 0, .joinGuild 2 0),
    (without 0, .outGuild 2 2)]

/-- The list is right after it. -/
theorem listed_smallRun :
    Listed smallCfgs (Runs.run (step smallCfgs) (start 0) smallRun) ∧
      QuickJoins smallCfgs (Runs.run (step smallCfgs) (start 0) smallRun) :=
  (listed_run_iff smallCfgs le_rfl smallRun).mpr
    ⟨trivial, Or.inl rfl, fun _ hthrows => absurd hthrows (by decide), trivial⟩ _ List.prefix_rfl

/-- A guild that no longer needs requests is open and not listed; and a guild that was dissolved is
listed still, and found by a player who joins any guild. -/
theorem not_listed_run :
    ¬Listed smallCfgs (Runs.run (step smallCfgs) (start 0)
        [(without 0, .createGuild 1 true (.ok ())),
          (without 0, .modifyNeedReqStatus 1 false)]) ∧
      ¬QuickJoins smallCfgs (Runs.run (step smallCfgs) (start 0)
        [(without 0, .createGuild 1 false (.ok ())), (without 0, .dissolutionGuild 1),
          (without 0, .innerDissolutionGuild [1])]) := by
  constructor
  · intro h
    have hmem := (h.mem_iff 1).mpr (by decide)
    revert hmem
    decide
  · intro h
    have hopen := h.1 (without 0) 1 _ rfl
    revert hopen
    decide

end Runs

end SrgpGame.Guild
