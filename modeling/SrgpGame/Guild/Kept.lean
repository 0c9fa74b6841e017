import SrgpGame.Guild.GuildBO

set_option autoImplicit false

/-!
# What the guild caches keep

The rights of a guild and the records of players say twice who is in a guild. This file has the
invariants of the caches, and proves that the changes which the methods make keep them.

## Main definitions

* `Filed` — ids and the status of guilds are in order.
* `Kept` — they are, and the two records of membership agree.
* `Advances` — from one state to another `Kept` is kept, and so is it that the owners lead.

## Main results

* `advances_join`, `advances_leaveGuild`, `advances_updateGuild` — changes that keep the invariants.
-/

namespace SrgpGame.Guild

open Roster

/-! ## What the caches keep -/

/-- **Ids**: guilds have positive ids that were given out, records name no others, a guild that is
being dissolved is found, and one that was dissolved is not. -/
structure Filed (cache : CacheGuild) : Prop where
  nonneg : 0 ≤ cache.guildDBID
  live : ∀ guildID ∈ cache.allGuildByID, 0 < guildID ∧ guildID ≤ cache.guildDBID
  nodup : cache.allGuildByID.Nodup
  guilds : ∀ guildID guildVO, cache.guilds.lookup guildID = some guildVO →
    guildID ≤ cache.guildDBID
  homes : ∀ pid guildID, cache.homeOf pid = some guildID → guildID ≤ cache.guildDBID
  dissolving : ∀ guildID guildVO, cache.guilds.lookup guildID = some guildVO →
    guildVO.status = .IN_DISSOLUTION → guildID ∈ cache.allGuildByID
  ended : ∀ guildID guildVO, cache.guilds.lookup guildID = some guildVO →
    guildVO.status = .DISSOLUTION_END → guildID ∉ cache.allGuildByID

/-- The caches are in order, and the two records of membership agree. -/
structure Kept (cache : CacheGuild) : Prop where
  filed : Filed cache
  linked : cache.roster.Linked

/-- The id of the highest level. -/
def head : ℤ := RightLevel.getId .Level0

/-- **From one state to another** order is kept, and so is it that the owners lead the guilds. -/
def Advances (cache cache' : CacheGuild) : Prop :=
  Kept cache → Kept cache' ∧ (cache.roster.Led head → cache'.roster.Led head)

lemma Advances.refl (cache : CacheGuild) : Advances cache cache := fun h => ⟨h, id⟩

lemma Advances.trans {cache cache' cache'' : CacheGuild} (h : Advances cache cache')
    (h' : Advances cache' cache'') : Advances cache cache'' := by
  intro hkept
  obtain ⟨hkept', hled⟩ := h hkept
  obtain ⟨hkept'', hled'⟩ := h' hkept'
  exact ⟨hkept'', hled' ∘ hled⟩

/-- **Sequence rule.** -/
lemma Advances.bind {α β : Type} {x : Method α} {f : α → Method β} {cache : CacheGuild}
    (hx : Advances cache (x.finalState cache))
    (hf : ∀ a cache', x.run cache = .ok a cache' → Advances cache' ((f a).finalState cache')) :
    Advances cache ((x >>= f).finalState cache) := by
  rw [EStateM.finalState_bind]
  cases hrun : x.run cache with
  | ok a cache' =>
    rw [EStateM.finalState_eq_of_ok hrun] at hx
    exact hx.trans (hf a cache' hrun)
  | error e cache' =>
    rw [EStateM.finalState_eq_of_error hrun] at hx
    exact hx

/-- A change that concerns neither guilds nor records. -/
lemma Filed.of_eq {cache cache' : CacheGuild} (h : Filed cache)
    (hcounter : cache'.guildDBID = cache.guildDBID) (hguilds : cache'.guilds = cache.guilds)
    (hlive : cache'.allGuildByID = cache.allGuildByID)
    (hmembers : cache'.allGuildMemberByPID = cache.allGuildMemberByPID) : Filed cache' := by
  obtain ⟨hnonneg, hids, hnodup, hbound, hhomes, hdissolving, hended⟩ := h
  refine ⟨?_, ?_, ?_, ?_, ?_, ?_, ?_⟩
  · rw [hcounter]
    exact hnonneg
  · rw [hcounter, hlive]
    exact hids
  · rw [hlive]
    exact hnodup
  · rw [hcounter, hguilds]
    exact hbound
  · intro pid guildID hhome
    rw [hcounter]
    apply hhomes pid
    rwa [CacheGuild.homeOf, CacheGuild.getGuildMemberVO, hmembers] at hhome
  · rw [hguilds, hlive]
    exact hdissolving
  · rw [hguilds, hlive]
    exact hended

section Changes

variable {cache : CacheGuild} {guildID pid : ℤ}

/-- A guild may be changed, if it only begins to be dissolved when it is found, and does not end. -/
lemma Filed.updateGuild (h : Filed cache) {f : GuildVO → GuildVO}
    (hf : ∀ guildVO, (f guildVO).status = guildVO.status ∨
      (f guildVO).status ≠ .DISSOLUTION_END ∧ guildID ∈ cache.allGuildByID) :
    Filed (cache.updateGuild guildID f) := by
  unfold CacheGuild.updateGuild
  cases hlookup : cache.guilds.lookup guildID with
  | none => exact h
  | some guildVO =>
    refine ⟨h.nonneg, h.live, h.nodup, ?_, h.homes, ?_, ?_⟩
    · intro guildID' guildVO' hguild
      rw [AList.lookup_insert_ite] at hguild
      split at hguild
      · next heq => exact heq ▸ h.guilds guildID guildVO hlookup
      · exact h.guilds guildID' guildVO' hguild
    · intro guildID' guildVO' hguild hstatus
      rw [AList.lookup_insert_ite] at hguild
      split at hguild
      · next heq =>
        obtain rfl := Option.some.inj hguild
        rw [heq]
        rcases hf guildVO with hsame | ⟨-, hlive⟩
        · exact h.dissolving guildID guildVO hlookup (hsame ▸ hstatus)
        · exact hlive
      · exact h.dissolving guildID' guildVO' hguild hstatus
    · intro guildID' guildVO' hguild hstatus
      rw [AList.lookup_insert_ite] at hguild
      split at hguild
      · next heq =>
        obtain rfl := Option.some.inj hguild
        rw [heq]
        rcases hf guildVO with hsame | ⟨hend, -⟩
        · exact h.ended guildID guildVO hlookup (hsame ▸ hstatus)
        · exact absurd hstatus hend
      · exact h.ended guildID' guildVO' hguild hstatus

lemma Filed.chgRight (h : Filed cache) (guildID pid : ℤ) (rightLevel : RightLevel) :
    Filed (cache.chgRight guildID pid rightLevel) :=
  h.updateGuild fun _ => Or.inl rfl

lemma Filed.removeRight (h : Filed cache) (guildID pid : ℤ) :
    Filed (cache.removeRight guildID pid) :=
  h.updateGuild fun _ => Or.inl rfl

lemma Filed.setOwner (h : Filed cache) (guildID owner : ℤ) :
    Filed (cache.setOwner guildID owner) :=
  h.updateGuild fun _ => Or.inl rfl

/-- A record may be changed, if it names an id that was given out. -/
lemma Filed.insert (h : Filed cache) (pid : ℤ) {memberVO : GuildMemberVO}
    (hle : memberVO.guildID ≤ cache.guildDBID) :
    Filed { cache with
      allGuildMemberByPID := cache.allGuildMemberByPID.insert pid memberVO } := by
  refine ⟨h.nonneg, h.live, h.nodup, h.guilds, ?_, h.dissolving, h.ended⟩
  intro pid' guildID hhome
  rw [CacheGuild.homeOf_insert, Function.update_apply] at hhome
  split at hhome
  · exact Option.some.inj hhome ▸ hle
  · exact h.homes pid' guildID hhome

lemma Filed.setGuildID (h : Filed cache) (pid : ℤ) (hle : guildID ≤ cache.guildDBID) :
    Filed (cache.setGuildID pid guildID) :=
  h.insert pid hle

lemma Filed.leaveGuild (h : Filed cache) (pid : ℤ) : Filed (cache.leaveGuild pid) := by
  unfold CacheGuild.leaveGuild
  split
  · have hnonneg := h.nonneg
    exact h.setGuildID pid (by omega)
  · exact h

lemma Filed.setNextEnterGuildTime (h : Filed cache) (pid time : ℤ) :
    Filed (cache.setNextEnterGuildTime pid time) := by
  unfold CacheGuild.setNextEnterGuildTime
  cases hmember : cache.getGuildMemberVO pid with
  | none => exact h
  | some memberVO =>
    apply h.insert pid
    apply h.homes pid
    rw [CacheGuild.homeOf, hmember]
    rfl

/-- A guild that is not being dissolved may be no longer found. -/
lemma Filed.removeCache (h : Filed cache)
    (hstatus : ∀ guildVO, cache.guilds.lookup guildID = some guildVO →
      guildVO.status ≠ .IN_DISSOLUTION) : Filed (cache.removeCache guildID) := by
  refine ⟨h.nonneg, ?_, h.nodup.filter _, h.guilds, h.homes, ?_, ?_⟩
  · intro guildID' hmem
    exact h.live guildID' (List.mem_filter.mp hmem).1
  · intro guildID' guildVO hguild hdissolving
    refine List.mem_filter.mpr ⟨h.dissolving guildID' guildVO hguild hdissolving, ?_⟩
    rw [decide_eq_true_eq]
    rintro rfl
    exact hstatus guildVO hguild hdissolving
  · intro guildID' guildVO hguild hended hmem
    exact h.ended guildID' guildVO hguild hended (List.mem_filter.mp hmem).1

/-- A guild may end, and be no longer found. -/
lemma Filed.removeCache_end (h : Filed cache) {f : GuildVO → GuildVO}
    (hf : ∀ guildVO, (f guildVO).status = .DISSOLUTION_END) :
    Filed ((cache.updateGuild guildID f).removeCache guildID) := by
  unfold CacheGuild.updateGuild
  cases hlookup : cache.guilds.lookup guildID with
  | none =>
    apply h.removeCache
    intro guildVO hguild
    rw [hlookup] at hguild
    cases hguild
  | some guildVO =>
    refine ⟨h.nonneg, ?_, h.nodup.filter _, ?_, h.homes, ?_, ?_⟩
    · intro guildID' hmem
      exact h.live guildID' (List.mem_filter.mp hmem).1
    · intro guildID' guildVO' hguild
      replace hguild : (cache.guilds.insert guildID (f guildVO)).lookup guildID' = some guildVO' :=
        hguild
      rw [AList.lookup_insert_ite] at hguild
      split at hguild
      · next heq => exact heq ▸ h.guilds guildID guildVO hlookup
      · exact h.guilds guildID' guildVO' hguild
    · intro guildID' guildVO' hguild hstatus
      replace hguild : (cache.guilds.insert guildID (f guildVO)).lookup guildID' = some guildVO' :=
        hguild
      rw [AList.lookup_insert_ite] at hguild
      split at hguild
      · obtain rfl := Option.some.inj hguild
        rw [hf] at hstatus
        cases hstatus
      · next hne =>
        refine List.mem_filter.mpr ⟨h.dissolving guildID' guildVO' hguild hstatus, ?_⟩
        exact decide_eq_true hne
    · intro guildID' guildVO' hguild hstatus hmem
      obtain ⟨hmem, hne⟩ := List.mem_filter.mp hmem
      replace hguild : (cache.guilds.insert guildID (f guildVO)).lookup guildID' = some guildVO' :=
        hguild
      rw [AList.lookup_insert_ne (of_decide_eq_true hne)] at hguild
      exact h.ended guildID' guildVO' hguild hstatus hmem

/-- No guild is found by an id that is not positive, or that was not given out. -/
lemma Filed.group_eq_none (h : Filed cache) (hid : guildID ≤ 0 ∨ cache.guildDBID < guildID) :
    cache.roster.group guildID = none := by
  show (cache.getGuildByID guildID).map _ = none
  rw [CacheGuild.getGuildByID, if_neg]
  · rfl
  · intro hmem
    have hlive := h.live guildID hmem
    omega

/-- A player is in no guild that is found if the record names none. -/
lemma inGuild_eq_false_iff : cache.inGuild pid = false ↔ cache.roster.Homeless pid := by
  rw [CacheGuild.inGuild]
  constructor
  · intro hpid guildID hhome
    obtain ⟨memberVO, hmember, rfl⟩ := Option.map_eq_some_iff.mp hhome
    rw [hmember] at hpid
    show (cache.getGuildByID memberVO.guildID).map _ = none
    rw [Option.isSome_eq_false_iff, Option.isNone_iff_eq_none] at hpid
    rw [hpid]
    rfl
  · intro hpid
    cases hmember : cache.getGuildMemberVO pid with
    | none => rfl
    | some memberVO =>
      have hgroup : (cache.getGuildByID memberVO.guildID).map GuildVO.group = none := by
        apply hpid
        show (cache.getGuildMemberVO pid).map _ = _
        rw [hmember]
        rfl
      show (cache.getGuildByID memberVO.guildID).isSome = false
      rw [Option.map_eq_none_iff.mp hgroup]
      rfl

/-- A group of the roster is a guild that is found. -/
lemma group_eq_some {G : Roster.Group ℤ ℤ} :
    cache.roster.group guildID = some G ↔
      ∃ guildVO, cache.getGuildByID guildID = some guildVO ∧ guildVO.group = G :=
  Option.map_eq_some_iff

lemma lookup_of_getGuildByID {guildVO : GuildVO} (h : cache.getGuildByID guildID = some guildVO) :
    cache.guilds.lookup guildID = some guildVO := by
  rw [CacheGuild.getGuildByID] at h
  split at h
  · exact h
  · cases h

lemma mem_of_getGuildByID {guildVO : GuildVO} (h : cache.getGuildByID guildID = some guildVO) :
    guildID ∈ cache.allGuildByID := by
  rw [CacheGuild.getGuildByID] at h
  by_contra hmem
  rw [if_neg hmem] at h
  cases h

/-- A change that concerns neither guilds nor records. -/
lemma advances_of_eq {cache' : CacheGuild} (hcounter : cache'.guildDBID = cache.guildDBID)
    (hguilds : cache'.guilds = cache.guilds) (hlive : cache'.allGuildByID = cache.allGuildByID)
    (hmembers : cache'.allGuildMemberByPID = cache.allGuildMemberByPID) :
    Advances cache cache' := by
  have hroster : cache'.roster = cache.roster := by
    apply Roster.ext
    · funext guildID
      show (cache'.getGuildByID guildID).map _ = (cache.getGuildByID guildID).map _
      rw [CacheGuild.getGuildByID, CacheGuild.getGuildByID, hguilds, hlive]
    · funext pid
      show (cache'.allGuildMemberByPID.lookup pid).map _ =
        (cache.allGuildMemberByPID.lookup pid).map _
      rw [hmembers]
  intro h
  refine ⟨⟨h.filed.of_eq hcounter hguilds hlive hmembers, ?_⟩, ?_⟩
  · rw [hroster]
    exact h.linked
  · rw [hroster]
    exact id

/-- A change of a guild that keeps its owner and the rights. -/
lemma advances_updateGuild {f : GuildVO → GuildVO}
    (hgroup : ∀ guildVO, (f guildVO).group = guildVO.group)
    (hstatus : ∀ guildVO, (f guildVO).status = guildVO.status ∨
      (f guildVO).status ≠ .DISSOLUTION_END ∧ guildID ∈ cache.allGuildByID) :
    Advances cache (cache.updateGuild guildID f) := by
  have hroster := cache.roster_updateGuild hgroup guildID
  intro h
  refine ⟨⟨h.filed.updateGuild hstatus, ?_⟩, ?_⟩
  · rw [hroster]
    exact h.linked
  · rw [hroster]
    exact id

/-- A player in no guild may have none. -/
lemma advances_leaveGuild (hpid : cache.roster.Homeless pid) :
    Advances cache (cache.leaveGuild pid) := by
  intro h
  refine ⟨⟨h.filed.leaveGuild pid, ?_⟩, ?_⟩
  · rw [CacheGuild.roster_leaveGuild]
    apply h.linked.setHome hpid
    intro guildID hhome
    obtain ⟨-, -, rfl⟩ := Option.map_eq_some_iff.mp hhome
    exact h.filed.group_eq_none (Or.inl (by decide))
  · rw [CacheGuild.roster_leaveGuild]
    exact fun hled => hled.setHome pid _

/-- **A player in no guild joins one**, with a level below the highest. -/
lemma advances_join (hpid : cache.roster.Homeless pid) {guildVO : GuildVO}
    (hguild : cache.guilds.lookup guildID = some guildVO) {rightLevel : RightLevel}
    (hlevel : rightLevel ≠ .Level0) :
    Advances cache
      (((cache.setGuildID pid guildID).removeReqs pid).chgRight guildID pid rightLevel) := by
  have hroster : (((cache.setGuildID pid guildID).removeReqs pid).chgRight guildID pid
      rightLevel).roster =
        (cache.roster.setHome pid (some guildID)).setRank guildID pid (some rightLevel.getId) := by
    rw [CacheGuild.roster_chgRight, CacheGuild.roster_removeReqs, CacheGuild.roster_setGuildID]
  intro h
  have hfiled : Filed ((cache.setGuildID pid guildID).removeReqs pid) :=
    (h.filed.setGuildID pid (h.filed.guilds guildID guildVO hguild)).of_eq rfl rfl rfl rfl
  refine ⟨⟨hfiled.chgRight guildID pid rightLevel, ?_⟩, ?_⟩
  · rw [hroster]
    exact h.linked.join hpid _
  · rw [hroster]
    intro hled
    apply (hled.setHome pid (some guildID)).setRank
    · rintro G hG rfl
      have hhead := (hled guildID G hG G.owner).mpr rfl
      rw [h.linked.rank_of_homeless hpid hG] at hhead
      cases hhead
    · intro heq
      apply hlevel
      cases rightLevel with
      | Level0 => rfl
      | _ => exact absurd heq (by decide)

end Changes

end SrgpGame.Guild
