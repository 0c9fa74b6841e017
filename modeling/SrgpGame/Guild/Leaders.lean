import SrgpGame.Lib.Runs
import SrgpGame.Guild.Membership

set_option autoImplicit false

/-!
# Who leads a guild, and who is in it

Each guild is to have exactly one member of the highest level, its owner, and the rights of the
guilds and the records of the players are to agree on who is in a guild.

The first fails in three ways. `modifyRight` compares the new level with that of the caller, and not
the level that the member has: a deputy can demote the owner, and the owner itself. `chgOwner` to
oneself gives the highest level and takes it away again. And `replaceGuildLeader` throws after it
has changed the levels, but before it has changed the owner, if nothing is known of the old one.

The second fails when a demoted owner leaves, who is the owner still: `replaceGuildLeader` gives the
old owner a level without looking whether it is a member.

## Main definitions

* `losesOwner` — the calls that make a guild lose its owner.
* `adoptsLeader` — the calls that make somebody a member who is none.

## Main results

* `owner_led_run` — without the calls of the first kind each guild has exactly one member of the
  highest level, its owner.
* `member_iff_guildID_run` — without those of the second kind the two records of membership agree.
-/

namespace SrgpGame.Guild

open Roster

variable (cfgs : GuildCfgs) (env : Surroundings) (cache : CacheGuild)

/-! ## The calls that go wrong -/

/-- `modifyRight` of the owner of a guild, which passes its checks. -/
def demotesOwner (pvo pid tgtRight : ℤ) : Bool :=
  match checkModifyRight cfgs pvo pid tgtRight cache with
  | .error _ => false
  | .ok (guildID, _) => (cache.getGuildByID guildID).any fun guildVO => guildVO.owner = pid

/-- `chgOwner` to oneself, which passes its checks. -/
def handsOverToSelf (pvo tgtPid : ℤ) : Bool :=
  tgtPid = pvo &&
    match checkChgOwner pvo tgtPid cache with
    | .error _ => false
    | .ok _ => true

/-- The leader of a guild is to be replaced, and nothing is known of it. -/
def stumbles (guildVO : GuildVO) : Bool :=
  (newLeader cfgs env cache guildVO).isSome && (env.lastLoginDay guildVO.owner).isNone

/-- The leader of a guild is to be replaced, and is no member. -/
def adopts (guildVO : GuildVO) : Bool :=
  (newLeader cfgs env cache guildVO).isSome &&
    (guildVO.memberRights.lookup guildVO.owner).isNone

/-- The loop over the guilds comes to a guild whose leader it makes a member. -/
def adoptsIn : List ℤ → Bool
  | [] => false
  | guildID :: guildIDs =>
    match cache.guilds.lookup guildID with
    | none => false
    | some guildVO =>
      adopts cfgs env cache guildVO || (!stumbles cfgs env cache guildVO && adoptsIn guildIDs)

/-- The calls that make a guild lose its owner. -/
def losesOwner (call : Surroundings × Call) : Bool :=
  match call.2 with
  | .modifyRight pvo pid tgtRight => demotesOwner cfgs cache pvo pid tgtRight
  | .chgOwner pvo tgtPid => handsOverToSelf cache pvo tgtPid
  | .replaceGuildLeader =>
    cache.allGuildByID.any fun guildID =>
      (cache.guilds.lookup guildID).any fun guildVO => stumbles cfgs call.1 cache guildVO
  | _ => false

/-- The calls that make somebody a member who is none. -/
def adoptsLeader (call : Surroundings × Call) : Bool :=
  match call.2 with
  | .replaceGuildLeader => adoptsIn cfgs call.1 cache (call.1.order cache.allGuildByID)
  | _ => false

/-! ## Rights -/

section Rights

variable {cfgs cache}

/-- `modifyRight` gives a member a level below the highest. -/
lemma of_checkModifyRight {pvo pid tgtRight guildID : ℤ} {tgtRightLV : RightLevel}
    (h : checkModifyRight cfgs pvo pid tgtRight cache = .ok (guildID, tgtRightLV)) :
    ∃ guildVO, cache.getGuildByID guildID = some guildVO ∧
      (guildVO.memberRights.lookup pid).isSome ∧ tgtRightLV ≠ .Level0 := by
  obtain ⟨⟨guildID', guildVO⟩, hcheck, hrest⟩ := Except.bind_eq_ok.mp h
  obtain ⟨-, hguild, hright⟩ := of_getGuildVOAndCheckRight hcheck
  obtain ⟨level, hlevel, -⟩ := GuildVO.hasRight_iff.mp hright
  obtain ⟨_, hmember, hrest⟩ := Except.bind_eq_ok.mp hrest
  rw [ICode.throwIfTrue_eq_ok] at hmember
  rw [hlevel] at hrest
  obtain ⟨_, hless, hrest⟩ := Except.bind_eq_ok.mp hrest
  rw [ICode.throwIfTrue_eq_ok] at hless
  cases hget : RightLevel.get (max RightLevel.Level3.getId tgtRight) with
  | none =>
    rw [hget] at hrest
    cases hrest
  | some newLevel =>
    rw [hget] at hrest
    obtain ⟨size, -, hrest⟩ := Except.bind_eq_ok.mp hrest
    obtain ⟨_, -, hpure⟩ := Except.bind_eq_ok.mp hrest
    cases hpure
    refine ⟨guildVO, hguild, Option.isSome_iff_ne_none.mpr hmember, ?_⟩
    rintro rfl
    have hid := RightLevel.get_eq_some.mp hget
    have hle := getId_le_head level
    have h101 : RightLevel.Level3.getId = 101 := rfl
    have h104 : RightLevel.Level0.getId = 104 := rfl
    have hhead : head = 104 := rfl
    omega

lemma kept_modifyRight (h : Kept cache) (pvo pid tgtRight : ℤ) :
    Kept ((modifyRight cfgs pvo pid tgtRight).finalState cache) := by
  rw [modifyRight, EStateM.finalState_ofExcept_bind]
  cases hcheck : checkModifyRight cfgs pvo pid tgtRight cache with
  | error e => exact h
  | ok result =>
    obtain ⟨guildID, tgtRightLV⟩ := result
    obtain ⟨guildVO, hguild, hmember, -⟩ := of_checkModifyRight hcheck
    have hhome := (h.linked guildID _ (group_eq_some.mpr ⟨guildVO, hguild, rfl⟩) pid).mp hmember
    refine ⟨h.filed.chgRight guildID pid tgtRightLV, ?_⟩
    show (cache.chgRight guildID pid tgtRightLV).roster.Linked
    rw [CacheGuild.roster_chgRight]
    exact h.linked.setRank hhome _

lemma led_modifyRight (h : cache.roster.Led head) {pvo pid tgtRight : ℤ}
    (hsafe : demotesOwner cfgs cache pvo pid tgtRight = false) :
    ((modifyRight cfgs pvo pid tgtRight).finalState cache).roster.Led head := by
  rw [modifyRight, EStateM.finalState_ofExcept_bind]
  cases hcheck : checkModifyRight cfgs pvo pid tgtRight cache with
  | error e => exact h
  | ok result =>
    obtain ⟨guildID, tgtRightLV⟩ := result
    obtain ⟨guildVO, hguild, -, hlevel⟩ := of_checkModifyRight hcheck
    rw [demotesOwner, hcheck] at hsafe
    dsimp only at hsafe
    rw [hguild, Option.any_some, decide_eq_false_iff_not] at hsafe
    show (cache.chgRight guildID pid tgtRightLV).roster.Led head
    rw [CacheGuild.roster_chgRight]
    apply h.setRank
    · intro G hG
      obtain ⟨guildVO', hguild', rfl⟩ := group_eq_some.mp hG
      rw [hguild] at hguild'
      obtain rfl := Option.some.inj hguild'
      exact Ne.symm hsafe
    · exact fun heq => hlevel (getId_eq_head.mp (Option.some.inj heq))

/-- The owner hands over the guild to a member. -/
lemma of_checkChgOwner {pvo tgtPid guildID : ℤ}
    (h : checkChgOwner pvo tgtPid cache = .ok guildID) :
    cache.homeOf pvo = some guildID ∧ ∃ guildVO, cache.getGuildByID guildID = some guildVO ∧
      guildVO.memberRights.lookup pvo = some head ∧
      (guildVO.memberRights.lookup tgtPid).isSome := by
  obtain ⟨⟨guildID', guildVO⟩, hcheck, hrest⟩ := Except.bind_eq_ok.mp h
  obtain ⟨hhome, hguild, hright⟩ := of_getGuildVOAndCheckRight hcheck
  obtain ⟨level, hlevel, hchange⟩ := GuildVO.hasRight_iff.mp hright
  obtain rfl := RightLevel.haveRight_CHG_OWNER hchange
  obtain ⟨_, hmember, hpure⟩ := Except.bind_eq_ok.mp hrest
  rw [ICode.throwIfTrue_eq_ok] at hmember
  cases hpure
  exact ⟨hhome, guildVO, hguild, hlevel, Option.isSome_iff_ne_none.mpr hmember⟩

/-- What a transfer makes of the roster. -/
lemma roster_transfer (cache : CacheGuild) (guildID old new : ℤ) :
    (((cache.chgRight guildID new .Level0).chgRight guildID old .Level1).setOwner guildID
      new).roster =
      ((cache.roster.setRank guildID new (some head)).setRank guildID old
        (some RightLevel.Level1.getId)).setOwner guildID new := by
  rw [CacheGuild.roster_setOwner, CacheGuild.roster_chgRight, CacheGuild.roster_chgRight]
  rfl

lemma kept_chgOwner (h : Kept cache) (pvo tgtPid : ℤ) :
    Kept ((chgOwner pvo tgtPid).finalState cache) := by
  rw [chgOwner, EStateM.finalState_ofExcept_bind]
  cases hcheck : checkChgOwner pvo tgtPid cache with
  | error e => exact h
  | ok guildID =>
    obtain ⟨hhome, guildVO, hguild, -, hmember⟩ := of_checkChgOwner hcheck
    have hhome' :=
      (h.linked guildID _ (group_eq_some.mpr ⟨guildVO, hguild, rfl⟩) tgtPid).mp hmember
    refine ⟨((h.filed.chgRight guildID tgtPid _).chgRight guildID pvo _).setOwner guildID tgtPid,
      ?_⟩
    show (((cache.chgRight guildID tgtPid .Level0).chgRight guildID pvo .Level1).setOwner guildID
      tgtPid).roster.Linked
    rw [roster_transfer]
    exact ((h.linked.setRank hhome' head).setRank hhome _).setOwner guildID tgtPid

lemma led_chgOwner (h : cache.roster.Led head) {pvo tgtPid : ℤ}
    (hsafe : handsOverToSelf cache pvo tgtPid = false) :
    ((chgOwner pvo tgtPid).finalState cache).roster.Led head := by
  rw [chgOwner, EStateM.finalState_ofExcept_bind]
  cases hcheck : checkChgOwner pvo tgtPid cache with
  | error e => exact h
  | ok guildID =>
    obtain ⟨-, guildVO, hguild, hhead, -⟩ := of_checkChgOwner hcheck
    rw [handsOverToSelf, hcheck, Bool.and_true, decide_eq_false_iff_not] at hsafe
    show (((cache.chgRight guildID tgtPid .Level0).chgRight guildID pvo .Level1).setOwner guildID
      tgtPid).roster.Led head
    rw [roster_transfer]
    apply h.handOver hsafe
    · intro G hG
      obtain ⟨guildVO', hguild', rfl⟩ := group_eq_some.mp hG
      rw [hguild] at hguild'
      obtain rfl := Option.some.inj hguild'
      exact ((h guildID _ hG pvo).mp hhead).symm
    · decide

end Rights

/-! ## Leaders -/

section Leaders

variable {cfgs env}

/-- A round finds the member, if online not long ago, or leaves it at the one found before. -/
lemma betterLeader_cases (cache : CacheGuild) (found : Option ℤ) (pid : ℤ) :
    betterLeader cfgs env cache found pid = found ∨
      betterLeader cfgs env cache found pid = some pid ∧
        ∃ day, env.lastLoginDay pid = some day ∧ day < cfgs.leaderOfflineReplace := by
  unfold betterLeader
  split
  · exact .inl rfl
  · cases hday : env.lastLoginDay pid with
    | none => exact .inl rfl
    | some day =>
      dsimp only
      split
      · exact .inl rfl
      · next hlt =>
        have hrecent : ∃ day', some day = some day' ∧ day' < cfgs.leaderOfflineReplace :=
          ⟨day, rfl, not_le.mp hlt⟩
        split
        · exact .inr ⟨rfl, hrecent⟩
        · split
          · exact .inr ⟨rfl, hrecent⟩
          · exact .inl rfl

/-- The new leader was online not long ago. -/
lemma of_getReplaceGuildLeaderMember {cache : CacheGuild} {guildVO : GuildVO} {pid : ℤ}
    (h : getReplaceGuildLeaderMember cfgs env cache guildVO = some pid) :
    (guildVO.memberRights.lookup pid).isSome ∧
      ∃ day, env.lastLoginDay pid = some day ∧ day < cfgs.leaderOfflineReplace := by
  have hfold : ∀ (pids : List ℤ) (found : Option ℤ),
      pids.foldl (betterLeader cfgs env cache) found = some pid →
        found = some pid ∨ pid ∈ pids ∧
          ∃ day, env.lastLoginDay pid = some day ∧ day < cfgs.leaderOfflineReplace := by
    intro pids
    induction pids with
    | nil => exact fun found hfound => .inl hfound
    | cons pid' pids ih =>
      intro found hfound
      rcases ih _ hfound with hhere | ⟨hmem, hday⟩
      · rcases betterLeader_cases cache found pid' with hsame | ⟨hnew, hday⟩
        · exact .inl (hsame.symm.trans hhere)
        · obtain rfl := Option.some.inj (hnew.symm.trans hhere)
          exact .inr ⟨List.mem_cons_self, hday⟩
      · exact .inr ⟨List.mem_cons_of_mem _ hmem, hday⟩
  rcases hfold _ none h with hnone | ⟨hmem, hday⟩
  · cases hnone
  · have hkey := (env.order_perm _).mem_iff.mp hmem
    exact ⟨AList.lookup_isSome.mpr (AList.mem_keys.mpr hkey), hday⟩

/-- A leader is replaced by another member. -/
lemma of_newLeader {cache : CacheGuild} {guildVO : GuildVO} {pid : ℤ}
    (h : newLeader cfgs env cache guildVO = some pid) :
    (guildVO.memberRights.lookup pid).isSome ∧ pid ≠ guildVO.owner := by
  rw [newLeader] at h
  split at h
  · cases h
  · next hkeeps =>
    obtain ⟨hmember, day, hday, hlt⟩ := of_getReplaceGuildLeaderMember h
    refine ⟨hmember, ?_⟩
    rintro rfl
    apply hkeeps
    rw [keepsLeader, hday]
    simp [hlt]

variable (cfgs env)

/-- What a round of the loop does with a guild. -/
lemma run_replaceLeader {cache : CacheGuild} {guildID : ℤ} {guildVO : GuildVO}
    (hguild : cache.guilds.lookup guildID = some guildVO) :
    (replaceLeader cfgs env guildID).run cache =
      match newLeader cfgs env cache guildVO with
      | none => .ok () cache
      | some pid =>
        if (env.lastLoginDay guildVO.owner).isSome then
          .ok () (((cache.chgRight guildID pid .Level0).chgRight guildID guildVO.owner
            .Level1).setOwner guildID pid)
        else
          .error .nullPointer
            ((cache.chgRight guildID pid .Level0).chgRight guildID guildVO.owner .Level1) := by
  have hget : getGuild guildID cache = .ok guildVO := (getGuild_eq_ok cache).mpr hguild
  rw [replaceLeader, EStateM.run_bind, EStateM.run_ofExcept, hget]
  show EStateM.run (match newLeader cfgs env cache guildVO with
    | none => _
    | some pid => _) cache = _
  cases newLeader cfgs env cache guildVO with
  | none => rfl
  | some pid =>
    show EStateM.run (EStateM.ofExcept _ >>= _)
      ((cache.chgRight guildID pid .Level0).chgRight guildID guildVO.owner .Level1) = _
    rw [EStateM.run_bind, EStateM.run_ofExcept]
    by_cases hknown : (env.lastLoginDay guildVO.owner).isSome
    · simp only [if_pos hknown]
      rfl
    · simp only [if_neg hknown]

/-- A round for a guild that is not found. -/
lemma run_replaceLeader_of_none {cache : CacheGuild} {guildID : ℤ}
    (hguild : cache.guilds.lookup guildID = none) :
    (replaceLeader cfgs env guildID).run cache = .error .nullPointer cache := by
  have hget : getGuild guildID cache = .error .nullPointer := by
    rw [getGuild, hguild]
  rw [replaceLeader, EStateM.run_bind, EStateM.run_ofExcept, hget]

/-- What the loop has not changed yet. -/
structure Untouched (cache cache' : CacheGuild) (guildIDs : List ℤ) : Prop where
  members : cache'.allGuildMemberByPID = cache.allGuildMemberByPID
  live : cache'.allGuildByID = cache.allGuildByID
  guilds : ∀ guildID ∈ guildIDs, cache'.guilds.lookup guildID = cache.guilds.lookup guildID

variable {cfgs env}

lemma updateGuild_eq (cache : CacheGuild) (guildID : ℤ) (f : GuildVO → GuildVO) :
    (cache.updateGuild guildID f).allGuildMemberByPID = cache.allGuildMemberByPID ∧
      (cache.updateGuild guildID f).allGuildByID = cache.allGuildByID ∧
      ∀ guildID', guildID' ≠ guildID →
        (cache.updateGuild guildID f).guilds.lookup guildID' = cache.guilds.lookup guildID' := by
  unfold CacheGuild.updateGuild
  split
  · exact ⟨rfl, rfl, fun _ _ => rfl⟩
  · exact ⟨rfl, rfl, fun guildID' hne => AList.lookup_insert_ne hne⟩

/-- A change of a guild does not concern the others. -/
lemma Untouched.updateGuild {cache cache' : CacheGuild} {guildIDs : List ℤ}
    (h : Untouched cache cache' guildIDs) {guildID : ℤ} (hguildID : guildID ∉ guildIDs)
    (f : GuildVO → GuildVO) : Untouched cache (cache'.updateGuild guildID f) guildIDs := by
  obtain ⟨hmembers, hlive, hguilds⟩ := updateGuild_eq cache' guildID f
  refine ⟨hmembers.trans h.members, hlive.trans h.live, fun guildID' hmem => ?_⟩
  rw [hguilds guildID' fun heq => hguildID (heq ▸ hmem)]
  exact h.guilds guildID' hmem

lemma Untouched.tail {cache cache' : CacheGuild} {guildID : ℤ} {guildIDs : List ℤ}
    (h : Untouched cache cache' (guildID :: guildIDs)) : Untouched cache cache' guildIDs :=
  ⟨h.members, h.live, fun guildID' hmem => h.guilds guildID' (List.mem_cons_of_mem _ hmem)⟩

/-- The change of a leader does not concern the other guilds. -/
lemma Untouched.transfer {cache cache' : CacheGuild} {guildID : ℤ} {guildIDs : List ℤ}
    (h : Untouched cache cache' (guildID :: guildIDs)) (hguildID : guildID ∉ guildIDs)
    (old new : ℤ) :
    Untouched cache (((cache'.chgRight guildID new .Level0).chgRight guildID old
      .Level1).setOwner guildID new) guildIDs :=
  ((h.tail.updateGuild hguildID _).updateGuild hguildID _).updateGuild hguildID _

/-- Who becomes leader depends on the records only. -/
lemma newLeader_congr {cache cache' : CacheGuild}
    (h : cache'.allGuildMemberByPID = cache.allGuildMemberByPID) (guildVO : GuildVO) :
    newLeader cfgs env cache' guildVO = newLeader cfgs env cache guildVO := by
  unfold newLeader getReplaceGuildLeaderMember
  have hbetter : betterLeader cfgs env cache' = betterLeader cfgs env cache := by
    funext found pid
    unfold betterLeader CacheGuild.getGuildMemberVO
    rw [h]
  rw [hbetter]

/-- **The loop keeps the records of membership in step**, if no leader that it replaces is not a
member. -/
lemma kept_each_replaceLeader {cache cache' : CacheGuild} {guildIDs : List ℤ} (h : Kept cache')
    (huntouched : Untouched cache cache' guildIDs) (hnodup : guildIDs.Nodup)
    (hlive : ∀ guildID ∈ guildIDs, guildID ∈ cache.allGuildByID)
    (hsafe : adoptsIn cfgs env cache guildIDs = false) :
    Kept ((EStateM.each (replaceLeader cfgs env) guildIDs).finalState cache') := by
  induction guildIDs generalizing cache' with
  | nil => exact h
  | cons guildID guildIDs ih =>
    obtain ⟨hnotin, hnodup⟩ := List.nodup_cons.mp hnodup
    obtain ⟨hmem, hlive⟩ := List.forall_mem_cons.mp hlive
    have hlookup := huntouched.guilds guildID List.mem_cons_self
    rw [EStateM.each, EStateM.finalState_bind]
    cases hguild : cache.guilds.lookup guildID with
    | none =>
      rw [run_replaceLeader_of_none cfgs env (hlookup.trans hguild)]
      exact h
    | some guildVO =>
      rw [hguild] at hlookup
      rw [adoptsIn, hguild] at hsafe
      dsimp only at hsafe
      rw [Bool.or_eq_false_iff, adopts, stumbles] at hsafe
      rw [run_replaceLeader cfgs env hlookup, newLeader_congr huntouched.members]
      cases hnew : newLeader cfgs env cache guildVO with
      | none =>
        rw [hnew] at hsafe
        exact ih h huntouched.tail hnodup hlive (by simpa using hsafe.2)
      | some pid =>
        rw [hnew] at hsafe
        have hfound : cache'.getGuildByID guildID = some guildVO := by
          rw [CacheGuild.getGuildByID, huntouched.live, if_pos hmem, hlookup]
        have hlinked := h.linked guildID _ (group_eq_some.mpr ⟨guildVO, hfound, rfl⟩)
        have hhome : cache'.homeOf pid = some guildID := (hlinked pid).mp (of_newLeader hnew).1
        have hhome' : cache'.homeOf guildVO.owner = some guildID := by
          apply (hlinked guildVO.owner).mp
          show (guildVO.memberRights.lookup guildVO.owner).isSome
          simpa using hsafe.1
        have hkept : Kept ((cache'.chgRight guildID pid .Level0).chgRight guildID guildVO.owner
            .Level1) := by
          refine ⟨(h.filed.chgRight _ _ _).chgRight _ _ _, ?_⟩
          rw [CacheGuild.roster_chgRight, CacheGuild.roster_chgRight]
          exact (h.linked.setRank hhome _).setRank hhome' _
        by_cases hknown : (env.lastLoginDay guildVO.owner).isSome
        · simp only [if_pos hknown]
          have hkept' : Kept (((cache'.chgRight guildID pid .Level0).chgRight guildID
              guildVO.owner .Level1).setOwner guildID pid) := by
            refine ⟨hkept.filed.setOwner _ _, ?_⟩
            rw [CacheGuild.roster_setOwner]
            exact hkept.linked.setOwner _ _
          refine ih hkept' (huntouched.transfer hnotin _ _) hnodup hlive ?_
          have hstumbles := Option.isNone_eq_false_iff.mpr hknown
          simpa [hstumbles] using hsafe.2
        · simp only [if_neg hknown]
          exact hkept

/-- **The loop keeps the owners**, if something is known of each leader that it replaces. -/
lemma led_each_replaceLeader {cache cache' : CacheGuild} {guildIDs : List ℤ}
    (h : cache'.roster.Led head) (huntouched : Untouched cache cache' guildIDs)
    (hnodup : guildIDs.Nodup) (hlive : ∀ guildID ∈ guildIDs, guildID ∈ cache.allGuildByID)
    (hsafe : ∀ guildID ∈ guildIDs, ∀ guildVO, cache.guilds.lookup guildID = some guildVO →
      stumbles cfgs env cache guildVO = false) :
    ((EStateM.each (replaceLeader cfgs env) guildIDs).finalState cache').roster.Led head := by
  induction guildIDs generalizing cache' with
  | nil => exact h
  | cons guildID guildIDs ih =>
    obtain ⟨hnotin, hnodup⟩ := List.nodup_cons.mp hnodup
    obtain ⟨hmem, hlive⟩ := List.forall_mem_cons.mp hlive
    obtain ⟨hhere, hsafe⟩ := List.forall_mem_cons.mp hsafe
    have hlookup := huntouched.guilds guildID List.mem_cons_self
    rw [EStateM.each, EStateM.finalState_bind]
    cases hguild : cache.guilds.lookup guildID with
    | none =>
      rw [run_replaceLeader_of_none cfgs env (hlookup.trans hguild)]
      exact h
    | some guildVO =>
      rw [hguild] at hlookup
      have hstumbles := hhere guildVO hguild
      rw [stumbles] at hstumbles
      rw [run_replaceLeader cfgs env hlookup, newLeader_congr huntouched.members]
      cases hnew : newLeader cfgs env cache guildVO with
      | none => exact ih h huntouched.tail hnodup hlive hsafe
      | some pid =>
        rw [hnew] at hstumbles
        have hknown : (env.lastLoginDay guildVO.owner).isSome = true := by
          simpa using hstumbles
        dsimp only
        rw [if_pos hknown]
        refine ih ?_ (huntouched.transfer hnotin _ _) hnodup hlive hsafe
        rw [roster_transfer]
        apply h.handOver (of_newLeader hnew).2
        · intro G hG
          obtain ⟨guildVO', hguild', rfl⟩ := group_eq_some.mp hG
          have heq := (lookup_of_getGuildByID hguild').symm.trans hlookup
          rw [Option.some.inj heq]
          rfl
        · decide

end Leaders

/-! ## Steps and runs -/

section Runs

variable {cache}

/-- An owner who leads a guild is a member. -/
lemma adoptsIn_eq_false (hled : cache.roster.Led head) {guildIDs : List ℤ}
    (hlive : ∀ guildID ∈ guildIDs, guildID ∈ cache.allGuildByID) :
    adoptsIn cfgs env cache guildIDs = false := by
  induction guildIDs with
  | nil => rfl
  | cons guildID guildIDs ih =>
    obtain ⟨hmem, hlive⟩ := List.forall_mem_cons.mp hlive
    rw [adoptsIn]
    cases hguild : cache.guilds.lookup guildID with
    | none => rfl
    | some guildVO =>
      have hfound : cache.getGuildByID guildID = some guildVO := by
        rw [CacheGuild.getGuildByID, if_pos hmem, hguild]
      have howner : guildVO.memberRights.lookup guildVO.owner = some head :=
        (hled guildID _ (group_eq_some.mpr ⟨guildVO, hfound, rfl⟩) guildVO.owner).mpr rfl
      have hadopts : adopts cfgs env cache guildVO = false := by
        rw [adopts, howner]
        exact Bool.and_false _
      dsimp only
      rw [hadopts, ih hlive, Bool.and_false]
      rfl

/-- The guilds in the order of the loop. -/
lemma order_live (h : Kept cache) (env : Surroundings) :
    (env.order cache.allGuildByID).Nodup ∧
      ∀ guildID ∈ env.order cache.allGuildByID, guildID ∈ cache.allGuildByID :=
  ⟨(env.order_perm _).nodup_iff.mpr h.filed.nodup,
    fun _ hmem => (env.order_perm _).mem_iff.mp hmem⟩

lemma finalState_replaceGuildLeader :
    (replaceGuildLeader cfgs env).finalState cache =
      (EStateM.each (replaceLeader cfgs env) (env.order cache.allGuildByID)).finalState cache := rfl

/-- **A call keeps the records of membership in step**, if it makes nobody a member who is none. -/
theorem kept_step (h : Kept cache) {call : Surroundings × Call}
    (hsafe : adoptsLeader cfgs cache call = false) : Kept (step cfgs cache call) := by
  obtain ⟨env, call⟩ := call
  cases call with
  | createGuild pvo needReq checked =>
    exact (advances_createGuild cfgs env cache pvo needReq checked h).1
  | joinGuild pvo guildID => exact (advances_joinGuild cfgs env cache pvo guildID h).1
  | acceptPlayerJoinGuild pvo pid accept =>
    exact (advances_acceptPlayerJoinGuild cfgs env cache pvo pid accept h).1
  | modifyRight pvo pid tgtRight => exact kept_modifyRight h pvo pid tgtRight
  | chgOwner pvo tgtPid => exact kept_chgOwner h pvo tgtPid
  | outGuild pvo pid => exact (advances_outGuild cfgs env cache pvo pid h).1
  | dissolutionGuild pvo => exact ((announced_dissolutionGuild cfgs env cache pvo).advances h).1
  | cancelDissolutionGuild pvo => exact ((announced_cancelDissolutionGuild cache pvo).advances h).1
  | innerDissolutionGuild guildIDs => exact (advances_innerDissolutionGuild cache guildIDs h).1
  | replaceGuildLeader =>
    show Kept ((replaceGuildLeader cfgs env).finalState cache)
    rw [finalState_replaceGuildLeader]
    obtain ⟨hnodup, hlive⟩ := order_live h env
    exact kept_each_replaceLeader h ⟨rfl, rfl, fun _ _ => rfl⟩ hnodup hlive hsafe
  | buildAsLoad pid => exact (advances_buildAsLoad cfgs env cache pid h).1
  | enterGame pid => exact (advances_enterGame cache pid h).1
  | modifyNeedReqStatus pvo need => exact (advances_modifyNeedReqStatus cache pvo need h).1
  | addGuildExp guildID exp => exact (advances_addGuildExp cfgs cache guildID exp h).1

/-- **A call keeps the owners**, if it makes no guild lose its own. -/
theorem led_step (h : Kept cache) (hled : cache.roster.Led head) {call : Surroundings × Call}
    (hsafe : losesOwner cfgs cache call = false) :
    Kept (step cfgs cache call) ∧ (step cfgs cache call).roster.Led head := by
  have hadopts : adoptsLeader cfgs cache call = false := by
    unfold adoptsLeader
    split
    · exact adoptsIn_eq_false cfgs call.1 hled (order_live h call.1).2
    · rfl
  refine ⟨kept_step cfgs h hadopts, ?_⟩
  obtain ⟨env, call⟩ := call
  cases call with
  | createGuild pvo needReq checked =>
    exact (advances_createGuild cfgs env cache pvo needReq checked h).2 hled
  | joinGuild pvo guildID => exact (advances_joinGuild cfgs env cache pvo guildID h).2 hled
  | acceptPlayerJoinGuild pvo pid accept =>
    exact (advances_acceptPlayerJoinGuild cfgs env cache pvo pid accept h).2 hled
  | modifyRight pvo pid tgtRight => exact led_modifyRight hled hsafe
  | chgOwner pvo tgtPid => exact led_chgOwner hled hsafe
  | outGuild pvo pid => exact (advances_outGuild cfgs env cache pvo pid h).2 hled
  | dissolutionGuild pvo =>
    exact ((announced_dissolutionGuild cfgs env cache pvo).advances h).2 hled
  | cancelDissolutionGuild pvo =>
    exact ((announced_cancelDissolutionGuild cache pvo).advances h).2 hled
  | innerDissolutionGuild guildIDs =>
    exact (advances_innerDissolutionGuild cache guildIDs h).2 hled
  | replaceGuildLeader =>
    show ((replaceGuildLeader cfgs env).finalState cache).roster.Led head
    rw [finalState_replaceGuildLeader]
    obtain ⟨hnodup, hlive⟩ := order_live h env
    refine led_each_replaceLeader hled ⟨rfl, rfl, fun _ _ => rfl⟩ hnodup hlive ?_
    intro guildID hmem guildVO hguild
    have hnone := List.any_eq_false.mp hsafe guildID (hlive guildID hmem)
    rw [hguild, Option.any_some, Bool.not_eq_true] at hnone
    exact hnone
  | buildAsLoad pid => exact (advances_buildAsLoad cfgs env cache pid h).2 hled
  | enterGame pid => exact (advances_enterGame cache pid h).2 hled
  | modifyNeedReqStatus pvo need => exact (advances_modifyNeedReqStatus cache pvo need h).2 hled
  | addGuildExp guildID exp => exact (advances_addGuildExp cfgs cache guildID exp h).2 hled

/-- At the start there are no guilds. -/
lemma kept_start {guildDBID : ℤ} (hid : 0 ≤ guildDBID) : Kept (start guildDBID) := by
  refine ⟨⟨hid, ?_, List.nodup_nil, ?_, ?_, ?_, ?_⟩, ?_⟩
  · exact fun guildID hmem => absurd hmem List.not_mem_nil
  · intro guildID guildVO hguild
    cases hguild
  · intro pid guildID hhome
    cases hhome
  · intro guildID guildVO hguild
    cases hguild
  · intro guildID guildVO hguild
    cases hguild
  · intro guildID G hG
    cases hG

lemma led_start (guildDBID : ℤ) : (start guildDBID).roster.Led head := by
  intro guildID G hG
  cases hG

/-- Small tables. -/
def smallCfgs : GuildCfgs where
  maxMemberSize := [10, 10]
  rightLevel2MemberSize := [5]
  rightLevel1MemberSize := [5]
  leaderOfflineReplace := 3
  guildLVCfg := []
  enterGuildCD := 24
  dissolutionCD := 24

/-- Everybody is online, except for one player, whose last login was ten days ago. -/
def without (pid : ℤ) : Surroundings where
  now := 0
  loaded _ := true
  online pid' := pid' ≠ pid
  lastLoginDay pid' := if pid' = pid then some 10 else some 0
  historyGuildCoin _ := 0
  random := 0
  order := id
  order_perm _ := .rfl

/-- Player 1 creates a guild, player 2 joins it and becomes a deputy. -/
def deputy : List (Surroundings × Call) :=
  [(without 0, .createGuild 1 false (.ok ())), (without 0, .joinGuild 2 1),
    (without 0, .modifyRight 1 2 103)]

/-- The guild changes hands twice, and the first owner leaves it. -/
def handedOver : List (Surroundings × Call) :=
  deputy ++ [(without 0, .chgOwner 1 2), (without 2, .replaceGuildLeader),
    (without 0, .chgOwner 1 2), (without 0, .outGuild 1 1)]

/-- **Each guild is led by its owner.** In every run in which no owner is demoted by `modifyRight`,
nobody hands over a guild to itself, and no leader is replaced of whom nothing is known, each guild
has exactly one member of the highest level, its owner. -/
theorem owner_led_run {guildDBID : ℤ} (hid : 0 ≤ guildDBID) {calls : List (Surroundings × Call)}
    (hsafe : Runs.EveryStep (step cfgs) (fun cache call => losesOwner cfgs cache call = false)
      (start guildDBID) calls)
    {guildID : ℤ} {guildVO : GuildVO}
    (hguild : (Runs.run (step cfgs) (start guildDBID) calls).getGuildByID guildID = some guildVO)
    (pid : ℤ) :
    guildVO.memberRights.lookup pid = some RightLevel.Level0.getId ↔ pid = guildVO.owner := by
  have hinv : Kept (Runs.run (step cfgs) (start guildDBID) calls) ∧
      (Runs.run (step cfgs) (start guildDBID) calls).roster.Led head :=
    Runs.state_inv_run (fun cache => Kept cache ∧ cache.roster.Led head)
      (fun cache call h hsafe => led_step cfgs h.1 h.2 hsafe)
      ⟨kept_start hid, led_start guildDBID⟩ hsafe
  exact hinv.2 guildID _ (group_eq_some.mpr ⟨guildVO, hguild, rfl⟩) pid

/-- When a guild was handed over, player 2 leads it just if he owns it. -/
theorem owner_led_handedOver :
    ∃ guildVO,
      (Runs.run (step smallCfgs) (start 0) handedOver).getGuildByID 1 = some guildVO ∧
        (guildVO.memberRights.lookup 2 = some RightLevel.Level0.getId ↔ 2 = guildVO.owner) := by
  have hfound : ((Runs.run (step smallCfgs) (start 0) handedOver).getGuildByID 1).isSome := by
    decide
  obtain ⟨guildVO, hguild⟩ := Option.isSome_iff_exists.mp hfound
  exact ⟨guildVO, hguild, owner_led_run smallCfgs le_rfl (by decide) hguild 2⟩

/-- A deputy demotes the owner. -/
theorem deputy_demotes_owner :
    ¬∀ (cfgs : GuildCfgs) (calls : List (Surroundings × Call)) (guildID : ℤ) (guildVO : GuildVO),
      (Runs.run (step cfgs) (start 0) calls).getGuildByID guildID = some guildVO →
      ∀ pid, guildVO.memberRights.lookup pid = some RightLevel.Level0.getId ↔
        pid = guildVO.owner := by
  intro h
  have hresult : ((Runs.run (step smallCfgs) (start 0)
      (deputy ++ [(without 0, .modifyRight 2 1 101)])).getGuildByID 1).map (fun guildVO =>
        guildVO.memberRights.lookup guildVO.owner) = some (some 101) := by decide
  obtain ⟨guildVO, hguild, hright⟩ := Option.map_eq_some_iff.mp hresult
  have howner := (h smallCfgs _ 1 guildVO hguild guildVO.owner).mpr rfl
  rw [hright] at howner
  exact absurd howner (by decide)

/-- **The two records of membership agree.** In every run in which no leader is replaced who has
left the guild, a player has rights in a guild if and only if the player's record names it. So
nobody is a member of two guilds. -/
theorem member_iff_guildID_run {guildDBID : ℤ} (hid : 0 ≤ guildDBID)
    {calls : List (Surroundings × Call)}
    (hsafe : Runs.EveryStep (step cfgs) (fun cache call => adoptsLeader cfgs cache call = false)
      (start guildDBID) calls) :
    (∀ guildID guildVO,
      (Runs.run (step cfgs) (start guildDBID) calls).getGuildByID guildID = some guildVO →
      ∀ pid, pid ∈ guildVO.memberRights ↔
        (Runs.run (step cfgs) (start guildDBID) calls).homeOf pid = some guildID) ∧
    ∀ guildID guildID' guildVO guildVO' pid,
      (Runs.run (step cfgs) (start guildDBID) calls).getGuildByID guildID = some guildVO →
      (Runs.run (step cfgs) (start guildDBID) calls).getGuildByID guildID' = some guildVO' →
      pid ∈ guildVO.memberRights → pid ∈ guildVO'.memberRights → guildID = guildID' := by
  have hinv : Kept (Runs.run (step cfgs) (start guildDBID) calls) :=
    Runs.state_inv_run Kept (fun cache call h hsafe => kept_step cfgs h hsafe) (kept_start hid)
      hsafe
  refine ⟨fun guildID guildVO hguild pid => ?_, ?_⟩
  · rw [← AList.lookup_isSome]
    exact hinv.linked guildID _ (group_eq_some.mpr ⟨guildVO, hguild, rfl⟩) pid
  · intro guildID guildID' guildVO guildVO' pid hguild hguild' hpid hpid'
    exact hinv.linked.unique (group_eq_some.mpr ⟨guildVO, hguild, rfl⟩)
      (group_eq_some.mpr ⟨guildVO', hguild', rfl⟩) (AList.lookup_isSome.mpr hpid)
      (AList.lookup_isSome.mpr hpid')

/-- When a guild was handed over, both records agree on its members. -/
theorem member_iff_guildID_handedOver :
    (∀ guildID guildVO,
      (Runs.run (step smallCfgs) (start 0) handedOver).getGuildByID guildID = some guildVO →
      ∀ pid, pid ∈ guildVO.memberRights ↔
        (Runs.run (step smallCfgs) (start 0) handedOver).homeOf pid = some guildID) ∧
    ∀ guildID guildID' guildVO guildVO' pid,
      (Runs.run (step smallCfgs) (start 0) handedOver).getGuildByID guildID = some guildVO →
      (Runs.run (step smallCfgs) (start 0) handedOver).getGuildByID guildID' = some guildVO' →
      pid ∈ guildVO.memberRights → pid ∈ guildVO'.memberRights → guildID = guildID' :=
  member_iff_guildID_run smallCfgs le_rfl (by decide)

/-- A demoted owner leaves, and gets a level when the leader is replaced. -/
theorem owner_left_and_adopted :
    ¬∀ (cfgs : GuildCfgs) (calls : List (Surroundings × Call)) (guildID : ℤ) (guildVO : GuildVO),
      (Runs.run (step cfgs) (start 0) calls).getGuildByID guildID = some guildVO →
      ∀ pid, pid ∈ guildVO.memberRights ↔
        (Runs.run (step cfgs) (start 0) calls).homeOf pid = some guildID := by
  intro h
  let calls := deputy ++ [(without 0, .modifyRight 2 1 101), (without 0, .outGuild 1 1),
    (without 1, .replaceGuildLeader)]
  have hresult : ((Runs.run (step smallCfgs) (start 0) calls).getGuildByID 1).map (fun guildVO =>
      (guildVO.memberRights.lookup 1).isSome) = some true := by decide
  obtain ⟨guildVO, hguild, hright⟩ := Option.map_eq_some_iff.mp hresult
  have hhome := (h smallCfgs calls 1 guildVO hguild 1).mp (AList.lookup_isSome.mp hright)
  revert hhome
  decide

end Runs

end SrgpGame.Guild
