import SrgpGame.Guild.Changes

set_option autoImplicit false

/-!
# How many members a guild has, and how many of them are officers

The tables say how many members a guild of a level may have, and how many of them may be at the two
levels below the highest.

A player joins only a guild that is not full, and `modifyRight` counts the officers before it makes
another. But a transfer gives the old leader the level of a deputy without counting the deputies;
and `replaceGuildLeader` gives it to the old leader even if that is no member any more, so that a
full guild gets one more.

## Main definitions

* `Operation`, `perform` — a call or an invitation, and the guilds after it.
* `Fits`, `WithinQuotas` — a guild has as many members and officers as the tables allow.
* `overfills`, `exceedsQuota` — the operations that add a member to a full guild, and those that
  make a deputy too many.

## Main results

* `fits_run_iff` — no guild has too many members if and only if no operation overfills one.
* `withinQuotas_run_iff` — no guild has too many officers if and only if no operation exceeds a
  quota.
-/

namespace SrgpGame.Guild

/-! ## Operations -/

/-- A call, or an invitation. -/
inductive Operation where
  | call (env : Surroundings) (call : Call)
  | invitePlayerJoin (env : Surroundings) (pvo pid : ℤ)

variable (cfgs : GuildCfgs)

/-- The guilds after an operation. -/
def perform (cache : CacheGuild) : Operation → CacheGuild
  | .call env call => step cfgs cache (env, call)
  | .invitePlayerJoin env pvo pid => (Guild.invitePlayerJoin env pvo pid).finalState cache

/-- An invitation changes nothing that the methods read. -/
lemma perform_invitePlayerJoin (cache : CacheGuild) (env : Surroundings) (pvo pid : ℤ) :
    perform cfgs cache (.invitePlayerJoin env pvo pid) = cache := by
  rw [perform, Guild.invitePlayerJoin, EStateM.finalState_ofExcept_bind]
  split
  · exact EStateM.finalState_ofExcept _ _
  · rfl

/-! ## The limits -/

/-- A guild has at most as many members as its level allows. -/
def Fits (guildVO : GuildVO) : Prop :=
  ∀ maxMemberSize, dataAt cfgs.maxMemberSize guildVO.level.toInt = .ok maxMemberSize →
    (guildVO.memberRights.keys.length : ℤ) ≤ maxMemberSize

/-- A guild has at most as many members of a level as its own level allows; no number that is
positive is no limit. -/
def WithinQuotas (guildVO : GuildVO) : Prop :=
  ∀ (rightLevel : RightLevel) (size : ℤ), levelSize cfgs guildVO.level.toInt rightLevel = .ok size →
    0 < size → (guildVO.memberRights.values.count rightLevel.getId : ℤ) ≤ size

/-- Levels are integers of the machine: a guild goes up from a level below zero to the level zero,
which allows fewer members. -/
def wraps (guildVO : GuildVO) (exp : Int32) : Bool :=
  (addExp cfgs guildVO exp).level == 0 &&
    match dataAt cfgs.maxMemberSize 0 with
    | .error _ => false
    | .ok maxMemberSize => maxMemberSize < guildVO.memberRights.keys.length

/-- An operation makes somebody a member of a guild that is full: the founder of a guild, or an old
leader who has left it. Or a level wraps. -/
def overfills (cache : CacheGuild) : Operation → Bool
  | .call _ (.createGuild pvo needReq checked) =>
    !cache.inGuild pvo && checked.toBool &&
      decide (isMaxSize cfgs (newGuildVO pvo needReq) = .ok true)
  | .call env .replaceGuildLeader =>
    (reached cfgs env cache (env.order cache.allGuildByID)).any fun guildID =>
      (cache.guilds.lookup guildID).any fun guildVO =>
        adopts cfgs env cache guildVO && decide (isMaxSize cfgs guildVO = .ok true)
  | .call _ (.addGuildExp guildID exp) =>
    (cache.guilds.lookup guildID).any fun guildVO => wraps cfgs guildVO exp
  | _ => false

/-- The deputies of a guild besides two of its members. -/
def deputiesBesides (guildVO : GuildVO) (old new : ℤ) : ℕ :=
  ((guildVO.memberRights.erase new).erase old).values.count RightLevel.Level1.getId

/-- A guild has no room for an old leader as a deputy, also when the new one was a deputy. -/
def crowded (guildVO : GuildVO) (old new : ℤ) : Bool :=
  match levelSize cfgs guildVO.level.toInt .Level1 with
  | .error _ => false
  | .ok size => 0 < size && size ≤ deputiesBesides guildVO old new

/-- A guild of a level has a limit for a level of members. -/
def limited (level : Int32) (rightLevel : RightLevel) : Bool :=
  match levelSize cfgs level.toInt rightLevel with
  | .error _ => false
  | .ok size => 0 < size

/-- A guild that goes up a level had no limit for a level of members, and has more than the limit
that it gets. -/
def outgrows (guildVO : GuildVO) (exp : Int32) : Bool :=
  [RightLevel.Level1, .Level2].any fun rightLevel =>
    !limited cfgs guildVO.level rightLevel &&
      match levelSize cfgs (addExp cfgs guildVO exp).level.toInt rightLevel with
      | .error _ => false
      | .ok size => 0 < size && size < guildVO.memberRights.values.count rightLevel.getId

/-- An operation makes an old leader a deputy of a guild that has as many as it may have, or gives a
guild a limit that it is above. -/
def exceedsQuota (cache : CacheGuild) : Operation → Bool
  | .call _ (.chgOwner pvo tgtPid) =>
    match checkChgOwner pvo tgtPid cache with
    | .error _ => false
    | .ok guildID =>
      (cache.guilds.lookup guildID).any fun guildVO => crowded cfgs guildVO pvo tgtPid
  | .call env .replaceGuildLeader =>
    (reached cfgs env cache (env.order cache.allGuildByID)).any fun guildID =>
      (cache.guilds.lookup guildID).any fun guildVO =>
        (newLeader cfgs env cache guildVO).any fun pid => crowded cfgs guildVO guildVO.owner pid
  | .call _ (.addGuildExp guildID exp) =>
    (cache.guilds.lookup guildID).any fun guildVO => outgrows cfgs guildVO exp
  | _ => false

/-! ## Levels -/

section Levels

variable {cfgs} {guildVO : GuildVO}

lemma dataAt_eq_ok {data : List ℤ} {index value : ℤ} :
    dataAt data index = .ok value ↔ 0 ≤ index ∧ data[index.toNat]? = some value := by
  rw [dataAt]
  by_cases hneg : index < 0
  · rw [if_pos hneg]
    exact iff_of_false (fun h => by cases h) fun h => absurd hneg (not_lt.mpr h.1)
  · rw [if_neg hneg, and_iff_right (not_lt.mp hneg)]
    cases data[index.toNat]? with
    | none => exact iff_of_false (fun h => by cases h) fun h => by cases h
    | some value' => exact ⟨fun h => congrArg some (Except.ok.inj h),
        fun h => congrArg Except.ok (Option.some.inj h)⟩

/-- An entry of a table that does not decrease has one before it that is not greater. -/
lemma dataAt_of_le {data : List ℤ} (hsorted : data.Pairwise (· ≤ ·)) {index index' value' : ℤ}
    (hnonneg : 0 ≤ index) (hle : index ≤ index') (h : dataAt data index' = .ok value') :
    ∃ value, dataAt data index = .ok value ∧ value ≤ value' := by
  obtain ⟨-, hvalue'⟩ := dataAt_eq_ok.mp h
  obtain ⟨hlt', hget'⟩ := List.getElem?_eq_some_iff.mp hvalue'
  have hlt : index.toNat < data.length := by omega
  refine ⟨data[index.toNat], dataAt_eq_ok.mpr ⟨hnonneg, List.getElem?_eq_getElem hlt⟩, ?_⟩
  rw [← hget']
  rcases Nat.lt_or_ge index.toNat index'.toNat with hless | hge
  · exact List.pairwise_iff_getElem.mp hsorted _ _ hlt hlt' hless
  · have heq : index.toNat = index'.toNat := by omega
    simp only [heq, le_refl]

/-- What a level-up makes of the level as an integer: levels wrap around. -/
lemma toInt_level_addExp (exp : Int32) :
    (addExp cfgs guildVO exp).level = guildVO.level ∨
      (addExp cfgs guildVO exp).level.toInt = guildVO.level.toInt + 1 ∨
      (addExp cfgs guildVO exp).level.toInt = -2 ^ 31 := by
  refine (GuildExp.level_addGuildExp exp guildVO.toGuildVO).imp_right fun hup => ?_
  replace hup : (addExp cfgs guildVO exp).level = guildVO.level + 1 := hup
  rw [hup]
  have hlow := guildVO.level.le_toInt
  have hhigh := guildVO.level.toInt_lt
  by_cases hlast : guildVO.level.toInt + 1 < 2 ^ 31
  · exact .inl (Int32.toInt_succ_of_fits hlast)
  · right
    have hmax : guildVO.level.toInt = 2 ^ 31 - 1 := by omega
    rw [Int32.toInt_add, hmax]
    rfl

end Levels

/-! ## Members -/

section Members

variable {cfgs} {guildVO : GuildVO} {cache : CacheGuild}

/-- A member may get another level. -/
lemma fits_withRight_of_mem {pid : ℤ} (hmem : pid ∈ guildVO.memberRights)
    (rightLevel : RightLevel) :
    Fits cfgs (guildVO.withRight pid rightLevel) ↔ Fits cfgs guildVO := by
  have hsize : (guildVO.withRight pid rightLevel).memberRights.keys.length =
      guildVO.memberRights.keys.length := length_insert_of_mem hmem _
  unfold Fits
  rw [hsize]
  rfl

/-- A guild with a new member has not too many just if it was not full. -/
lemma fits_withRight_of_not_mem {pid : ℤ} (hmem : pid ∉ guildVO.memberRights)
    (rightLevel : RightLevel) :
    Fits cfgs (guildVO.withRight pid rightLevel) ↔ isMaxSize cfgs guildVO ≠ .ok true := by
  have hsize : (guildVO.withRight pid rightLevel).memberRights.keys.length =
      guildVO.memberRights.keys.length + 1 := by
    show (guildVO.memberRights.insert pid _).keys.length = _
    rw [length_insert, if_neg hmem]
  rw [Fits, hsize, ne_eq, isMaxSize_eq_ok]
  constructor
  · rintro hfits ⟨maxMemberSize, hdata, hfull⟩
    have hle := hfits maxMemberSize hdata
    have hge := of_decide_eq_true hfull
    omega
  · intro hroom maxMemberSize hdata
    by_contra hgt
    refine hroom ⟨maxMemberSize, hdata, decide_eq_true ?_⟩
    omega

/-- The checks keep the number of members within the limit. -/
lemma checked_fits : Checked cfgs (Fits cfgs) where
  congr := by
    intro guildVO guildVO' hlevel hrights h
    rw [Fits, hlevel, hrights]
    exact h
  join := by
    intro guildVO h hroom pid
    by_cases hmem : pid ∈ guildVO.memberRights
    · exact (fits_withRight_of_mem hmem _).mpr h
    · refine (fits_withRight_of_not_mem hmem _).mpr fun hfull => ?_
      rw [hroom] at hfull
      cases hfull
  promote := fun h _ hmem _ _ _ _ => (fits_withRight_of_mem hmem _).mpr h
  leave := by
    intro guildVO h pid maxMemberSize hdata
    have hle := h maxMemberSize hdata
    have hless : (guildVO.memberRights.erase pid).keys.length ≤
        guildVO.memberRights.keys.length := by
      rw [AList.keys_erase]
      exact List.erase_sublist.length_le
    exact (Int.ofNat_le.mpr hless).trans hle

/-- The founder is the only member. -/
lemma fits_newGuildVO_iff (pvo : ℤ) (needReq : Bool) :
    Fits cfgs ((newGuildVO pvo needReq).withRight pvo .Level0) ↔
      isMaxSize cfgs (newGuildVO pvo needReq) ≠ .ok true :=
  fits_withRight_of_not_mem (AList.notMem_empty pvo) _

/-- A new leader is a member, and an old one may be none. -/
lemma fits_transfer_iff (h : Fits cfgs guildVO) (old : ℤ) {new : ℤ}
    (hnew : new ∈ guildVO.memberRights) :
    Fits cfgs (guildVO.transfer old new) ↔
      ¬((guildVO.memberRights.lookup old).isNone ∧ isMaxSize cfgs guildVO = .ok true) := by
  have hmem : old ∈ (guildVO.withRight new .Level0).memberRights ↔ old ∈ guildVO.memberRights := by
    show old ∈ guildVO.memberRights.insert new _ ↔ _
    rw [AList.mem_insert]
    exact ⟨fun hor => hor.elim (fun heq => heq ▸ hnew) id, Or.inr⟩
  by_cases hold : old ∈ guildVO.memberRights
  · have hfits : Fits cfgs (guildVO.transfer old new) :=
      (fits_withRight_of_mem (hmem.mpr hold) _).mpr ((fits_withRight_of_mem hnew _).mpr h)
    refine iff_of_true hfits fun hboth => ?_
    rw [← Option.not_isSome, AList.lookup_isSome.mpr hold] at hboth
    cases hboth.1
  · have hnone : (guildVO.memberRights.lookup old).isNone := by
      rw [Option.isNone_iff_eq_none]
      exact AList.lookup_eq_none.mpr hold
    have hfull : isMaxSize cfgs (guildVO.withRight new .Level0) = isMaxSize cfgs guildVO :=
      isMaxSize_congr rfl (length_insert_of_mem hnew _)
    rw [and_iff_right hnone, ← hfull]
    exact fits_withRight_of_not_mem (fun hmem' => hold (hmem.mp hmem')) _

/-- **The loop over the leaders** adds a member if the old leader is none. -/
lemma fits_replaced_iff (env : Surroundings) (h : Fits cfgs guildVO) :
    Fits cfgs (replaced cfgs env cache guildVO) ↔
      (adopts cfgs env cache guildVO && decide (isMaxSize cfgs guildVO = .ok true)) = false := by
  rw [replaced, adopts]
  cases hnew : newLeader cfgs env cache guildVO with
  | none => exact iff_of_true h rfl
  | some pid =>
    have hmember := AList.lookup_isSome.mp (of_newLeader hnew).1
    have htransfer := fits_transfer_iff h guildVO.owner hmember
    have hsame : Fits cfgs (if (env.lastLoginDay guildVO.owner).isSome then
        { guildVO.transfer guildVO.owner pid with owner := pid }
        else guildVO.transfer guildVO.owner pid) ↔
          Fits cfgs (guildVO.transfer guildVO.owner pid) := by
      split <;> rfl
    dsimp only
    rw [hsame, htransfer, Option.isSome_some, Bool.true_and, Bool.and_eq_false_iff,
      decide_eq_false_iff_not, Decidable.not_and_iff_or_not, Bool.not_eq_true]

/-- **A guild that goes up a level** has room for its members, unless levels wrap. -/
lemma fits_addExp_iff (hsorted : cfgs.maxMemberSize.Pairwise (· ≤ ·)) (h : Fits cfgs guildVO)
    (exp : Int32) : Fits cfgs (addExp cfgs guildVO exp) ↔ wraps cfgs guildVO exp = false := by
  by_cases hzero : (addExp cfgs guildVO exp).level = 0
  · rw [wraps, hzero, Fits, hzero]
    change (∀ maxMemberSize, dataAt cfgs.maxMemberSize 0 = .ok maxMemberSize →
      (guildVO.memberRights.keys.length : ℤ) ≤ maxMemberSize) ↔ _
    cases dataAt cfgs.maxMemberSize 0 with
    | error e => exact iff_of_true (fun _ hok => by cases hok) rfl
    | ok maxMemberSize =>
      simp only [Except.ok.injEq, forall_eq', beq_self_eq_true, Bool.true_and,
        decide_eq_false_iff_not, not_lt]
  · have hnot : wraps cfgs guildVO exp = false := by
      rw [wraps, beq_false_of_ne hzero, Bool.false_and]
    refine iff_of_true (fun maxMemberSize hdata => ?_) hnot
    change (guildVO.memberRights.keys.length : ℤ) ≤ maxMemberSize
    have hnonneg := (dataAt_eq_ok.mp hdata).1
    have hpos : (addExp cfgs guildVO exp).level.toInt ≠ 0 := fun heq =>
      hzero (Int32.toInt_inj.mp heq)
    rcases @toInt_level_addExp cfgs guildVO exp with hsame | hup | hlast
    · rw [hsame] at hdata
      exact h maxMemberSize hdata
    · have hbelow : guildVO.level.toInt ≤ (addExp cfgs guildVO exp).level.toInt := by omega
      obtain ⟨size, hsize, hle⟩ := dataAt_of_le hsorted (by omega) hbelow hdata
      exact (h size hsize).trans hle
    · omega

end Members

/-! ## Officers -/

section Officers

variable {cfgs} {guildVO : GuildVO} {cache : CacheGuild}

lemma getId_inj {rightLevel rightLevel' : RightLevel} :
    rightLevel.getId = rightLevel'.getId ↔ rightLevel = rightLevel' := by
  cases rightLevel <;> cases rightLevel' <;> decide

/-- Only deputies and the level below are limited. -/
lemma limited_of_levelSize {level size : ℤ} {rightLevel : RightLevel}
    (hsize : levelSize cfgs level rightLevel = .ok size) (hpos : 0 < size) :
    rightLevel = .Level1 ∨ rightLevel = .Level2 := by
  cases rightLevel with
  | Level1 => exact .inl rfl
  | Level2 => exact .inr rfl
  | Level0 =>
    cases hsize
    exact absurd hpos (by decide)
  | Level3 =>
    cases hsize
    exact absurd hpos (by decide)

/-- The table of a limited level has entries from the first level of guilds on. -/
lemma one_le_of_levelSize {level size : ℤ} {rightLevel : RightLevel}
    (hsize : levelSize cfgs level rightLevel = .ok size)
    (hofficers : rightLevel = .Level1 ∨ rightLevel = .Level2) : 1 ≤ level := by
  rcases hofficers with rfl | rfl
  · have hnonneg := (dataAt_eq_ok.mp hsize).1
    omega
  · have hnonneg := (dataAt_eq_ok.mp hsize).1
    omega

/-- The checks keep the number of officers within the limit. -/
lemma checked_withinQuotas : Checked cfgs (WithinQuotas cfgs) where
  congr := by
    intro guildVO guildVO' hlevel hrights h
    rw [WithinQuotas, hlevel, hrights]
    exact h
  join := by
    intro guildVO h _ pid rightLevel size hsize hpos
    have hle := h rightLevel size hsize hpos
    have hless := guildVO.memberRights.count_values_erase_le pid rightLevel.getId
    have hne : RightLevel.Level3.getId ≠ rightLevel.getId := by
      rw [ne_eq, getId_inj]
      rintro rfl
      rcases limited_of_levelSize hsize hpos with heq | heq <;> cases heq
    show ((guildVO.memberRights.insert pid _).values.count _ : ℤ) ≤ size
    rw [AList.count_values_insert, if_neg hne]
    omega
  promote := by
    intro guildVO h pid _ rightLevel size hsize hroom rightLevel' size' hsize' hpos'
    have hle := h rightLevel' size' hsize' hpos'
    have hless := guildVO.memberRights.count_values_erase_le pid rightLevel'.getId
    show ((guildVO.memberRights.insert pid _).values.count _ : ℤ) ≤ size'
    rw [AList.count_values_insert]
    split
    · next heq =>
      obtain rfl := getId_inj.mp heq
      obtain rfl := Except.ok.inj (hsize.symm.trans hsize')
      omega
    · omega
  leave := by
    intro guildVO h pid rightLevel size hsize hpos
    have hle := h rightLevel size hsize hpos
    have hless := guildVO.memberRights.count_values_erase_le pid rightLevel.getId
    show ((guildVO.memberRights.erase pid).values.count _ : ℤ) ≤ size
    omega

/-- A new guild has no officers. -/
lemma withinQuotas_newGuildVO (pvo : ℤ) (needReq : Bool) :
    WithinQuotas cfgs ((newGuildVO pvo needReq).withRight pvo .Level0) := by
  intro rightLevel size hsize hpos
  have hne : RightLevel.Level0.getId ≠ rightLevel.getId := by
    rw [ne_eq, getId_inj]
    rintro rfl
    rcases limited_of_levelSize hsize hpos with heq | heq <;> cases heq
  show (((∅ : AList fun _ : ℤ => ℤ).insert pvo _).values.count _ : ℤ) ≤ size
  rw [AList.count_values_insert, if_neg hne]
  exact hpos.le

/-- **A transfer** makes the old leader a deputy. -/
lemma withinQuotas_transfer_iff (h : WithinQuotas cfgs guildVO) (old new : ℤ) :
    WithinQuotas cfgs (guildVO.transfer old new) ↔ crowded cfgs guildVO old new = false := by
  have hcount : ∀ rightLevel : RightLevel, rightLevel ≠ .Level0 →
      (guildVO.transfer old new).memberRights.values.count rightLevel.getId =
        ((guildVO.memberRights.erase new).erase old).values.count rightLevel.getId +
          if RightLevel.Level1 = rightLevel then 1 else 0 := by
    intro rightLevel hne
    show ((guildVO.memberRights.insert new _).insert old _).values.count _ = _
    rw [AList.count_values_insert, AList.count_values_erase_insert _ fun heq =>
      hne (getId_inj.mp heq).symm]
    simp only [getId_inj]
  rw [crowded]
  constructor
  · intro hafter
    cases hsize : levelSize cfgs guildVO.level.toInt .Level1 with
    | error e => rfl
    | ok size =>
      dsimp only
      rw [Bool.and_eq_false_iff, decide_eq_false_iff_not, decide_eq_false_iff_not]
      by_cases hpos : 0 < size
      · have hle := hafter .Level1 size hsize hpos
        rw [hcount .Level1 (by decide), if_pos rfl] at hle
        unfold deputiesBesides
        omega
      · exact .inl hpos
  · intro hroom rightLevel size hsize hpos
    rcases limited_of_levelSize hsize hpos with rfl | rfl
    · replace hsize : levelSize cfgs guildVO.level.toInt .Level1 = .ok size := hsize
      rw [hsize] at hroom
      dsimp only at hroom
      rw [Bool.and_eq_false_iff, decide_eq_false_iff_not, decide_eq_false_iff_not,
        deputiesBesides] at hroom
      rw [hcount .Level1 (by decide), if_pos rfl]
      omega
    · have hle := h .Level2 size hsize hpos
      have hless := (guildVO.memberRights.erase new).count_values_erase_le old
        RightLevel.Level2.getId
      have hless' := guildVO.memberRights.count_values_erase_le new RightLevel.Level2.getId
      rw [hcount .Level2 (by decide), if_neg (by decide)]
      omega

/-- **The loop over the leaders** makes the old leader a deputy. -/
lemma withinQuotas_replaced_iff (env : Surroundings) (h : WithinQuotas cfgs guildVO) :
    WithinQuotas cfgs (replaced cfgs env cache guildVO) ↔
      ((newLeader cfgs env cache guildVO).any fun pid =>
        crowded cfgs guildVO guildVO.owner pid) = false := by
  rw [replaced]
  cases newLeader cfgs env cache guildVO with
  | none => exact iff_of_true h rfl
  | some pid =>
    have hsame : WithinQuotas cfgs (if (env.lastLoginDay guildVO.owner).isSome then
        { guildVO.transfer guildVO.owner pid with owner := pid }
        else guildVO.transfer guildVO.owner pid) ↔
          WithinQuotas cfgs (guildVO.transfer guildVO.owner pid) := by
      split <;> rfl
    dsimp only
    rw [hsame, withinQuotas_transfer_iff h, Option.any_some]

/-- The tables of the quotas do not decrease. -/
structure QuotasSorted (cfgs : GuildCfgs) : Prop where
  level1 : cfgs.rightLevel1MemberSize.Pairwise (· ≤ ·)
  level2 : cfgs.rightLevel2MemberSize.Pairwise (· ≤ ·)

/-- A quota of a level that is not greater is not greater. -/
lemma levelSize_of_le (hsorted : QuotasSorted cfgs) {level level' size' : ℤ} (hlevel : 1 ≤ level)
    (hle : level ≤ level') {rightLevel : RightLevel}
    (h : levelSize cfgs level' rightLevel = .ok size') :
    ∃ size, levelSize cfgs level rightLevel = .ok size ∧ size ≤ size' := by
  have htable : ∀ data : List ℤ, data.Pairwise (· ≤ ·) →
      dataAt data (min (data.length : ℤ) level' - 1) = .ok size' →
        ∃ size, dataAt data (min (data.length : ℤ) level - 1) = .ok size ∧ size ≤ size' := by
    intro data hdata hok
    have hnonneg := (dataAt_eq_ok.mp hok).1
    exact dataAt_of_le hdata (by omega) (by omega) hok
  cases rightLevel with
  | Level1 => exact htable _ hsorted.level1 h
  | Level2 => exact htable _ hsorted.level2 h
  | Level0 => exact ⟨_, h, le_rfl⟩
  | Level3 => exact ⟨_, h, le_rfl⟩

/-- The limit of a level of members that has one does not get lower when the guild goes up. -/
lemma count_le_of_limited (hsorted : QuotasSorted cfgs) (h : WithinQuotas cfgs guildVO)
    (exp : Int32) {rightLevel : RightLevel} {size' : ℤ}
    (hlimited : limited cfgs guildVO.level rightLevel = true)
    (hsize' : levelSize cfgs (addExp cfgs guildVO exp).level.toInt rightLevel = .ok size') :
    (guildVO.memberRights.values.count rightLevel.getId : ℤ) ≤ size' := by
  rw [limited] at hlimited
  cases hsize : levelSize cfgs guildVO.level.toInt rightLevel with
  | error e =>
    rw [hsize] at hlimited
    cases hlimited
  | ok size =>
    rw [hsize] at hlimited
    have hpos : 0 < size := of_decide_eq_true hlimited
    have hcount := h rightLevel size hsize hpos
    have hlevels := @toInt_level_addExp cfgs guildVO exp
    have hofficers := limited_of_levelSize hsize hpos
    have hfirst := one_le_of_levelSize hsize hofficers
    rcases hlevels with hsame | hup | hlast
    · rw [hsame] at hsize'
      obtain rfl := Except.ok.inj (hsize.symm.trans hsize')
      exact hcount
    · obtain ⟨size'', hsize'', hle⟩ := levelSize_of_le hsorted hfirst (by omega) hsize'
      obtain rfl := Except.ok.inj (hsize.symm.trans hsize'')
      exact hcount.trans hle
    · have hfirst' := one_le_of_levelSize hsize' hofficers
      omega

/-- **A guild that goes up a level** is above a limit only if it had none. -/
lemma withinQuotas_addExp_iff (hsorted : QuotasSorted cfgs) (h : WithinQuotas cfgs guildVO)
    (exp : Int32) :
    WithinQuotas cfgs (addExp cfgs guildVO exp) ↔ outgrows cfgs guildVO exp = false := by
  rw [outgrows, List.any_eq_false]
  constructor
  · intro hafter rightLevel _ hout
    rw [Bool.and_eq_true] at hout
    obtain ⟨-, hout⟩ := hout
    cases hsize : levelSize cfgs (addExp cfgs guildVO exp).level.toInt rightLevel with
    | error e =>
      rw [hsize] at hout
      cases hout
    | ok size =>
      rw [hsize] at hout
      simp only [Bool.and_eq_true, decide_eq_true_eq] at hout
      have hle : (guildVO.memberRights.values.count rightLevel.getId : ℤ) ≤ size :=
        hafter rightLevel size hsize hout.1
      omega
  · intro hroom rightLevel size hsize hpos
    change (guildVO.memberRights.values.count rightLevel.getId : ℤ) ≤ size
    cases hlimited : limited cfgs guildVO.level rightLevel with
    | true => exact count_le_of_limited hsorted h exp hlimited hsize
    | false =>
      have hmem : rightLevel ∈ [RightLevel.Level1, .Level2] := by
        rcases limited_of_levelSize hsize hpos with rfl | rfl
        · exact List.mem_cons_self
        · exact List.mem_cons_of_mem _ List.mem_cons_self
      have hless := hroom rightLevel hmem
      rw [hlimited, hsize] at hless
      simp only [Bool.not_false, Bool.true_and, Bool.and_eq_true, decide_eq_true_eq,
        not_and, not_lt] at hless
      exact hless hpos

end Officers

/-! ## Runs -/

section Runs

variable {cfgs} {cache : CacheGuild}

/-- What holds of the guild with an id, if there is one. -/
lemma forall_lookup_iff (guildID : ℤ) {Q : GuildVO → Prop} {bad : GuildVO → Bool}
    (hbad : ∀ guildVO, cache.guilds.lookup guildID = some guildVO →
      (Q guildVO ↔ bad guildVO = false)) :
    (∀ guildVO, cache.guilds.lookup guildID = some guildVO → Q guildVO) ↔
      (cache.guilds.lookup guildID).any bad = false := by
  cases hguild : cache.guilds.lookup guildID with
  | none => exact iff_of_true (fun guildVO hnone => by cases hnone) rfl
  | some guildVO =>
    rw [Option.any_some, ← hbad guildVO hguild]
    exact ⟨fun hall => hall guildVO rfl, fun hQ _ heq => Option.some.inj heq ▸ hQ⟩

/-- What a call must keep of the number of members, it keeps if it overfills no guild. -/
lemma keepsGuilds_fits_iff (hsorted : cfgs.maxMemberSize.Pairwise (· ≤ ·))
    (h : AllGuilds (Fits cfgs) cache) (env : Surroundings) (call : Call) :
    KeepsGuilds cfgs (Fits cfgs) cache (env, call) ↔
      overfills cfgs cache (.call env call) = false := by
  cases call with
  | createGuild pvo needReq checked =>
    show (_ → _ → Fits cfgs _) ↔ (!cache.inGuild pvo && checked.toBool && _) = false
    rw [fits_newGuildVO_iff]
    cases cache.inGuild pvo <;> cases checked <;> simp [Except.toBool]
  | chgOwner pvo tgtPid =>
    refine iff_of_true (fun guildID guildVO hcheck hguild => ?_) rfl
    obtain ⟨-, guildVO', hfound, hold, hnew⟩ := of_checkChgOwner hcheck
    obtain rfl := Option.some.inj ((lookup_of_getGuildByID hfound).symm.trans hguild)
    rw [fits_transfer_iff (h guildID guildVO' hguild) pvo (AList.lookup_isSome.mp hnew), hold]
    exact fun hboth => Bool.false_ne_true hboth.1
  | replaceGuildLeader =>
    show (∀ guildID ∈ _, ∀ guildVO, _ → Fits cfgs _) ↔ List.any _ _ = false
    rw [List.any_eq_false]
    refine forall₂_congr fun guildID _ => ?_
    rw [Bool.not_eq_true]
    exact forall_lookup_iff guildID fun guildVO hguild =>
      fits_replaced_iff env (h guildID guildVO hguild)
  | addGuildExp guildID exp =>
    exact forall_lookup_iff guildID fun guildVO hguild =>
      fits_addExp_iff hsorted (h guildID guildVO hguild) exp
  | _ => exact iff_of_true trivial rfl

/-- What a call must keep of the number of officers, it keeps if it exceeds no quota. -/
lemma keepsGuilds_withinQuotas_iff (hsorted : QuotasSorted cfgs)
    (h : AllGuilds (WithinQuotas cfgs) cache) (env : Surroundings) (call : Call) :
    KeepsGuilds cfgs (WithinQuotas cfgs) cache (env, call) ↔
      exceedsQuota cfgs cache (.call env call) = false := by
  cases call with
  | createGuild pvo needReq checked =>
    exact iff_of_true (fun _ _ => withinQuotas_newGuildVO pvo needReq) rfl
  | chgOwner pvo tgtPid =>
    show (∀ guildID guildVO, checkChgOwner pvo tgtPid cache = .ok guildID → _ → _) ↔
      (match checkChgOwner pvo tgtPid cache with
        | .error _ => false
        | .ok guildID =>
          (cache.guilds.lookup guildID).any fun guildVO => crowded cfgs guildVO pvo tgtPid) = false
    cases checkChgOwner pvo tgtPid cache with
    | error e => exact iff_of_true (fun guildID guildVO hok => by cases hok) rfl
    | ok guildID =>
      dsimp only
      rw [← forall_lookup_iff guildID fun guildVO hguild =>
        withinQuotas_transfer_iff (h guildID guildVO hguild) pvo tgtPid]
      constructor
      · exact fun hall guildVO hguild => hall guildID guildVO rfl hguild
      · rintro hall _ guildVO ⟨⟩ hguild
        exact hall guildVO hguild
  | replaceGuildLeader =>
    show (∀ guildID ∈ _, ∀ guildVO, _ → WithinQuotas cfgs _) ↔ List.any _ _ = false
    rw [List.any_eq_false]
    refine forall₂_congr fun guildID _ => ?_
    rw [Bool.not_eq_true]
    exact forall_lookup_iff guildID fun guildVO hguild =>
      withinQuotas_replaced_iff env (h guildID guildVO hguild)
  | addGuildExp guildID exp =>
    exact forall_lookup_iff guildID fun guildVO hguild =>
      withinQuotas_addExp_iff hsorted (h guildID guildVO hguild) exp
  | _ => exact iff_of_true trivial rfl

/-- **A property of all guilds in all states of a run**, if an operation keeps it just if it is not
one of the bad ones. -/
lemma allGuilds_run_iff {P : GuildVO → Prop} (hchecked : Checked cfgs P)
    {bad : CacheGuild → Operation → Bool}
    (hbad : ∀ {cache}, AllGuilds P cache →
      ∀ env call, KeepsGuilds cfgs P cache (env, call) ↔ bad cache (.call env call) = false)
    (hinvite : ∀ cache env pvo pid, bad cache (.invitePlayerJoin env pvo pid) = false)
    {guildDBID : ℤ} (hid : 0 ≤ guildDBID) (operations : List Operation) :
    (∀ pre, pre <+: operations → AllGuilds P (Runs.run (perform cfgs) (start guildDBID) pre)) ↔
      Runs.EveryStep (perform cfgs) (fun cache operation => bad cache operation = false)
        (start guildDBID) operations := by
  have hnone : ∀ Q : GuildVO → Prop, AllGuilds Q (start guildDBID) := by
    intro Q guildID guildVO hguild
    cases hguild
  apply Runs.forall_prefix_iff Numbered (AllGuilds P)
  · intro cache operation hnumbered h
    cases operation with
    | call env call =>
      obtain ⟨hnumbered', hall⟩ := stepIff_step hchecked hnumbered h (env, call)
      exact ⟨hnumbered', hall.trans (hbad h env call)⟩
    | invitePlayerJoin env pvo pid =>
      rw [perform_invitePlayerJoin]
      exact ⟨hnumbered, iff_of_true h (hinvite cache env pvo pid)⟩
  · exact ⟨hid, fun _ hmem => absurd hmem List.not_mem_nil, List.nodup_nil⟩
  · exact hnone P

variable (cfgs)

/-- **Members.** If the table of the member sizes does not decrease, then in all states of a run no
guild has more members than its level allows, if and only if no old leader who is no member is given
a level in a guild that is full, no guild is created for which the table has no room, and no level
wraps to one that allows fewer members. -/
theorem fits_run_iff (hsorted : cfgs.maxMemberSize.Pairwise (· ≤ ·))
    {guildDBID : ℤ} (hid : 0 ≤ guildDBID) (operations : List Operation) :
    (∀ pre, pre <+: operations → ∀ guildID guildVO,
      (Runs.run (perform cfgs) (start guildDBID) pre).guilds.lookup guildID = some guildVO →
        Fits cfgs guildVO) ↔
    Runs.EveryStep (perform cfgs) (fun cache operation => overfills cfgs cache operation = false)
      (start guildDBID) operations :=
  allGuilds_run_iff checked_fits (fun h => keepsGuilds_fits_iff hsorted h) (fun _ _ _ _ => rfl) hid
    operations

/-- Two members fill a guild, and one of them may be a deputy. -/
def tinyCfgs : GuildCfgs := { smallCfgs with maxMemberSize := [2, 2], rightLevel1MemberSize := [1] }

/-- Player 2 demotes the owner, who leaves; player 3 joins. -/
def ownerLeft : List Operation :=
  deputy.map (fun call => .call call.1 call.2) ++
    [.call (without 0) (.modifyRight 2 1 101), .call (without 0) (.outGuild 1 1),
      .invitePlayerJoin (without 0) 2 3, .call (without 0) (.joinGuild 3 1)]

/-- The guild is full then, and no more. -/
theorem fits_ownerLeft :
    AllGuilds (Fits tinyCfgs) (Runs.run (perform tinyCfgs) (start 0) ownerLeft) :=
  (fits_run_iff tinyCfgs (by decide) le_rfl ownerLeft).mpr (by decide) _ List.prefix_rfl

/-- A guild of two gets its old leader as a third member. -/
theorem old_leader_overfills :
    ¬∀ (cfgs : GuildCfgs) (operations : List Operation) (guildID : ℤ) (guildVO : GuildVO),
      cfgs.maxMemberSize.Pairwise (· ≤ ·) →
      (Runs.run (perform cfgs) (start 0) operations).getGuildByID guildID = some guildVO →
      Fits cfgs guildVO := by
  intro h
  let operations := ownerLeft ++ [.call (without 1) .replaceGuildLeader]
  have hresult : ((Runs.run (perform tinyCfgs) (start 0) operations).getGuildByID 1).map
      (fun guildVO => (guildVO.level, guildVO.memberRights.keys)) = some (1, [1, 3, 2]) := by
    decide
  obtain ⟨guildVO, hguild, heq⟩ := Option.map_eq_some_iff.mp hresult
  obtain ⟨hlevel, hkeys⟩ := Prod.mk.inj heq
  have hle := h tinyCfgs operations 1 guildVO (by decide) hguild 2
    (by rw [hlevel]; rfl)
  rw [hkeys] at hle
  exact absurd hle (by decide)

/-- **Officers.** If the tables of the quotas do not decrease, then in all states of a run no guild
has more members of a level below the highest than its own level allows, if and only if no old
leader becomes a deputy of a guild that has no room for one, and no guild gets its first limit when
it is above that. -/
theorem withinQuotas_run_iff (hsorted : QuotasSorted cfgs) {guildDBID : ℤ} (hid : 0 ≤ guildDBID)
    (operations : List Operation) :
    (∀ pre, pre <+: operations → ∀ guildID guildVO,
      (Runs.run (perform cfgs) (start guildDBID) pre).guilds.lookup guildID = some guildVO →
        WithinQuotas cfgs guildVO) ↔
    Runs.EveryStep (perform cfgs) (fun cache operation => exceedsQuota cfgs cache operation = false)
      (start guildDBID) operations :=
  allGuilds_run_iff checked_withinQuotas (fun h => keepsGuilds_withinQuotas_iff hsorted h)
    (fun _ _ _ _ => rfl) hid operations

/-- The guild changes hands, from player 1 to the deputy. -/
def handedToDeputy : List Operation :=
  deputy.map (fun call => .call call.1 call.2) ++ [.call (without 0) (.chgOwner 1 2)]

/-- The quotas are kept. -/
theorem withinQuotas_handedToDeputy :
    AllGuilds (WithinQuotas tinyCfgs) (Runs.run (perform tinyCfgs) (start 0) handedToDeputy) :=
  (withinQuotas_run_iff tinyCfgs ⟨by decide, by decide⟩ le_rfl handedToDeputy).mpr (by decide) _
    List.prefix_rfl

/-- A guild that may have one deputy gets a second one, when its owner hands it over to another
member. -/
theorem old_owner_exceeds_quota :
    ¬∀ (cfgs : GuildCfgs) (operations : List Operation) (guildID : ℤ) (guildVO : GuildVO),
      QuotasSorted cfgs →
      (Runs.run (perform cfgs) (start 0) operations).getGuildByID guildID = some guildVO →
      WithinQuotas cfgs guildVO := by
  intro h
  let cfgs : GuildCfgs := { smallCfgs with rightLevel1MemberSize := [1] }
  let operations : List Operation := deputy.map (fun call => .call call.1 call.2) ++
    [.call (without 0) (.joinGuild 3 1), .call (without 0) (.chgOwner 1 3)]
  have hresult : ((Runs.run (perform cfgs) (start 0) operations).getGuildByID 1).map
      (fun guildVO => (guildVO.level, guildVO.memberRights.values)) =
        some (1, [103, 104, 103]) := by
    decide
  obtain ⟨guildVO, hguild, heq⟩ := Option.map_eq_some_iff.mp hresult
  obtain ⟨hlevel, hvalues⟩ := Prod.mk.inj heq
  have hle := h cfgs operations 1 guildVO ⟨by decide, by decide⟩ hguild
    .Level1 1 (by rw [hlevel]; rfl) (by decide)
  rw [hvalues] at hle
  exact absurd hle (by decide)

end Runs

end SrgpGame.Guild
