import SrgpGame.Skill.EquippedSkills

set_option autoImplicit false

/-!
# Who wears a seal

A seal names its holder, and the holder names the seal. A hero who puts a seal on takes it from its
holder; but what the hero himself wore keeps him as its holder, and a seal that was never worn has
no holder that could be compared with a hero. Without these two the names match in every run.

## Main definitions

* `WellHeld` — seals and heroes name each other.
* `SealCall` — the calls of the two operations.
* `Fits` — no seal is replaced, and no seal taken off that was never worn.

## Main results

* `Held.on_iff`, `Held.off_iff` — when a call is good.
* `wellHeld_run_iff` — a run is good just if all its calls fit.
-/

namespace SrgpGame.Skill

open EStateM PlayerVO

variable {cfgs : SkillConfigs} {pvo pvo' : PlayerVO} {heroId skillId : Int32} {sealVO : SkillVO}

/-! ## Holders -/

/-- The seal says that the hero wears it. -/
def SkillVO.HeldBy (sealVO : SkillVO) (heroId : Int32) : Prop :=
  sealVO.holderId = some heroId ∧ sealVO.isEquiped = true

/-- **Seals and heroes name each other**, so neither has two of the other. -/
structure WellHeld (pvo : PlayerVO) : Prop where
  entry : ∀ {heroId skillId sealVO}, (pvo.heroes.lookup heroId).isSome →
    pvo.getSkill (.ofPlayer skillId) = some sealVO →
      (pvo.equipped heroId SkillType.SEAL = some (.ofPlayer skillId) ↔ sealVO.HeldBy heroId)
  oneHolder : ∀ {a b skillId}, pvo.equipped a SkillType.SEAL = some (.ofPlayer skillId) →
    pvo.equipped b SkillType.SEAL = some (.ofPlayer skillId) → a = b
  oneSeal : ∀ {heroId a b aVO bVO}, (pvo.heroes.lookup heroId).isSome →
    pvo.getSkill (.ofPlayer a) = some aVO → pvo.getSkill (.ofPlayer b) = some bVO →
      aVO.HeldBy heroId → bVO.HeldBy heroId → a = b

/-- **What good calls keep.** Zero stands for no holder, so it is no hero. -/
structure Held (cfgs : SkillConfigs) (pvo : PlayerVO) : Prop where
  entry : ∀ {heroId skillId sealVO}, (pvo.heroes.lookup heroId).isSome →
    pvo.getSkill (.ofPlayer skillId) = some sealVO →
      (pvo.equipped heroId SkillType.SEAL = some (.ofPlayer skillId) ↔ sealVO.HeldBy heroId)
  seals : ∀ {heroId ref}, pvo.equipped heroId SkillType.SEAL = some ref →
    ∃ skillId, ref = .ofPlayer skillId ∧ (pvo.getSkill ref).isSome
  equiped : ∀ {heroId skillId sealVO}, (pvo.heroes.lookup heroId).isSome →
    pvo.getSkill (.ofPlayer skillId) = some sealVO → sealVO.holderId = some heroId →
      sealVO.isEquiped = true
  nobody : pvo.heroes.lookup 0 = none
  configured : ∀ {skillId sealVO}, pvo.getSkill (.ofPlayer skillId) = some sealVO →
    ∃ cfg, cfgs.skillSealMap sealVO.cid = some cfg ∧ cfg.type = SkillType.SEAL

/-- Who wears something exists. -/
lemma isSome_lookup_of_equipped {type : Int32} {ref : SkillRef}
    (h : pvo.equipped heroId type = some ref) : (pvo.heroes.lookup heroId).isSome := by
  obtain ⟨heroVO, hhero, -⟩ := Option.bind_eq_some_iff.mp h
  exact Option.isSome_of_mem hhero

lemma Held.wellHeld (h : Held cfgs pvo) : WellHeld pvo where
  entry := h.entry
  oneHolder := by
    intro a b skillId ha hb
    obtain ⟨_, hid, hseal⟩ := h.seals ha
    obtain rfl := SkillRef.ofPlayer.inj hid
    obtain ⟨sealVO, hseal⟩ := Option.isSome_iff_exists.mp hseal
    obtain ⟨hholder, -⟩ := (h.entry (isSome_lookup_of_equipped ha) hseal).mp ha
    obtain ⟨hholder', -⟩ := (h.entry (isSome_lookup_of_equipped hb) hseal).mp hb
    exact Option.some.inj (hholder.symm.trans hholder')
  oneSeal := by
    intro heroId a b aVO bVO hhero haVO hbVO ha hb
    have hsame := ((h.entry hhero haVO).mpr ha).symm.trans ((h.entry hhero hbVO).mpr hb)
    exact SkillRef.ofPlayer.inj (Option.some.inj hsame)

/-! ## A seal changes hands -/

/-- **A seal is moved** to a hero, or to nobody: it is saved with its new holder, all others stay,
and who wore it wears nothing. -/
structure Moved (pvo pvo' : PlayerVO) (skillId : Int32) (sealVO : SkillVO)
    (holder : Option Int32) : Prop where
  heroes : ∀ heroId, (pvo'.heroes.lookup heroId).isSome = (pvo.heroes.lookup heroId).isSome
  skill : ∀ ref, pvo'.getSkill ref =
    if ref = .ofPlayer skillId then
      some { sealVO with isEquiped := holder.isSome, holderId := some (holder.getD 0) }
    else pvo.getSkill ref
  equipped : ∀ heroId, pvo'.equipped heroId SkillType.SEAL =
    if holder = some heroId then some (.ofPlayer skillId)
    else if pvo.equipped heroId SkillType.SEAL = some (.ofPlayer skillId) then none
    else pvo.equipped heroId SkillType.SEAL

namespace Moved

variable {holder : Option Int32}

/-- Zero is still no hero. -/
lemma nobody (hmoved : Moved pvo pvo' skillId sealVO holder) (h : Held cfgs pvo) :
    pvo'.heroes.lookup 0 = none := by
  rw [← Option.not_isSome_iff_eq_none, hmoved.heroes, h.nobody]
  exact Bool.false_ne_true

/-- The entry of a hero who wore nothing else matches what the seals say. -/
lemma entry (hmoved : Moved pvo pvo' skillId sealVO holder) (h : Held cfgs pvo)
    (hfree : ∀ heroId, holder = some heroId →
      ∀ other, pvo.equipped heroId SkillType.SEAL = some (.ofPlayer other) → other = skillId)
    {heroId other : Int32} {otherVO : SkillVO} (hhero : (pvo'.heroes.lookup heroId).isSome)
    (hother : pvo'.getSkill (.ofPlayer other) = some otherVO) :
    pvo'.equipped heroId SkillType.SEAL = some (.ofPlayer other) ↔ otherVO.HeldBy heroId := by
  have hhero' := hhero
  rw [hmoved.heroes] at hhero'
  simp only [hmoved.skill, SkillRef.ofPlayer.injEq] at hother
  rw [hmoved.equipped]
  by_cases hid : other = skillId
  · -- the seal that is moved
    rw [if_pos hid] at hother
    obtain rfl := Option.some.inj hother
    rw [hid]
    by_cases hholder : holder = some heroId
    · rw [if_pos hholder, hholder]
      exact iff_of_true rfl ⟨rfl, rfl⟩
    · rw [if_neg hholder]
      refine iff_of_false ?_ ?_
      · split_ifs with hworn
        · exact not_false
        · exact hworn
      · rintro ⟨hholderId, hequiped⟩
        obtain ⟨holderId, rfl⟩ := Option.isSome_iff_exists.mp hequiped
        exact hholder hholderId
  · -- any other seal
    rw [if_neg hid] at hother
    rw [← h.entry hhero' hother]
    by_cases hholder : holder = some heroId
    · rw [if_pos hholder]
      refine iff_of_false ?_ fun hworn => hid (hfree heroId hholder other hworn)
      intro heq
      exact hid (SkillRef.ofPlayer.inj (Option.some.inj heq)).symm
    · rw [if_neg hholder]
      split_ifs with hworn
      · refine iff_of_false not_false ?_
        intro hworn'
        exact hid (SkillRef.ofPlayer.inj (Option.some.inj (hworn'.symm.trans hworn)))
      · rfl

/-- **A move keeps the names matching** if the new holder wore no other seal. -/
lemma held (hmoved : Moved pvo pvo' skillId sealVO holder) (h : Held cfgs pvo)
    (hseal : pvo.getSkill (.ofPlayer skillId) = some sealVO)
    (hfree : ∀ heroId, holder = some heroId →
      ∀ other, pvo.equipped heroId SkillType.SEAL = some (.ofPlayer other) → other = skillId) :
    Held cfgs pvo' where
  entry := hmoved.entry h hfree
  seals := by
    intro heroId ref hworn
    rw [hmoved.equipped] at hworn
    rw [hmoved.skill]
    split_ifs at hworn with hholder hwas
    · obtain rfl := Option.some.inj hworn
      exact ⟨skillId, rfl, by rw [if_pos rfl]; rfl⟩
    · obtain ⟨other, rfl, hother⟩ := h.seals hworn
      refine ⟨other, rfl, ?_⟩
      split_ifs
      · rfl
      · exact hother
  equiped := by
    intro heroId other otherVO hhero hother hholder
    rw [hmoved.heroes] at hhero
    rw [hmoved.skill] at hother
    split_ifs at hother
    · obtain rfl := Option.some.inj hother
      cases holder with
      | none =>
        obtain rfl := Option.some.inj hholder
        rw [Option.getD_none, h.nobody] at hhero
        cases hhero
      | some _ => rfl
    · exact h.equiped hhero hother hholder
  nobody := hmoved.nobody h
  configured := by
    intro other otherVO hother
    rw [hmoved.skill] at hother
    split_ifs at hother
    · obtain rfl := Option.some.inj hother
      have hconfigured := h.configured hseal
      exact hconfigured
    · exact h.configured hother

end Moved

@[simp] lemma isSome_lookup_removeEquipped {type heroId' : Int32} :
    ((pvo.removeEquipped heroId type).heroes.lookup heroId').isSome =
      (pvo.heroes.lookup heroId').isSome := by
  rw [← Option.isSome_map, cid_removeEquipped, Option.isSome_map]

@[simp] lemma isSome_lookup_putEquipped {type heroId' : Int32} {ref : SkillRef} :
    ((pvo.putEquipped heroId type ref).heroes.lookup heroId').isSome =
      (pvo.heroes.lookup heroId').isSome := by
  rw [← Option.isSome_map, cid_putEquipped, Option.isSome_map]

/-- **A seal is taken off** the hero who wears it. -/
lemma Held.moved_off (h : Held cfgs pvo)
    (hseal : pvo.getSkill (.ofPlayer skillId) = some sealVO)
    (hworn : pvo.equipped heroId SkillType.SEAL = some (.ofPlayer skillId)) :
    Moved pvo ((pvo.saveSkill (.ofPlayer skillId)
      { sealVO with isEquiped := false, holderId := some 0 }).removeEquipped heroId SkillType.SEAL)
      skillId sealVO none where
  heroes := by simp
  skill := by
    intro ref
    rw [getSkill_removeEquipped, getSkill_saveSkill (Option.isSome_of_mem hseal)]
    rfl
  equipped := by
    intro other
    rw [equipped_removeEquipped, equipped_saveSkill]
    simp only [reduceCtorEq, if_false, and_true]
    by_cases hid : other = heroId
    · rw [if_pos hid, hid, if_pos hworn]
    · have hother : pvo.equipped other SkillType.SEAL ≠ some (.ofPlayer skillId) := by
        intro hother
        exact hid (h.wellHeld.oneHolder hother hworn)
      rw [if_neg hid, if_neg hother]

/-- **A seal is put on** a hero, once nobody wears it any more. -/
lemma moved_on {pvo₁ : PlayerVO} (hhero : (pvo.heroes.lookup heroId).isSome)
    (hheroes : ∀ other, (pvo₁.heroes.lookup other).isSome = (pvo.heroes.lookup other).isSome)
    (hseal : (pvo₁.getSkill (.ofPlayer skillId)).isSome)
    (hskill : ∀ ref, ref ≠ .ofPlayer skillId → pvo₁.getSkill ref = pvo.getSkill ref)
    (hequipped : ∀ other, pvo₁.equipped other SkillType.SEAL =
      if pvo.equipped other SkillType.SEAL = some (.ofPlayer skillId) then none
      else pvo.equipped other SkillType.SEAL) :
    Moved pvo ((pvo₁.saveSkill (.ofPlayer skillId)
      { sealVO with isEquiped := true, holderId := some heroId }).putEquipped heroId SkillType.SEAL
        (.ofPlayer skillId)) skillId sealVO (some heroId) where
  heroes := by simp [hheroes]
  skill := by
    intro ref
    rw [getSkill_putEquipped, getSkill_saveSkill hseal]
    split_ifs with href
    · rfl
    · exact hskill ref href
  equipped := by
    intro other
    rw [equipped_putEquipped (by rw [isSome_lookup_saveSkill, hheroes, hhero]), equipped_saveSkill,
      hequipped]
    simp only [and_true, Option.some.injEq, eq_comm (a := heroId)]

/-! ## The operations -/

/-- The holder of a seal, if he exists, is taken the seal off. -/
lemma Held.displace (h : Held cfgs pvo)
    (hseal : pvo.getSkill (.ofPlayer skillId) = some sealVO) :
    ∃ pvo₁, (displace sealVO.holderId SkillType.SEAL).run pvo = .ok () pvo₁ ∧
      ((pvo₁ = pvo ∧ ∀ other, pvo.equipped other SkillType.SEAL ≠ some (.ofPlayer skillId)) ∨
        Moved pvo pvo₁ skillId sealVO none) := by
  cases hholder : sealVO.holderId.filter fun id => (pvo.heroes.lookup id).isSome with
  | none =>
    refine ⟨pvo, ?_, .inl ⟨rfl, ?_⟩⟩
    · unfold Skill.displace
      rw [EStateM.run_bind, EStateM.run_get]
      dsimp only
      rw [hholder]
      rfl
    · intro other hworn
      have hother := isSome_lookup_of_equipped hworn
      obtain ⟨hholderId, -⟩ := (h.entry hother hseal).mp hworn
      simp [hholderId, Option.filter, hother] at hholder
  | some holder =>
    obtain ⟨hholderId, hexists⟩ := Option.filter_eq_some_iff.mp hholder
    have hworn : pvo.equipped holder SkillType.SEAL = some (.ofPlayer skillId) :=
      (h.entry hexists hseal).mpr ⟨hholderId, h.equiped hexists hseal hholderId⟩
    refine ⟨_, ?_, .inr (h.moved_off hseal hworn)⟩
    unfold Skill.displace
    rw [EStateM.run_bind, EStateM.run_get]
    dsimp only
    rw [hholder]
    dsimp only
    rw [hworn, Option.bind_some, hseal]
    rfl

/-- **`heroSealEquipOn` moves the seal** to the hero, if the checks are passed. -/
lemma Held.heroSealEquipOn (h : Held cfgs pvo) {heroVO : HeroVO}
    (hhero : pvo.heroes.lookup heroId = some heroVO)
    (hseal : pvo.getSkill (.ofPlayer skillId) = some sealVO)
    (harms : checkArms cfgs heroVO.cid sealVO.cid = .ok ())
    (hweapons : checkColorWeapons cfgs heroVO.cid sealVO.cid = .ok ()) :
    ∃ pvo', (heroSealEquipOn cfgs heroId skillId).run pvo = .ok () pvo' ∧
      Moved pvo pvo' skillId sealVO (some heroId) := by
  obtain ⟨cfg, hcfg, htype⟩ := h.configured hseal
  obtain ⟨pvo₁, hdisplace, hcases⟩ := h.displace hseal
  have hmoved := @moved_on pvo heroId skillId sealVO pvo₁ (Option.isSome_of_mem hhero)
  refine ⟨_, ?_, hmoved ?_ ?_ ?_ ?_⟩
  · unfold Skill.heroSealEquipOn
    simp only [EStateM.run_bind, run_ofExcept, getHero_eq_ok.mpr hhero, getSkillVO_eq_ok.mpr hseal,
      harms, hweapons, getCfg_eq_ok.mpr hcfg, htype, hdisplace]
    rfl
  · intro other
    obtain ⟨rfl, -⟩ | hoff := hcases
    · rfl
    · exact hoff.heroes other
  · obtain ⟨rfl, -⟩ | hoff := hcases
    · exact Option.isSome_of_mem hseal
    · rw [hoff.skill, if_pos rfl]
      rfl
  · intro ref href
    obtain ⟨rfl, -⟩ | hoff := hcases
    · rfl
    · rw [hoff.skill, if_neg href]
  · intro other
    obtain ⟨rfl, hnobody⟩ | hoff := hcases
    · rw [if_neg (hnobody other)]
    · rw [hoff.equipped]
      simp only [reduceCtorEq, if_false]

/-- **`heroSealEquipOff` moves the seal** to nobody, if it is called for the holder. -/
lemma Held.heroSealEquipOff (h : Held cfgs pvo) (hhero : (pvo.heroes.lookup heroId).isSome)
    (hseal : pvo.getSkill (.ofPlayer skillId) = some sealVO)
    (hholder : sealVO.holderId = some heroId) :
    ∃ pvo', (heroSealEquipOff cfgs heroId skillId).run pvo = .ok () pvo' ∧
      Moved pvo pvo' skillId sealVO none := by
  obtain ⟨cfg, hcfg, htype⟩ := h.configured hseal
  obtain ⟨heroVO, hhero'⟩ := Option.isSome_iff_exists.mp hhero
  have hworn : pvo.equipped heroId SkillType.SEAL = some (.ofPlayer skillId) :=
    (h.entry hhero hseal).mpr ⟨hholder, h.equiped hhero hseal hholder⟩
  refine ⟨_, ?_, h.moved_off hseal hworn⟩
  unfold Skill.heroSealEquipOff
  simp only [EStateM.run_bind, run_ofExcept, getHero_eq_ok.mpr hhero', getSkillVO_eq_ok.mpr hseal,
    unboxHolder, hholder, ne_eq, not_true_eq_false, ICode.throwIfTrue, if_false,
    getCfg_eq_ok.mpr hcfg, htype]
  rfl

/-! ## Runs -/

/-- The calls of the operations on seals. -/
inductive SealCall where
  | on (heroId skillId : Int32)
  | off (heroId skillId : Int32)

namespace SealCall

/-- A call is executed. -/
def exec (cfgs : SkillConfigs) : SealCall → EStateM Thrown PlayerVO Unit
  | .on heroId skillId => heroSealEquipOn cfgs heroId skillId
  | .off heroId skillId => heroSealEquipOff cfgs heroId skillId

/-- A call is executed, whether it returns or throws. -/
def step (cfgs : SkillConfigs) (pvo : PlayerVO) (call : SealCall) : PlayerVO :=
  (call.exec cfgs).finalState pvo

/-- A seal is put on a hero of the player who passes the checks. -/
def Passes (cfgs : SkillConfigs) (pvo : PlayerVO) : SealCall → Prop
  | .on heroId skillId =>
    match pvo.heroes.lookup heroId, pvo.getSkill (.ofPlayer skillId) with
    | some heroVO, some sealVO =>
      checkArms cfgs heroVO.cid sealVO.cid = .ok () ∧
        checkColorWeapons cfgs heroVO.cid sealVO.cid = .ok ()
    | _, _ => True
  | .off _ _ => True

/-- **A call that goes well**: a hero puts no seal on while he wears another, and no seal is taken
off before any hero wore it. -/
def Fits (pvo : PlayerVO) : SealCall → Prop
  | .on heroId skillId =>
    (pvo.getSkill (.ofPlayer skillId)).isSome →
      pvo.equipped heroId SkillType.SEAL = none ∨
        pvo.equipped heroId SkillType.SEAL = some (.ofPlayer skillId)
  | .off heroId skillId =>
    match pvo.heroes.lookup heroId, pvo.getSkill (.ofPlayer skillId) with
    | some _, some sealVO => sealVO.holderId ≠ none
    | _, _ => True

/-- **What is to hold after a call**: it threw no unchecked exception, and the names match. -/
def Good (cfgs : SkillConfigs) (pvo : PlayerVO) (call : SealCall) : Prop :=
  (∀ e pvo', (call.exec cfgs).run pvo = .error e pvo' → ∃ code, e = .logic code) ∧
    WellHeld (call.step cfgs pvo)

variable {call : SealCall}

/-- A call that returns is good if the names match afterwards. -/
lemma good_of_run_eq_ok (hrun : (call.exec cfgs).run pvo = .ok () pvo') :
    Good cfgs pvo call ↔ WellHeld pvo' := by
  unfold Good step
  rw [finalState_eq_of_ok hrun, hrun]
  exact and_iff_right fun _ _ h => by cases h

/-- A call that is refused is good and changes nothing. -/
lemma good_of_run_eq_error (h : Held cfgs pvo) {code : Int32}
    (hrun : (call.exec cfgs).run pvo = .error (.logic code) pvo) :
    Good cfgs pvo call ∧ Held cfgs (call.step cfgs pvo) := by
  have hstep : call.step cfgs pvo = pvo := finalState_eq_of_error hrun
  refine ⟨⟨?_, ?_⟩, ?_⟩
  · intro e pvo' hthrew
    rw [hrun] at hthrew
    cases hthrew
    exact ⟨code, rfl⟩
  · rw [hstep]
    exact h.wellHeld
  · rw [hstep]
    exact h

end SealCall

open SealCall

/-- Without the hero a call is refused. -/
lemma run_exec_of_hero (hhero : pvo.heroes.lookup heroId = none) (call : SealCall)
    (hcall : call = .on heroId skillId ∨ call = .off heroId skillId) :
    (call.exec cfgs).run pvo = .error (.logic CodeHero.heroNotFound.get) pvo := by
  have hget : getHero heroId pvo = .error (.logic CodeHero.heroNotFound.get) := by
    rw [getHero, hhero]
  obtain rfl | rfl := hcall
  · simp only [exec, heroSealEquipOn, EStateM.run_bind, run_ofExcept, hget]
  · simp only [exec, heroSealEquipOff, EStateM.run_bind, run_ofExcept, hget]

/-- Without the seal a call is refused. -/
lemma run_exec_of_seal {heroVO : HeroVO} (hhero : pvo.heroes.lookup heroId = some heroVO)
    (hseal : pvo.getSkill (.ofPlayer skillId) = none) (call : SealCall)
    (hcall : call = .on heroId skillId ∨ call = .off heroId skillId) :
    (call.exec cfgs).run pvo = .error (.logic CodeSkill.skillNotFound.get) pvo := by
  have hget : getSkillVO (.ofPlayer skillId) pvo =
      .error (.logic CodeSkill.skillNotFound.get) := by
    rw [getSkillVO, hseal]
  obtain rfl | rfl := hcall
  · simp only [exec, heroSealEquipOn, EStateM.run_bind, run_ofExcept, getHero_eq_ok.mpr hhero, hget]
  · simp only [exec, heroSealEquipOff, EStateM.run_bind, run_ofExcept, getHero_eq_ok.mpr hhero,
      hget]

/-- **When a seal is put on well**: the hero wore no other seal. -/
lemma Held.on_iff (h : Held cfgs pvo) (hpasses : Passes cfgs pvo (.on heroId skillId)) :
    (Good cfgs pvo (.on heroId skillId) ↔ Fits pvo (.on heroId skillId)) ∧
      (Fits pvo (.on heroId skillId) → Held cfgs (step cfgs pvo (.on heroId skillId))) := by
  cases hhero : pvo.heroes.lookup heroId with
  | none =>
    have hgood := good_of_run_eq_error h (run_exec_of_hero hhero (.on heroId skillId) (.inl rfl))
    refine ⟨iff_of_true hgood.1 fun _ => .inl ?_, fun _ => hgood.2⟩
    rw [equipped, hhero, Option.bind_none]
  | some heroVO =>
    cases hseal : pvo.getSkill (.ofPlayer skillId) with
    | none =>
      have hgood :=
        good_of_run_eq_error h (run_exec_of_seal hhero hseal (.on heroId skillId) (.inl rfl))
      refine ⟨iff_of_true hgood.1 fun hsome => ?_, fun _ => hgood.2⟩
      rw [hseal] at hsome
      cases hsome
    | some sealVO =>
      simp only [Passes, hhero, hseal] at hpasses
      obtain ⟨pvo', hrun, hmoved⟩ := h.heroSealEquipOn hhero hseal hpasses.1 hpasses.2
      have hstep : step cfgs pvo (.on heroId skillId) = pvo' := finalState_eq_of_ok hrun
      have hfits : Fits pvo (.on heroId skillId) → Held cfgs pvo' := by
        intro hfits
        refine hmoved.held h hseal ?_
        rintro _ ⟨⟩ other hworn
        obtain hnone | hsame := hfits (Option.isSome_of_mem hseal)
        · cases hnone.symm.trans hworn
        · exact SkillRef.ofPlayer.inj (Option.some.inj (hworn.symm.trans hsame))
      rw [@good_of_run_eq_ok _ _ _ (.on heroId skillId) hrun, hstep]
      refine ⟨⟨?_, fun hf => (hfits hf).wellHeld⟩, hfits⟩
      intro hwell _
      cases hworn : pvo.equipped heroId SkillType.SEAL with
      | none => exact .inl rfl
      | some ref =>
        right
        obtain ⟨other, rfl, hother⟩ := h.seals hworn
        obtain ⟨otherVO, hother⟩ := Option.isSome_iff_exists.mp hother
        have hexists : (pvo.heroes.lookup heroId).isSome := Option.isSome_of_mem hhero
        by_contra hne
        -- the seal that was replaced still names the hero
        have hid : SkillRef.ofPlayer other ≠ .ofPlayer skillId := fun heq => hne (by rw [heq])
        have hother' : pvo'.getSkill (.ofPlayer other) = some otherVO := by
          rw [hmoved.skill, if_neg hid, hother]
        have hexists' : (pvo'.heroes.lookup heroId).isSome := by
          rw [hmoved.heroes, hexists]
        have hworn' := (hwell.entry hexists' hother').mpr ((h.entry hexists hother).mp hworn)
        rw [hmoved.equipped, if_pos rfl] at hworn'
        exact hid (Option.some.inj hworn').symm

/-- **When a seal is taken off well**: it was worn before, by whomever. -/
lemma Held.off_iff (h : Held cfgs pvo) :
    (Good cfgs pvo (.off heroId skillId) ↔ Fits pvo (.off heroId skillId)) ∧
      (Fits pvo (.off heroId skillId) → Held cfgs (step cfgs pvo (.off heroId skillId))) := by
  cases hhero : pvo.heroes.lookup heroId with
  | none =>
    have hgood := good_of_run_eq_error h (run_exec_of_hero hhero (.off heroId skillId) (.inr rfl))
    refine ⟨iff_of_true hgood.1 ?_, fun _ => hgood.2⟩
    simp only [Fits, hhero]
  | some heroVO =>
    cases hseal : pvo.getSkill (.ofPlayer skillId) with
    | none =>
      have hgood :=
        good_of_run_eq_error h (run_exec_of_seal hhero hseal (.off heroId skillId) (.inr rfl))
      refine ⟨iff_of_true hgood.1 ?_, fun _ => hgood.2⟩
      simp only [Fits, hhero, hseal]
    | some sealVO =>
      have hget := getHero_eq_ok.mpr hhero
      have hgetSeal := getSkillVO_eq_ok.mpr hseal
      simp only [Fits, hhero, hseal]
      cases hholder : sealVO.holderId with
      | none =>
        have hrun : (exec cfgs (.off heroId skillId)).run pvo = .error .nullPointer pvo := by
          simp only [exec, Skill.heroSealEquipOff, EStateM.run_bind, run_ofExcept, hget, hgetSeal,
            unboxHolder, hholder]
        refine ⟨iff_of_false ?_ fun hne => hne rfl, fun hne => absurd rfl hne⟩
        intro hgood
        obtain ⟨code, hcode⟩ := hgood.1 _ _ hrun
        cases hcode
      | some holder =>
        by_cases hid : holder = heroId
        · rw [hid] at hholder
          obtain ⟨pvo', hrun, hmoved⟩ :=
            h.heroSealEquipOff (Option.isSome_of_mem hhero) hseal hholder
          have hheld : Held cfgs pvo' := hmoved.held h hseal fun _ hnone => by cases hnone
          have hstep : step cfgs pvo (.off heroId skillId) = pvo' := finalState_eq_of_ok hrun
          rw [@good_of_run_eq_ok _ _ _ (.off heroId skillId) hrun, hstep]
          exact ⟨iff_of_true hheld.wellHeld (Option.some_ne_none _), fun _ => hheld⟩
        · have hrun : (exec cfgs (.off heroId skillId)).run pvo =
              .error (.logic CodeSkill.sealNotEquip.get) pvo := by
            simp only [exec, Skill.heroSealEquipOff, EStateM.run_bind, run_ofExcept, hget, hgetSeal,
              unboxHolder, hholder, ICode.throwIfTrue, ne_eq, hid, not_false_eq_true, if_true,
              ICode.throwException]
          have hgood := good_of_run_eq_error h hrun
          exact ⟨iff_of_true hgood.1 (Option.some_ne_none _), fun _ => hgood.2⟩

/-- **When the names match** in every state of a run, and nothing unchecked is thrown: just when all
its calls fit. -/
theorem wellHeld_run_iff (h : Held cfgs pvo) (calls : List SealCall)
    (hpasses : Runs.EveryStep (fun pvo call => step cfgs pvo call) (Passes cfgs) pvo calls) :
    Runs.EveryStep (fun pvo call => step cfgs pvo call) (Good cfgs) pvo calls ↔
      Runs.EveryStep (fun pvo call => step cfgs pvo call) Fits pvo calls := by
  have hcall : ∀ {pvo call}, Held cfgs pvo → Passes cfgs pvo call →
      (Good cfgs pvo call ↔ Fits pvo call) ∧ (Fits pvo call → Held cfgs (step cfgs pvo call)) := by
    intro pvo call hheld hpass
    cases call with
    | on heroId skillId => exact hheld.on_iff hpass
    | off heroId skillId => exact hheld.off_iff
  refine Runs.everyStep_congr (fun pvo rest => Held cfgs pvo ∧
    Runs.EveryStep (fun pvo call => step cfgs pvo call) (Passes cfgs) pvo rest) ?_ ?_ ⟨h, hpasses⟩
  · rintro pvo call rest ⟨hheld, hpass, hrest⟩ hfits
    exact ⟨(hcall hheld hpass).2 hfits, hrest⟩
  · rintro pvo call rest ⟨hheld, hpass, -⟩
    exact (hcall hheld hpass).1

/-- **Nobody wears a seal yet**: a seal that was made has no holder, or was given back. -/
structure Fresh (cfgs : SkillConfigs) (pvo : PlayerVO) : Prop where
  heroes : ∀ {heroId heroVO}, pvo.heroes.lookup heroId = some heroVO →
    heroVO.equippedSkills.lookup SkillType.SEAL = none
  seals : ∀ {skillId sealVO}, pvo.seals.lookup skillId = some sealVO →
    sealVO.isEquiped = false ∧ (sealVO.holderId = none ∨ sealVO.holderId = some 0) ∧
      ∃ cfg, cfgs.skillSealMap sealVO.cid = some cfg ∧ cfg.type = SkillType.SEAL
  nobody : pvo.heroes.lookup 0 = none

lemma Fresh.held (h : Fresh cfgs pvo) : Held cfgs pvo := by
  have hnothing : ∀ heroId, pvo.equipped heroId SkillType.SEAL = none := by
    intro heroId
    cases hhero : pvo.heroes.lookup heroId with
    | none => rw [equipped, hhero, Option.bind_none]
    | some heroVO => rw [equipped_of_lookup hhero, h.heroes hhero]
  constructor
  · intro heroId skillId sealVO _ hseal
    refine iff_of_false ?_ ?_
    · rw [hnothing]
      exact Option.some_ne_none _ |>.symm
    · rintro ⟨-, hequiped⟩
      exact Bool.false_ne_true ((h.seals hseal).1.symm.trans hequiped)
  · intro heroId ref hworn
    cases (hnothing heroId).symm.trans hworn
  · intro heroId skillId sealVO hhero hseal hholder
    obtain ⟨-, hnone | hzero, -⟩ := h.seals hseal
    · cases hnone.symm.trans hholder
    · obtain rfl := Option.some.inj (hzero.symm.trans hholder)
      rw [h.nobody] at hhero
      cases hhero
  · exact h.nobody
  · intro skillId sealVO hseal
    exact (h.seals hseal).2.2

/-- Two heroes without skills, and two new seals. -/
def sealBearers : PlayerVO where
  heroes := (AList.insert 1 ⟨1, ∅, ∅⟩ ∅).insert 2 ⟨1, ∅, ∅⟩
  seals := (AList.insert 10 ⟨10, 100, none, true, false⟩ ∅).insert 11 ⟨11, 101, none, true, false⟩
  skillDAO := ∅

lemma fresh_sealBearers : Fresh unlimited sealBearers where
  heroes := by
    intro heroId heroVO hhero
    simp only [sealBearers, AList.lookup_insert_ite, AList.lookup_empty] at hhero
    split_ifs at hhero
    · obtain rfl := Option.some.inj hhero
      rfl
    · obtain rfl := Option.some.inj hhero
      rfl
  seals := by
    intro skillId sealVO hseal
    simp only [sealBearers, AList.lookup_insert_ite, AList.lookup_empty] at hseal
    split_ifs at hseal
    · obtain rfl := Option.some.inj hseal
      exact ⟨rfl, .inl rfl, _, rfl, rfl⟩
    · obtain rfl := Option.some.inj hseal
      exact ⟨rfl, .inl rfl, _, rfl, rfl⟩
  nobody := rfl

/-- A seal goes from one hero to another, who gives it back and puts on the other seal. -/
theorem wellHeld_run_sealBearers :
    Runs.EveryStep (fun pvo call => step unlimited pvo call) (Good unlimited) sealBearers
      [.on 1 10, .on 2 10, .off 2 10, .on 2 11] :=
  (wellHeld_run_iff fresh_sealBearers.held [.on 1 10, .on 2 10, .off 2 10, .on 2 11]
    ⟨⟨rfl, rfl⟩, ⟨rfl, rfl⟩, trivial, ⟨rfl, rfl⟩, trivial⟩).mpr
    ⟨fun _ => .inl rfl, fun _ => .inl rfl, Option.some_ne_none _, fun _ => .inl rfl, trivial⟩

/-- A hero puts on another seal: the first one still names him. He takes the first one off and wears
nothing, and the second one, which still names him, cannot be given to anybody. And a new seal
cannot be taken off. -/
theorem not_wellHeld_replaced :
    ¬WellHeld (Runs.run (step unlimited) sealBearers [.on 1 10, .on 1 11]) ∧
      (exec unlimited (.on 2 11)).run
          (Runs.run (step unlimited) sealBearers [.on 1 10, .on 1 11, .off 1 10]) =
        .error .nullPointer
          (Runs.run (step unlimited) sealBearers [.on 1 10, .on 1 11, .off 1 10]) ∧
      (exec unlimited (.off 1 10)).run sealBearers = .error .nullPointer sealBearers := by
  refine ⟨?_, rfl, rfl⟩
  intro hwell
  have hworn : (Runs.run (step unlimited) sealBearers [.on 1 10, .on 1 11]).equipped 1
      SkillType.SEAL = some (.ofPlayer 10) :=
    (hwell.entry rfl rfl).mpr ⟨rfl, rfl⟩
  cases hworn

end SrgpGame.Skill
