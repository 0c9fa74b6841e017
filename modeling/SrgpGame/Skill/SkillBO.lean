import SrgpGame.Core.Codes
import SrgpGame.Lib.Method

set_option autoImplicit false

/-!
# Skills and seals of heroes

A hero has skills of his own, and the player has seals that any of his heroes can wear. What a hero
wears is recorded twice: a flag on the skill, with the holder if it is a seal, and a map of the hero
from the types of skills to skills.

## Main definitions

* `SkillVO`, `HeroVO`, `PlayerVO` — skills and seals, a hero, and a player.
* `SkillRef` — a skill as an object, which the maps share.
* `heroSkillEquipOn`, `heroSkillEquipOff` — a hero puts a skill of his own on, or takes it off.
* `heroSealEquipOn`, `heroSealEquipOff` — the same for a seal of the player.

## Design notes

The maps hold objects. A skill of a hero and a seal are each in one map under their ids, and the map
of what a hero wears refers to them, so that a flag is set at one place. `skillDAO` has the saved
skills. `holderId` is an `Integer` that may be `null`: nothing sets it in a seal just made.
-/

namespace SrgpGame.Skill

open EStateM

/-! ## Configurations -/

/-- `HeroCfg`. -/
structure HeroCfg where
  moveType : Int32
  weaponType : Int32
  colorType : Int32

/-- `SkillCfg`, with the configurations of seals. The arrays may be `null`. -/
structure SkillCfg where
  type : Int32
  limitWeapons : Option (List Int32)
  limitArms : Option (List Int32)

/-- The configuration tables. -/
structure SkillConfigs where
  /-- `HeroCfg` by id. -/
  heroCfg : Int32 → Option HeroCfg
  /-- `CacheSkill.skillMap`. -/
  skillMap : Int32 → Option SkillCfg
  /-- `CacheSkill.skillSealMap`. -/
  skillSealMap : Int32 → Option SkillCfg

namespace SkillType

/-- The type of seals. -/
def SEAL : Int32 := 7

end SkillType

/-! ## Heroes and players -/

/-- `SkillVO`. -/
structure SkillVO where
  id : Int32
  cid : Int32
  holderId : Option Int32
  isLearned : Bool
  isEquiped : Bool
  deriving DecidableEq, Repr

/-- A skill as an object: one of a hero, or a seal of the player. -/
inductive SkillRef where
  | ofHero (heroId skillId : Int32)
  | ofPlayer (skillId : Int32)
  deriving DecidableEq, Repr

/-- `HeroVO`. -/
structure HeroVO where
  cid : Int32
  /-- What the hero wears, by type. -/
  equippedSkills : AList fun _ : Int32 => SkillRef
  /-- The skills of the hero, by id. -/
  openedSkills : AList fun _ : Int32 => SkillVO

/-- A player. -/
structure PlayerVO where
  heroes : AList fun _ : Int32 => HeroVO
  seals : AList fun _ : Int32 => SkillVO
  skillDAO : AList fun _ : Int32 => SkillVO

namespace PlayerVO

variable (pvo : PlayerVO)

/-- The skill that is referred to. -/
def getSkill : SkillRef → Option SkillVO
  | .ofHero heroId skillId =>
    (pvo.heroes.lookup heroId).bind fun heroVO => heroVO.openedSkills.lookup skillId
  | .ofPlayer skillId => pvo.seals.lookup skillId

/-- What a hero wears. -/
def equipped (heroId type : Int32) : Option SkillRef :=
  (pvo.heroes.lookup heroId).bind fun heroVO => heroVO.equippedSkills.lookup type

/-- A hero is changed. -/
def modifyHero (heroId : Int32) (f : HeroVO → HeroVO) : PlayerVO :=
  match pvo.heroes.lookup heroId with
  | none => pvo
  | some heroVO => { pvo with heroes := pvo.heroes.insert heroId (f heroVO) }

/-- A skill is changed. -/
def setSkill (ref : SkillRef) (skillVO : SkillVO) : PlayerVO :=
  match ref with
  | .ofHero heroId skillId =>
    pvo.modifyHero heroId fun heroVO =>
      { heroVO with openedSkills := heroVO.openedSkills.insert skillId skillVO }
  | .ofPlayer skillId => { pvo with seals := pvo.seals.insert skillId skillVO }

/-- A skill is changed and saved. -/
def saveSkill (ref : SkillRef) (skillVO : SkillVO) : PlayerVO :=
  { pvo.setSkill ref skillVO with skillDAO := pvo.skillDAO.insert skillVO.id skillVO }

/-- A hero wears a skill. -/
def putEquipped (heroId type : Int32) (ref : SkillRef) : PlayerVO :=
  pvo.modifyHero heroId fun heroVO =>
    { heroVO with equippedSkills := heroVO.equippedSkills.insert type ref }

/-- A hero wears no skill of a type. -/
def removeEquipped (heroId type : Int32) : PlayerVO :=
  pvo.modifyHero heroId fun heroVO =>
    { heroVO with equippedSkills := heroVO.equippedSkills.erase type }

/-! ### What a change leaves -/

section Frames

variable {pvo : PlayerVO} {heroId heroId' type type' : Int32} {ref ref' : SkillRef}
  {skillVO : SkillVO}

lemma getSkill_ofHero (skillId : Int32) : pvo.getSkill (.ofHero heroId skillId) =
    (pvo.heroes.lookup heroId).bind fun heroVO => heroVO.openedSkills.lookup skillId := rfl

lemma getSkill_ofPlayer (skillId : Int32) :
    pvo.getSkill (.ofPlayer skillId) = pvo.seals.lookup skillId := rfl

lemma lookup_modifyHero (f : HeroVO → HeroVO) :
    (pvo.modifyHero heroId f).heroes.lookup heroId' =
      if heroId' = heroId then (pvo.heroes.lookup heroId).map f
      else pvo.heroes.lookup heroId' := by
  unfold modifyHero
  cases hhero : pvo.heroes.lookup heroId with
  | none =>
    split_ifs with h
    · rw [h, hhero, Option.map_none]
    · rfl
  | some heroVO => rw [AList.lookup_insert_ite, Option.map_some]

/-- A change that leaves the configuration of a hero leaves that of every hero. -/
lemma cid_modifyHero {f : HeroVO → HeroVO} (hf : ∀ heroVO, (f heroVO).cid = heroVO.cid) :
    ((pvo.modifyHero heroId f).heroes.lookup heroId').map HeroVO.cid =
      (pvo.heroes.lookup heroId').map HeroVO.cid := by
  rw [lookup_modifyHero]
  split_ifs with h
  · rw [h, Option.map_map]
    exact congrArg (Option.map · _) (funext hf)
  · rfl

@[simp] lemma cid_saveSkill : ((pvo.saveSkill ref skillVO).heroes.lookup heroId').map HeroVO.cid =
    (pvo.heroes.lookup heroId').map HeroVO.cid := by
  cases ref with
  | ofHero heroId skillId => exact cid_modifyHero fun _ => rfl
  | ofPlayer skillId => rfl

@[simp] lemma cid_putEquipped :
    ((pvo.putEquipped heroId type ref).heroes.lookup heroId').map HeroVO.cid =
      (pvo.heroes.lookup heroId').map HeroVO.cid :=
  cid_modifyHero fun _ => rfl

@[simp] lemma cid_removeEquipped :
    ((pvo.removeEquipped heroId type).heroes.lookup heroId').map HeroVO.cid =
      (pvo.heroes.lookup heroId').map HeroVO.cid :=
  cid_modifyHero fun _ => rfl

/-- The heroes who exist stay the same. -/
@[simp] lemma isSome_lookup_saveSkill :
    ((pvo.saveSkill ref skillVO).heroes.lookup heroId').isSome =
      (pvo.heroes.lookup heroId').isSome := by
  rw [← Option.isSome_map, cid_saveSkill, Option.isSome_map]

/-- Who has a skill exists. -/
lemma isSome_lookup_of_getSkill {skillId : Int32}
    (hskill : pvo.getSkill (.ofHero heroId skillId) = some skillVO) :
    (pvo.heroes.lookup heroId).isSome := by
  obtain ⟨heroVO, hhero, -⟩ := Option.bind_eq_some_iff.mp hskill
  exact Option.isSome_of_mem hhero

/-- What heroes wear stays when a skill changes. -/
@[simp] lemma equipped_saveSkill :
    (pvo.saveSkill ref skillVO).equipped heroId' type' = pvo.equipped heroId' type' := by
  cases ref with
  | ofHero heroId skillId =>
    unfold equipped
    rw [show (pvo.saveSkill (.ofHero heroId skillId) skillVO).heroes.lookup heroId' = _ from
      lookup_modifyHero _]
    split_ifs with h
    · rw [h]
      cases pvo.heroes.lookup heroId <;> rfl
    · rfl
  | ofPlayer skillId => rfl

/-- A skill that exists is changed, and no other. -/
lemma getSkill_saveSkill (hskill : (pvo.getSkill ref).isSome) :
    (pvo.saveSkill ref skillVO).getSkill ref' =
      if ref' = ref then some skillVO else pvo.getSkill ref' := by
  cases ref with
  | ofHero heroId skillId =>
    obtain ⟨oldVO, hold⟩ := Option.isSome_iff_exists.mp hskill
    obtain ⟨heroVO, hhero, -⟩ := Option.bind_eq_some_iff.mp hold
    cases ref' with
    | ofHero heroId' skillId' =>
      rw [getSkill_ofHero, getSkill_ofHero, show
        (pvo.saveSkill (.ofHero heroId skillId) skillVO).heroes.lookup heroId' = _ from
          lookup_modifyHero _]
      by_cases hid : heroId' = heroId
      · rw [if_pos hid, hid, hhero, Option.map_some, Option.bind_some, Option.bind_some,
          AList.lookup_insert_ite]
        simp only [SkillRef.ofHero.injEq, true_and]
      · rw [if_neg hid, if_neg (by simp [hid])]
    | ofPlayer skillId' =>
      rw [if_neg SkillRef.noConfusion, getSkill_ofPlayer, getSkill_ofPlayer]
      simp only [saveSkill, setSkill, modifyHero, hhero]
  | ofPlayer skillId =>
    cases ref' with
    | ofHero heroId' skillId' => exact (if_neg SkillRef.noConfusion).symm
    | ofPlayer skillId' =>
      simp only [getSkill_ofPlayer, saveSkill, setSkill, AList.lookup_insert_ite,
        SkillRef.ofPlayer.injEq]

/-- A hero who exists wears the skill. -/
lemma equipped_putEquipped (hhero : (pvo.heroes.lookup heroId).isSome) :
    (pvo.putEquipped heroId type ref).equipped heroId' type' =
      if heroId' = heroId ∧ type' = type then some ref else pvo.equipped heroId' type' := by
  obtain ⟨heroVO, hhero⟩ := Option.isSome_iff_exists.mp hhero
  unfold equipped putEquipped
  rw [lookup_modifyHero]
  by_cases hid : heroId' = heroId
  · rw [if_pos hid, hid, hhero, Option.map_some, Option.bind_some, Option.bind_some,
      AList.lookup_insert_ite]
    simp only [true_and]
  · rw [if_neg hid, if_neg (fun h => hid h.1)]

lemma equipped_removeEquipped :
    (pvo.removeEquipped heroId type).equipped heroId' type' =
      if heroId' = heroId ∧ type' = type then none else pvo.equipped heroId' type' := by
  unfold equipped removeEquipped
  rw [lookup_modifyHero]
  by_cases hid : heroId' = heroId
  · rw [if_pos hid, hid]
    cases hhero : pvo.heroes.lookup heroId with
    | none => simp only [Option.map_none, Option.bind_none, ite_self]
    | some heroVO =>
      rw [Option.map_some, Option.bind_some, Option.bind_some, AList.lookup_erase_ite]
      simp only [true_and]
  · rw [if_neg hid, if_neg (fun h => hid h.1)]

/-- A change that leaves the skills of a hero leaves all skills. -/
lemma getSkill_modifyHero {f : HeroVO → HeroVO}
    (hf : ∀ heroVO, (f heroVO).openedSkills = heroVO.openedSkills) :
    (pvo.modifyHero heroId f).getSkill ref' = pvo.getSkill ref' := by
  cases ref' with
  | ofHero heroId' skillId' =>
    rw [getSkill_ofHero, getSkill_ofHero, lookup_modifyHero]
    split_ifs with h
    · rw [h]
      cases pvo.heroes.lookup heroId with
      | none => rfl
      | some heroVO => exact congrArg (AList.lookup skillId') (hf heroVO)
    · rfl
  | ofPlayer skillId' =>
    rw [getSkill_ofPlayer, getSkill_ofPlayer, modifyHero]
    cases pvo.heroes.lookup heroId <;> rfl

@[simp] lemma getSkill_putEquipped :
    (pvo.putEquipped heroId type ref).getSkill ref' = pvo.getSkill ref' :=
  getSkill_modifyHero fun _ => rfl

@[simp] lemma getSkill_removeEquipped :
    (pvo.removeEquipped heroId type).getSkill ref' = pvo.getSkill ref' :=
  getSkill_modifyHero fun _ => rfl

end Frames

end PlayerVO

/-! ## Checks -/

variable (cfgs : SkillConfigs)

/-- The hero of a player. -/
def getHero (heroId : Int32) (pvo : PlayerVO) : Except Thrown HeroVO :=
  match pvo.heroes.lookup heroId with
  | none => .error (.logic CodeHero.heroNotFound.get)
  | some heroVO => .ok heroVO

/-- The skill that is referred to. -/
def getSkillVO (ref : SkillRef) (pvo : PlayerVO) : Except Thrown SkillVO :=
  match pvo.getSkill ref with
  | none => .error (.logic CodeSkill.skillNotFound.get)
  | some skillVO => .ok skillVO

/-- A configuration; its callers read the values at once. -/
def getCfg {γ : Type} (table : Int32 → Option γ) (cid : Int32) : Except Thrown γ :=
  match table cid with
  | none => .error .nullPointer
  | some cfg => .ok cfg

/-- A `null` array has no length. -/
def getArray (array : Option (List Int32)) : Except Thrown (List Int32) :=
  match array with
  | none => .error .nullPointer
  | some array => .ok array

/-- `checkArms`. Without limits the hero is not looked at. -/
def checkArms (heroCId skillCId : Int32) : Except Thrown Unit := do
  let skillCfg ← getCfg cfgs.skillMap skillCId
  let arms ← getArray skillCfg.limitArms
  if arms = [] then return
  let heroCfg ← getCfg cfgs.heroCfg heroCId
  CodeSkill.skillArmLimit.throwIfTrue (heroCfg.moveType ∉ arms)

/-- `getColorWeaponCode`. -/
def getColorWeaponCode (cfg : HeroCfg) : Int32 :=
  ((cfg.weaponType - 1) <<< 2) + cfg.colorType

/-- `checkColorWeapons`. -/
def checkColorWeapons (heroCId skillCId : Int32) : Except Thrown Unit := do
  let heroCfg ← getCfg cfgs.heroCfg heroCId
  let code := getColorWeaponCode heroCfg
  let skillCfg ← getCfg cfgs.skillMap skillCId
  let arms ← getArray skillCfg.limitWeapons
  if arms = [] then return
  CodeSkill.skillWeaponLimit.throwIfTrue ¬(code ≠ 999 ∧ code ∈ arms)

/-! ## Skills -/

/-- The skill that was worn is taken off. -/
def unequip (pvo : PlayerVO) (ref : SkillRef) : PlayerVO :=
  match pvo.getSkill ref with
  | none => pvo
  | some equipedVO => pvo.saveSkill ref { equipedVO with isEquiped := false }

/-- **`heroSkillEquipOn`**. -/
def heroSkillEquipOn (heroId skillId : Int32) : EStateM Thrown PlayerVO Unit := do
  let heroVO ← ofExcept (getHero heroId)
  let skillVO ← ofExcept (getSkillVO (.ofHero heroId skillId))
  ofExcept fun _ => CodeSkill.skillEquippedOn.throwIfTrue skillVO.isEquiped
  ofExcept fun _ => CodeSkill.skillNotLearn.throwIfTrue ¬skillVO.isLearned
  ofExcept fun _ => checkArms cfgs heroVO.cid skillVO.cid
  ofExcept fun _ => checkColorWeapons cfgs heroVO.cid skillVO.cid
  let cfg ← ofExcept fun _ => getCfg cfgs.skillMap skillVO.cid
  modify fun pvo => (heroVO.equippedSkills.lookup cfg.type).elim pvo (unequip pvo)
  modify fun pvo => pvo.saveSkill (.ofHero heroId skillId) { skillVO with isEquiped := true }
  modify fun pvo => pvo.putEquipped heroId cfg.type (.ofHero heroId skillId)

/-- **`heroSkillEquipOff`**. The flag is cleared before the configuration is looked up. -/
def heroSkillEquipOff (heroId skillId : Int32) : EStateM Thrown PlayerVO Unit := do
  let _ ← ofExcept (getHero heroId)
  let skillVO ← ofExcept (getSkillVO (.ofHero heroId skillId))
  ofExcept fun _ => CodeSkill.skillEquippedOff.throwIfTrue ¬skillVO.isEquiped
  modify fun pvo => pvo.saveSkill (.ofHero heroId skillId) { skillVO with isEquiped := false }
  let cfg ← ofExcept fun _ => getCfg cfgs.skillMap skillVO.cid
  modify fun pvo => pvo.removeEquipped heroId cfg.type

/-! ## Seals -/

/-- What the holder of a seal wears is taken off, before the seal gets another holder. The source
asks again whether there is a holder, and then takes for granted that he wears something. -/
def displace (holderId : Option Int32) (type : Int32) : EStateM Thrown PlayerVO Unit := do
  let pvo ← get
  match holderId.filter fun id => (pvo.heroes.lookup id).isSome with
  | none => return
  | some holder =>
    match (pvo.equipped holder type).bind fun ref => (pvo.getSkill ref).map (ref, ·) with
    | none => throw .nullPointer
    | some (ref, equipedVO) =>
      set ((pvo.saveSkill ref { equipedVO with isEquiped := false, holderId := some 0 }
        ).removeEquipped holder type)

/-- **`heroSealEquipOn`**. -/
def heroSealEquipOn (heroId skillId : Int32) : EStateM Thrown PlayerVO Unit := do
  let heroVO ← ofExcept (getHero heroId)
  let sealVO ← ofExcept (getSkillVO (.ofPlayer skillId))
  ofExcept fun _ => checkArms cfgs heroVO.cid sealVO.cid
  ofExcept fun _ => checkColorWeapons cfgs heroVO.cid sealVO.cid
  let cfg ← ofExcept fun _ => getCfg cfgs.skillSealMap sealVO.cid
  displace sealVO.holderId cfg.type
  modify fun pvo => pvo.saveSkill (.ofPlayer skillId)
    { sealVO with isEquiped := true, holderId := some heroId }
  modify fun pvo => pvo.putEquipped heroId cfg.type (.ofPlayer skillId)

/-- The holder of a seal as a number: `null` has none. -/
def unboxHolder (sealVO : SkillVO) : Except Thrown Int32 :=
  match sealVO.holderId with
  | none => .error .nullPointer
  | some holderId => .ok holderId

/-- **`heroSealEquipOff`**. That there is no configuration shows when the seal is cleared. -/
def heroSealEquipOff (heroId skillId : Int32) : EStateM Thrown PlayerVO Unit := do
  let _ ← ofExcept (getHero heroId)
  let sealVO ← ofExcept (getSkillVO (.ofPlayer skillId))
  let holderId ← ofExcept fun _ => unboxHolder sealVO
  ofExcept fun _ => CodeSkill.sealNotEquip.throwIfTrue (holderId ≠ heroId)
  modify fun pvo => pvo.saveSkill (.ofPlayer skillId)
    { sealVO with isEquiped := false, holderId := some 0 }
  let cfg ← ofExcept fun _ => getCfg cfgs.skillSealMap sealVO.cid
  modify fun pvo => pvo.removeEquipped heroId cfg.type

end SrgpGame.Skill
