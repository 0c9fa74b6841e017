import SrgpGame.Skill.SkillBO
import SrgpGame.Lib.Runs

set_option autoImplicit false

/-!
# The skills that heroes wear

What a hero wears is the skills of his own with the flag set, one of each type. Both operations on
skills keep the flags and the map of the hero in step, and change nothing if they throw.

## Main definitions

* `WellEquipped` — what a player's heroes wear is what the flags say.
* `SkillCall` — the calls of the two operations.

## Main results

* `Worn.heroSkillEquipOn`, `Worn.heroSkillEquipOff` — the operations keep flags and maps in step.
* `wellEquipped_run` — so does every run of them that starts with nothing worn.
-/

namespace SrgpGame.Skill

open EStateM PlayerVO

variable {cfgs : SkillConfigs} {pvo : PlayerVO} {heroId skillId type : Int32} {ref : SkillRef}
  {skillVO : SkillVO}

/-! ## Flags and maps -/

/-- The type of a skill. -/
def SkillConfigs.typeOf (cfgs : SkillConfigs) (skillVO : SkillVO) : Option Int32 :=
  (cfgs.skillMap skillVO.cid).map SkillCfg.type

/-- A hero has put the skill on, by the flag of the skill. -/
def Flagged (cfgs : SkillConfigs) (pvo : PlayerVO) (heroId type skillId : Int32) : Prop :=
  ∃ skillVO, pvo.getSkill (.ofHero heroId skillId) = some skillVO ∧ skillVO.isEquiped ∧
    cfgs.typeOf skillVO = some type

/-- **What heroes wear is what the flags say.** -/
structure WellEquipped (cfgs : SkillConfigs) (pvo : PlayerVO) : Prop where
  unique : ∀ {heroId type a b}, Flagged cfgs pvo heroId type a → Flagged cfgs pvo heroId type b →
    a = b
  entry : ∀ {heroId type skillId},
    pvo.equipped heroId type = some (.ofHero heroId skillId) ↔ Flagged cfgs pvo heroId type skillId
  absent : ∀ {heroId type}, pvo.equipped heroId type = none ↔
    ∀ skillId, ¬Flagged cfgs pvo heroId type skillId
  learned : ∀ {heroId skillId skillVO}, pvo.getSkill (.ofHero heroId skillId) = some skillVO →
    skillVO.isEquiped → skillVO.isLearned

/-- **What the operations keep.** A hero wears nothing but skills of his own. -/
structure Worn (cfgs : SkillConfigs) (pvo : PlayerVO) : Prop where
  entry : ∀ {heroId type ref}, pvo.equipped heroId type = some ref ↔
    ∃ skillId, ref = .ofHero heroId skillId ∧ Flagged cfgs pvo heroId type skillId
  learned : ∀ {heroId skillId skillVO}, pvo.getSkill (.ofHero heroId skillId) = some skillVO →
    skillVO.isEquiped → skillVO.isLearned ∧ (cfgs.typeOf skillVO).isSome

/-- The map has an entry for a skill just if the flag is set. -/
lemma Worn.entry_iff (h : Worn cfgs pvo) :
    pvo.equipped heroId type = some (.ofHero heroId skillId) ↔
      Flagged cfgs pvo heroId type skillId := by
  rw [h.entry]
  constructor
  · rintro ⟨skillId', href, hflagged⟩
    obtain ⟨-, rfl⟩ := SkillRef.ofHero.inj href
    exact hflagged
  · intro hflagged
    exact ⟨skillId, rfl, hflagged⟩

lemma Worn.wellEquipped (h : Worn cfgs pvo) : WellEquipped cfgs pvo where
  unique := by
    intro heroId type a b ha hb
    have hsame := (h.entry_iff.mpr ha).symm.trans (h.entry_iff.mpr hb)
    exact (SkillRef.ofHero.inj (Option.some.inj hsame)).2
  entry := h.entry_iff
  absent := by
    intro heroId type
    constructor
    · intro hnone skillId hflagged
      cases hnone.symm.trans (h.entry_iff.mpr hflagged)
    · intro hall
      cases hentry : pvo.equipped heroId type with
      | none => rfl
      | some ref =>
        obtain ⟨skillId, -, hflagged⟩ := h.entry.mp hentry
        exact absurd hflagged (hall skillId)
  learned := fun hskill hequiped => (h.learned hskill hequiped).1

/-! ## Taking on and off -/

/-- The flag of one skill changes, and no other. -/
lemma flagged_saveSkill (hskill : pvo.getSkill (.ofHero heroId skillId) = some skillVO)
    {equiped : Bool} {heroId' type' skillId' : Int32} :
    Flagged cfgs (pvo.saveSkill (.ofHero heroId skillId) { skillVO with isEquiped := equiped })
        heroId' type' skillId' ↔
      if heroId' = heroId ∧ skillId' = skillId then
        equiped = true ∧ cfgs.typeOf skillVO = some type'
      else Flagged cfgs pvo heroId' type' skillId' := by
  unfold Flagged
  rw [getSkill_saveSkill (Option.isSome_of_mem hskill)]
  simp only [SkillRef.ofHero.injEq]
  split_ifs with h
  · constructor
    · rintro ⟨vo, hvo, hequiped, htype⟩
      obtain rfl := Option.some.inj hvo
      exact ⟨hequiped, htype⟩
    · rintro ⟨hequiped, htype⟩
      exact ⟨_, rfl, hequiped, htype⟩
  · rfl

/-- Changes of what is worn do not change the flags. -/
lemma flagged_removeEquipped {heroId' type' skillId' : Int32} :
    Flagged cfgs (pvo.removeEquipped heroId type) heroId' type' skillId' ↔
      Flagged cfgs pvo heroId' type' skillId' := by
  unfold Flagged
  rw [getSkill_removeEquipped]

lemma flagged_putEquipped {heroId' type' skillId' : Int32} :
    Flagged cfgs (pvo.putEquipped heroId type ref) heroId' type' skillId' ↔
      Flagged cfgs pvo heroId' type' skillId' := by
  unfold Flagged
  rw [getSkill_putEquipped]

/-- A skill has one type. -/
lemma Flagged.typeOf_eq (hskill : pvo.getSkill (.ofHero heroId skillId) = some skillVO)
    (h : Flagged cfgs pvo heroId type skillId) : cfgs.typeOf skillVO = some type := by
  obtain ⟨vo, hvo, -, htype⟩ := h
  obtain rfl := Option.some.inj (hskill.symm.trans hvo)
  exact htype

/-- What is learned stays learned when a flag changes. -/
lemma Worn.learned_saveSkill (h : Worn cfgs pvo)
    (hskill : pvo.getSkill (.ofHero heroId skillId) = some skillVO) {equiped : Bool}
    (hlearned : equiped = true → skillVO.isLearned ∧ (cfgs.typeOf skillVO).isSome)
    {heroId' skillId' : Int32} {vo : SkillVO}
    (hvo : (pvo.saveSkill (.ofHero heroId skillId) { skillVO with isEquiped := equiped }).getSkill
      (.ofHero heroId' skillId') = some vo) (hequiped : vo.isEquiped) :
    vo.isLearned ∧ (cfgs.typeOf vo).isSome := by
  rw [getSkill_saveSkill (Option.isSome_of_mem hskill)] at hvo
  split_ifs at hvo
  · obtain rfl := Option.some.inj hvo
    exact hlearned hequiped
  · exact h.learned hvo hequiped

/-- **A skill that is worn is taken off.** -/
lemma Worn.takeOff (h : Worn cfgs pvo)
    (hskill : pvo.getSkill (.ofHero heroId skillId) = some skillVO)
    (hequiped : skillVO.isEquiped) (htype : cfgs.typeOf skillVO = some type) :
    Worn cfgs ((pvo.saveSkill (.ofHero heroId skillId) { skillVO with isEquiped := false }
      ).removeEquipped heroId type) := by
  have hworn : Flagged cfgs pvo heroId type skillId := ⟨skillVO, hskill, hequiped, htype⟩
  constructor
  · intro heroId' type' ref
    simp only [equipped_removeEquipped, equipped_saveSkill, flagged_removeEquipped,
      flagged_saveSkill hskill, Bool.false_eq_true, false_and]
    split_ifs with hentry
    · obtain ⟨rfl, rfl⟩ := hentry
      refine iff_of_false not_false ?_
      rintro ⟨skillId', -, hflagged⟩
      split_ifs at hflagged with hid
      exact hid ⟨rfl, h.wellEquipped.unique hflagged hworn⟩
    · rw [h.entry]
      refine exists_congr fun skillId' => and_congr_right fun _ => ?_
      split_ifs with hid
      · obtain ⟨rfl, rfl⟩ := hid
        refine iff_of_false ?_ not_false
        intro hflagged
        exact hentry ⟨rfl, Option.some.inj ((hflagged.typeOf_eq hskill).symm.trans htype)⟩
      · rfl
  · intro heroId' skillId' vo hvo
    rw [getSkill_removeEquipped] at hvo
    exact h.learned_saveSkill hskill (fun hfalse => by cases hfalse) hvo

/-- **A skill is put on** where nothing is worn. -/
lemma Worn.putOn (h : Worn cfgs pvo)
    (hskill : pvo.getSkill (.ofHero heroId skillId) = some skillVO)
    (hlearned : skillVO.isLearned) (htype : cfgs.typeOf skillVO = some type)
    (hnone : pvo.equipped heroId type = none) :
    Worn cfgs ((pvo.saveSkill (.ofHero heroId skillId) { skillVO with isEquiped := true }
      ).putEquipped heroId type (.ofHero heroId skillId)) := by
  have hhero : ((pvo.saveSkill (.ofHero heroId skillId) { skillVO with isEquiped := true }
      ).heroes.lookup heroId).isSome := by
    rw [isSome_lookup_saveSkill]
    exact isSome_lookup_of_getSkill hskill
  have hfree : ∀ skillId', ¬Flagged cfgs pvo heroId type skillId' :=
    h.wellEquipped.absent.mp hnone
  constructor
  · intro heroId' type' ref
    simp only [equipped_putEquipped hhero, equipped_saveSkill, flagged_putEquipped,
      flagged_saveSkill hskill, true_and]
    split_ifs with hentry
    · obtain ⟨rfl, rfl⟩ := hentry
      constructor
      · rintro heq
        refine ⟨skillId, (Option.some.inj heq).symm, ?_⟩
        rw [if_pos ⟨rfl, rfl⟩]
        exact htype
      · rintro ⟨skillId', rfl, hflagged⟩
        split_ifs at hflagged with hid
        · rw [hid.2]
        · exact absurd hflagged (hfree skillId')
    · rw [h.entry]
      refine exists_congr fun skillId' => and_congr_right fun _ => ?_
      split_ifs with hid
      · obtain ⟨rfl, rfl⟩ := hid
        refine iff_of_false ?_ ?_
        · intro hflagged
          have htype' := hflagged.typeOf_eq hskill
          exact hentry ⟨rfl, Option.some.inj (htype'.symm.trans htype)⟩
        · intro htype'
          exact hentry ⟨rfl, Option.some.inj (htype'.symm.trans htype)⟩
      · rfl
  · intro heroId' skillId' vo hvo
    rw [getSkill_putEquipped] at hvo
    refine h.learned_saveSkill hskill (fun _ => ⟨hlearned, ?_⟩) hvo
    rw [htype]
    rfl

/-- Flags and maps are all that counts. -/
lemma Worn.congr {pvo' : PlayerVO} (h : Worn cfgs pvo)
    (hskill : ∀ ref, pvo'.getSkill ref = pvo.getSkill ref)
    (hequipped : ∀ heroId type, pvo'.equipped heroId type = pvo.equipped heroId type) :
    Worn cfgs pvo' where
  entry := by
    intro heroId type ref
    rw [hequipped, h.entry]
    unfold Flagged
    simp only [hskill]
  learned hvo := h.learned ((hskill _).symm.trans hvo)

/-! ## The operations -/

lemma getHero_eq_ok {heroVO : HeroVO} :
    getHero heroId pvo = .ok heroVO ↔ pvo.heroes.lookup heroId = some heroVO := by
  unfold getHero
  cases pvo.heroes.lookup heroId <;> simp

lemma getSkillVO_eq_ok : getSkillVO ref pvo = .ok skillVO ↔ pvo.getSkill ref = some skillVO := by
  unfold getSkillVO
  cases pvo.getSkill ref <;> simp

lemma getCfg_eq_ok {γ : Type} {table : Int32 → Option γ} {cid : Int32} {cfg : γ} :
    getCfg table cid = .ok cfg ↔ table cid = some cfg := by
  unfold getCfg
  cases table cid <;> simp

/-- What a hero wears, once the hero is found. -/
lemma equipped_of_lookup {heroVO : HeroVO} (hhero : pvo.heroes.lookup heroId = some heroVO) :
    pvo.equipped heroId type = heroVO.equippedSkills.lookup type := by
  rw [equipped, hhero, Option.bind_some]

/-- **A hero puts on a skill** instead of the one he wears. -/
lemma Worn.replace (h : Worn cfgs pvo)
    (hskill : pvo.getSkill (.ofHero heroId skillId) = some skillVO)
    (hequiped : skillVO.isEquiped = false) (hlearned : skillVO.isLearned)
    (htype : cfgs.typeOf skillVO = some type) :
    Worn cfgs ((((pvo.equipped heroId type).elim pvo (unequip pvo)).saveSkill
      (.ofHero heroId skillId) { skillVO with isEquiped := true }).putEquipped heroId type
        (.ofHero heroId skillId)) := by
  cases hentry : pvo.equipped heroId type with
  | none => exact h.putOn hskill hlearned htype hentry
  | some ref =>
    obtain ⟨oldId, rfl, oldVO, hold, holdEquiped, holdType⟩ := h.entry.mp hentry
    have hne : SkillRef.ofHero heroId skillId ≠ .ofHero heroId oldId := by
      intro heq
      rw [heq] at hskill
      obtain rfl := Option.some.inj (hskill.symm.trans hold)
      exact Bool.false_ne_true (hequiped.symm.trans holdEquiped)
    have hunequip : unequip pvo (.ofHero heroId oldId) =
        pvo.saveSkill (.ofHero heroId oldId) { oldVO with isEquiped := false } := by
      rw [unequip, hold]
    have hoff := h.takeOff hold holdEquiped holdType
    rw [Option.elim_some, hunequip]
    generalize hpvo₁ : pvo.saveSkill (.ofHero heroId oldId) { oldVO with isEquiped := false } =
      pvo₁ at hoff ⊢
    have hskill₁ : pvo₁.getSkill (.ofHero heroId skillId) = some skillVO := by
      rw [← hpvo₁, getSkill_saveSkill (Option.isSome_of_mem hold), if_neg hne, hskill]
    have hskill₂ : (pvo₁.removeEquipped heroId type).getSkill (.ofHero heroId skillId) =
        some skillVO := (getSkill_removeEquipped).trans hskill₁
    have hnone : (pvo₁.removeEquipped heroId type).equipped heroId type = none := by
      rw [equipped_removeEquipped, if_pos ⟨rfl, rfl⟩]
    -- taking the old skill out of the map first makes no difference
    refine (hoff.putOn hskill₂ hlearned htype hnone).congr ?_ ?_
    · intro ref
      rw [getSkill_putEquipped, getSkill_putEquipped,
        getSkill_saveSkill (Option.isSome_of_mem hskill₁),
        getSkill_saveSkill (Option.isSome_of_mem hskill₂), getSkill_removeEquipped]
    · intro heroId' type'
      have hhero : ∀ {p : PlayerVO}, p.getSkill (.ofHero heroId skillId) = some skillVO →
          ((p.saveSkill (.ofHero heroId skillId) { skillVO with isEquiped := true }
            ).heroes.lookup heroId).isSome := by
        intro p hp
        rw [isSome_lookup_saveSkill]
        exact isSome_lookup_of_getSkill hp
      rw [equipped_putEquipped (hhero hskill₁), equipped_putEquipped (hhero hskill₂),
        equipped_saveSkill, equipped_saveSkill, equipped_removeEquipped]
      split_ifs
      · rfl
      · rfl

/-- **`heroSkillEquipOn` keeps flags and maps in step**, and changes nothing if it throws. -/
lemma Worn.heroSkillEquipOn (h : Worn cfgs pvo) :
    Atomic (fun _ => True) (Worn cfgs) (heroSkillEquipOn cfgs heroId skillId) pvo := by
  refine .ofExcept_bind (fun _ _ => trivial) fun heroVO hhero => ?_
  refine .ofExcept_bind (fun _ _ => trivial) fun skillVO hskill => ?_
  refine .ofExcept_bind (fun _ _ => trivial) fun _ hequiped => ?_
  refine .ofExcept_bind (fun _ _ => trivial) fun _ hlearned => ?_
  refine .ofExcept_bind (fun _ _ => trivial) fun _ _ => ?_
  refine .ofExcept_bind (fun _ _ => trivial) fun _ _ => ?_
  refine .ofExcept_bind (fun _ _ => trivial) fun cfg hcfg => ?_
  refine .of_run_eq_ok rfl ?_
  rw [← equipped_of_lookup (getHero_eq_ok.mp hhero)]
  refine h.replace (getSkillVO_eq_ok.mp hskill) ?_ ?_ ?_
  · simpa using hequiped
  · simpa using hlearned
  · rw [SkillConfigs.typeOf, getCfg_eq_ok.mp hcfg]
    rfl

/-- **`heroSkillEquipOff` keeps flags and maps in step**, and changes nothing if it throws: a skill
that is worn has a configuration. -/
lemma Worn.heroSkillEquipOff (h : Worn cfgs pvo) :
    Atomic (fun _ => True) (Worn cfgs) (heroSkillEquipOff cfgs heroId skillId) pvo := by
  refine .ofExcept_bind (fun _ _ => trivial) fun _ _ => ?_
  refine .ofExcept_bind (fun _ _ => trivial) fun skillVO hskill => ?_
  refine .ofExcept_bind (fun _ _ => trivial) fun _ hequiped => ?_
  have hskill := getSkillVO_eq_ok.mp hskill
  have hequiped : skillVO.isEquiped = true := by simpa using hequiped
  obtain ⟨-, htype⟩ := h.learned hskill hequiped
  rw [SkillConfigs.typeOf, Option.isSome_map] at htype
  obtain ⟨cfg, hcfg⟩ := Option.isSome_iff_exists.mp htype
  unfold Atomic
  rw [EStateM.run_bind, EStateM.run_modify]
  dsimp only
  rw [EStateM.run_bind, run_ofExcept, getCfg_eq_ok.mpr hcfg]
  refine h.takeOff hskill hequiped ?_
  rw [SkillConfigs.typeOf, hcfg]
  rfl

/-! ## Runs -/

/-- The calls of the operations on skills. -/
inductive SkillCall where
  | on (heroId skillId : Int32)
  | off (heroId skillId : Int32)

/-- A call is executed. -/
def SkillCall.exec (cfgs : SkillConfigs) : SkillCall → EStateM Thrown PlayerVO Unit
  | .on heroId skillId => heroSkillEquipOn cfgs heroId skillId
  | .off heroId skillId => heroSkillEquipOff cfgs heroId skillId

/-- A call is executed, whether it returns or throws. -/
def SkillCall.step (cfgs : SkillConfigs) (pvo : PlayerVO) (call : SkillCall) : PlayerVO :=
  (call.exec cfgs).finalState pvo

/-- Nobody wears anything. -/
def NothingWorn (pvo : PlayerVO) : Prop :=
  ∀ heroId heroVO, pvo.heroes.lookup heroId = some heroVO → heroVO.equippedSkills = ∅ ∧
    ∀ skillId skillVO, heroVO.openedSkills.lookup skillId = some skillVO →
      skillVO.isEquiped = false

lemma NothingWorn.worn (h : NothingWorn pvo) : Worn cfgs pvo := by
  have hflags : ∀ {heroId skillId skillVO},
      pvo.getSkill (.ofHero heroId skillId) = some skillVO → skillVO.isEquiped = false := by
    intro heroId skillId skillVO hskill
    obtain ⟨heroVO, hhero, hopened⟩ := Option.bind_eq_some_iff.mp hskill
    exact (h heroId heroVO hhero).2 skillId skillVO hopened
  constructor
  · intro heroId type ref
    constructor
    · intro hentry
      obtain ⟨heroVO, hhero, hworn⟩ := Option.bind_eq_some_iff.mp hentry
      rw [(h heroId heroVO hhero).1, AList.lookup_empty] at hworn
      cases hworn
    · rintro ⟨skillId, -, skillVO, hskill, hequiped, -⟩
      cases (hflags hskill).symm.trans hequiped
  · intro heroId skillId skillVO hskill hequiped
    cases (hflags hskill).symm.trans hequiped

/-- **A call keeps flags and maps in step**, and changes nothing if it throws. -/
lemma Worn.exec (h : Worn cfgs pvo) (call : SkillCall) :
    Atomic (fun _ => True) (Worn cfgs) (call.exec cfgs) pvo := by
  cases call with
  | on heroId skillId => exact h.heroSkillEquipOn
  | off heroId skillId => exact h.heroSkillEquipOff

/-- **What heroes wear is what the flags say** after every run of calls, and a call that throws
changes nothing. -/
theorem wellEquipped_run (cfgs : SkillConfigs) (h : NothingWorn pvo) (calls : List SkillCall) :
    WellEquipped cfgs (Runs.run (SkillCall.step cfgs) pvo calls) ∧
      ∀ call e pvo', (SkillCall.exec cfgs call).run (Runs.run (SkillCall.step cfgs) pvo calls) =
        .error e pvo' → pvo' = Runs.run (SkillCall.step cfgs) pvo calls := by
  have hrun : Worn cfgs (Runs.run (SkillCall.step cfgs) pvo calls) :=
    Runs.forall_inv_run (Worn cfgs) (fun _ call hs => (hs.exec call).finalState hs) h.worn calls
  refine ⟨hrun.wellEquipped, ?_⟩
  intro call e pvo' hthrew
  exact ((hrun.exec call).of_run_eq_error hthrew).2

/-- A hero with two learned skills of one type. -/
def swordsman : HeroVO where
  cid := 1
  equippedSkills := ∅
  openedSkills := (AList.insert 10 ⟨10, 100, none, true, false⟩ ∅).insert 11
    ⟨11, 101, none, true, false⟩

/-- Skills of one type that anyone can wear. -/
def unlimited : SkillConfigs where
  heroCfg _ := some ⟨1, 1, 1⟩
  skillMap _ := some ⟨4, some [], some []⟩
  skillSealMap _ := some ⟨SkillType.SEAL, some [], some []⟩

/-- One skill is put on, and replaced by another. -/
theorem wellEquipped_run_swordsman :
    WellEquipped unlimited (Runs.run (SkillCall.step unlimited)
      ⟨AList.insert 1 swordsman ∅, ∅, ∅⟩ [.on 1 10, .on 1 11]) := by
  refine (wellEquipped_run unlimited ?_ _).1
  intro heroId heroVO hhero
  rw [AList.lookup_insert_ite, AList.lookup_empty] at hhero
  split_ifs at hhero
  obtain rfl := Option.some.inj hhero
  refine ⟨rfl, ?_⟩
  intro skillId skillVO hskill
  simp only [swordsman, AList.lookup_insert_ite, AList.lookup_empty] at hskill
  split_ifs at hskill
  · obtain rfl := Option.some.inj hskill
    rfl
  · obtain rfl := Option.some.inj hskill
    rfl

end SrgpGame.Skill
