import SrgpGame.Hero.HeroBO
import SrgpGame.Lib.Runs
import SrgpGame.Skill.SkillBO

set_option autoImplicit false

/-!
# A hero learns a skill

`heroSkillLearn` checks the star of the hero, the skills that must be learned before, the arms and
the weapons, and the skill points; it takes the points, and only then looks for the skill among
those of the hero.

## Main definitions

* `LearnerVO`, `LearningVO` — a hero who learns, and a player.
* `checkLearn`, `heroSkillLearn` — the checks, and the method.
* `Learned`, `LearnRight` — what is required of a call that returns, and of every call.
* `payments` — the skills that a sequence of calls takes points for.

## Main results

* `learnRight_iff` — when a call is right, and that no skill is paid for twice while it is.

## Design notes

The skills of a hero are read as the values of their map only, in its order. A skill is looked for
with `==`, so ids that are not cached as boxes are never found. The configurations are entered in
`skillMap` under their own ids. Prerequisites are a set of ids, of which zero stands for none; the
class of a configuration says which they are.
-/

namespace SrgpGame.Skill

open EStateM
open Hero (sameBox)

/-! ## The method -/

/-- The classes that extend `SkillCfg`, as far as the skills go that must be learned before. -/
inductive SkillClass where
  /-- `SkillPassiveCfg`, `SkillSpecialCfg` and `SkillWeaponCfg`. -/
  | plain
  /-- `SkillSupportCfg`. -/
  | support
  /-- `SkillSealCfg`, with its `pre_id`. -/
  | seal (preId : Int32)

/-- What learning reads of a `SkillCfg`. -/
structure LearnCfg where
  needSp : Int32
  pre1Id : Int32
  pre2Id : Int32
  skillClass : SkillClass

/-- The configuration tables. -/
structure LearnConfigs extends SkillConfigs where
  /-- The rest of the values of `skillMap`. -/
  learnCfg : Int32 → LearnCfg
  /-- `CacheHeroOpenedSkill.heroSkills`: the star that opens a skill, by hero and skill. -/
  heroSkills : Int32 → Int32 → Option Int32

/-- `HeroVO`. -/
structure LearnerVO where
  id : Int32
  cid : Int32
  star : Int32
  sp : Int32
  /-- The values of `openedSkills`. -/
  openedSkills : List SkillVO
  deriving DecidableEq, Repr

/-- A player: the heroes, their saved skill points, and the saved skills. -/
structure LearningVO where
  heroes : AList fun _ : Int32 => LearnerVO
  heroDAO : AList fun _ : Int32 => Int32
  skillDAO : AList fun _ : Int32 => SkillVO

/-- `getPreIds`, which two of the classes override: nothing must be learned before a support skill,
and one skill before a seal. -/
def LearnCfg.getPreIds (cfg : LearnCfg) : List Int32 :=
  match cfg.skillClass with
  | .plain => [cfg.pre1Id, cfg.pre2Id].dedup
  | .support => []
  | .seal preId => [preId]

variable (cfgs : LearnConfigs)

/-- `checkHeroSkillStar`. -/
def checkHeroSkillStar (heroVO : LearnerVO) (skillCId : Int32) : Except Thrown Unit :=
  match cfgs.heroSkills heroVO.cid skillCId with
  | none => .ok ()
  | some openStar => CodeSkill.skillStarLimit.throwIfTrue (heroVO.star < openStar)

/-- `checkHeroSkillsLearn`: one of the skills must be learned. -/
def checkHeroSkillsLearn (heroVO : LearnerVO) (preCIds : List Int32) : Except Thrown Unit :=
  if preCIds = [] then .ok ()
  else CodeSkill.skillPreNeeded.throwIfTrue
    ¬∃ cid ∈ preCIds, cid ≠ 0 ∧ ∃ vo ∈ heroVO.openedSkills, sameBox vo.cid cid ∧ vo.isLearned

/-- The checks of `heroSkillLearn`, and the hero. -/
def checkLearn (heroId skillCId : Int32) (pvo : LearningVO) : Except Thrown LearnerVO :=
  match pvo.heroes.lookup heroId with
  | none => .error (.logic CodeHero.heroNotFound.get)
  | some heroVO => do
    CodeSkill.skillNotConfig.throwIfTrue (cfgs.skillMap skillCId).isNone
    checkHeroSkillStar cfgs heroVO skillCId
    checkHeroSkillsLearn heroVO (cfgs.learnCfg skillCId).getPreIds
    checkArms cfgs.toSkillConfigs heroVO.cid skillCId
    checkColorWeapons cfgs.toSkillConfigs heroVO.cid skillCId
    CodeHero.heroSpMinus.throwIfTrue (heroVO.sp < (cfgs.learnCfg skillCId).needSp)
    return heroVO

/-- `getHeroOpenedSkill`: where the skill is, among those of the hero. -/
def getHeroOpenedSkill (heroVO : LearnerVO) (skillCId : Int32) : Option ℕ :=
  heroVO.openedSkills.findIdx? fun vo => sameBox vo.cid skillCId

/-- A hero is changed. -/
def setLearner (heroId : Int32) (heroVO : LearnerVO) : EStateM Thrown LearningVO Unit :=
  modify fun pvo => { pvo with heroes := pvo.heroes.insert heroId heroVO }

/-- **`heroSkillLearn`**. -/
def heroSkillLearn (heroId skillCId : Int32) : EStateM Thrown LearningVO Unit := do
  let heroVO ← ofExcept (checkLearn cfgs heroId skillCId)
  let heroVO := { heroVO with sp := heroVO.sp - (cfgs.learnCfg skillCId).needSp }
  setLearner heroId heroVO
  match (getHeroOpenedSkill heroVO skillCId).bind fun ix =>
      heroVO.openedSkills[ix]?.map (ix, ·) with
  | none => throw .nullPointer
  | some (ix, skillVO) =>
    let skillVO := { skillVO with isLearned := true }
    setLearner heroId { heroVO with openedSkills := heroVO.openedSkills.set ix skillVO }
    modify fun pvo =>
      { pvo with
        heroDAO := pvo.heroDAO.insert heroVO.id heroVO.sp
        skillDAO := pvo.skillDAO.insert skillVO.id skillVO }

/-! ## What is required -/

/-- **A skill was learned.** It is one of the skills of the hero and was not learned before; it was
marked, and the hero has so many skill points less as it needs, and not less than none. -/
def Learned (heroId skillCId : Int32) (pvo pvo' : LearningVO) : Prop :=
  ∃ heroVO ix skillVO, pvo.heroes.lookup heroId = some heroVO ∧
    heroVO.openedSkills[ix]? = some skillVO ∧ skillVO.cid = skillCId ∧ skillVO.isLearned = false ∧
    ∃ sp : Int32, sp.toInt = heroVO.sp.toInt - (cfgs.learnCfg skillCId).needSp.toInt ∧
      0 ≤ sp.toInt ∧
      pvo'.heroes.lookup heroId = some { heroVO with
        sp := sp
        openedSkills := heroVO.openedSkills.set ix { skillVO with isLearned := true } } ∧
      ∀ id, id ≠ heroId → pvo'.heroes.lookup id = pvo.heroes.lookup id

/-- **A call is right**: it throws a `LogicException` and changes nothing, or the skill is
learned. -/
def LearnRight (heroId skillCId : Int32) (pvo : LearningVO) : Prop :=
  (∀ e pvo', (heroSkillLearn cfgs heroId skillCId).run pvo = .error e pvo' →
      (∃ code, e = .logic code) ∧ pvo' = pvo) ∧
    ∀ pvo', (heroSkillLearn cfgs heroId skillCId).run pvo = .ok () pvo' →
      Learned cfgs heroId skillCId pvo pvo'

/-- A player after a call for a hero and a skill. -/
def learnStep (pvo : LearningVO) (call : Int32 × Int32) : LearningVO :=
  (heroSkillLearn cfgs call.1 call.2).finalState pvo

/-- The skills that calls take points for: those for which the checks pass. -/
def payments : LearningVO → List (Int32 × Int32) → List (Int32 × Int32)
  | _, [] => []
  | pvo, call :: calls =>
    if (checkLearn cfgs call.1 call.2 pvo).isOk then
      call :: payments (learnStep cfgs pvo call) calls
    else payments (learnStep cfgs pvo call) calls

/-- **A call can learn a skill**: a check throws a `LogicException`; or the checks pass, and the
skill that is found first is not learned, and the points fit into an integer of the machine. -/
def CanLearn (pvo : LearningVO) (call : Int32 × Int32) : Prop :=
  (∃ code, checkLearn cfgs call.1 call.2 pvo = .error (.logic code)) ∨
    ∃ heroVO ix skillVO, checkLearn cfgs call.1 call.2 pvo = .ok heroVO ∧
      getHeroOpenedSkill heroVO call.2 = some ix ∧ heroVO.openedSkills[ix]? = some skillVO ∧
      skillVO.isLearned = false ∧
      heroVO.sp.toInt - (cfgs.learnCfg call.2).needSp.toInt < 2 ^ 31

/-! ## What a call does -/

section Call

variable {cfgs} {heroId skillCId : Int32} {pvo : LearningVO} {heroVO : LearnerVO} {ix : ℕ}
  {skillVO : SkillVO}

/-- The checks pass for a hero who is there and has enough skill points. -/
lemma of_checkLearn (h : checkLearn cfgs heroId skillCId pvo = .ok heroVO) :
    pvo.heroes.lookup heroId = some heroVO ∧ ¬heroVO.sp < (cfgs.learnCfg skillCId).needSp := by
  unfold checkLearn at h
  cases hlookup : pvo.heroes.lookup heroId with
  | none =>
    rw [hlookup] at h
    cases h
  | some heroVO' =>
    rw [hlookup] at h
    obtain ⟨-, -, h⟩ := Except.bind_eq_ok.mp h
    obtain ⟨-, -, h⟩ := Except.bind_eq_ok.mp h
    obtain ⟨-, -, h⟩ := Except.bind_eq_ok.mp h
    obtain ⟨-, -, h⟩ := Except.bind_eq_ok.mp h
    obtain ⟨-, -, h⟩ := Except.bind_eq_ok.mp h
    obtain ⟨_, hsp, h⟩ := Except.bind_eq_ok.mp h
    cases h
    exact ⟨rfl, ICode.throwIfTrue_eq_ok.mp hsp⟩

/-- A skill that is found has the id that was asked for. -/
lemma of_getHeroOpenedSkill (h : getHeroOpenedSkill heroVO skillCId = some ix) :
    ∃ skillVO, heroVO.openedSkills[ix]? = some skillVO ∧ skillVO.cid = skillCId := by
  obtain ⟨hlt, hsame, -⟩ := List.findIdx?_eq_some_iff_getElem.mp h
  refine ⟨heroVO.openedSkills[ix], List.getElem?_eq_getElem hlt, ?_⟩
  rw [sameBox, Bool.and_eq_true, Bool.and_eq_true, decide_eq_true_iff] at hsame
  exact hsame.1.1

/-- The hero who has paid. -/
def LearnerVO.charged (heroVO : LearnerVO) (needSp : Int32) : LearnerVO :=
  { heroVO with sp := heroVO.sp - needSp }

/-- The hero who has paid and learned. -/
def LearnerVO.taught (heroVO : LearnerVO) (needSp : Int32) (ix : ℕ) (skillVO : SkillVO) :
    LearnerVO :=
  { heroVO with
    sp := heroVO.sp - needSp
    openedSkills := heroVO.openedSkills.set ix { skillVO with isLearned := true } }

/-- The skill that is changed keeps its id. -/
lemma map_cid_taught {needSp : Int32} (hskill : heroVO.openedSkills[ix]? = some skillVO) :
    (heroVO.taught needSp ix skillVO).openedSkills.map SkillVO.cid =
      heroVO.openedSkills.map SkillVO.cid := by
  refine List.ext_getElem? fun i => ?_
  rw [LearnerVO.taught, List.map_set, List.getElem?_set]
  split_ifs with hi hlt
  · rw [← hi, List.getElem?_map, hskill]
    rfl
  · rw [List.getElem?_eq_none (Nat.le_of_not_lt (hi ▸ hlt))]
  · rfl

lemma heroSkillLearn_run_error {e : Thrown} (h : checkLearn cfgs heroId skillCId pvo = .error e) :
    (heroSkillLearn cfgs heroId skillCId).run pvo = .error e pvo := by
  rw [heroSkillLearn, run_bind, run_ofExcept, h]

/-- **The points are taken** before the skill is looked for. -/
lemma heroSkillLearn_run_missing (h : checkLearn cfgs heroId skillCId pvo = .ok heroVO)
    (hnone : getHeroOpenedSkill heroVO skillCId = none) :
    (heroSkillLearn cfgs heroId skillCId).run pvo = .error .nullPointer { pvo with
      heroes := pvo.heroes.insert heroId (heroVO.charged (cfgs.learnCfg skillCId).needSp) } := by
  have hnone' : getHeroOpenedSkill (heroVO.charged (cfgs.learnCfg skillCId).needSp) skillCId =
      none := hnone
  rw [heroSkillLearn, run_bind, run_ofExcept, h]
  simp only
  unfold LearnerVO.charged at hnone'
  rw [hnone']
  rfl

/-- **The skill is found**, and is learned. -/
lemma heroSkillLearn_run_ok (h : checkLearn cfgs heroId skillCId pvo = .ok heroVO)
    (hfound : getHeroOpenedSkill heroVO skillCId = some ix)
    (hskill : heroVO.openedSkills[ix]? = some skillVO) :
    ∃ pvo', (heroSkillLearn cfgs heroId skillCId).run pvo = .ok () pvo' ∧
      ∀ id, pvo'.heroes.lookup id = if id = heroId then
        some (heroVO.taught (cfgs.learnCfg skillCId).needSp ix skillVO)
      else pvo.heroes.lookup id := by
  have hfound' : (getHeroOpenedSkill (heroVO.charged (cfgs.learnCfg skillCId).needSp) skillCId).bind
      (fun ix => (heroVO.charged (cfgs.learnCfg skillCId).needSp).openedSkills[ix]?.map (ix, ·)) =
        some (ix, skillVO) := by
    show (getHeroOpenedSkill heroVO skillCId).bind
      (fun ix => heroVO.openedSkills[ix]?.map (ix, ·)) = _
    rw [hfound, Option.bind_some, hskill, Option.map_some]
  unfold LearnerVO.charged at hfound'
  rw [heroSkillLearn, run_bind, run_ofExcept, h]
  simp only [hfound']
  refine ⟨_, rfl, fun id => ?_⟩
  simp only [AList.lookup_insert_ite]
  split_ifs
  · rfl
  · rfl

/-- **What a call leaves**: the skills of a hero stay, and those that were learned stay so. -/
lemma lookup_learnStep (call : Int32 × Int32) {id : Int32}
    (hlookup : pvo.heroes.lookup id = some heroVO) :
    ∃ heroVO', (learnStep cfgs pvo call).heroes.lookup id = some heroVO' ∧
      heroVO'.openedSkills.map SkillVO.cid = heroVO.openedSkills.map SkillVO.cid ∧
      ∀ (ix : ℕ) (skillVO : SkillVO), heroVO.openedSkills[ix]? = some skillVO →
        skillVO.isLearned = true →
        ∃ skillVO', heroVO'.openedSkills[ix]? = some skillVO' ∧ skillVO'.isLearned = true := by
  obtain ⟨heroId, skillCId⟩ := call
  unfold learnStep
  cases hcheck : checkLearn cfgs heroId skillCId pvo with
  | error e =>
    rw [finalState_eq_of_error (heroSkillLearn_run_error hcheck)]
    exact ⟨heroVO, hlookup, rfl, fun ix skillVO hskill hlearned => ⟨skillVO, hskill, hlearned⟩⟩
  | ok learner =>
    obtain ⟨hlearner, -⟩ := of_checkLearn hcheck
    cases hfound : getHeroOpenedSkill learner skillCId with
    | none =>
      rw [finalState_eq_of_error (heroSkillLearn_run_missing hcheck hfound)]
      simp only [AList.lookup_insert_ite]
      split_ifs with hid
      · rw [hid, hlearner] at hlookup
        cases hlookup
        exact ⟨_, rfl, rfl, fun ix skillVO hskill hlearned => ⟨skillVO, hskill, hlearned⟩⟩
      · exact ⟨heroVO, hlookup, rfl, fun ix skillVO hskill hlearned => ⟨skillVO, hskill, hlearned⟩⟩
    | some ix =>
      obtain ⟨taughtVO, htaught, -⟩ := of_getHeroOpenedSkill hfound
      obtain ⟨pvo', hrun, hheroes⟩ := heroSkillLearn_run_ok hcheck hfound htaught
      rw [finalState_eq_of_ok hrun, hheroes]
      split_ifs with hid
      · rw [hid, hlearner] at hlookup
        cases hlookup
        refine ⟨_, rfl, ?_, fun ix' skillVO hskill hlearned => ?_⟩
        · exact map_cid_taught htaught
        · rw [LearnerVO.taught, List.getElem?_set]
          split_ifs with hi hlt
          · exact ⟨_, rfl, rfl⟩
          · rw [← hi, List.getElem?_eq_none (Nat.le_of_not_lt hlt)] at hskill
            cases hskill
          · exact ⟨skillVO, hskill, hlearned⟩
      · exact ⟨heroVO, hlookup, rfl, fun ix skillVO hskill hlearned => ⟨skillVO, hskill, hlearned⟩⟩

end Call

/-! ## When a call is right -/

section Right

variable {cfgs} {heroId skillCId : Int32} {pvo : LearningVO} {heroVO : LearnerVO} {ix : ℕ}
  {skillVO : SkillVO}

/-- **A skill that is found** is learned by the call if it was not, and the points fit. -/
lemma learned_iff (hcheck : checkLearn cfgs heroId skillCId pvo = .ok heroVO)
    (hfound : getHeroOpenedSkill heroVO skillCId = some ix)
    (hskill : heroVO.openedSkills[ix]? = some skillVO) {pvo' : LearningVO}
    (hheroes : ∀ id, pvo'.heroes.lookup id = if id = heroId then
        some (heroVO.taught (cfgs.learnCfg skillCId).needSp ix skillVO)
      else pvo.heroes.lookup id) :
    Learned cfgs heroId skillCId pvo pvo' ↔ skillVO.isLearned = false ∧
      heroVO.sp.toInt - (cfgs.learnCfg skillCId).needSp.toInt < 2 ^ 31 := by
  obtain ⟨hlookup, hsp⟩ := of_checkLearn hcheck
  have hself := hheroes heroId
  rw [if_pos rfl] at hself
  constructor
  · rintro ⟨heroVO₀, ix', skillVO', hlookup₀, hskill', hcid, hnew, sp, hsum, hnonneg, hafter, -⟩
    obtain rfl := Option.some.inj (hlookup.symm.trans hlookup₀)
    have hsame := Option.some.inj (hself.symm.trans hafter)
    refine ⟨?_, ?_⟩
    · -- a skill that was learned stays as it is, and then no skill has changed
      by_contra hlearned
      rw [Bool.not_eq_false] at hlearned
      have hset : heroVO.openedSkills.set ix { skillVO with isLearned := true } =
          heroVO.openedSkills.set ix' { skillVO' with isLearned := true } :=
        congrArg LearnerVO.openedSkills hsame
      have hstays : heroVO.openedSkills.set ix { skillVO with isLearned := true } =
          heroVO.openedSkills := by
        refine List.ext_getElem? fun i => ?_
        rw [List.getElem?_set]
        split_ifs with hi hlt
        · rw [← hi, hskill, ← hlearned]
        · rw [List.getElem?_eq_none (Nat.le_of_not_lt (hi ▸ hlt))]
        · rfl
      have hlt : ix' < heroVO.openedSkills.length := (List.getElem?_eq_some_iff.mp hskill').1
      have hat : heroVO.openedSkills[ix']? = some { skillVO' with isLearned := true } := by
        rw [← hstays, hset, List.getElem?_set_self hlt]
      rw [hskill'] at hat
      have hflag := congrArg SkillVO.isLearned (Option.some.inj hat)
      exact Bool.false_ne_true (hnew.symm.trans hflag)
    · have hlt := sp.toInt_lt
      omega
  · rintro ⟨hnew, hfits⟩
    obtain ⟨skillVO', hskill', hcid⟩ := of_getHeroOpenedSkill hfound
    obtain rfl := Option.some.inj (hskill.symm.trans hskill')
    have hle := Int32.le_iff_toInt_le.mp (Int32.not_lt.mp hsp)
    refine ⟨heroVO, ix, skillVO, hlookup, hskill, hcid, hnew, _,
      Int32.toInt_sub_of_fits (by omega) hfits, ?_, hself, fun id hid => ?_⟩
    · rw [Int32.toInt_sub_of_fits (by omega) hfits]
      omega
    · rw [hheroes, if_neg hid]

/-- **A call is right** just when it can learn the skill. -/
lemma learnRight_iff_canLearn :
    LearnRight cfgs heroId skillCId pvo ↔ CanLearn cfgs pvo (heroId, skillCId) := by
  unfold LearnRight CanLearn
  cases hcheck : checkLearn cfgs heroId skillCId pvo with
  | error e =>
    rw [heroSkillLearn_run_error hcheck]
    constructor
    · intro h
      obtain ⟨⟨code, rfl⟩, -⟩ := h.1 e pvo rfl
      exact .inl ⟨code, rfl⟩
    · rintro (⟨code, he⟩ | ⟨heroVO, ix, skillVO, hok, -⟩)
      · obtain rfl := Except.error.inj he
        refine ⟨fun e' pvo' heq => ?_, nofun⟩
        obtain ⟨rfl, rfl⟩ := EStateM.Result.error.inj heq
        exact ⟨⟨code, rfl⟩, rfl⟩
      · cases hok
  | ok heroVO =>
    cases hfound : getHeroOpenedSkill heroVO skillCId with
    | none =>
      rw [heroSkillLearn_run_missing hcheck hfound]
      constructor
      · intro h
        obtain ⟨⟨code, hcode⟩, -⟩ := h.1 _ _ rfl
        cases hcode
      · rintro (⟨code, he⟩ | ⟨heroVO', ix, skillVO, hok, hsome, -⟩)
        · cases he
        · cases hok
          rw [hfound] at hsome
          cases hsome
    | some ix =>
      obtain ⟨skillVO, hskill, -⟩ := of_getHeroOpenedSkill hfound
      obtain ⟨pvo', hrun, hheroes⟩ := heroSkillLearn_run_ok hcheck hfound hskill
      rw [hrun]
      have hcall : (∀ pvo'', (Result.ok () pvo' : Result Thrown LearningVO Unit) = .ok () pvo'' →
          Learned cfgs heroId skillCId pvo pvo'') ↔ Learned cfgs heroId skillCId pvo pvo' := by
        constructor
        · exact fun h => h pvo' rfl
        · rintro h pvo'' ⟨⟩
          exact h
      rw [hcall, learned_iff hcheck hfound hskill hheroes]
      constructor
      · rintro ⟨-, hnew, hfits⟩
        exact .inr ⟨heroVO, ix, skillVO, rfl, hfound, hskill, hnew, hfits⟩
      · rintro (⟨code, he⟩ | ⟨heroVO', ix', skillVO', hok, hfound', hskill', hnew, hfits⟩)
        · cases he
        · cases hok
          obtain rfl := Option.some.inj (hfound.symm.trans hfound')
          obtain rfl := Option.some.inj (hskill.symm.trans hskill')
          exact ⟨nofun, hnew, hfits⟩

end Right

/-! ## No skill is paid for twice -/

section Payments

variable {cfgs} {pvo : LearningVO} {call : Int32 × Int32} {calls : List (Int32 × Int32)}

/-- The skill that is found for a call is learned. -/
def Mastered (pvo : LearningVO) (call : Int32 × Int32) : Prop :=
  ∃ heroVO ix skillVO, pvo.heroes.lookup call.1 = some heroVO ∧
    getHeroOpenedSkill heroVO call.2 = some ix ∧ heroVO.openedSkills[ix]? = some skillVO ∧
    skillVO.isLearned = true

/-- Where a skill is found depends on the ids of the skills only. -/
lemma getHeroOpenedSkill_congr {heroVO heroVO' : LearnerVO}
    (h : heroVO'.openedSkills.map SkillVO.cid = heroVO.openedSkills.map SkillVO.cid)
    (skillCId : Int32) :
    getHeroOpenedSkill heroVO' skillCId = getHeroOpenedSkill heroVO skillCId := by
  have hids : ∀ heroVO : LearnerVO, getHeroOpenedSkill heroVO skillCId =
      (heroVO.openedSkills.map SkillVO.cid).findIdx? fun cid => sameBox cid skillCId := by
    intro heroVO
    rw [List.findIdx?_map]
    rfl
  rw [hids, hids, h]

/-- **A skill that was learned** stays so. -/
lemma Mastered.step (h : Mastered pvo call) (call' : Int32 × Int32) :
    Mastered (learnStep cfgs pvo call') call := by
  obtain ⟨heroVO, ix, skillVO, hlookup, hfound, hskill, hlearned⟩ := h
  obtain ⟨heroVO', hlookup', hids, hstays⟩ := lookup_learnStep call' hlookup
  obtain ⟨skillVO', hskill', hlearned'⟩ := hstays ix skillVO hskill hlearned
  exact ⟨heroVO', ix, skillVO', hlookup', (getHeroOpenedSkill_congr hids call.2).trans hfound,
    hskill', hlearned'⟩

/-- **A call that takes points** learns the skill. -/
lemma mastered_learnStep (hcan : CanLearn cfgs pvo call)
    (hpays : (checkLearn cfgs call.1 call.2 pvo).isOk = true) :
    Mastered (learnStep cfgs pvo call) call := by
  rcases hcan with ⟨code, he⟩ | ⟨heroVO, ix, skillVO, hcheck, hfound, hskill, -, -⟩
  · rw [he] at hpays
    cases hpays
  · obtain ⟨pvo', hrun, hheroes⟩ := heroSkillLearn_run_ok hcheck hfound hskill
    have hlt : ix < heroVO.openedSkills.length := (List.getElem?_eq_some_iff.mp hskill).1
    refine ⟨heroVO.taught (cfgs.learnCfg call.2).needSp ix skillVO, ix,
      { skillVO with isLearned := true }, ?_,
      (getHeroOpenedSkill_congr (map_cid_taught hskill) _).trans hfound,
      List.getElem?_set_self hlt, rfl⟩
    rw [learnStep, finalState_eq_of_ok hrun, hheroes, if_pos rfl]

/-- It cannot be learned once more. -/
lemma Mastered.not_pays (h : Mastered pvo call) (hcan : CanLearn cfgs pvo call) :
    ¬(checkLearn cfgs call.1 call.2 pvo).isOk = true := by
  intro hpays
  rcases hcan with ⟨code, he⟩ | ⟨heroVO, ix, skillVO, hcheck, hfound, hskill, hnew, -⟩
  · rw [he] at hpays
    cases hpays
  · obtain ⟨heroVO', ix', skillVO', hlookup, hfound', hskill', hlearned⟩ := h
    obtain rfl := Option.some.inj ((of_checkLearn hcheck).1.symm.trans hlookup)
    obtain rfl := Option.some.inj (hfound.symm.trans hfound')
    obtain rfl := Option.some.inj (hskill.symm.trans hskill')
    exact Bool.false_ne_true (hnew.symm.trans hlearned)

lemma Mastered.notMem_payments (h : Mastered pvo call)
    (hcan : Runs.EveryStep (learnStep cfgs) (CanLearn cfgs) pvo calls) :
    call ∉ payments cfgs pvo calls := by
  induction calls generalizing pvo with
  | nil => exact List.not_mem_nil
  | cons call' calls ih =>
    obtain ⟨hnow, hcan⟩ := hcan
    have hrest := ih (h.step call') hcan
    rw [payments]
    split_ifs with hpays
    · intro hmem
      rcases List.mem_cons.mp hmem with rfl | hmem
      · exact h.not_pays hnow hpays
      · exact hrest hmem
    · exact hrest

lemma nodup_payments (hcan : Runs.EveryStep (learnStep cfgs) (CanLearn cfgs) pvo calls) :
    (payments cfgs pvo calls).Nodup := by
  induction calls generalizing pvo with
  | nil => exact List.nodup_nil
  | cons call calls ih =>
    obtain ⟨hnow, hcan⟩ := hcan
    rw [payments]
    split_ifs with hpays
    · exact List.nodup_cons.mpr ⟨(mastered_learnStep hnow hpays).notMem_payments hcan, ih hcan⟩
    · exact ih hcan

end Payments

/-- **Learning is right** just when the skill can be learned: a check throws a `LogicException`, or
the skill is found first among those of the hero and is not learned. While all calls are so, no
skill is paid for twice. -/
theorem learnRight_iff (cfgs : LearnConfigs) :
    (∀ pvo heroId skillCId,
      LearnRight cfgs heroId skillCId pvo ↔ CanLearn cfgs pvo (heroId, skillCId)) ∧
    ∀ pvo calls, Runs.EveryStep (learnStep cfgs) (CanLearn cfgs) pvo calls →
      (payments cfgs pvo calls).Nodup :=
  ⟨fun _ _ _ => learnRight_iff_canLearn, fun _ _ hcan => nodup_payments hcan⟩

/-- Every skill needs five points, and the sixth skill learned before. -/
def fiveConfigs : LearnConfigs where
  heroCfg _ := some ⟨1, 1, 1⟩
  skillMap _ := some ⟨1, some [], some []⟩
  skillSealMap _ := none
  learnCfg _ := ⟨5, 6, 0, .plain⟩
  heroSkills _ _ := none

/-- A hero with twenty points, who has learned the sixth skill, and may learn the fifth. -/
def learner : LearningVO where
  heroes := AList.insert 1 ⟨1, 1, 1, 20, [⟨1, 6, none, true, false⟩, ⟨2, 5, none, false, false⟩]⟩ ∅
  heroDAO := ∅
  skillDAO := ∅

/-- **Not so in general**: for a skill that is not opened the points are taken, and a
`NullPointerException` is thrown; and a skill is paid for twice. -/
theorem not_learnRight :
    ¬LearnRight fiveConfigs 1 7 learner ∧
      ¬(payments fiveConfigs learner [(1, 5), (1, 5)]).Nodup := by
  constructor
  · intro h
    obtain ⟨⟨code, hcode⟩, -⟩ := h.1 _ _ rfl
    cases hcode
  · decide

end SrgpGame.Skill
