import SrgpGame.Hero.HeroBO
import SrgpGame.Lib.Runs

set_option autoImplicit false

/-!
# Heroes after a reload

The operations keep a hero under its id; `buildAsLoad` puts it under its configuration id. So a
reload gives the map of heroes back just when these are the same for each hero.

## Main definitions

* `Kept` — what holds between reloads: keys are ids, and what is in memory is saved.
* `Action`, `step`, `Allowed` — what happens to a player, and when it can.

## Main results

* `Kept.step` — every operation keeps it, also one that throws.
* `reload_same_iff` — when a reload loses and re-keys no hero.
-/

namespace SrgpGame.Hero

open EStateM

variable {cfgs : HeroConfigs} {pvo : PlayerVO}

/-! ## What is kept -/

/-- **What holds between reloads.** Keys are ids, every hero is saved as it is, and the values of
its full level can be found. -/
structure Kept (cfgs : HeroConfigs) (pvo : PlayerVO) : Prop where
  key : ∀ {id heroVO}, pvo.heroes.lookup id = some heroVO → heroVO.id = id
  saved : ∀ id, pvo.heroDAO.lookup id = pvo.heroes.lookup id
  plain : ∀ {id heroVO}, pvo.heroes.lookup id = some heroVO →
    heroVO.careerExchanged = false ∧ (heroPropMap cfgs heroVO.cid 1).isSome

lemma kept_newPlayer (id : Int32) : Kept cfgs (newPlayer id) where
  key h := by cases h
  saved _ := rfl
  plain h := by cases h

/-- A hero with values at level one has them at full level. -/
lemma getFullLvProps_ok {heroVO : HeroVO} (hcareer : heroVO.careerExchanged = false)
    (hone : (heroPropMap cfgs heroVO.cid 1).isSome) :
    ∃ cfg, getFullLvProps cfgs heroVO = .ok cfg := by
  have hdouble : ¬(1 : Int32) = fullLevel * 2 := by decide
  have hfull : ¬fullLevel = fullLevel * 2 := by decide
  have hfull' : ¬fullLevel = 1 := by decide
  have hprops : ∃ props, heroPropMap cfgs heroVO.cid fullLevel = some props := by
    unfold heroPropMap at hone ⊢
    rw [if_neg hdouble] at hone
    rw [if_neg hfull]
    cases hcfg : cfgs.heroCfg heroVO.cid with
    | none =>
      rw [hcfg] at hone
      cases hone
    | some cfg =>
      rw [hcfg] at hone
      by_cases hmonster : cfg.heroType = HeroType.monster
      · simp only [hmonster, if_true] at hone
        cases hone
      · simp only [hmonster, hfull', if_false, if_true]
        exact ⟨cfg.fullLv, rfl⟩
  obtain ⟨props, hprops⟩ := hprops
  refine ⟨props, ?_⟩
  simp only [getFullLvProps, hcareer, Bool.false_eq_true, if_false, Int32.add_zero, hprops]

/-- **A hero is changed and saved** under its id. -/
lemma Kept.put (h : Kept cfgs pvo) {id : Int32} {heroVO : HeroVO} (hid : heroVO.id = id)
    (hcareer : heroVO.careerExchanged = false) (hone : (heroPropMap cfgs heroVO.cid 1).isSome) :
    Kept cfgs { pvo with
      heroes := pvo.heroes.insert id heroVO, heroDAO := pvo.heroDAO.insert id heroVO } where
  key := by
    intro id' heroVO' hlookup
    simp only [AList.lookup_insert_ite] at hlookup
    split_ifs at hlookup with hsame
    · obtain rfl := Option.some.inj hlookup
      exact hid.trans hsame.symm
    · exact h.key hlookup
  saved := by
    intro id'
    simp only [AList.lookup_insert_ite, h.saved]
  plain := by
    intro id' heroVO' hlookup
    simp only [AList.lookup_insert_ite] at hlookup
    split_ifs at hlookup with hsame
    · obtain rfl := Option.some.inj hlookup
      exact ⟨hcareer, hone⟩
    · exact h.plain hlookup

/-- A hero is given up. -/
lemma Kept.remove (h : Kept cfgs pvo) (id : Int32) :
    Kept cfgs { pvo with heroes := pvo.heroes.erase id, heroDAO := pvo.heroDAO.erase id } where
  key := by
    intro id' heroVO' hlookup
    simp only [AList.lookup_erase_ite] at hlookup
    split_ifs at hlookup
    exact h.key hlookup
  saved := by
    intro id'
    simp only [AList.lookup_erase_ite, h.saved]
  plain := by
    intro id' heroVO' hlookup
    simp only [AList.lookup_erase_ite] at hlookup
    split_ifs at hlookup
    exact h.plain hlookup

/-! ## The operations -/

/-- A summoned hero is new in memory and in the table. -/
lemma Kept.summon (h : Kept cfgs pvo) (id heroCId : Int32) :
    Kept cfgs ((summon cfgs id heroCId).finalState pvo) := by
  unfold Hero.summon
  rw [finalState_ofExcept_bind]
  cases CodeHero.heroNotConfig.throwIfTrue (cfgs.heroCfg heroCId).isNone with
  | error e => exact h
  | ok u =>
    unfold createHero
    simp only [finalState_ofExcept_bind]
    cases hone : heroPropMap cfgs heroCId 1 with
    | none =>
      simp only [getOneLvProps, hone]
      exact h
    | some oneLv =>
      have hone' : (heroPropMap cfgs heroCId 1).isSome := by rw [hone]; rfl
      simp only [getOneLvProps, hone]
      exact h.put rfl rfl hone'

/-- `heroLvLogic` with a higher level returns, and changes only values of the hero. -/
lemma heroLvLogic_run (h : Kept cfgs pvo) {nextInt : ℕ → Int32 → Int32} {heroId newLevel : Int32}
    {heroVO : HeroVO} (hlookup : pvo.heroes.lookup heroId = some heroVO)
    (hlevel : heroVO.level < newLevel) :
    ∃ heroVO', (heroLvLogic cfgs nextInt heroId heroVO newLevel).run pvo =
        .ok heroVO' { pvo with heroes := pvo.heroes.insert heroId heroVO' } ∧
      heroVO'.id = heroVO.id ∧ heroVO'.cid = heroVO.cid ∧
      heroVO'.careerExchanged = heroVO.careerExchanged := by
  obtain ⟨hcareer, hone⟩ := h.plain hlookup
  obtain ⟨cfg, hcfg⟩ := @getFullLvProps_ok cfgs { heroVO with level := newLevel, exp := 0 } hcareer
    hone
  exact ⟨_, heroLvLogic_run_ok cfgs hcfg hlevel, rfl, rfl, rfl⟩

/-- A level is raised in memory and in the table at once. -/
lemma Kept.levelUp (h : Kept cfgs pvo) (getGoodsQuantity : Int32 → Int32)
    (nextInt : ℕ → Int32 → Int32) (heroId : Int32) :
    Kept cfgs ((levelUp cfgs getGoodsQuantity nextInt heroId).finalState pvo) := by
  unfold Hero.levelUp
  rw [finalState_get_bind]
  cases hlookup : pvo.heroes.lookup heroId with
  | none => exact h
  | some heroVO =>
    simp only [finalState_ofExcept_bind]
    cases CodeHero.heroFullLevel.throwIfTrue (sameBox heroVO.level fullLevel) with
    | error e => exact h
    | ok u =>
      simp only
      cases tryLvAllIn cfgs getGoodsQuantity heroVO with
      | error e => exact h
      | ok newLevel =>
        simp only
        by_cases hlevel : heroVO.level < newLevel
        · obtain ⟨heroVO', hrun, hid, hcid, hcareer⟩ :=
            @heroLvLogic_run cfgs pvo h nextInt _ _ _ hlookup hlevel
          obtain ⟨hcareer', hone⟩ := h.plain hlookup
          rw [if_pos hlevel, finalState_bind, hrun]
          have hkey : heroVO'.id = heroId := hid.trans (h.key hlookup)
          have hput := h.put hkey (hcareer.trans hcareer') (by rw [hcid]; exact hone)
          rw [← hkey] at hput ⊢
          exact hput
        · rw [if_neg hlevel]
          exact h

/-- **A stage is raised and a hero given up**, in memory and in the table at once. The hero given
up may be the one whose stage is raised. -/
lemma Kept.stageUp (h : Kept cfgs pvo) (heroId₁ heroId₂ : Int32) :
    Kept cfgs ((stageUp heroId₁ heroId₂).finalState pvo) := by
  unfold Hero.stageUp
  rw [finalState_get_bind]
  cases hlookup₁ : pvo.heroes.lookup heroId₁ with
  | none => exact h
  | some heroVO₁ =>
    cases hlookup₂ : pvo.heroes.lookup heroId₂ with
    | none => exact h
    | some heroVO₂ =>
      simp only [finalState_ofExcept_bind]
      split
      · split
        · split
          · obtain ⟨hcareer, hone⟩ := h.plain hlookup₁
            have hkey : heroVO₁.id = heroId₁ := h.key hlookup₁
            have hput := @Kept.put _ _ h heroId₁ { heroVO₁ with stage := heroVO₁.stage + 1 }
              hkey hcareer hone
            rw [← hkey] at hput ⊢
            exact hput.remove heroVO₂.id
          · exact h
        · exact h
      · exact h

/-! ## Reloads -/

/-- The two maps have the same keys and the same heroes. -/
def SameHeroes (pvo pvo' : PlayerVO) : Prop :=
  ∀ id, pvo.heroes.lookup id = pvo'.heroes.lookup id

/-- Every hero has its configuration id for an id. -/
def IdIsCid (pvo : PlayerVO) : Prop :=
  ∀ id heroVO, pvo.heroes.lookup id = some heroVO → heroVO.id = heroVO.cid

/-- The rows of the table, in the order in which the database gives them. -/
def IsRows (procDatas : List HeroVO) (pvo : PlayerVO) : Prop :=
  procDatas.Perm pvo.heroDAO.values

/-- The rows are the heroes. -/
lemma Kept.mem_rows_iff (h : Kept cfgs pvo) {procDatas : List HeroVO}
    (hrows : IsRows procDatas pvo) {heroVO : HeroVO} :
    heroVO ∈ procDatas ↔ pvo.heroes.lookup heroVO.id = some heroVO := by
  rw [hrows.mem_iff, AList.mem_values]
  constructor
  · rintro ⟨id, hlookup⟩
    rw [h.saved] at hlookup
    have hkey : heroVO.id = id := h.key hlookup
    rw [hkey]
    exact hlookup
  · intro hlookup
    exact ⟨heroVO.id, (h.saved _).trans hlookup⟩

/-- **A reload gives the heroes back** if each has its configuration id for an id. -/
lemma Kept.sameHeroes_reload (h : Kept cfgs pvo) {procDatas : List HeroVO}
    (hrows : IsRows procDatas pvo) (hcid : IdIsCid pvo) :
    SameHeroes (reload procDatas pvo) pvo := by
  have hkey : ∀ heroVO ∈ procDatas, heroVO.id = heroVO.cid := by
    intro heroVO hmem
    exact hcid _ _ ((h.mem_rows_iff hrows).mp hmem)
  have hinj : ∀ heroVO ∈ procDatas, ∀ heroVO' ∈ procDatas, heroVO.cid = heroVO'.cid →
      heroVO = heroVO' := by
    intro heroVO hmem heroVO' hmem' heq
    have hlookup := (h.mem_rows_iff hrows).mp hmem
    have hlookup' := (h.mem_rows_iff hrows).mp hmem'
    rw [hkey _ hmem, heq] at hlookup
    rw [hkey _ hmem'] at hlookup'
    exact Option.some.inj (hlookup.symm.trans hlookup')
  intro id
  cases hlookup : pvo.heroes.lookup id with
  | some heroVO =>
    have hid : heroVO.id = id := h.key hlookup
    have hmem : heroVO ∈ procDatas := (h.mem_rows_iff hrows).mpr (by rw [hid]; exact hlookup)
    have hput : (reload procDatas pvo).heroes.lookup heroVO.cid = some heroVO :=
      AList.lookup_putAll_of_mem hinj hmem
    rw [← hkey _ hmem, hid] at hput
    exact hput
  | none =>
    cases hreload : (reload procDatas pvo).heroes.lookup id with
    | none => rfl
    | some heroVO =>
      obtain hempty | ⟨hmem, hid⟩ := AList.lookup_putAll hreload
      · cases hempty
      · have hfound := (h.mem_rows_iff hrows).mp hmem
        rw [hkey _ hmem, hid, hlookup] at hfound
        cases hfound

/-- A reload puts no hero under another key than its configuration id. -/
lemma Kept.idIsCid_of_sameHeroes (h : Kept cfgs pvo) {procDatas : List HeroVO}
    (hsame : SameHeroes (reload procDatas pvo) pvo) : IdIsCid pvo := by
  intro id heroVO hlookup
  have hreload := (hsame id).trans hlookup
  obtain hempty | ⟨-, hid⟩ := AList.lookup_putAll hreload
  · cases hempty
  · exact (h.key hlookup).trans hid.symm

/-- A reload that gives the heroes back keeps what is kept. -/
lemma Kept.reload (h : Kept cfgs pvo) {procDatas : List HeroVO}
    (hsame : SameHeroes (reload procDatas pvo) pvo) : Kept cfgs (reload procDatas pvo) where
  key := by
    intro id heroVO hlookup
    exact h.key ((hsame id).symm.trans hlookup)
  saved := by
    intro id
    exact (h.saved id).trans (hsame id).symm
  plain := by
    intro id heroVO hlookup
    exact h.plain ((hsame id).symm.trans hlookup)

/-! ## Runs -/

/-- What happens to a player. -/
inductive Action where
  /-- The new hero has the primary key `id`. -/
  | summon (id heroCId : Int32)
  | levelUp (getGoodsQuantity : Int32 → Int32) (nextInt : ℕ → Int32 → Int32) (heroId : Int32)
  | stageUp (heroId₁ heroId₂ : Int32)
  | reload (procDatas : List HeroVO)

/-- A player after an action, whether it returned or threw. -/
def step (cfgs : HeroConfigs) (pvo : PlayerVO) : Action → PlayerVO
  | .summon id heroCId => (summon cfgs id heroCId).finalState pvo
  | .levelUp getGoodsQuantity nextInt heroId =>
    (levelUp cfgs getGoodsQuantity nextInt heroId).finalState pvo
  | .stageUp heroId₁ heroId₂ => (stageUp heroId₁ heroId₂).finalState pvo
  | .reload procDatas => reload procDatas pvo

/-- A new row gets a primary key that no row has; a reload reads all rows, and so far every hero has
its configuration id for an id when the player is loaded. -/
def Allowed (pvo : PlayerVO) : Action → Prop
  | .summon id _ => pvo.heroDAO.lookup id = none
  | .levelUp _ _ _ => True
  | .stageUp _ _ => True
  | .reload procDatas => IsRows procDatas pvo ∧ IdIsCid pvo

/-- **Every action keeps what holds between reloads.** -/
lemma Kept.step (h : Kept cfgs pvo) (action : Action) (hallowed : Allowed pvo action) :
    Kept cfgs (step cfgs pvo action) := by
  cases action with
  | summon id heroCId => exact h.summon id heroCId
  | levelUp getGoodsQuantity nextInt heroId => exact h.levelUp getGoodsQuantity nextInt heroId
  | stageUp heroId₁ heroId₂ => exact h.stageUp heroId₁ heroId₂
  | reload procDatas => exact h.reload (h.sameHeroes_reload hallowed.1 hallowed.2)

/-- **When a reload loses and re-keys no hero**: just when every hero of the player has its
configuration id for an id. -/
theorem reload_same_iff (cfgs : HeroConfigs) (id : Int32) (actions : List Action)
    (hrun : Runs.EveryStep (step cfgs) Allowed (newPlayer id) actions) (procDatas : List HeroVO)
    (hrows : IsRows procDatas (Runs.run (step cfgs) (newPlayer id) actions)) :
    SameHeroes (reload procDatas (Runs.run (step cfgs) (newPlayer id) actions))
        (Runs.run (step cfgs) (newPlayer id) actions) ↔
      IdIsCid (Runs.run (step cfgs) (newPlayer id) actions) := by
  have hkept : Kept cfgs (Runs.run (step cfgs) (newPlayer id) actions) :=
    Runs.state_inv_run (Kept cfgs) (fun _ _ h hallowed => h.step _ hallowed)
      (kept_newPlayer id) hrun
  constructor
  · intro hsame
    exact hkept.idIsCid_of_sameHeroes hsame
  · intro hcid
    exact hkept.sameHeroes_reload hrows hcid

/-! ## Two players -/

/-- Every hero has the same values. -/
def plainConfigs : HeroConfigs where
  heroCfg _ := some ⟨1, 1, ⟨20, 5, 8, 4, 4, 3, 2⟩, ⟨40, 10, 16, 8, 8, 6, 4⟩⟩
  heroCareerCfg _ := none
  heroLvMap _ _ := none

/-- A hero of these as it is summoned. -/
def plainHero (id cid : Int32) : HeroVO where
  id := id
  playerId := 1
  cid := cid
  level := 1
  star := 1
  stage := 0
  careerExchanged := false
  hp := 20
  speed := 5
  attack := 8
  defense := 4
  magicDefense := 4
  technique := 3
  luck := 2
  sp := 0
  exp := 0

/-- One hero whose id is its configuration id. -/
theorem reload_same_plainHero :
    SameHeroes
      (reload [plainHero 7 7] (Runs.run (step plainConfigs) (newPlayer 1) [.summon 7 7]))
      (Runs.run (step plainConfigs) (newPlayer 1) [.summon 7 7]) := by
  refine (reload_same_iff plainConfigs 1 [.summon 7 7] ⟨rfl, trivial⟩ [plainHero 7 7]
    (List.Perm.refl _)).mpr ?_
  intro id heroVO hlookup
  have hheroes : (Runs.run (step plainConfigs) (newPlayer 1) [.summon 7 7]).heroes =
    AList.insert 7 (plainHero 7 7) ∅ := rfl
  rw [hheroes, AList.lookup_insert_ite] at hlookup
  split_ifs at hlookup
  · obtain rfl := Option.some.inj hlookup
    rfl
  · cases hlookup

/-- Two heroes of one configuration id: a reload loses one of them and re-keys the other. -/
theorem not_reload_same :
    Runs.EveryStep (step plainConfigs) Allowed (newPlayer 1) [.summon 1 7, .summon 2 7] ∧
      IsRows [plainHero 1 7, plainHero 2 7]
        (Runs.run (step plainConfigs) (newPlayer 1) [.summon 1 7, .summon 2 7]) ∧
      ¬SameHeroes
        (reload [plainHero 1 7, plainHero 2 7]
          (Runs.run (step plainConfigs) (newPlayer 1) [.summon 1 7, .summon 2 7]))
        (Runs.run (step plainConfigs) (newPlayer 1) [.summon 1 7, .summon 2 7]) := by
  refine ⟨⟨rfl, rfl, trivial⟩, List.Perm.swap _ _ _, ?_⟩
  intro hsame
  have hone := hsame 1
  have hbefore : (Runs.run (step plainConfigs) (newPlayer 1)
    [.summon 1 7, .summon 2 7]).heroes.lookup 1 = some (plainHero 1 7) := by decide
  have hafter : (reload [plainHero 1 7, plainHero 2 7] (Runs.run (step plainConfigs) (newPlayer 1)
    [.summon 1 7, .summon 2 7])).heroes.lookup 1 = none := by decide
  rw [hbefore, hafter] at hone
  cases hone

end SrgpGame.Hero
