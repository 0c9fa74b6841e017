import SrgpGame.Core.Codes
import SrgpGame.Lib.Method

set_option autoImplicit false

/-!
# Heroes of a player

A player summons heroes, raises their levels, and gives one hero up to raise the stage of another.
Every hero is a row of a table, and the rows of a player fill the map of heroes when the player is
loaded.

## Main definitions

* `HeroVO`, `PlayerVO` — a hero, and a player with heroes in memory and in the table.
* `HeroConfigs` — the configuration tables, with `heroPropMap`, the values of `CacheHeroProp`.
* `summon`, `levelUp`, `stageUp` — the operations of `HeroBOImpl`.
* `buildAsLoad` — the loading of a player.

## Design notes

A hero is one object, known to the map and to the method that changes it; the model puts the changed
hero back under the key it was found with. `writeToDBObj` gives a new hero its id, which is an input
of `summon`. So are the goods of the player and the random numbers of `levelUp`. The skills of a
hero are not saved and no operation modelled here touches them. Two `Integer`s that were boxed one
by one are the same object only if the value is small; `stageUp` compares the objects.
-/

namespace SrgpGame.Hero

open EStateM

/-! ## Configurations -/

/-- `HeroProp`: the values of a hero at some level. -/
structure HeroProp where
  hp : Int32
  speed : Int32
  attack : Int32
  defense : Int32
  magicDefense : Int32
  technique : Int32
  luck : Int32
  deriving DecidableEq, Repr

/-- `HeroCfg`. Each of its arrays has the value at level one and the one at full level. -/
structure HeroCfg where
  colorType : Int32
  heroType : Int32
  oneLv : HeroProp
  fullLv : HeroProp

/-- `HeroLv`: what a level costs. Of the goods only the ids are read, in the order of their map. -/
structure HeroLv where
  exp : Int32
  costItems : List Int32
  costGeneralItems : List Int32

/-- The configuration tables. -/
structure HeroConfigs where
  /-- `HeroCfg` by id. -/
  heroCfg : Int32 → Option HeroCfg
  /-- The values of `HeroCareerCfg` by id. -/
  heroCareerCfg : Int32 → Option HeroProp
  /-- `CacheHeroLv.heroLvMap`, by color and level. -/
  heroLvMap : Int32 → Int32 → Option HeroLv

namespace HeroType

def monster : Int32 := 2

end HeroType

/-- `HeroLvCfg.FULL_LEVEL`. -/
def fullLevel : Int32 := 40

/-- `HeroStageCfg.FULL_STAGE`. -/
def fullStage : Int32 := 10

/-- `CacheHeroProp.heroPropMap`, by hero and level, as the adjusters fill it: monsters have no
values, except those of another career. -/
def heroPropMap (cfgs : HeroConfigs) (cid level : Int32) : Option HeroProp :=
  if level = fullLevel * 2 then cfgs.heroCareerCfg cid
  else
    match cfgs.heroCfg cid with
    | none => none
    | some cfg =>
      if cfg.heroType = HeroType.monster then none
      else if level = 1 then some cfg.oneLv
      else if level = fullLevel then some cfg.fullLv
      else none

/-! ## Heroes and players -/

/-- `HeroVO`. All of it is saved. -/
structure HeroVO where
  id : Int32
  playerId : Int32
  cid : Int32
  level : Int32
  star : Int32
  stage : Int32
  careerExchanged : Bool
  hp : Int32
  speed : Int32
  attack : Int32
  defense : Int32
  magicDefense : Int32
  technique : Int32
  luck : Int32
  sp : Int32
  exp : Int32
  deriving DecidableEq, Repr

/-- A player: the heroes in memory, and the rows of the heroes in the table, by primary key. -/
structure PlayerVO where
  id : Int32
  heroes : AList fun _ : Int32 => HeroVO
  heroDAO : AList fun _ : Int32 => HeroVO

/-- A player who was just created. -/
def newPlayer (id : Int32) : PlayerVO := ⟨id, ∅, ∅⟩

/-- `==` of integers that were boxed one by one. -/
def sameBox (a b : Int32) : Bool := a = b && -128 ≤ a && a ≤ 127

/-- `save`. -/
def save (heroVO : HeroVO) : EStateM Thrown PlayerVO Unit :=
  modify fun pvo => { pvo with heroDAO := pvo.heroDAO.insert heroVO.id heroVO }

/-- `delete`. -/
def delete (heroVO : HeroVO) : EStateM Thrown PlayerVO Unit :=
  modify fun pvo => { pvo with heroDAO := pvo.heroDAO.erase heroVO.id }

/-- The hero under a key is changed. -/
def setHero (heroId : Int32) (heroVO : HeroVO) : EStateM Thrown PlayerVO Unit :=
  modify fun pvo => { pvo with heroes := pvo.heroes.insert heroId heroVO }

/-! ## Summoning -/

variable (cfgs : HeroConfigs)

/-- `getOneLvProps`; its callers read the values at once. -/
def getOneLvProps (cid : Int32) : Except Thrown HeroProp :=
  match heroPropMap cfgs cid 1 with
  | none => .error .nullPointer
  | some oneLv => .ok oneLv

/-- `createHero`; `id` is the primary key that the new row gets. -/
def createHero (id cid : Int32) : EStateM Thrown PlayerVO Unit := do
  let oneLv ← ofExcept fun _ => getOneLvProps cfgs cid
  let pvo ← get
  let heroVO : HeroVO :=
    { id := id, playerId := pvo.id, cid := cid, level := 1, star := 1, stage := 0
      careerExchanged := false, hp := oneLv.hp, speed := oneLv.speed, attack := oneLv.attack
      defense := oneLv.defense, magicDefense := oneLv.magicDefense, technique := oneLv.technique
      luck := oneLv.luck, sp := 0, exp := 0 }
  setHero heroVO.id heroVO
  save heroVO

/-- **`summon`**. -/
def summon (id heroCId : Int32) : EStateM Thrown PlayerVO Unit := do
  ofExcept fun _ => CodeHero.heroNotConfig.throwIfTrue (cfgs.heroCfg heroCId).isNone
  createHero cfgs id heroCId

/-! ## Levels -/

/-- `itemsForOneLv`: the levels added (none or one), the experience that is still missing, and what
is left of the goods. -/
def itemsForOneLv (getGoodsQuantity : Int32 → Int32) :
    List Int32 → (AList fun _ : Int32 => Int32) → Int32 →
      Int32 × Int32 × AList fun _ : Int32 => Int32
  | [], preUse, needExp => (0, needExp, preUse)
  | key :: costItems, preUse, needExp =>
    let currentNum := preUse.getOrDefault key (getGoodsQuantity key)
    if needExp ≤ currentNum then (1, 0, preUse.insert key (currentNum - needExp))
    else itemsForOneLv getGoodsQuantity costItems (preUse.insert key 0) (needExp - currentNum)

/-- The loop of `tryLvAllIn`; `rounds` bounds the levels that are left. -/
def tryLvAllInLoop (getGoodsQuantity : Int32 → Int32) (color : Int32) :
    ℕ → Int32 → Int32 → (AList fun _ : Int32 => Int32) → Except Thrown Int32
  | 0, curLevel, _, _ => .ok curLevel
  | rounds + 1, curLevel, leftExp, preUse =>
    if fullLevel ≤ curLevel then .ok curLevel
    else
      match cfgs.heroLvMap color (curLevel + 1) with
      | none => .error .nullPointer
      | some levelValue =>
        let (added, needExp, preUse) :=
          itemsForOneLv getGoodsQuantity levelValue.costItems preUse (levelValue.exp - leftExp)
        let (added, _, preUse) :=
          if added = 0 then
            itemsForOneLv getGoodsQuantity levelValue.costGeneralItems preUse needExp
          else (added, needExp, preUse)
        if added = 0 then .ok curLevel
        else tryLvAllInLoop getGoodsQuantity color rounds (curLevel + added) 0 preUse

/-- `tryLvAllIn`: the level that the goods of the player are enough for. -/
def tryLvAllIn (getGoodsQuantity : Int32 → Int32) (heroVO : HeroVO) : Except Thrown Int32 :=
  match cfgs.heroCfg heroVO.cid with
  | none => .error .nullPointer
  | some heroCfg =>
    tryLvAllInLoop cfgs getGoodsQuantity heroCfg.colorType
      (fullLevel.toInt - heroVO.level.toInt).toNat heroVO.level heroVO.exp ∅

/-- `getFullLvProps`; its callers read the values at once. -/
def getFullLvProps (heroVO : HeroVO) : Except Thrown HeroProp :=
  match heroPropMap cfgs heroVO.cid
      (fullLevel + if heroVO.careerExchanged then fullLevel else 0) with
  | none => .error .nullPointer
  | some cfg => .ok cfg

/-- The loop of `getPropAdded`. The state counts the random numbers drawn. -/
def getPropAddedLoop (nextInt : ℕ → Int32 → Int32) (addMode addFactor curValue maxValue : Int32) :
    ℕ → Int32 → Int32 → StateM ℕ Int32
  | 0, _, added => pure added
  | useTimes + 1, totalTimes, added => do
    let draws ← get
    set (draws + 1)
    let randomValue := nextInt draws totalTimes
    let added :=
      if randomValue < maxValue - (curValue + added) then
        added + addFactor + (if randomValue < addMode then 1 else 0)
      else added
    getPropAddedLoop nextInt addMode addFactor curValue maxValue useTimes (totalTimes - 1) added

/-- `getPropAdded`. It is never called with `totalTimes` zero. -/
def getPropAdded (nextInt : ℕ → Int32 → Int32) (totalTimes useTimes curValue maxValue : Int32) :
    StateM ℕ Int32 :=
  if totalTimes < useTimes then pure (-1)
  else
    let addMode := (maxValue - curValue) % totalTimes
    let addFactor := (maxValue - curValue - addMode) / totalTimes
    getPropAddedLoop nextInt addMode addFactor curValue maxValue useTimes.toInt.toNat totalTimes 0

/-- What `heroLvLogic` does to the values of a hero. -/
def addProps (nextInt : ℕ → Int32 → Int32) (totalTimes useTimes : Int32) (cfg : HeroProp)
    (heroVO : HeroVO) : StateM ℕ HeroVO := do
  let added := getPropAdded nextInt totalTimes useTimes
  let hp ← added heroVO.hp cfg.hp
  let speed ← added heroVO.speed cfg.speed
  let attack ← added heroVO.attack cfg.attack
  let defense ← added heroVO.defense cfg.defense
  let magicDefense ← added heroVO.magicDefense cfg.magicDefense
  let technique ← added heroVO.technique cfg.technique
  let luck ← added heroVO.luck cfg.luck
  pure { heroVO with
    hp := heroVO.hp + hp, speed := heroVO.speed + speed, attack := heroVO.attack + attack
    defense := heroVO.defense + defense, magicDefense := heroVO.magicDefense + magicDefense
    technique := heroVO.technique + technique, luck := heroVO.luck + luck }

/-- `heroLvLogic`. The level is set before the values of the full level are looked up. -/
def heroLvLogic (nextInt : ℕ → Int32 → Int32) (heroId : Int32) (heroVO : HeroVO)
    (newLevel : Int32) : EStateM Thrown PlayerVO HeroVO :=
  let curLevel := heroVO.level
  if newLevel ≤ curLevel then pure heroVO
  else do
    let heroVO := { heroVO with level := newLevel, exp := 0 }
    setHero heroId heroVO
    let cfg ← ofExcept fun _ => getFullLvProps cfgs heroVO
    let heroVO :=
      ((addProps nextInt (fullLevel - curLevel) (newLevel - curLevel) cfg heroVO).run 0).1
    setHero heroId heroVO
    pure heroVO

/-- The hero that `heroLvLogic` makes. -/
def leveled (nextInt : ℕ → Int32 → Int32) (newLevel : Int32) (cfg : HeroProp) (heroVO : HeroVO) :
    HeroVO :=
  ((addProps nextInt (fullLevel - heroVO.level) (newLevel - heroVO.level) cfg
    { heroVO with level := newLevel, exp := 0 }).run 0).1

/-- **`heroLvLogic` with a higher level** returns, and puts the hero back. -/
lemma heroLvLogic_run_ok {nextInt : ℕ → Int32 → Int32} {heroId newLevel : Int32} {heroVO : HeroVO}
    {cfg : HeroProp} {pvo : PlayerVO} (hcfg : getFullLvProps cfgs heroVO = .ok cfg)
    (hlevel : heroVO.level < newLevel) :
    (heroLvLogic cfgs nextInt heroId heroVO newLevel).run pvo =
      .ok (leveled nextInt newLevel cfg heroVO)
        { pvo with heroes := pvo.heroes.insert heroId (leveled nextInt newLevel cfg heroVO) } := by
  have hcfg' : getFullLvProps cfgs { heroVO with level := newLevel, exp := 0 } = .ok cfg := hcfg
  unfold heroLvLogic
  simp only [Int32.not_le.mpr hlevel, if_false, hcfg']
  -- the hero is put back twice
  rw [← AList.insert_insert]
  rfl

/-- **`levelUp`**. -/
def levelUp (getGoodsQuantity : Int32 → Int32) (nextInt : ℕ → Int32 → Int32) (heroId : Int32) :
    EStateM Thrown PlayerVO Unit := do
  let pvo ← get
  match pvo.heroes.lookup heroId with
  | none => throw (.logic CodeHero.heroNotFound.get)
  | some heroVO =>
    ofExcept fun _ => CodeHero.heroFullLevel.throwIfTrue (sameBox heroVO.level fullLevel)
    let newLevel ← ofExcept fun _ => tryLvAllIn cfgs getGoodsQuantity heroVO
    if heroVO.level < newLevel then
      let heroVO ← heroLvLogic cfgs nextInt heroId heroVO newLevel
      save heroVO

/-! ## Stages -/

/-- **`stageUp`**: the second hero is given up. If both ids are the same, so is the hero. -/
def stageUp (heroId₁ heroId₂ : Int32) : EStateM Thrown PlayerVO Unit := do
  let pvo ← get
  match pvo.heroes.lookup heroId₁, pvo.heroes.lookup heroId₂ with
  | some heroVO₁, some heroVO₂ =>
    let same := heroId₁ = heroId₂
    ofExcept fun _ => CodeHero.heroMaxStage.throwIfTrue (sameBox heroVO₁.stage fullStage)
    ofExcept fun _ => CodeHero.heroNotSameStar.throwIfTrue
      ¬(same ∨ sameBox heroVO₁.star heroVO₂.star)
    ofExcept fun _ => CodeHero.heroNotSameId.throwIfTrue
      ¬(same ∨ sameBox heroVO₁.cid heroVO₂.cid)
    let heroVO₁ := { heroVO₁ with stage := heroVO₁.stage + 1 }
    setHero heroId₁ heroVO₁
    save heroVO₁
    delete heroVO₂
    modify fun pvo => { pvo with heroes := pvo.heroes.erase heroVO₂.id }
  | _, _ => throw (.logic CodeHero.heroNotFound.get)

/-! ## Loading -/

/-- **`buildAsLoad`**: a hero is put under its configuration id. -/
def buildAsLoad (procDatas : List HeroVO) (pvo : PlayerVO) : PlayerVO :=
  { pvo with heroes := AList.putAll HeroVO.cid procDatas pvo.heroes }

/-- The player is loaded anew. -/
def reload (procDatas : List HeroVO) (pvo : PlayerVO) : PlayerVO :=
  buildAsLoad procDatas { pvo with heroes := ∅ }

end SrgpGame.Hero
