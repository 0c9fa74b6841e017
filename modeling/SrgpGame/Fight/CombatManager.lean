import Mathlib.Data.Int.Init
import Mathlib.Logic.Function.Basic
import Mathlib.Tactic.Common

set_option autoImplicit false

/-!
# Combats

A combat is a sequence of attacks of two heroes on each other: the attacker begins, and a counter,
chases and counter-chases may follow. `CombatManager` keeps a list of the heroes that attack next,
and each time that one has attacked it asks the flags of both heroes who is next.

## Main definitions

* `CombatInfo`, `CombatEntity` — the flags of a hero, and the state of a combat.
* `Heroes` — what a combat needs to know of the heroes, and what an attack does.
* `CombatManager.nextActor`, `CombatManager.update` — who attacks next, and the loop.
* `CombatManager.doAtkAction` — a combat.

## Design notes

What an attack does to the heroes is a parameter: the damage is computed from numbers of the two
heroes that no attack changes, and from values of the combat that every attack resets first, and is
then given to `takeDamage`. A hero without a weapon skill throws before its damage is computed. The
combats of a battle share a `CombatEntity`, and a hero keeps its
`CombatInfo`, so both can have values of earlier combats. The list is an `ArrayList`, whose `get(0)`
and `remove(0)` throw when it is empty. The loop has a bound on its rounds, `fuel`.
-/

namespace SrgpGame.Fight

/-- `CombatInfo`: the flags of a hero. -/
structure CombatInfo where
  canCounter : Bool
  counter : Bool
  attackCount : Int32
  defendCount : Int32
  attack : Bool
  canChase : Bool
  chase : Bool
  canCounterChase : Bool
  counterChase : Bool
  deriving DecidableEq, Repr

/-- `CombatEntity`, without the values that the damage is computed from. -/
structure CombatEntity (H : Type) where
  attacker : H
  defender : H
  curAttacker : Option H
  attackerList : List H
  isUpdata : Bool

/-- **What a combat needs to know of the heroes.** -/
structure Heroes (H W : Type) where
  getSpeed : H → Int32
  getDexterity : H → Int32
  /-- Its table of skills has a weapon skill, which `setReviseValue` reads. -/
  hasWeaponSkill : H → Bool
  /-- What an attack of a hero does to its target. -/
  takeDamage : H → H → W → W
  getHp : W → H → Int32

/-- A battle: its combat, the flags and targets of its heroes, and what attacks change. -/
structure Combat (H W : Type) where
  entity : CombatEntity H
  getCombatInfo : H → CombatInfo
  getTarget : H → Option H
  world : W
  /-- The attacks so far. -/
  attacks : List (H × H)

/-- What a combat can throw. -/
inductive CombatFault where
  | indexOutOfBounds
  | nullPointer
  | outOfFuel
  deriving DecidableEq, Repr

namespace CombatManager

variable {H W : Type}

/-- `finishAtkList`. -/
def finishAtkList (c : Combat H W) : Combat H W :=
  { c with entity := { c.entity with isUpdata := false, curAttacker := none, attackerList := [] } }

/-- `addAttacker`. -/
def addAttacker (c : Combat H W) (actor : H) (isFront : Bool) : Combat H W :=
  { c with entity := { c.entity with
    attackerList := if isFront then actor :: c.entity.attackerList
      else c.entity.attackerList ++ [actor] } }

variable (heroes : Heroes H W)

/-- `onAtkComplete`: an attack, which ends the combat if it leaves its target at `hp 0`. -/
def onAtkComplete (c : Combat H W) (attacker defender : H) : Combat H W :=
  let c := { c with
    world := heroes.takeDamage attacker defender c.world
    attacks := c.attacks ++ [(attacker, defender)] }
  if heroes.getHp c.world defender = 0 then finishAtkList c else c

/-- `doAtk`, where `setReviseValue` asks for the weapon skill of the attacker. -/
def doAtk (c : Combat H W) (attacker defender : H) : Except CombatFault (Combat H W) :=
  if heroes.hasWeaponSkill attacker then .ok (onAtkComplete heroes c attacker defender)
  else .error .nullPointer

/-- `switchAttacker`: the first hero of the list attacks its target. -/
def switchAttacker (c : Combat H W) : Except CombatFault (Combat H W) :=
  match c.entity.attackerList with
  | [] => .error .indexOutOfBounds
  | actor :: _ =>
    let c := { c with entity := { c.entity with curAttacker := some actor } }
    match c.getTarget actor with
    | none => .error .nullPointer
    | some target => doAtk heroes c actor target

/-- The choice of `createNextAtk`: who attacks next, the attacker (`true`) or the defender, and the
flags with that attack. -/
def nextActor (attackerInfo defenderInfo : CombatInfo) : Option (Bool × CombatInfo × CombatInfo) :=
  if !attackerInfo.attack then
    some (true, { attackerInfo with attack := true }, defenderInfo)
  else if defenderInfo.canCounter && !defenderInfo.counter then
    some (false, attackerInfo, { defenderInfo with counter := true })
  else if attackerInfo.canChase && !attackerInfo.chase then
    some (true, { attackerInfo with chase := true }, defenderInfo)
  else if defenderInfo.counter && defenderInfo.canChase && !defenderInfo.chase then
    some (false, attackerInfo, { defenderInfo with chase := true })
  else if attackerInfo.chase && defenderInfo.counter && defenderInfo.canCounterChase &&
      !defenderInfo.counterChase then
    some (false, attackerInfo, { defenderInfo with counterChase := true })
  else if defenderInfo.chase && attackerInfo.canCounterChase && !attackerInfo.counterChase then
    some (true, { attackerInfo with counterChase := true }, defenderInfo)
  else none

variable [DecidableEq H]

/-- The flags of both heroes of the combat. -/
def setInfos (c : Combat H W) (attackerInfo defenderInfo : CombatInfo) : Combat H W :=
  { c with getCombatInfo := Function.update (Function.update c.getCombatInfo c.entity.attacker
      attackerInfo) c.entity.defender defenderInfo }

/-- `createNextAtk`. -/
def createNextAtk (c : Combat H W) : Combat H W :=
  match nextActor (c.getCombatInfo c.entity.attacker) (c.getCombatInfo c.entity.defender) with
  | none => c
  | some (isAttacker, attackerInfo, defenderInfo) =>
    addAttacker (setInfos c attackerInfo defenderInfo)
      (if isAttacker then c.entity.attacker else c.entity.defender) false

/-- **`update`**: the loop of a combat. -/
def update : ℕ → Combat H W → Except CombatFault (Combat H W)
  | 0, _ => .error .outOfFuel
  | fuel + 1, c =>
    if !c.entity.isUpdata then .ok c
    else if c.entity.attackerList = [] then .ok c
    else do
      let c ← if c.entity.curAttacker = none then switchAttacker heroes c else .ok c
      match c.entity.attackerList with
      | [] => .error .indexOutOfBounds
      | _ :: attackerList =>
        let c := createNextAtk { c with entity := { c.entity with attackerList := attackerList } }
        let c ← switchAttacker heroes c
        update fuel c

/-- The flags of a hero at the begin of a combat. `counter` and `counterChase` are not reset. -/
def initInfo (info : CombatInfo) (self other : H) : CombatInfo :=
  { info with
    attackCount := 0
    defendCount := 0
    attack := false
    canChase := 5 ≤ heroes.getSpeed self - heroes.getSpeed other
    chase := false
    canCounterChase := heroes.getDexterity other < heroes.getDexterity self }

/-- `initAtkData`. -/
def initAtkData (c : Combat H W) : Combat H W :=
  let attacker := c.entity.attacker
  let defender := c.entity.defender
  setInfos c (initInfo heroes (c.getCombatInfo attacker) attacker defender)
    (initInfo heroes (c.getCombatInfo defender) defender attacker)

/-- **`doAtkAction`**: a combat of two heroes. -/
def doAtkAction (fuel : ℕ) (c : Combat H W) (attacker defender : H) :
    Except CombatFault (Combat H W) :=
  let c := { c with
    getTarget := Function.update (Function.update c.getTarget attacker (some defender)) defender
      (some attacker)
    entity := { c.entity with attacker := attacker, defender := defender, attackerList := [] } }
  let c := createNextAtk (initAtkData heroes c)
  update heroes fuel { c with entity := { c.entity with isUpdata := true } }

end CombatManager

end SrgpGame.Fight
