import SrgpGame.Fight.CombatManager
import SrgpGame.Lib.Machine

set_option autoImplicit false

/-!
# The forecast of a combat

Before a combat the client shows what each of the two heroes would do to the other: the damage of
one attack, and how often it attacks. `getPreAtkData` computes the damage in the values of the
combat, first for the attacker and then, with the heroes exchanged, for the defender. The speeds it
does not exchange: both heroes attack twice as often when the attacker is faster.

## Main definitions

* `HeroEntity`, `CombatValues` — what an attack reads of a hero, and the values of a combat.
* `CombatManager.getFinalDamage` — the damage that the values say.
* `CombatManager.getPreAtkData` — the forecast.
* `Foretells` — what the forecast should be.

## Main results

* `damage_eq` — the damage does not depend on what the values were before.
* `foretells_iff` — the forecast is right just if neither hero is faster by `5`.

## Design notes

The `double`s of Java are the `Float`s of Lean. `getSkills` and `getAtk_twice` of a hero are not yet
implemented in the source; what they are for is data of the hero here. The special skill of the
attacker is asked for a group attack, to no effect.
-/

namespace SrgpGame.Fight

/-- `ReviseType`: what can change the damage of an attack. -/
inductive ReviseType where
  | arms
  | weapon
  | color
  | staff
  deriving DecidableEq, Repr

/-- `HeroEntity`: what an attack reads of a hero. -/
structure HeroEntity where
  getColor : Int32
  getWeapon : Int32
  getSpeed : Int32
  getAttack : Int32
  getDefense : Int32
  getMagicDefense : Int32
  /-- `getCid` of the weapon skill of `getSkills`. -/
  weaponSkill : Int32
  getAtkTwice : Bool

/-- The values of a `CombatEntity` that the damage is computed from, and what is computed. -/
structure CombatValues where
  attack : Int32
  defense : Int32
  baseDamage : Float
  finalDamage : Int32
  dmgRate : Float
  fixDmg : Int32
  revises : ReviseType → Option Float

/-- What `getPreAtkData` shows of a hero. -/
structure PreAtkShow where
  preDamage : Int32
  atkDamage : Int32
  times : Int32
  deriving DecidableEq, Repr

namespace CombatManager

/-- `resetCaculateValue`. -/
def resetCaculateValue (combat : CombatValues) : CombatValues :=
  { combat with attack := 0, defense := 0, revises := fun _ => none, dmgRate := 0, fixDmg := 0 }

/-- `isMagicWeapon`: a book, a dragon stone or a staff. -/
def isMagicWeapon (weapon : Int32) : Bool := weapon = 6 || weapon = 7 || weapon = 8

/-- `setAtkDefValue`. -/
def setAtkDefValue (combat : CombatValues) (attacker defender : HeroEntity) : CombatValues :=
  { combat with
    attack := attacker.getAttack
    defense := if isMagicWeapon attacker.getWeapon then defender.getMagicDefense
      else defender.getDefense }

/-- `revises.remove`. -/
def removeRevise (combat : CombatValues) (type : ReviseType) : CombatValues :=
  { combat with revises := Function.update combat.revises type none }

/-- `revises.put`. -/
def putRevise (combat : CombatValues) (type : ReviseType) (value : Float) : CombatValues :=
  { combat with revises := Function.update combat.revises type (some value) }

/-- `setWeaponRevise`: the weapons that the skill counters come from its configuration. -/
def setWeaponRevise (weaponCounters : Int32 → Option (List Int32)) (combat : CombatValues)
    (skillWeapon defenderWeapon : Int32) : CombatValues :=
  let combat := removeRevise combat .weapon
  match weaponCounters skillWeapon with
  | none => combat
  | some counters =>
    if defenderWeapon ∈ counters then putRevise combat .weapon 0.5 else combat

/-- `getColorRevise`: red beats green, green blue and blue red. -/
def getColorRevise (attackerColor defenderColor : Int32) : Float :=
  let red := 1
  let green := 2
  let blue := 3
  if (red = attackerColor ∧ green = defenderColor) ∨
      (green = attackerColor ∧ blue = defenderColor) ∨
      (blue = attackerColor ∧ red = defenderColor) then 0.2
  else if (red = attackerColor ∧ blue = defenderColor) ∨
      (green = attackerColor ∧ red = defenderColor) ∨
      (blue = attackerColor ∧ green = defenderColor) then -0.2
  else 0

/-- `setColorRevise`. -/
def setColorRevise (combat : CombatValues) (attackerColor defenderColor : Int32) : CombatValues :=
  putRevise (removeRevise combat .color) .color (getColorRevise attackerColor defenderColor)

/-- `setStaffRevise`. -/
def setStaffRevise (combat : CombatValues) (weapon : Int32) : CombatValues :=
  let combat := removeRevise combat .staff
  if weapon = 8 then putRevise combat .staff 0.5 else combat

/-- `setReviseValue`. -/
def setReviseValue (weaponCounters : Int32 → Option (List Int32)) (combat : CombatValues)
    (attacker defender : HeroEntity) : CombatValues :=
  let combat := setWeaponRevise weaponCounters combat attacker.weaponSkill defender.getWeapon
  let combat := setColorRevise combat attacker.getColor defender.getColor
  setStaffRevise combat attacker.getWeapon

/-- `getEffectiveRevise`. -/
def getEffectiveRevise (combat : CombatValues) : Float :=
  match combat.revises .weapon with
  | some revise => revise
  | none => (combat.revises .arms).getD 0

/-- `getRevise`. -/
def getRevise (combat : CombatValues) (type : ReviseType) (defaultValue : Float) : Float :=
  (combat.revises type).getD defaultValue

/-- `getBaseDamage`, which it also stores. -/
def getBaseDamage (combat : CombatValues) : Float × CombatValues :=
  let effectiveRevise := getEffectiveRevise combat
  let colorRevise := getRevise combat .color 0
  let ret := combat.attack.toFloat * (1 + effectiveRevise) * (1 + colorRevise) -
    combat.defense.toFloat
  (ret, { combat with baseDamage := ret })

/-- **`getFinalDamage`**: the damage, which it also stores. -/
def getFinalDamage (combat : CombatValues) : Int32 × CombatValues :=
  let staffRevise := getRevise combat .staff 1
  let (baseDamage, combat) := getBaseDamage combat
  let ret := (baseDamage * (staffRevise + combat.dmgRate) + combat.fixDmg.toFloat).floor.toInt32
  let ret := if ret < 0 then 0 else ret
  (ret, { combat with finalDamage := ret })

/-- The values for an attack, from whatever they were before. -/
def setValues (weaponCounters : Int32 → Option (List Int32)) (combat : CombatValues)
    (attacker defender : HeroEntity) : CombatValues :=
  let combat := resetCaculateValue combat
  let combat := setAtkDefValue combat attacker defender
  setReviseValue weaponCounters combat attacker defender

/-- **`getPreAtkData`**: what is shown of the attacker and of the defender. -/
def getPreAtkData (weaponCounters : Int32 → Option (List Int32)) (combat : CombatValues)
    (attacker defender : HeroEntity) : (PreAtkShow × PreAtkShow) × CombatValues :=
  let combat := setValues weaponCounters combat attacker defender
  let (atkDamage, combat) := getFinalDamage combat
  let twiceTimes : Int32 := if attacker.getAtkTwice then 2 else 1
  let chaseTimes : Int32 := if attacker.getSpeed - defender.getSpeed ≥ 5 then 2 else 1
  let attackerShow : PreAtkShow := ⟨0, atkDamage, twiceTimes * chaseTimes⟩
  let combat := setValues weaponCounters combat defender attacker
  let (atkDamage, combat) := getFinalDamage combat
  let twiceTimes : Int32 := if defender.getAtkTwice then 2 else 1
  -- the speeds are compared as for the attacker
  let chaseTimes : Int32 := if attacker.getSpeed - defender.getSpeed ≥ 5 then 2 else 1
  let defenderShow : PreAtkShow := ⟨0, atkDamage, twiceTimes * chaseTimes⟩
  ((attackerShow, defenderShow), combat)

end CombatManager

open CombatManager

/-! ## The damage -/

section Damage

variable {weaponCounters : Int32 → Option (List Int32)} {combat : CombatValues}
  {attacker defender : HeroEntity}

/-- Values before anything was computed. -/
def CombatValues.zero : CombatValues := ⟨0, 0, 0, 0, 0, 0, fun _ => none⟩

/-- Values with what some others computed. -/
def CombatValues.withComputed (combat computed : CombatValues) : CombatValues :=
  { combat with baseDamage := computed.baseDamage, finalDamage := computed.finalDamage }

/-- The damage of an attack. -/
def damage (weaponCounters : Int32 → Option (List Int32)) (attacker defender : HeroEntity) :
    Int32 :=
  (getFinalDamage (setValues weaponCounters .zero attacker defender)).1

/-- Of the values before an attack only what was computed remains. -/
lemma setValues_eq : setValues weaponCounters combat attacker defender =
    (setValues weaponCounters .zero attacker defender).withComputed combat := by
  simp only [setValues, setReviseValue, setStaffRevise, setWeaponRevise]
  cases weaponCounters attacker.weaponSkill with
  | none => split_ifs <;> rfl
  | some counters =>
    simp only []
    split_ifs <;> rfl

/-- **The damage does not depend on what the values were before.** -/
lemma damage_eq : (getFinalDamage (setValues weaponCounters combat attacker defender)).1 =
    damage weaponCounters attacker defender := by
  rw [setValues_eq]
  rfl

end Damage

/-! ## The forecast -/

/-- Whether a hero is faster than another by `5`. -/
def Leads (hero other : HeroEntity) : Prop := 5 ≤ hero.getSpeed.toInt - other.getSpeed.toInt

instance (hero other : HeroEntity) : Decidable (Leads hero other) := Int.decLe _ _

/-- How often a hero attacks another. -/
def attackTimes (hero other : HeroEntity) : ℤ :=
  (if hero.getAtkTwice then 2 else 1) * (if Leads hero other then 2 else 1)

/-- **What the forecast should be**, whatever the values of the two combats were before. -/
def Foretells (weaponCounters : Int32 → Option (List Int32)) (attacker defender : HeroEntity) :
    Prop :=
  ∀ combat combat' : CombatValues,
    let shows := (getPreAtkData weaponCounters combat attacker defender).1
    let exchanged := (getPreAtkData weaponCounters combat' defender attacker).1
    shows.2 = exchanged.1 ∧ shows.1.times.toInt = attackTimes attacker defender ∧
      shows.2.times.toInt = attackTimes defender attacker

section Forecast

variable (weaponCounters : Int32 → Option (List Int32)) (combat : CombatValues)
  (attacker defender : HeroEntity)

/-- The number of attacks as `getPreAtkData` computes it, with a speed lead that it looks at. -/
def times (twice : Bool) (lead : Int32) : Int32 :=
  (if twice then 2 else 1) * (if lead ≥ 5 then 2 else 1)

/-- **What is shown.** -/
lemma getPreAtkData_eq : (getPreAtkData weaponCounters combat attacker defender).1 =
    (⟨0, damage weaponCounters attacker defender,
        times attacker.getAtkTwice (attacker.getSpeed - defender.getSpeed)⟩,
      ⟨0, damage weaponCounters defender attacker,
        times defender.getAtkTwice (attacker.getSpeed - defender.getSpeed)⟩) := by
  have hfirst := @damage_eq weaponCounters combat attacker defender
  have hsecond := @damage_eq weaponCounters
    (getFinalDamage (setValues weaponCounters combat attacker defender)).2 defender attacker
  rw [← hfirst, ← hsecond]
  rfl

variable {attacker defender}

lemma times_eq (twice : Bool) (lead : Int32) : (times twice lead).toInt =
    (if twice then 2 else 1) * (if 5 ≤ lead.toInt then 2 else 1) := by
  have hlead : lead ≥ 5 ↔ 5 ≤ lead.toInt := Int32.le_iff_toInt_le
  unfold times
  cases twice <;> by_cases h : 5 ≤ lead.toInt <;> simp [hlead, h]

/-- The number is right if the lead is. -/
lemma times_eq_attackTimes (hero other : HeroEntity) (lead : Int32) :
    (times hero.getAtkTwice lead).toInt = attackTimes hero other ↔
      (5 ≤ lead.toInt ↔ Leads hero other) := by
  rw [times_eq, attackTimes]
  cases hero.getAtkTwice <;> by_cases h : 5 ≤ lead.toInt <;> by_cases h' : Leads hero other <;>
    simp [h, h']

end Forecast

/-- **The forecast is right just if neither hero is faster by `5`.** -/
theorem foretells_iff (weaponCounters : Int32 → Option (List Int32))
    (attacker defender : HeroEntity) :
    Foretells weaponCounters attacker defender ↔
      ¬Leads attacker defender ∧ ¬Leads defender attacker := by
  have hlow := attacker.getSpeed.le_toInt
  have hhigh := attacker.getSpeed.toInt_lt
  have hlow' := defender.getSpeed.le_toInt
  have hhigh' := defender.getSpeed.toInt_lt
  unfold Foretells
  simp only [getPreAtkData_eq, times_eq_attackTimes]
  constructor
  · intro h
    obtain ⟨-, hattacker, hdefender⟩ := h .zero .zero
    -- both leads are what one difference says, and there cannot be both
    have hnot : ¬(Leads attacker defender ∧ Leads defender attacker) := by
      unfold Leads
      omega
    tauto
  · rintro ⟨hattacker, hdefender⟩ combat combat'
    unfold Leads at hattacker hdefender ⊢
    have hsub : (attacker.getSpeed - defender.getSpeed).toInt =
        attacker.getSpeed.toInt - defender.getSpeed.toInt :=
      Int32.toInt_sub_of_fits (by omega) (by omega)
    have hsub' : (defender.getSpeed - attacker.getSpeed).toInt =
        defender.getSpeed.toInt - attacker.getSpeed.toInt :=
      Int32.toInt_sub_of_fits (by omega) (by omega)
    refine ⟨?_, by omega, by omega⟩
    have htimes : times defender.getAtkTwice (attacker.getSpeed - defender.getSpeed) =
        times defender.getAtkTwice (defender.getSpeed - attacker.getSpeed) := by
      rw [← Int32.toInt_inj, times_eq, times_eq, hsub, hsub', if_neg hattacker, if_neg hdefender]
    rw [htimes]

/-- A hero that is faster by `5`, and one that the forecast shows to attack as often. -/
theorem not_foretells :
    ¬Foretells (fun _ => none) ⟨1, 1, 15, 30, 10, 10, 101, false⟩
      ⟨2, 1, 10, 30, 10, 10, 102, false⟩ := by
  intro h
  obtain ⟨-, -, htimes⟩ := h .zero .zero
  rw [getPreAtkData_eq] at htimes
  exact absurd htimes (by decide)

end SrgpGame.Fight
