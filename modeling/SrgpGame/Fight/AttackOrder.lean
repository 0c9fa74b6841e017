import Mathlib.Data.List.Basic
import SrgpGame.Fight.CombatManager

set_option autoImplicit false

/-!
# The order of attacks

What a combat is meant to be is said without flags: an attack, a counter, chases and
counter-chases, until one of the heroes is dead. The code does this in some combats only: its loop
ends well only after a deadly attack, and its flags may be those of an earlier combat. This file
says in which.

## Main definitions

* `intended` — the attacks of a combat as they are meant to be.
* `queued` — the attacks for which the flags stand that a combat starts with.
* `fatal` — the first deadly attack.
* `Fits` — the flags, speeds and dexterities for which both orders begin with the same attacks.
* `Performs` — what a combat comes to for which some attacks stand.

## Main results

* `take_queued_iff` — both orders agree up to an attack just when the values fit.
* `update_engaged` — the loop performs what the flags stand for, up to the first deadly attack.
* `doAtkAction_intended_iff` — when a combat is as it is meant to be.
-/

namespace SrgpGame.Fight

open CombatManager

variable {H W : Type}

/-! ## Attacks -/

/-- One of the two heroes: the attacker (`true`) or the defender. -/
def fighter (attacker defender : H) (isAttacker : Bool) : H :=
  if isAttacker then attacker else defender

/-- An attack: of a hero on the other one. -/
def blow (attacker defender : H) (isAttacker : Bool) : H × H :=
  (fighter attacker defender isAttacker, fighter attacker defender !isAttacker)

/-- Two heroes, so an attack tells whose it is. -/
lemma blow_injective {attacker defender : H} (hne : attacker ≠ defender) :
    Function.Injective (blow attacker defender) := by
  intro r r' h
  have hfst : fighter attacker defender r = fighter attacker defender r' := congrArg Prod.fst h
  cases r with
  | true =>
    cases r' with
    | true => rfl
    | false => exact absurd hfst hne
  | false =>
    cases r' with
    | true => exact absurd hfst.symm hne
    | false => rfl

section Attacks

variable (heroes : Heroes H W) (attacker defender : H)

/-- What an attack changes. -/
def strike (w : W) (isAttacker : Bool) : W :=
  heroes.takeDamage (fighter attacker defender isAttacker)
    (fighter attacker defender !isAttacker) w

/-- An attack is deadly. -/
def kills (w : W) (isAttacker : Bool) : Bool :=
  heroes.getHp (strike heroes attacker defender w isAttacker)
    (fighter attacker defender !isAttacker) = 0

/-- The position of the first deadly attack. -/
def fatal : W → List Bool → Option ℕ
  | _, [] => none
  | w, r :: rs =>
    if kills heroes attacker defender w r then some 0
    else (fatal (strike heroes attacker defender w r) rs).map (· + 1)

/-- **The attacks that are made**: none after a deadly one. -/
def performed : W → List Bool → List Bool
  | _, [] => []
  | w, r :: rs =>
    r :: if kills heroes attacker defender w r then []
      else performed (strike heroes attacker defender w r) rs

/-- The hero has a weapon skill, without which it cannot attack. -/
def armed (isAttacker : Bool) : Bool :=
  heroes.hasWeaponSkill (fighter attacker defender isAttacker)

/-- The speed of a hero is at least five higher than that of another one. -/
def isFaster (hero other : H) : Bool :=
  decide ((heroes.getSpeed other).toInt + 5 ≤ (heroes.getSpeed hero).toInt)

/-- The same as the code computes it, where the difference of the speeds may overflow. -/
def isFasterInt (hero other : H) : Bool :=
  decide (5 ≤ heroes.getSpeed hero - heroes.getSpeed other)

/-- A hero is more dexterous than another one. -/
def isDefter (hero other : H) : Bool :=
  decide (heroes.getDexterity other < heroes.getDexterity hero)

/-- **A combat as it is meant to be.** -/
def intended (canCounter : Bool) : List Bool :=
  let chases := isFaster heroes attacker defender
  let chased := canCounter && isFaster heroes defender attacker
  [true] ++ (if canCounter then [false] else []) ++ (if chases then [true] else []) ++
    (if chased then [false] else []) ++
    (if chases && canCounter && isDefter heroes defender attacker then [false] else []) ++
    (if chased && isDefter heroes attacker defender then [true] else [])

/-- What follows the first attack, by the flags that a combat starts with. -/
def followUps (attackerInfo defenderInfo : CombatInfo) : List Bool :=
  let countered := defenderInfo.canCounter || defenderInfo.counter
  let chases := isFasterInt heroes attacker defender
  let chased := countered && isFasterInt heroes defender attacker
  (if defenderInfo.canCounter && !defenderInfo.counter then [false] else []) ++
    (if chases then [true] else []) ++ (if chased then [false] else []) ++
    (if chases && countered && isDefter heroes defender attacker && !defenderInfo.counterChase
      then [false] else []) ++
    (if chased && isDefter heroes attacker defender && !attackerInfo.counterChase then [true]
      else [])

/-- **The attacks for which the flags stand** at the begin of a combat. The first one is left out if
the hero who attacked last in an earlier combat is still there. -/
def queued (c : Combat H W) : List Bool :=
  (if c.entity.curAttacker.isSome then [] else [true]) ++
    followUps heroes attacker defender (c.getCombatInfo attacker) (c.getCombatInfo defender)

end Attacks

section Fatal

variable {heroes : Heroes H W} {attacker defender : H} {w : W} {l : List Bool} {k : ℕ}

lemma fatal_lt (h : fatal heroes attacker defender w l = some k) : k < l.length := by
  induction l generalizing w k with
  | nil => cases h
  | cons r l ih =>
    rw [fatal] at h
    split_ifs at h
    · obtain rfl := Option.some.inj h
      exact Nat.zero_lt_succ _
    · obtain ⟨j, hj, rfl⟩ := Option.map_eq_some_iff.mp h
      exact Nat.succ_lt_succ (ih hj)

/-- Whether there is a deadly attack up to some place does not depend on what follows. -/
lemma fatal_congr {l' : List Bool} (h : fatal heroes attacker defender w l = some k)
    (htake : l.take (k + 1) = l'.take (k + 1)) : fatal heroes attacker defender w l' = some k := by
  induction l generalizing w k l' with
  | nil => cases h
  | cons r l ih =>
    cases l' with
    | nil => cases htake
    | cons r' l' =>
      obtain ⟨rfl, htail⟩ := List.cons.inj htake
      rw [fatal] at h ⊢
      split_ifs at h ⊢
      · exact h
      · obtain ⟨j, hj, rfl⟩ := Option.map_eq_some_iff.mp h
        rw [ih hj htail]
        rfl

lemma performed_of_fatal (h : fatal heroes attacker defender w l = some k) :
    performed heroes attacker defender w l = l.take (k + 1) := by
  induction l generalizing w k with
  | nil => cases h
  | cons r l ih =>
    rw [fatal] at h
    rw [performed]
    split_ifs at h ⊢
    · obtain rfl := Option.some.inj h
      rfl
    · obtain ⟨j, hj, rfl⟩ := Option.map_eq_some_iff.mp h
      rw [ih hj]
      rfl

lemma performed_of_not_fatal (h : fatal heroes attacker defender w l = none) :
    performed heroes attacker defender w l = l := by
  induction l generalizing w with
  | nil => rfl
  | cons r l ih =>
    rw [fatal] at h
    rw [performed]
    split_ifs at h ⊢
    rw [ih (Option.map_eq_none_iff.mp h)]

/-- **Attacks up to a deadly one** are what is made in another order just if both orders are the
same so far. -/
lemma take_eq_performed_iff {l' : List Bool} (h : fatal heroes attacker defender w l = some k) :
    l.take (k + 1) = performed heroes attacker defender w l' ↔
      fatal heroes attacker defender w l' = some k ∧ l.take (k + 1) = l'.take (k + 1) := by
  constructor
  · intro heq
    cases hfatal : fatal heroes attacker defender w l' with
    | none =>
      -- a deadly attack cannot be hidden among others
      rw [performed_of_not_fatal hfatal] at heq
      have htake : l.take (k + 1) = l'.take (k + 1) := by
        rw [← heq, List.take_take, Nat.min_self]
      rw [fatal_congr h htake] at hfatal
      cases hfatal
    | some j =>
      rw [performed_of_fatal hfatal] at heq
      have hlength := congrArg List.length heq
      have hk := fatal_lt h
      have hj := fatal_lt hfatal
      rw [List.length_take, List.length_take] at hlength
      obtain rfl : j = k := by omega
      exact ⟨rfl, heq⟩
  · rintro ⟨hfatal, htake⟩
    rw [performed_of_fatal hfatal, htake]

end Fatal

/-! ## When the orders agree -/

section Order

/-- An order of attacks, by which attacks there are. -/
def order (opening counter chase chased counterChase counterChased : Bool) : List Bool :=
  (if opening then [true] else []) ++ (if counter then [false] else []) ++
    (if chase then [true] else []) ++ (if chased then [false] else []) ++
    (if counterChase then [false] else []) ++ (if counterChased then [true] else [])

/-- **What the values at the begin of a combat must be** for the first attacks of the order they
stand for to be the intended ones, up to the `k`-th. -/
def Fits (heroes : Heroes H W) (attacker defender : H) (c : Combat H W) (k : ℕ) : Prop :=
  let aInfo := c.getCombatInfo attacker
  let dInfo := c.getCombatInfo defender
  if c.entity.curAttacker.isSome then
    -- no opening attack: the chase stands in for it, and a counter-chase for the counter
    k ≤ 1 ∧ (dInfo.canCounter = true → dInfo.counter = true) ∧
      isFasterInt heroes attacker defender = true ∧
      (k = 1 → dInfo.canCounter = true ∧ isDefter heroes defender attacker = true ∧
        dInfo.counterChase = false)
  else
    -- a counter of an earlier combat leaves out this one, and a chase may stand in for it
    0 < k ∧
      (if dInfo.canCounter then
        dInfo.counter = false ∨ isFasterInt heroes defender attacker = true
      else isFasterInt heroes attacker defender = true) ∧
      (2 ≤ k →
        if dInfo.counter then
          isFaster heroes attacker defender = true ∧ isDefter heroes attacker defender = true ∧
            aInfo.counterChase = false
        else
          (isFaster heroes attacker defender = true →
            isFasterInt heroes attacker defender = true) ∧
          (isFaster heroes defender attacker = true →
            isFasterInt heroes defender attacker = true)) ∧
      (3 ≤ k → dInfo.counter = false ∧
        (isFaster heroes attacker defender = true → dInfo.counterChase = false) ∧
        (isFaster heroes defender attacker = true → aInfo.counterChase = false))

/-- Two heroes are not both faster than each other, -/
lemma isFaster_asymm (heroes : Heroes H W) (hero other : H) :
    (isFaster heroes hero other && isFaster heroes other hero) = false := by
  simp only [isFaster, Bool.and_eq_false_iff, decide_eq_false_iff_not]
  omega

/-- nor are they as the code computes it: a difference of at least five has a negation. -/
lemma isFasterInt_asymm (heroes : Heroes H W) (hero other : H) :
    (isFasterInt heroes hero other && isFasterInt heroes other hero) = false := by
  rw [Bool.and_eq_false_imp]
  intro hfaster
  have hle := Int32.le_iff_toInt_le.mp (of_decide_eq_true hfaster)
  rw [isFasterInt, decide_eq_false_iff_not, ← Int32.neg_sub, Int32.le_iff_toInt_le,
    Int32.toInt_neg]
  have hlt := Int32.toInt_lt (heroes.getSpeed hero - heroes.getSpeed other)
  have hfive : (5 : Int32).toInt = 5 := rfl
  rw [hfive] at hle ⊢
  rw [Int.bmod_eq_of_le (by omega) (by omega)]
  omega

section Flags

variable {canCounter counter attackerDone defenderDone faster slower fasterInt slowerInt defter
  clumsier : Bool} {k : ℕ}

/-- The intended order, by what it depends on. -/
abbrev meant (canCounter faster slower defter clumsier : Bool) : List Bool :=
  order true canCounter faster (canCounter && slower) (faster && canCounter && clumsier)
    (canCounter && slower && defter)

/-- Only one of the heroes chases, so a combat has at most four attacks. -/
lemma length_order_le (h : (faster && slower) = false) :
    (meant canCounter faster slower defter clumsier).length ≤ 4 := by
  revert faster slower canCounter clumsier defter
  decide

/-- The orders agree without an opening attack. -/
lemma take_order_left_iff (h : (faster && slower) = false) (hInt : (fasterInt && slowerInt) = false)
    (hk : k < 4) (hlt : k < (meant canCounter faster slower defter clumsier).length) :
    (order false (canCounter && !counter) fasterInt ((canCounter || counter) && slowerInt)
        (fasterInt && (canCounter || counter) && clumsier && !defenderDone)
        ((canCounter || counter) && slowerInt && defter && !attackerDone)).take (k + 1) =
      (meant canCounter faster slower defter clumsier).take (k + 1) ↔
    k ≤ 1 ∧ (canCounter = true → counter = true) ∧ fasterInt = true ∧
      (k = 1 → canCounter = true ∧ clumsier = true ∧ defenderDone = false) := by
  unfold meant order at hlt ⊢
  obtain _ | _ | _ | _ | k := k
  case succ.succ.succ.succ => omega
  all_goals
    cases canCounter <;> cases counter <;> cases faster <;> cases slower <;> cases fasterInt <;>
      cases slowerInt <;> simp_all
  all_goals cases clumsier <;> cases defter <;> cases defenderDone <;> simp_all

/-- The orders agree with the opening attack. -/
lemma take_order_new_iff (h : (faster && slower) = false) (hInt : (fasterInt && slowerInt) = false)
    (hk : k < 4) (hlt : k < (meant canCounter faster slower defter clumsier).length) :
    (order true (canCounter && !counter) fasterInt ((canCounter || counter) && slowerInt)
        (fasterInt && (canCounter || counter) && clumsier && !defenderDone)
        ((canCounter || counter) && slowerInt && defter && !attackerDone)).take (k + 1) =
      (meant canCounter faster slower defter clumsier).take (k + 1) ∧ k ≠ 0 ↔
    0 < k ∧ (if canCounter then counter = false ∨ slowerInt = true else fasterInt = true) ∧
      (2 ≤ k →
        if counter then faster = true ∧ defter = true ∧ attackerDone = false
        else (faster = true → fasterInt = true) ∧ (slower = true → slowerInt = true)) ∧
      (3 ≤ k → counter = false ∧ (faster = true → defenderDone = false) ∧
        (slower = true → attackerDone = false)) := by
  unfold meant order at hlt ⊢
  obtain _ | _ | _ | _ | k := k
  case succ.succ.succ.succ => omega
  all_goals
    cases canCounter <;> cases counter <;> cases faster <;> cases slower <;> cases fasterInt <;>
      cases slowerInt <;> simp_all
  all_goals cases clumsier <;> cases defter <;> cases attackerDone <;> cases defenderDone <;>
    simp_all

end Flags

variable {heroes : Heroes H W} {attacker defender : H} {c : Combat H W} {k : ℕ}

/-- **The values at the begin of a combat stand for the intended order**, up to one of its attacks,
just when they fit. -/
lemma take_queued_iff
    (hk : k < (intended heroes attacker defender (c.getCombatInfo defender).canCounter).length) :
    (queued heroes attacker defender c).take (k + 1) =
        (intended heroes attacker defender (c.getCombatInfo defender).canCounter).take (k + 1) ∧
        (k = 0 → c.entity.curAttacker.isSome = true) ↔
      Fits heroes attacker defender c k := by
  have hasymm := isFaster_asymm heroes attacker defender
  have hasymmInt := isFasterInt_asymm heroes attacker defender
  have hlt : k < 4 := Nat.lt_of_lt_of_le hk (length_order_le hasymm)
  cases hcur : c.entity.curAttacker.isSome with
  | true =>
    have hiff := @take_order_left_iff (c.getCombatInfo defender).canCounter
      (c.getCombatInfo defender).counter (c.getCombatInfo attacker).counterChase
      (c.getCombatInfo defender).counterChase _ _ _ _ (isDefter heroes attacker defender)
      (isDefter heroes defender attacker) k hasymm hasymmInt hlt hk
    simp only [Fits, hcur, if_true, implies_true, and_true]
    rw [← hiff]
    simp only [queued, hcur, if_true]
    rfl
  | false =>
    have hiff := @take_order_new_iff (c.getCombatInfo defender).canCounter
      (c.getCombatInfo defender).counter (c.getCombatInfo attacker).counterChase
      (c.getCombatInfo defender).counterChase _ _ _ _ (isDefter heroes attacker defender)
      (isDefter heroes defender attacker) k hasymm hasymmInt hlt hk
    simp only [Fits, hcur, Bool.false_eq_true, if_false, imp_false]
    rw [← hiff]
    simp only [queued, hcur, Bool.false_eq_true, if_false]
    rfl

end Order

/-! ## What a combat comes to -/

section Performs

variable {heroes : Heroes H W} {attacker defender : H} {w : W} {attacks : List (H × H)}
  {rs : List Bool} {r : Bool} {result : Except CombatFault (Combat H W)}

/-- **What a combat comes to** for which some attacks stand: it performs them up to the first deadly
one. It throws without a deadly one, and if a hero has no weapon skill for one of these attacks. -/
def Performs (heroes : Heroes H W) (attacker defender : H) (w : W) (attacks : List (H × H))
    (rs : List Bool) (result : Except CombatFault (Combat H W)) : Prop :=
  match fatal heroes attacker defender w rs with
  | none => ∃ fault, result = .error fault
  | some k =>
    if (rs.take (k + 1)).all (armed heroes attacker defender) then
      ∃ c', result = .ok c' ∧
        c'.attacks = attacks ++ (rs.take (k + 1)).map (blow attacker defender)
    else ∃ fault, result = .error fault

/-- An attack without a weapon skill throws, whatever follows. -/
lemma performs_unarmed (harmed : armed heroes attacker defender r = false) (fault : CombatFault) :
    Performs heroes attacker defender w attacks (r :: rs) (.error fault) := by
  unfold Performs
  cases fatal heroes attacker defender w (r :: rs) with
  | none => exact ⟨_, rfl⟩
  | some k =>
    simp only [List.take_succ_cons, List.all_cons, harmed, Bool.false_and, Bool.false_eq_true,
      if_false]
    exact ⟨_, rfl⟩

/-- A deadly attack is the last one. -/
lemma performs_deadly {c' : Combat H W} (harmed : armed heroes attacker defender r = true)
    (hdead : kills heroes attacker defender w r = true)
    (hattacks : c'.attacks = attacks ++ [blow attacker defender r]) :
    Performs heroes attacker defender w attacks (r :: rs) (.ok c') := by
  have hall : ((r :: rs).take (0 + 1)).all (armed heroes attacker defender) = true := by
    simp only [List.take_succ_cons, List.take_zero, List.all_cons, List.all_nil, harmed,
      Bool.and_self]
  unfold Performs
  rw [fatal, if_pos hdead]
  simp only
  rw [if_pos hall]
  exact ⟨c', rfl, hattacks⟩

/-- After another attack comes what follows it. -/
lemma performs_cons (harmed : armed heroes attacker defender r = true)
    (hdead : kills heroes attacker defender w r = false)
    (hrest : Performs heroes attacker defender (strike heroes attacker defender w r)
      (attacks ++ [blow attacker defender r]) rs result) :
    Performs heroes attacker defender w attacks (r :: rs) result := by
  unfold Performs at hrest ⊢
  rw [fatal, hdead]
  cases hfatal : fatal heroes attacker defender (strike heroes attacker defender w r) rs with
  | none =>
    rw [hfatal] at hrest
    exact hrest
  | some k =>
    rw [hfatal] at hrest
    simp only [Bool.false_eq_true, if_false, Option.map_some, List.take_succ_cons, List.all_cons,
      harmed, Bool.true_and, List.map_cons]
    simp only [List.append_assoc, List.singleton_append] at hrest
    exact hrest

end Performs

/-! ## The flags -/

/-- The attacks that `createNextAtk` chooses one after the other. -/
inductive Picks : CombatInfo → CombatInfo → List Bool → Prop
  | none {attackerInfo defenderInfo : CombatInfo} :
    nextActor attackerInfo defenderInfo = none → Picks attackerInfo defenderInfo []
  | some {attackerInfo defenderInfo attackerInfo' defenderInfo' : CombatInfo} {r : Bool}
      {rs : List Bool} :
    nextActor attackerInfo defenderInfo = some (r, attackerInfo', defenderInfo') →
    Picks attackerInfo' defenderInfo' rs → Picks attackerInfo defenderInfo (r :: rs)

section Picks

variable {aInfo dInfo : CombatInfo}

/-- The attacker's counter-chase is the last choice. -/
lemma picks_counterChase (h1 : aInfo.attack = true)
    (h2 : (dInfo.canCounter && !dInfo.counter) = false)
    (h3 : (aInfo.canChase && !aInfo.chase) = false)
    (h4 : (dInfo.counter && dInfo.canChase && !dInfo.chase) = false)
    (h5 : (aInfo.chase && dInfo.counter && dInfo.canCounterChase && !dInfo.counterChase) = false) :
    Picks aInfo dInfo
      (if dInfo.chase && aInfo.canCounterChase && !aInfo.counterChase then [true] else []) := by
  cases h6 : dInfo.chase && aInfo.canCounterChase && !aInfo.counterChase with
  | true =>
    have hnext : nextActor aInfo dInfo =
        some (true, { aInfo with counterChase := true }, dInfo) := by
      simp only [nextActor, h1, h2, h3, h4, h5, h6, Bool.not_true, Bool.false_eq_true, if_false,
        if_true]
    have hlast : nextActor { aInfo with counterChase := true } dInfo = none := by
      simp only [nextActor, h1, h2, h3, h4, h5, Bool.not_true, Bool.and_false, Bool.false_eq_true,
        if_false]
    exact .some hnext (.none hlast)
  | false =>
    have hlast : nextActor aInfo dInfo = none := by
      simp only [nextActor, h1, h2, h3, h4, h5, h6, Bool.not_true, Bool.false_eq_true, if_false]
    exact .none hlast

/-- Before it comes the defender's counter-chase. -/
lemma picks_defenderCounterChase (h1 : aInfo.attack = true)
    (h2 : (dInfo.canCounter && !dInfo.counter) = false)
    (h3 : (aInfo.canChase && !aInfo.chase) = false)
    (h4 : (dInfo.counter && dInfo.canChase && !dInfo.chase) = false) :
    Picks aInfo dInfo
      ((if aInfo.chase && dInfo.counter && dInfo.canCounterChase && !dInfo.counterChase then [false]
        else []) ++
      if dInfo.chase && aInfo.canCounterChase && !aInfo.counterChase then [true] else []) := by
  cases h5 : aInfo.chase && dInfo.counter && dInfo.canCounterChase && !dInfo.counterChase with
  | true =>
    have hnext : nextActor aInfo dInfo =
        some (false, aInfo, { dInfo with counterChase := true }) := by
      simp only [nextActor, h1, h2, h3, h4, h5, Bool.not_true, Bool.false_eq_true, if_false,
        if_true]
    have hrest := @picks_counterChase aInfo { dInfo with counterChase := true } h1 h2 h3 h4
      (Bool.and_false _)
    exact .some hnext hrest
  | false => exact picks_counterChase h1 h2 h3 h4 h5

/-- Before them comes the defender's chase. -/
lemma picks_defenderChase (h1 : aInfo.attack = true)
    (h2 : (dInfo.canCounter && !dInfo.counter) = false)
    (h3 : (aInfo.canChase && !aInfo.chase) = false) (hchase : dInfo.chase = false) :
    Picks aInfo dInfo
      ((if dInfo.counter && dInfo.canChase then [false] else []) ++
      ((if aInfo.chase && dInfo.counter && dInfo.canCounterChase && !dInfo.counterChase then [false]
        else []) ++
      if dInfo.counter && dInfo.canChase && aInfo.canCounterChase && !aInfo.counterChase then [true]
        else [])) := by
  cases h4 : dInfo.counter && dInfo.canChase with
  | true =>
    have hnext : nextActor aInfo dInfo = some (false, aInfo, { dInfo with chase := true }) := by
      simp only [nextActor, h1, h2, h3, h4, hchase, Bool.not_true, Bool.not_false, Bool.and_true,
        Bool.false_eq_true, if_false, if_true]
    have hrest := @picks_defenderCounterChase aInfo { dInfo with chase := true } h1 h2 h3
      (Bool.and_false _)
    exact .some hnext hrest
  | false =>
    have hrest := picks_defenderCounterChase h1 h2 h3 (by rw [h4, Bool.false_and])
    rw [hchase] at hrest
    exact hrest

/-- Before them comes the attacker's chase. -/
lemma picks_chase (h1 : aInfo.attack = true) (h2 : (dInfo.canCounter && !dInfo.counter) = false)
    (hchase : aInfo.chase = false) (hchase' : dInfo.chase = false) :
    Picks aInfo dInfo
      ((if aInfo.canChase then [true] else []) ++
      ((if dInfo.counter && dInfo.canChase then [false] else []) ++
      ((if aInfo.canChase && dInfo.counter && dInfo.canCounterChase && !dInfo.counterChase then
        [false] else []) ++
      if dInfo.counter && dInfo.canChase && aInfo.canCounterChase && !aInfo.counterChase then [true]
        else []))) := by
  cases h3 : aInfo.canChase with
  | true =>
    have hnext : nextActor aInfo dInfo = some (true, { aInfo with chase := true }, dInfo) := by
      simp only [nextActor, h1, h2, h3, hchase, Bool.not_true, Bool.not_false, Bool.and_true,
        Bool.false_eq_true, if_false, if_true]
    have hrest := @picks_defenderChase { aInfo with chase := true } dInfo h1 h2
      (Bool.and_false _) hchase'
    exact .some hnext hrest
  | false =>
    have hrest := picks_defenderChase h1 h2 (by rw [h3, Bool.false_and]) hchase'
    rw [hchase] at hrest
    exact hrest

/-- The order of the flags once the attacker has attacked. -/
def flagOrder (aInfo dInfo : CombatInfo) : List Bool :=
  let countered := dInfo.canCounter || dInfo.counter
  (if dInfo.canCounter && !dInfo.counter then [false] else []) ++
    ((if aInfo.canChase then [true] else []) ++
    ((if countered && dInfo.canChase then [false] else []) ++
    ((if aInfo.canChase && countered && dInfo.canCounterChase && !dInfo.counterChase then [false]
      else []) ++
    if countered && dInfo.canChase && aInfo.canCounterChase && !aInfo.counterChase then [true]
      else [])))

/-- **The flags stand for their order.** The counter comes first. -/
theorem picks_flagOrder (h1 : aInfo.attack = true) (hchase : aInfo.chase = false)
    (hchase' : dInfo.chase = false) : Picks aInfo dInfo (flagOrder aInfo dInfo) := by
  unfold flagOrder
  cases h2 : dInfo.canCounter && !dInfo.counter with
  | true =>
    obtain ⟨hcan, -⟩ := (Bool.and_eq_true_iff).mp h2
    have hnext : nextActor aInfo dInfo = some (false, aInfo, { dInfo with counter := true }) := by
      simp only [nextActor, h1, h2, Bool.not_true, Bool.false_eq_true, if_false, if_true]
    have hrest := @picks_chase aInfo { dInfo with counter := true } h1 (Bool.and_false _) hchase
      hchase'
    simp only [hcan, Bool.true_or]
    exact .some hnext hrest
  | false =>
    have hcounter : (dInfo.canCounter || dInfo.counter) = dInfo.counter := by
      cases hcan : dInfo.canCounter with
      | true =>
        rw [hcan, Bool.true_and, Bool.not_eq_false'] at h2
        rw [h2, Bool.true_or]
      | false => exact Bool.false_or _
    simp only [hcounter]
    exact picks_chase h1 h2 hchase hchase'

end Picks

section FollowUps

variable {heroes : Heroes H W} {attacker defender : H} {aInfo dInfo : CombatInfo}

/-- The flags of a combat that begins stand for what follows the first attack. -/
lemma picks_followUps :
    Picks { initInfo heroes aInfo attacker defender with attack := true }
      (initInfo heroes dInfo defender attacker)
      (followUps heroes attacker defender aInfo dInfo) := by
  have hpicks := @picks_flagOrder { initInfo heroes aInfo attacker defender with attack := true }
    (initInfo heroes dInfo defender attacker) rfl rfl rfl
  have horder : flagOrder { initInfo heroes aInfo attacker defender with attack := true }
      (initInfo heroes dInfo defender attacker) =
        followUps heroes attacker defender aInfo dInfo := by
    simp only [flagOrder, followUps, initInfo, List.append_assoc]
    rfl
  rw [horder] at hpicks
  exact hpicks

lemma followUps_length_le :
    (followUps heroes attacker defender aInfo dInfo).length ≤ 5 := by
  have hite : ∀ (b : Bool) (r : Bool), (if b then [r] else []).length ≤ 1 := by
    intro b r
    cases b with
    | true => exact Nat.le_refl 1
    | false => exact Nat.zero_le 1
  simp only [followUps, List.length_append]
  exact Nat.add_le_add (Nat.add_le_add (Nat.add_le_add (Nat.add_le_add (hite _ _) (hite _ _))
    (hite _ _)) (hite _ _)) (hite _ _)

end FollowUps

/-! ## The loop -/

section Loop

variable {heroes : Heroes H W} {attacker defender : H} {c : Combat H W}

/-- The two heroes fight, and one of them is the list. -/
structure Engaged (attacker defender : H) (c : Combat H W) : Prop where
  attacker_eq : c.entity.attacker = attacker
  defender_eq : c.entity.defender = defender
  isUpdata : c.entity.isUpdata = true
  getTarget : ∀ r, c.getTarget (fighter attacker defender r) = some (fighter attacker defender !r)
  attackerList : ∃ x, c.entity.attackerList = [x]

/-- A combat after one more attack. -/
def struck (heroes : Heroes H W) (attacker defender : H) (c : Combat H W) (r : Bool) :
    Combat H W :=
  { c with
    entity := { c.entity with
      attackerList := [fighter attacker defender r]
      curAttacker := some (fighter attacker defender r) }
    world := strike heroes attacker defender c.world r
    attacks := c.attacks ++ [blow attacker defender r] }

lemma Engaged.struck (h : Engaged attacker defender c) (r : Bool) :
    Engaged attacker defender (struck heroes attacker defender c r) :=
  ⟨h.attacker_eq, h.defender_eq, h.isUpdata, h.getTarget, _, rfl⟩

/-- The hero in front attacks the other one, if it is armed. -/
lemma switchAttacker_eq (h : Engaged attacker defender c) {r : Bool}
    (hlist : c.entity.attackerList = [fighter attacker defender r]) :
    switchAttacker heroes c =
      if armed heroes attacker defender r then
        .ok (if kills heroes attacker defender c.world r then
          finishAtkList (struck heroes attacker defender c r)
        else struck heroes attacker defender c r)
      else .error .nullPointer := by
  have hstruck : onAtkComplete heroes { c with entity := { c.entity with
      curAttacker := some (fighter attacker defender r) } } (fighter attacker defender r)
      (fighter attacker defender !r) =
        if kills heroes attacker defender c.world r then
          finishAtkList (Fight.struck heroes attacker defender c r)
        else Fight.struck heroes attacker defender c r := by
    cases hdead : kills heroes attacker defender c.world r with
    | true =>
      have hp := of_decide_eq_true hdead
      simp only [strike] at hp
      simp only [onAtkComplete, hp, if_true, Fight.struck, strike, blow, hlist]
    | false =>
      have hp := of_decide_eq_false hdead
      simp only [strike] at hp
      simp only [onAtkComplete, hp, if_false, Bool.false_eq_true, Fight.struck, strike, blow, hlist]
  unfold switchAttacker
  rw [hlist]
  simp only [h.getTarget r, doAtk, hstruck]
  rfl

variable [DecidableEq H]

lemma setInfos_defender (hdefender : c.entity.defender = defender) (aInfo dInfo : CombatInfo) :
    (setInfos c aInfo dInfo).getCombatInfo defender = dInfo := by
  obtain rfl := hdefender
  exact Function.update_self _ _ _

lemma setInfos_attacker (hattacker : c.entity.attacker = attacker)
    (hdefender : c.entity.defender = defender) (hne : attacker ≠ defender)
    (aInfo dInfo : CombatInfo) : (setInfos c aInfo dInfo).getCombatInfo attacker = aInfo := by
  obtain rfl := hattacker
  obtain rfl := hdefender
  simp only [setInfos, Function.update_of_ne hne, Function.update_self]

lemma Engaged.setInfos (h : Engaged attacker defender c) (aInfo dInfo : CombatInfo) :
    Engaged attacker defender (setInfos c aInfo dInfo) :=
  ⟨h.attacker_eq, h.defender_eq, h.isUpdata, h.getTarget, h.attackerList⟩

/-- What a round does before its attack. -/
lemma createNextAtk_eq (h : Engaged attacker defender c) {r : Bool} {aInfo dInfo : CombatInfo}
    (hnext : nextActor (c.getCombatInfo attacker) (c.getCombatInfo defender) =
      some (r, aInfo, dInfo)) :
    createNextAtk { c with entity := { c.entity with attackerList := [] } } =
      { setInfos c aInfo dInfo with entity := { c.entity with
        attackerList := [fighter attacker defender r] } } := by
  obtain rfl := h.attacker_eq
  obtain rfl := h.defender_eq
  simp only [createNextAtk, hnext]
  rfl

/-- What a round is once somebody has attacked: the list loses its hero, and the next one, if any,
attacks. -/
lemma update_succ (fuel : ℕ) (h : Engaged attacker defender c)
    (hcur : c.entity.curAttacker ≠ none) :
    update heroes (fuel + 1) c =
      (switchAttacker heroes (createNextAtk
        { c with entity := { c.entity with attackerList := [] } })).bind (update heroes fuel) := by
  obtain ⟨x, hlist⟩ := h.attackerList
  simp only [update, h.isUpdata, hlist, hcur, Bool.not_true, Bool.false_eq_true, reduceCtorEq,
    if_false]
  simp only [bind, Except.bind, hlist, h.isUpdata]

/-- A round without a next attack finds its list empty. -/
lemma update_last (fuel : ℕ) (h : Engaged attacker defender c)
    (hcur : c.entity.curAttacker ≠ none)
    (hnext : nextActor (c.getCombatInfo attacker) (c.getCombatInfo defender) = none) :
    update heroes (fuel + 1) c = .error .indexOutOfBounds := by
  obtain rfl := h.attacker_eq
  obtain rfl := h.defender_eq
  rw [update_succ fuel h hcur]
  simp only [createNextAtk, hnext]
  rfl

/-- **A round**: the hero whose turn it is attacks, and a deadly attack ends the combat. -/
lemma update_round (fuel : ℕ) (h : Engaged attacker defender c)
    (hcur : c.entity.curAttacker ≠ none) {r : Bool} {aInfo dInfo : CombatInfo}
    (hnext : nextActor (c.getCombatInfo attacker) (c.getCombatInfo defender) =
      some (r, aInfo, dInfo)) :
    update heroes (fuel + 1) c =
      if armed heroes attacker defender r then update heroes fuel
        (if kills heroes attacker defender c.world r then
          finishAtkList (struck heroes attacker defender (setInfos c aInfo dInfo) r)
        else struck heroes attacker defender (setInfos c aInfo dInfo) r)
      else .error .nullPointer := by
  have hengaged : Engaged attacker defender
      { setInfos c aInfo dInfo with entity := { c.entity with
        attackerList := [fighter attacker defender r] } } :=
    ⟨h.attacker_eq, h.defender_eq, h.isUpdata, h.getTarget, _, rfl⟩
  rw [update_succ fuel h hcur, createNextAtk_eq h hnext, switchAttacker_eq hengaged rfl]
  cases armed heroes attacker defender r with
  | true => rfl
  | false => rfl

/-- **The loop performs what the flags stand for.** -/
theorem update_engaged (hne : attacker ≠ defender) {aInfo dInfo : CombatInfo} {rs : List Bool}
    (hpicks : Picks aInfo dInfo rs) {fuel : ℕ} (hfuel : rs.length + 1 ≤ fuel)
    (h : Engaged attacker defender c) (hcur : c.entity.curAttacker ≠ none)
    (hattacker : c.getCombatInfo attacker = aInfo) (hdefender : c.getCombatInfo defender = dInfo) :
    Performs heroes attacker defender c.world c.attacks rs (update heroes fuel c) := by
  induction hpicks generalizing c fuel with
  | none hnext =>
    obtain ⟨fuel, rfl⟩ := Nat.exists_eq_add_of_le' hfuel
    exact ⟨_, update_last _ h hcur (by rw [hattacker, hdefender, hnext])⟩
  | @some aInfo dInfo aInfo' dInfo' r rs hnext _ ih =>
    obtain ⟨fuel, rfl⟩ := Nat.exists_eq_add_of_le' (Nat.le_of_add_left_le hfuel)
    have hround : update heroes (fuel + 1) c = _ :=
      update_round fuel h hcur (by rw [hattacker, hdefender, hnext])
    rw [hround]
    cases harmed : armed heroes attacker defender r with
    | false => exact performs_unarmed harmed _
    | true =>
      cases hdead : kills heroes attacker defender c.world r with
      | true =>
        obtain ⟨fuel, rfl⟩ : ∃ n, fuel = n + 1 :=
          Nat.exists_eq_add_of_le' (by rw [List.length_cons] at hfuel; omega)
        exact performs_deadly harmed hdead rfl
      | false =>
        refine performs_cons harmed hdead (ih (Nat.le_of_succ_le_succ hfuel)
          (@Engaged.struck _ _ heroes _ _ _ (h.setInfos aInfo' dInfo') r) (Option.some_ne_none _)
          (setInfos_attacker h.attacker_eq h.defender_eq hne _ _)
          (setInfos_defender h.defender_eq _ _))

/-- The attack that begins a combat, if nobody has attacked yet. A deadly one empties the list, and
the round goes on with the empty list. -/
lemma update_opening (fuel : ℕ) (h : Engaged attacker defender c)
    (hlist : c.entity.attackerList = [attacker]) (hcur : c.entity.curAttacker = none) :
    update heroes (fuel + 1) c =
      if armed heroes attacker defender true then
        if kills heroes attacker defender c.world true then .error .indexOutOfBounds
        else update heroes (fuel + 1) (struck heroes attacker defender c true)
      else .error .nullPointer := by
  have hswitch : switchAttacker heroes c = _ := switchAttacker_eq h (r := true) hlist
  have hstruck : Engaged attacker defender (struck heroes attacker defender c true) :=
    h.struck true
  simp only [update, h.isUpdata, hlist, hcur, Bool.not_true, Bool.false_eq_true, reduceCtorEq,
    if_false, if_true, hswitch]
  cases armed heroes attacker defender true with
  | false => rfl
  | true =>
    cases kills heroes attacker defender c.world true with
    | true => rfl
    | false =>
      simp only [hstruck.isUpdata, Bool.false_eq_true, if_false]
      rfl

end Loop

/-! ## Combats -/

section Combats

variable [DecidableEq H] {heroes : Heroes H W} {attacker defender : H} {c : Combat H W} {fuel : ℕ}

/-- A combat before its first choice. -/
def begun (heroes : Heroes H W) (attacker defender : H) (c : Combat H W) : Combat H W :=
  initAtkData heroes { c with
    getTarget := Function.update (Function.update c.getTarget attacker (some defender)) defender
      (some attacker)
    entity := { c.entity with attacker := attacker, defender := defender, attackerList := [] } }

lemma begun_defender : (begun heroes attacker defender c).getCombatInfo defender =
    initInfo heroes (c.getCombatInfo defender) defender attacker :=
  setInfos_defender rfl _ _

lemma begun_attacker (hne : attacker ≠ defender) :
    (begun heroes attacker defender c).getCombatInfo attacker =
      initInfo heroes (c.getCombatInfo attacker) attacker defender :=
  setInfos_attacker rfl rfl hne _ _

/-- A combat before its loop: the attacker is chosen. -/
def chosen (heroes : Heroes H W) (attacker defender : H) (c : Combat H W) : Combat H W :=
  let c := begun heroes attacker defender c
  setInfos { c with entity := { c.entity with attackerList := [attacker], isUpdata := true } }
    { c.getCombatInfo attacker with attack := true } (c.getCombatInfo defender)

lemma doAtkAction_eq (hne : attacker ≠ defender) :
    doAtkAction heroes fuel c attacker defender =
      update heroes fuel (chosen heroes attacker defender c) := by
  have hnext : nextActor ((begun heroes attacker defender c).getCombatInfo attacker)
      ((begun heroes attacker defender c).getCombatInfo defender) = some (true,
        { (begun heroes attacker defender c).getCombatInfo attacker with attack := true },
        (begun heroes attacker defender c).getCombatInfo defender) := by
    rw [begun_attacker hne]
    rfl
  have hchosen : createNextAtk (begun heroes attacker defender c) =
      { chosen heroes attacker defender c with entity := { c.entity with
        attacker := attacker, defender := defender, attackerList := [attacker] } } := by
    unfold createNextAtk
    simp only [show (begun heroes attacker defender c).entity.attacker = attacker from rfl,
      show (begun heroes attacker defender c).entity.defender = defender from rfl, hnext]
    rfl
  unfold doAtkAction
  simp only
  rw [show createNextAtk (initAtkData heroes { c with
    getTarget := Function.update (Function.update c.getTarget attacker (some defender)) defender
      (some attacker)
    entity := { c.entity with attacker := attacker, defender := defender, attackerList := [] } }) =
      _ from hchosen]
  rfl

lemma engaged_chosen (hne : attacker ≠ defender) :
    Engaged attacker defender (chosen heroes attacker defender c) := by
  refine ⟨rfl, rfl, rfl, ?_, attacker, rfl⟩
  intro r
  cases r with
  | true =>
    show Function.update (Function.update c.getTarget attacker (some defender)) defender
      (some attacker) attacker = some defender
    rw [Function.update_of_ne hne, Function.update_self]
  | false => exact Function.update_self _ _ _

lemma chosen_defender : (chosen heroes attacker defender c).getCombatInfo defender =
    initInfo heroes (c.getCombatInfo defender) defender attacker :=
  (setInfos_defender rfl _ _).trans begun_defender

lemma chosen_attacker (hne : attacker ≠ defender) :
    (chosen heroes attacker defender c).getCombatInfo attacker =
      { initInfo heroes (c.getCombatInfo attacker) attacker defender with attack := true } := by
  have hset : (chosen heroes attacker defender c).getCombatInfo attacker =
      { (begun heroes attacker defender c).getCombatInfo attacker with attack := true } :=
    setInfos_attacker rfl rfl hne _ _
  rw [hset, begun_attacker hne]

/-- The loop from a state with the flags of a combat that begins. -/
lemma update_followUps (hne : attacker ≠ defender) (hfuel : 6 ≤ fuel) {b : Combat H W}
    (h : Engaged attacker defender c) (hcur : c.entity.curAttacker ≠ none)
    (hinfo : c.getCombatInfo = (chosen heroes attacker defender b).getCombatInfo) :
    Performs heroes attacker defender c.world c.attacks (followUps heroes attacker defender
      (b.getCombatInfo attacker) (b.getCombatInfo defender)) (update heroes fuel c) := by
  have hlength := @followUps_length_le H W heroes attacker defender (b.getCombatInfo attacker)
    (b.getCombatInfo defender)
  refine update_engaged hne picks_followUps (by omega) h hcur ?_ ?_
  · rw [hinfo, chosen_attacker hne]
  · rw [hinfo, chosen_defender]

/-- An opening attack that is deadly. -/
def OpensDeadly (heroes : Heroes H W) (attacker defender : H) (c : Combat H W) : Prop :=
  c.entity.curAttacker = none ∧ kills heroes attacker defender c.world true = true

/-- **A combat performs what its flags stand for**, unless the opening attack is deadly: then it
throws. -/
theorem doAtkAction_queued (hne : attacker ≠ defender) (hfuel : 6 ≤ fuel) :
    (¬OpensDeadly heroes attacker defender c →
      Performs heroes attacker defender c.world c.attacks (queued heroes attacker defender c)
        (doAtkAction heroes fuel c attacker defender)) ∧
    (OpensDeadly heroes attacker defender c →
      ∃ fault, doAtkAction heroes fuel c attacker defender = .error fault) := by
  have hengaged : Engaged attacker defender (chosen heroes attacker defender c) :=
    engaged_chosen hne
  rw [doAtkAction_eq hne]
  cases hcur : c.entity.curAttacker with
  | some x =>
    have hqueued : queued heroes attacker defender c = followUps heroes attacker defender
        (c.getCombatInfo attacker) (c.getCombatInfo defender) := by
      simp only [queued, hcur, Option.isSome_some, if_true, List.nil_append]
    have hcur' : (chosen heroes attacker defender c).entity.curAttacker ≠ none := by
      intro hnone
      have := hcur.symm.trans hnone
      cases this
    refine ⟨fun _ => ?_, ?_⟩
    · rw [hqueued]
      exact update_followUps (b := c) hne hfuel hengaged hcur' rfl
    · rintro ⟨hnone, -⟩
      rw [hcur] at hnone
      cases hnone
  | none =>
    have hqueued : queued heroes attacker defender c = true :: followUps heroes attacker defender
        (c.getCombatInfo attacker) (c.getCombatInfo defender) := by
      simp only [queued, hcur, Option.isSome_none, Bool.false_eq_true, if_false,
        List.singleton_append]
    obtain ⟨n, rfl⟩ : ∃ n, fuel = n + 1 := Nat.exists_eq_add_of_le' (by omega)
    rw [update_opening n hengaged rfl hcur]
    have hworld : (chosen heroes attacker defender c).world = c.world := rfl
    rw [hworld, hqueued]
    cases harmed : armed heroes attacker defender true with
    | false => exact ⟨fun _ => performs_unarmed harmed _, fun _ => ⟨_, rfl⟩⟩
    | true =>
      cases hdead : kills heroes attacker defender c.world true with
      | true => exact ⟨fun h => absurd ⟨hcur, hdead⟩ h, fun _ => ⟨_, rfl⟩⟩
      | false =>
        refine ⟨fun _ => ?_, ?_⟩
        · exact performs_cons harmed hdead (update_followUps (b := c) hne hfuel
            (@Engaged.struck _ _ heroes _ _ _ hengaged true) (Option.some_ne_none _) rfl)
        · rintro ⟨-, h⟩
          rw [hdead] at h
          cases h

/-- The claim of a combat: it ends well, with just the attacks it is meant to have. -/
def AsIntended (heroes : Heroes H W) (fuel : ℕ) (c : Combat H W) (attacker defender : H) : Prop :=
  ∃ c', doAtkAction heroes fuel c attacker defender = .ok c' ∧
    c'.attacks = c.attacks ++ (performed heroes attacker defender c.world
      (intended heroes attacker defender (c.getCombatInfo defender).canCounter)).map
        (blow attacker defender)

omit [DecidableEq H] in
/-- With a deadly attack among those the flags stand for, the opening attack is deadly just if it is
that one. -/
lemma opensDeadly_iff {k : ℕ}
    (hfatal : fatal heroes attacker defender c.world (queued heroes attacker defender c) = some k) :
    OpensDeadly heroes attacker defender c ↔ k = 0 ∧ c.entity.curAttacker = none := by
  unfold OpensDeadly
  cases hcur : c.entity.curAttacker with
  | some x => simp only [reduceCtorEq, false_and, and_false]
  | none =>
    simp only [queued, hcur, Option.isSome_none, Bool.false_eq_true, if_false,
      List.singleton_append, fatal] at hfatal
    split_ifs at hfatal with hdead
    · obtain rfl := Option.some.inj hfatal
      simp only [hdead, and_self]
    · obtain ⟨j, -, rfl⟩ := Option.map_eq_some_iff.mp hfatal
      simp only [hdead, Nat.succ_ne_zero, and_false, false_and, Bool.false_eq_true]

/-- A combat is as it is meant to be just when one of its attacks is deadly, this is not the opening
attack of a hero, what the flags stand for is the intended order up to that attack, and no hero
lacks a weapon skill. -/
lemma asIntended_iff_take (hne : attacker ≠ defender) (hfuel : 6 ≤ fuel) :
    AsIntended heroes fuel c attacker defender ↔
      ∃ k, fatal heroes attacker defender c.world
          (intended heroes attacker defender (c.getCombatInfo defender).canCounter) = some k ∧
        ((queued heroes attacker defender c).take (k + 1) =
            (intended heroes attacker defender (c.getCombatInfo defender).canCounter).take (k + 1) ∧
          (k = 0 → c.entity.curAttacker.isSome = true)) ∧
        ((intended heroes attacker defender (c.getCombatInfo defender).canCounter).take
          (k + 1)).all (armed heroes attacker defender) = true := by
  obtain ⟨hperforms, hopens⟩ := @doAtkAction_queued H W _ heroes attacker defender c fuel hne hfuel
  constructor
  · rintro ⟨c', hok, hattacks⟩
    have hnot : ¬OpensDeadly heroes attacker defender c := by
      intro h
      obtain ⟨fault, herror⟩ := hopens h
      rw [hok] at herror
      cases herror
    have hresult := hperforms hnot
    rw [hok] at hresult
    unfold Performs at hresult
    cases hfatal : fatal heroes attacker defender c.world (queued heroes attacker defender c) with
    | none =>
      rw [hfatal] at hresult
      obtain ⟨_, herror⟩ := hresult
      cases herror
    | some k =>
      rw [hfatal] at hresult
      simp only at hresult
      split_ifs at hresult with hall
      · obtain ⟨c'', heq, hattacks'⟩ := hresult
        obtain rfl := Except.ok.inj heq
        have hmap := List.append_cancel_left (hattacks'.symm.trans hattacks)
        have hsame := (List.map_injective_iff.mpr (blow_injective hne)) hmap
        obtain ⟨hintended, htake⟩ := (take_eq_performed_iff hfatal).mp hsame
        refine ⟨k, hintended, ⟨htake, fun hk => ?_⟩, htake ▸ hall⟩
        rw [opensDeadly_iff hfatal] at hnot
        exact Option.isSome_iff_ne_none.mpr fun hcur => hnot ⟨hk, hcur⟩
      · obtain ⟨_, herror⟩ := hresult
        cases herror
  · rintro ⟨k, hintended, ⟨htake, hopening⟩, hall⟩
    have hfatal := fatal_congr hintended htake.symm
    have hresult := hperforms fun h => by
      obtain ⟨hk, hcur⟩ := (opensDeadly_iff hfatal).mp h
      exact Option.isSome_iff_ne_none.mp (hopening hk) hcur
    unfold Performs at hresult
    rw [hfatal] at hresult
    simp only at hresult
    rw [htake, if_pos hall] at hresult
    obtain ⟨c', hok, hattacks⟩ := hresult
    refine ⟨c', hok, ?_⟩
    rw [hattacks, (take_eq_performed_iff hintended).mpr ⟨hintended, rfl⟩]

/-- **When a combat is as it is meant to be**: just when one of its attacks is deadly, the flags,
speeds and dexterities fit up to that attack, and every hero that attacks has a weapon skill. -/
theorem doAtkAction_intended_iff (heroes : Heroes H W) (fuel : ℕ) (hfuel : 6 ≤ fuel)
    (c : Combat H W) (attacker defender : H) (hne : attacker ≠ defender) :
    AsIntended heroes fuel c attacker defender ↔
      ∃ k, fatal heroes attacker defender c.world
          (intended heroes attacker defender (c.getCombatInfo defender).canCounter) = some k ∧
        Fits heroes attacker defender c k ∧
        ∀ r ∈ (intended heroes attacker defender
            (c.getCombatInfo defender).canCounter).take (k + 1),
          heroes.hasWeaponSkill (fighter attacker defender r) = true := by
  rw [asIntended_iff_take hne hfuel]
  refine exists_congr fun k => and_congr_right fun hfatal => and_congr ?_ List.all_eq_true
  exact take_queued_iff (fatal_lt hfatal)

end Combats

/-! ## Two duels -/

/-- Two heroes: every attack takes ten, and the attacker is as fast as given. -/
def duel (speed : Int32) : Heroes Bool (Bool → Int32) where
  getSpeed isAttacker := if isAttacker then speed else 4
  getDexterity _ := 3
  hasWeaponSkill _ := true
  takeDamage _ target hp := Function.update hp target (hp target - 10)
  getHp hp hero := hp hero

/-- Their first combat. -/
def firstCombat (canCounter : Bool) : Combat Bool (Bool → Int32) where
  entity := ⟨true, false, none, [], false⟩
  getCombatInfo _ := ⟨canCounter, false, 0, 0, false, false, false, false, false⟩
  getTarget _ := none
  world _ := 20
  attacks := []

/-- An attack, a counter, and a chase, which is deadly. -/
theorem doAtkAction_intended_chase : AsIntended (duel 9) 6 (firstCombat true) true false :=
  (doAtkAction_intended_iff (duel 9) 6 (by decide) (firstCombat true) true false (by decide)).mpr
    ⟨2, by decide, ⟨by decide, Or.inl rfl, by decide, by decide⟩, fun _ _ => rfl⟩

/-- One attack and nobody is dead, so the list is empty when the next hero is looked up. -/
theorem not_doAtkAction_intended :
    ¬∃ fuel, AsIntended (duel 4) fuel (firstCombat false) true false := by
  rintro ⟨fuel, c', hok, -⟩
  cases fuel with
  | zero => cases hok
  | succ fuel =>
    have herror : doAtkAction (duel 4) (fuel + 1) (firstCombat false) true false =
      .error .indexOutOfBounds := rfl
    rw [herror] at hok
    cases hok

end SrgpGame.Fight
