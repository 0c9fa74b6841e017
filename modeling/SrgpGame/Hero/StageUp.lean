import SrgpGame.Hero.Reload

set_option autoImplicit false

/-!
# A hero is given up

`stageUp` is called with two keys of the map of heroes. It raises the stage of the first hero and
removes the second one: its row, and what the map has under its id.

## Main definitions

* `Passes` — the checks of `stageUp`.
* `StagedUp` — what is required when it returns.
* `StageUpRight` — what is required of a call.

## Main results

* `stageUpRight_iff` — when a call is right.

## Design notes

The checks pass when both keys are the same; the hero is then raised and removed. The key of the
second hero is its id only for heroes that were summoned since the player was loaded.
-/

namespace SrgpGame.Hero

open EStateM

variable {cfgs : HeroConfigs} {pvo pvo' : PlayerVO} {heroId₁ heroId₂ : Int32}
  {heroVO₁ heroVO₂ : HeroVO}

/-- The checks pass: under the same key there is the same hero. -/
def Passes (heroId₁ heroId₂ : Int32) (heroVO₁ heroVO₂ : HeroVO) : Prop :=
  sameBox heroVO₁.stage fullStage = false ∧
    (heroId₁ = heroId₂ ∨ sameBox heroVO₁.star heroVO₂.star = true) ∧
    (heroId₁ = heroId₂ ∨ sameBox heroVO₁.cid heroVO₂.cid = true)

/-- A hero with the next stage. -/
def HeroVO.staged (heroVO : HeroVO) : HeroVO := { heroVO with stage := heroVO.stage + 1 }

/-! ## What is required -/

/-- **A stage was raised.** The first hero is there with the next stage, in the map and in the
table; the second is another one, and is in neither; and all others are as they were. -/
structure StagedUp (heroId₁ heroId₂ : Int32) (pvo pvo' : PlayerVO) : Prop where
  ne : heroId₁ ≠ heroId₂
  raised : ∃ heroVO, pvo.heroes.lookup heroId₁ = some heroVO ∧
    pvo'.heroes.lookup heroId₁ = some heroVO.staged ∧
    pvo'.heroDAO.lookup heroVO.id = some heroVO.staged
  gone : ∃ heroVO, pvo.heroes.lookup heroId₂ = some heroVO ∧
    pvo'.heroes.lookup heroId₂ = none ∧ pvo'.heroDAO.lookup heroVO.id = none
  others : ∀ id, id ≠ heroId₁ → id ≠ heroId₂ → pvo'.heroes.lookup id = pvo.heroes.lookup id
  rows : ∀ id, (∀ heroVO, pvo.heroes.lookup heroId₁ = some heroVO ∨
      pvo.heroes.lookup heroId₂ = some heroVO → id ≠ heroVO.id) →
    pvo'.heroDAO.lookup id = pvo.heroDAO.lookup id

/-- **A call is right**: it throws and leaves the heroes as they were, or raises a stage. -/
def StageUpRight (heroId₁ heroId₂ : Int32) (pvo : PlayerVO) : Prop :=
  (∀ e pvo', (stageUp heroId₁ heroId₂).run pvo = .error e pvo' → pvo' = pvo) ∧
    ∀ pvo', (stageUp heroId₁ heroId₂).run pvo = .ok () pvo' → StagedUp heroId₁ heroId₂ pvo pvo'

/-! ## What a call does -/

/-- The player after a call. -/
def given (heroId₁ : Int32) (heroVO₁ heroVO₂ : HeroVO) (pvo : PlayerVO) : PlayerVO :=
  { pvo with
    heroes := (pvo.heroes.insert heroId₁ heroVO₁.staged).erase heroVO₂.id
    heroDAO := (pvo.heroDAO.insert heroVO₁.id heroVO₁.staged).erase heroVO₂.id }

/-- **`stageUp` returns** when both heroes are there and the checks pass; else it throws, and
changes nothing. -/
lemma stageUp_run (heroId₁ heroId₂ : Int32) (pvo : PlayerVO) :
    (∃ e, (stageUp heroId₁ heroId₂).run pvo = .error e pvo) ∧
        (∀ heroVO₁ heroVO₂, pvo.heroes.lookup heroId₁ = some heroVO₁ →
          pvo.heroes.lookup heroId₂ = some heroVO₂ → ¬Passes heroId₁ heroId₂ heroVO₁ heroVO₂) ∨
      ∃ heroVO₁ heroVO₂, pvo.heroes.lookup heroId₁ = some heroVO₁ ∧
        pvo.heroes.lookup heroId₂ = some heroVO₂ ∧ Passes heroId₁ heroId₂ heroVO₁ heroVO₂ ∧
        (stageUp heroId₁ heroId₂).run pvo = .ok () (given heroId₁ heroVO₁ heroVO₂ pvo) := by
  have hget : (stageUp heroId₁ heroId₂).run pvo = _ := run_bind ..
  rw [hget]
  simp only [run_get]
  cases hlookup₁ : pvo.heroes.lookup heroId₁ with
  | none =>
    refine .inl ⟨⟨_, rfl⟩, ?_⟩
    rintro _ _ ⟨⟩
  | some heroVO₁ =>
    cases hlookup₂ : pvo.heroes.lookup heroId₂ with
    | none =>
      refine .inl ⟨⟨_, rfl⟩, ?_⟩
      rintro _ _ - ⟨⟩
    | some heroVO₂ =>
      simp only [run_bind, run_ofExcept, ICode.throwIfTrue, ICode.throwException]
      by_cases hstage : sameBox heroVO₁.stage fullStage = true
      · rw [if_pos hstage]
        refine .inl ⟨⟨_, rfl⟩, ?_⟩
        rintro _ _ ⟨⟩ ⟨⟩ hpasses
        exact Bool.false_ne_true (hpasses.1.symm.trans hstage)
      · rw [if_neg hstage]
        simp only
        by_cases hstar : heroId₁ = heroId₂ ∨ sameBox heroVO₁.star heroVO₂.star = true
        · rw [if_neg (not_not.mpr hstar)]
          simp only
          by_cases hcid : heroId₁ = heroId₂ ∨ sameBox heroVO₁.cid heroVO₂.cid = true
          · rw [if_neg (not_not.mpr hcid)]
            have hpasses : Passes heroId₁ heroId₂ heroVO₁ heroVO₂ :=
              ⟨Bool.eq_false_iff.mpr hstage, hstar, hcid⟩
            exact .inr ⟨heroVO₁, heroVO₂, rfl, rfl, hpasses, rfl⟩
          · rw [if_pos hcid]
            refine .inl ⟨⟨_, rfl⟩, ?_⟩
            rintro _ _ ⟨⟩ ⟨⟩ hpasses
            exact hcid hpasses.2.2
        · rw [if_pos hstar]
          refine .inl ⟨⟨_, rfl⟩, ?_⟩
          rintro _ _ ⟨⟩ ⟨⟩ hpasses
          exact hstar hpasses.2.1

/-! ## When a call is right -/

/-- **The second hero is removed** when its key is its id, and is not that of the first. -/
lemma stagedUp_given_iff (h₁ : pvo.heroes.lookup heroId₁ = some heroVO₁)
    (h₂ : pvo.heroes.lookup heroId₂ = some heroVO₂) :
    StagedUp heroId₁ heroId₂ pvo (given heroId₁ heroVO₁ heroVO₂ pvo) ↔
      heroId₁ ≠ heroId₂ ∧ heroVO₂.id = heroId₂ ∧ heroVO₁.id ≠ heroId₂ := by
  have hheroes : ∀ id, (given heroId₁ heroVO₁ heroVO₂ pvo).heroes.lookup id =
      if id = heroVO₂.id then none
      else if id = heroId₁ then some heroVO₁.staged else pvo.heroes.lookup id := by
    intro id
    rw [given, AList.lookup_erase_ite, AList.lookup_insert_ite]
  have hrows : ∀ id, (given heroId₁ heroVO₁ heroVO₂ pvo).heroDAO.lookup id =
      if id = heroVO₂.id then none
      else if id = heroVO₁.id then some heroVO₁.staged else pvo.heroDAO.lookup id := by
    intro id
    rw [given, AList.lookup_erase_ite, AList.lookup_insert_ite]
  constructor
  · intro h
    have hkey : heroVO₂.id = heroId₂ := by
      obtain ⟨heroVO, -, hnone, -⟩ := h.gone
      rw [hheroes, if_neg (Ne.symm h.ne), h₂] at hnone
      split_ifs at hnone with heq
      exact heq.symm
    refine ⟨h.ne, hkey, fun heq => ?_⟩
    obtain ⟨heroVO, hlookup, -, hrow⟩ := h.raised
    obtain rfl : heroVO₁ = heroVO := Option.some.inj (h₁.symm.trans hlookup)
    rw [hrows, if_pos (heq.trans hkey.symm)] at hrow
    cases hrow
  · rintro ⟨hne, hkey, hid⟩
    refine ⟨hne, ⟨heroVO₁, h₁, ?_, ?_⟩, ⟨heroVO₂, h₂, ?_, ?_⟩, ?_, ?_⟩
    · rw [hheroes, hkey, if_neg hne, if_pos rfl]
    · rw [hrows, hkey, if_neg hid, if_pos rfl]
    · rw [hheroes, if_pos hkey.symm]
    · rw [hrows, if_pos rfl]
    · intro id hid₁ hid₂
      rw [hheroes, hkey, if_neg hid₂, if_neg hid₁]
    · intro id hother
      rw [hrows, if_neg (hother heroVO₂ (.inr h₂)), if_neg (hother heroVO₁ (.inl h₁))]

/-- **When a call is right**: the checks do not pass, or the keys are different, the key of the hero
given up is its id, and the other hero has another id. -/
theorem stageUpRight_iff (heroId₁ heroId₂ : Int32) (pvo : PlayerVO) :
    StageUpRight heroId₁ heroId₂ pvo ↔
      ∀ heroVO₁ heroVO₂, pvo.heroes.lookup heroId₁ = some heroVO₁ →
        pvo.heroes.lookup heroId₂ = some heroVO₂ → Passes heroId₁ heroId₂ heroVO₁ heroVO₂ →
          heroId₁ ≠ heroId₂ ∧ heroVO₂.id = heroId₂ ∧ heroVO₁.id ≠ heroId₂ := by
  rcases stageUp_run heroId₁ heroId₂ pvo with
    ⟨⟨e, hrun⟩, hfails⟩ | ⟨heroVO₁, heroVO₂, h₁, h₂, hpasses, hrun⟩
  · constructor
    · intro _ heroVO₁ heroVO₂ h₁ h₂ hpasses
      exact absurd hpasses (hfails heroVO₁ heroVO₂ h₁ h₂)
    · intro _
      refine ⟨fun e' pvo' hrun' => ?_, fun pvo' hrun' => ?_⟩
      · rw [hrun] at hrun'
        exact (EStateM.Result.error.inj hrun').2.symm
      · rw [hrun] at hrun'
        cases hrun'
  · have hcall : StageUpRight heroId₁ heroId₂ pvo ↔
        StagedUp heroId₁ heroId₂ pvo (given heroId₁ heroVO₁ heroVO₂ pvo) := by
      rw [StageUpRight, hrun]
      constructor
      · exact fun h => h.2 _ rfl
      · intro h
        refine ⟨nofun, fun pvo' hrun' => ?_⟩
        rw [← (EStateM.Result.ok.inj hrun').2]
        exact h
    rw [hcall, stagedUp_given_iff h₁ h₂]
    constructor
    · intro h heroVO₁' heroVO₂' h₁' h₂' _
      rw [← Option.some.inj (h₁.symm.trans h₁'), ← Option.some.inj (h₂.symm.trans h₂')]
      exact h
    · exact fun h => h heroVO₁ heroVO₂ h₁ h₂ hpasses

/-- A hero with an id and a configuration id. -/
def heroOf (id cid : Int32) : HeroVO :=
  { id := id, playerId := 1, cid := cid, level := 1, star := 1, stage := 0
    careerExchanged := false, hp := 1, speed := 1, attack := 1, defense := 1, magicDefense := 1
    technique := 1, luck := 1, sp := 0, exp := 0 }

/-- A player who has one hero, loaded from the table, and one that was summoned since. -/
def loadedAndSummoned : PlayerVO :=
  { id := 1
    heroes := (AList.insert 100 (heroOf 7 100) ∅).insert 8 (heroOf 8 100)
    heroDAO := (AList.insert 7 (heroOf 7 100) ∅).insert 8 (heroOf 8 100) }

/-- **Not so in general**: a hero is given up for itself; and a hero that was loaded stays in the
map when it is given up. -/
theorem not_stageUpRight :
    ¬StageUpRight 8 8 loadedAndSummoned ∧ ¬StageUpRight 8 100 loadedAndSummoned := by
  constructor
  · intro h
    exact (h.2 _ rfl).ne rfl
  · intro h
    obtain ⟨heroVO, -, hnone, -⟩ := (h.2 _ rfl).gone
    exact absurd hnone (by decide)

end SrgpGame.Hero
