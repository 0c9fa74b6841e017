import Mathlib.Algebra.BigOperators.Group.List.Basic
import Mathlib.Data.List.Induction
import SrgpGame.Core.Codes
import SrgpGame.Lib.Machine
import SrgpGame.Lib.Method
import SrgpGame.Lib.Runs

set_option autoImplicit false

/-!
# The experience of a guild

`addGuildExp` adds to the experience of a guild and then raises its level, if the experience is
enough for the next one.

## Main definitions

* `getByLV` — the rows of the levels.
* `checkGuildLevelUp`, `addGuildExp` — the methods.
* `Grown` — what is required after each call.
* `OneLevel` — a call that leads over the requirement of one level at most.
* `Added` — what one call is to do.

## Main results

* `run_addGuildExp_of_some` — when one call does what it is to do.
* `grown_run_iff` — when what is required holds after every call of a run.

## Design notes

The level is checked once in a call. Experience that is enough for several levels raises the level
by one, and the rest stays until the next call.
-/

namespace SrgpGame.GuildExp

open EStateM Runs

/-! ## The methods -/

/-- `GuildLVCfg`. -/
structure GuildLVCfg where
  lv : Int32
  reqExp : Int32
  /-- How many requests to join a guild can have. -/
  maxCanReqSize : Int32 := 0
  deriving DecidableEq, Repr

/-- `GUILD_LV_CFG_MAP`. -/
def guildLvCfgMap (rows : List GuildLVCfg) : AList fun _ : Int32 => GuildLVCfg :=
  rows.foldl (fun map cfg => map.insert cfg.lv cfg) ∅

/-- `getByLV`. -/
def getByLV (rows : List GuildLVCfg) (lv : Int32) : Option GuildLVCfg :=
  (guildLvCfgMap rows).lookup lv

/-- The rows are by their levels. -/
lemma lv_of_getByLV {rows : List GuildLVCfg} {lv : Int32} {cfg : GuildLVCfg}
    (h : getByLV rows lv = some cfg) : cfg.lv = lv := by
  induction rows using List.reverseRecOn with
  | nil => cases h
  | append_singleton rows row ih =>
    rw [getByLV, guildLvCfgMap, List.foldl_append, List.foldl_cons, List.foldl_nil,
      AList.lookup_insert_ite] at h
    split_ifs at h with hlv
    · obtain rfl := Option.some.inj h
      exact hlv.symm
    · exact ih h

/-- `GuildVO`, with the rows of the levels for which `LV_UP` happened. -/
structure GuildVO where
  level : Int32
  exp : Int32
  lvUp : List GuildLVCfg := []
  deriving DecidableEq, Repr

variable (rows : List GuildLVCfg)

/-- `checkGuildLevelUp`. -/
def checkGuildLevelUp : EStateM Thrown GuildVO Unit := do
  let guildVO ← get
  match getByLV rows (guildVO.level + 1) with
  | none => throw (.logic CodeGuild.levelLimit.get)
  | some nextCfg =>
    if nextCfg.reqExp ≤ guildVO.exp then
      set { guildVO with
        exp := guildVO.exp - nextCfg.reqExp
        level := nextCfg.lv
        lvUp := guildVO.lvUp ++ [nextCfg] }

/-- **`addGuildExp`**. -/
def addGuildExp (exp : Int32) : EStateM Thrown GuildVO Unit := do
  modify fun guildVO => { guildVO with exp := guildVO.exp + exp }
  checkGuildLevelUp rows

/-! ## What is required -/

/-- A guild, and all the experience that was added to it. -/
structure Growth where
  guildVO : GuildVO
  added : ℤ := 0

/-- A call, whether it returns or throws. -/
def grow (growth : Growth) (exp : Int32) : Growth :=
  ⟨(addGuildExp rows exp).finalState growth.guildVO, growth.added + exp.toInt⟩

/-- What the levels gained required. -/
def required (cfgs : List GuildLVCfg) : ℤ := (cfgs.map fun cfg => cfg.reqExp.toInt).sum

/-- No experience is lost, and none comes from elsewhere. -/
def Balanced (exp : Int32) (growth : Growth) : Prop :=
  growth.guildVO.exp.toInt + required growth.guildVO.lvUp = exp.toInt + growth.added

/-- **What is required of a guild** that had some experience at first: it has reached the top level
or has less experience than the next level requires, and no experience was lost. -/
def Grown (exp : Int32) (growth : Growth) : Prop :=
  (∀ nextCfg, getByLV rows (growth.guildVO.level + 1) = some nextCfg →
    growth.guildVO.exp < nextCfg.reqExp) ∧ Balanced exp growth

/-- **A call leads over one level at most**: the sum is an integer of the machine; and if it is
enough for the next level, then what is left is one too, and not enough for the level after that. -/
def OneLevel (growth : Growth) (exp : Int32) : Prop :=
  growth.guildVO.exp.toInt + exp.toInt < 2 ^ 31 ∧
    ∀ nextCfg, getByLV rows (growth.guildVO.level + 1) = some nextCfg →
      nextCfg.reqExp.toInt ≤ growth.guildVO.exp.toInt + exp.toInt →
        growth.guildVO.exp.toInt + exp.toInt - nextCfg.reqExp.toInt < 2 ^ 31 ∧
          ∀ cfg, getByLV rows (nextCfg.lv + 1) = some cfg →
            growth.guildVO.exp.toInt + exp.toInt - nextCfg.reqExp.toInt < cfg.reqExp.toInt

/-! ## A call -/

section Call

variable {rows} {exp₀ exp : Int32} {growth : Growth} {guildVO : GuildVO} {nextCfg : GuildLVCfg}

/-- At the top level the check throws. -/
lemma run_checkGuildLevelUp_of_none (h : getByLV rows (guildVO.level + 1) = none) :
    (checkGuildLevelUp rows).run guildVO =
      .error (.logic CodeGuild.levelLimit.get) guildVO := by
  rw [checkGuildLevelUp, run_bind, run_get]
  simp only [h]
  rfl

/-- The experience is not enough for the next level. -/
lemma run_checkGuildLevelUp_of_lt (h : getByLV rows (guildVO.level + 1) = some nextCfg)
    (hlt : guildVO.exp < nextCfg.reqExp) :
    (checkGuildLevelUp rows).run guildVO = .ok () guildVO := by
  rw [checkGuildLevelUp, run_bind, run_get]
  simp only [h, if_neg (Int32.not_le.mpr hlt)]
  rfl

/-- The level is raised. -/
lemma run_checkGuildLevelUp_of_le (h : getByLV rows (guildVO.level + 1) = some nextCfg)
    (hle : nextCfg.reqExp ≤ guildVO.exp) :
    (checkGuildLevelUp rows).run guildVO = .ok ()
      ⟨nextCfg.lv, guildVO.exp - nextCfg.reqExp, guildVO.lvUp ++ [nextCfg]⟩ := by
  rw [checkGuildLevelUp, run_bind, run_get]
  simp only [h, if_pos hle]
  rfl

/-- The experience is added before the check. -/
lemma run_addGuildExp (exp : Int32) (guildVO : GuildVO) :
    (addGuildExp rows exp).run guildVO =
      (checkGuildLevelUp rows).run { guildVO with exp := guildVO.exp + exp } := by
  rw [addGuildExp, run_bind, run_modify]

lemma required_append (cfgs : List GuildLVCfg) (cfg : GuildLVCfg) :
    required (cfgs ++ [cfg]) = required cfgs + cfg.reqExp.toInt := by
  rw [required, required, List.map_append, List.sum_append, List.map_singleton,
    List.sum_singleton]

/-- **What is required holds after a call** just if the call leads over one level at most. -/
lemma grown_grow_iff (hbal : Balanced exp₀ growth) (hexp : 0 ≤ exp) :
    Grown rows exp₀ (grow rows growth exp) ↔ OneLevel rows growth exp := by
  have hexp' := Int32.le_iff_toInt_le.mp hexp
  rw [Int32.toInt_zero] at hexp'
  have hlow := growth.guildVO.exp.le_toInt
  have hsum := Int32.toInt_add_eq_ite (a := growth.guildVO.exp) (b := exp) (by omega)
  unfold Balanced at hbal
  unfold Grown OneLevel Balanced grow
  cases h : getByLV rows (growth.guildVO.level + 1) with
  | none =>
    rw [finalState_eq_of_error ((run_addGuildExp ..).trans (run_checkGuildLevelUp_of_none h))]
    simp only [h, reduceCtorEq, false_implies, implies_true, true_and, and_true, hsum]
    split_ifs with hfits
    · exact iff_of_true (by omega) hfits
    · exact iff_of_false (by omega) hfits
  | some nextCfg =>
    by_cases hle : nextCfg.reqExp ≤ growth.guildVO.exp + exp
    · rw [finalState_eq_of_ok ((run_addGuildExp ..).trans (run_checkGuildLevelUp_of_le h hle))]
      have hle' := Int32.le_iff_toInt_le.mp hle
      have hdiff := Int32.toInt_sub_eq_ite (a := growth.guildVO.exp + exp) (b := nextCfg.reqExp)
        (by omega)
      have hrequired := required_append growth.guildVO.lvUp nextCfg
      have hlt : ∀ cfg : GuildLVCfg, growth.guildVO.exp + exp - nextCfg.reqExp < cfg.reqExp ↔
          (growth.guildVO.exp + exp - nextCfg.reqExp).toInt < cfg.reqExp.toInt :=
        fun cfg => Int32.lt_iff_toInt_lt
      simp only [Option.some.injEq, forall_eq', hlt]
      constructor
      · rintro ⟨hbelow, hbal'⟩
        -- the books are balanced only where neither operation wraps
        have hfits : growth.guildVO.exp.toInt + exp.toInt < 2 ^ 31 := by
          split_ifs at hsum hdiff <;> omega
        rw [if_pos hfits] at hsum
        have hfits' : (growth.guildVO.exp + exp).toInt - nextCfg.reqExp.toInt < 2 ^ 31 := by
          split_ifs at hdiff <;> omega
        rw [if_pos hfits', hsum] at hdiff
        rw [hdiff] at hbelow
        rw [hsum] at hfits'
        exact ⟨hfits, fun _ => ⟨hfits', hbelow⟩⟩
      · rintro ⟨hfits, hnext⟩
        rw [if_pos hfits] at hsum
        rw [hsum] at hdiff hle'
        obtain ⟨hfits', hbelow⟩ := hnext hle'
        rw [if_pos hfits'] at hdiff
        rw [hdiff]
        exact ⟨hbelow, by omega⟩
    · have hlt := Int32.not_le.mp hle
      rw [finalState_eq_of_ok ((run_addGuildExp ..).trans (run_checkGuildLevelUp_of_lt h hlt))]
      have hlt' := Int32.lt_iff_toInt_lt.mp hlt
      simp only [h, Option.some.injEq, forall_eq', hlt, true_and]
      split_ifs at hsum with hfits
      · rw [hsum]
        exact iff_of_true (by omega) ⟨hfits, fun hle => by omega⟩
      · rw [hsum]
        exact iff_of_false (by omega) fun hone => hfits hone.1

end Call

variable {rows}

/-- A call raises the level by one, or leaves it as it is. -/
lemma level_addGuildExp (exp : Int32) (guildVO : GuildVO) :
    ((addGuildExp rows exp).finalState guildVO).level = guildVO.level ∨
      ((addGuildExp rows exp).finalState guildVO).level = guildVO.level + 1 := by
  cases h : getByLV rows (guildVO.level + 1) with
  | none =>
    rw [finalState_eq_of_error ((run_addGuildExp ..).trans (run_checkGuildLevelUp_of_none h))]
    exact .inl rfl
  | some nextCfg =>
    by_cases hle : nextCfg.reqExp ≤ guildVO.exp + exp
    · rw [finalState_eq_of_ok ((run_addGuildExp ..).trans (run_checkGuildLevelUp_of_le h hle))]
      exact .inr (lv_of_getByLV h)
    · rw [finalState_eq_of_ok
        ((run_addGuildExp ..).trans (run_checkGuildLevelUp_of_lt h (Int32.not_le.mp hle)))]
      exact .inl rfl

/-! ## What one call adds -/

variable (rows) in
/-- The experience of a call is added: to what the guild has, or with the next level gained from
it. -/
def Added (guildVO : GuildVO) (exp : Int32) (guildVO' : GuildVO) : Prop :=
  ∃ exp' : Int32, (exp'.toInt = guildVO.exp.toInt + exp.toInt ∧
      guildVO' = { guildVO with exp := exp' }) ∨
    ∃ nextCfg, getByLV rows (guildVO.level + 1) = some nextCfg ∧
      nextCfg.reqExp.toInt ≤ guildVO.exp.toInt + exp.toInt ∧
      exp'.toInt = guildVO.exp.toInt + exp.toInt - nextCfg.reqExp.toInt ∧
      guildVO' = ⟨nextCfg.lv, exp', guildVO.lvUp ++ [nextCfg]⟩

/-- The sum, and what is left of it if it is enough for the next level, are integers of the
machine. -/
def ExpFits (guildVO : GuildVO) (exp : Int32) (nextCfg : GuildLVCfg) : Prop :=
  -2 ^ 31 ≤ guildVO.exp.toInt + exp.toInt ∧ guildVO.exp.toInt + exp.toInt < 2 ^ 31 ∧
    (nextCfg.reqExp.toInt ≤ guildVO.exp.toInt + exp.toInt →
      guildVO.exp.toInt + exp.toInt - nextCfg.reqExp.toInt < 2 ^ 31)

section Added

variable {guildVO guildVO' : GuildVO} {nextCfg : GuildLVCfg}

/-- **Below the top level a call returns**, and adds the experience just if the sums fit. -/
lemma run_addGuildExp_of_some (exp : Int32) (h : getByLV rows (guildVO.level + 1) = some nextCfg) :
    ∃ guildVO', (addGuildExp rows exp).run guildVO = .ok () guildVO' ∧
      (Added rows guildVO exp guildVO' ↔ ExpFits guildVO exp nextCfg) := by
  have hsum : (guildVO.exp + exp).toInt = (guildVO.exp.toInt + exp.toInt).bmod (2 ^ 32) :=
    Int32.toInt_add ..
  rw [Int.bmod_def] at hsum
  unfold Added ExpFits
  simp only [h, Option.some.injEq]
  by_cases hle : nextCfg.reqExp ≤ guildVO.exp + exp
  · refine ⟨⟨nextCfg.lv, guildVO.exp + exp - nextCfg.reqExp, guildVO.lvUp ++ [nextCfg]⟩,
      (run_addGuildExp ..).trans (run_checkGuildLevelUp_of_le h hle), ?_⟩
    have hle' := Int32.le_iff_toInt_le.mp hle
    have hlow := guildVO.exp.le_toInt
    have hhigh := guildVO.exp.toInt_lt
    have hlow' := exp.le_toInt
    have hhigh' := exp.toInt_lt
    have hreq := nextCfg.reqExp.le_toInt
    have hdiff := Int32.toInt_sub_eq_ite (a := guildVO.exp + exp) (b := nextCfg.reqExp) (by omega)
    constructor
    · rintro ⟨exp', ⟨-, heq⟩ | ⟨_, rfl, hreach, hexp', heq⟩⟩
      · simp at heq
      · obtain rfl := (GuildVO.mk.inj heq).2.1
        split_ifs at hsum hdiff <;> omega
    · rintro ⟨hfits, hfits', hrest⟩
      have hsum' : (guildVO.exp + exp).toInt = guildVO.exp.toInt + exp.toInt :=
        Int32.toInt_add_of_fits hfits hfits'
      rw [hsum'] at hdiff hle'
      rw [if_pos (hrest hle')] at hdiff
      exact ⟨_, .inr ⟨nextCfg, rfl, hle', hdiff, rfl⟩⟩
  · have hlt := Int32.not_le.mp hle
    refine ⟨_, (run_addGuildExp ..).trans (run_checkGuildLevelUp_of_lt h hlt), ?_⟩
    have hlt' := Int32.lt_iff_toInt_lt.mp hlt
    constructor
    · rintro ⟨exp', ⟨hexp', heq⟩ | ⟨_, -, -, -, heq⟩⟩
      · obtain rfl := (GuildVO.mk.inj heq).2.1
        have hlow := (guildVO.exp + exp).le_toInt
        have hhigh := (guildVO.exp + exp).toInt_lt
        exact ⟨by omega, by omega, fun hreach => by omega⟩
      · simp at heq
    · rintro ⟨hfits, hfits', -⟩
      exact ⟨_, .inl ⟨Int32.toInt_add_of_fits hfits hfits', rfl⟩⟩

end Added

/-! ## A run -/

/-- **What is required holds after every call** of a run just if every call leads over the
requirement of one level at most. -/
theorem grown_run_iff (level exp : Int32) (amounts : List Int32) (h : ∀ a ∈ amounts, 0 ≤ a) :
    EveryStep (grow rows) (fun growth a => Grown rows exp (grow rows growth a))
        ⟨⟨level, exp, []⟩, 0⟩ amounts ↔
      EveryStep (grow rows) (OneLevel rows) ⟨⟨level, exp, []⟩, 0⟩ amounts := by
  refine everyStep_congr (fun growth amounts => Balanced exp growth ∧ ∀ a ∈ amounts, 0 ≤ a)
    (fun growth a amounts hinv hone => ?_) (fun growth a amounts hinv => ?_) ⟨?_, h⟩
  · have hgrown := (grown_grow_iff hinv.1 (hinv.2 a List.mem_cons_self)).mpr hone
    exact ⟨hgrown.2, fun a' ha' => hinv.2 a' (List.mem_cons_of_mem _ ha')⟩
  · exact grown_grow_iff hinv.1 (hinv.2 a List.mem_cons_self)
  · show exp.toInt + 0 = exp.toInt + 0
    rfl

/-- Two levels above the first, each for ten experience. -/
def tenRows : List GuildLVCfg := [{ lv := 2, reqExp := 10 }, { lv := 3, reqExp := 10 }]

/-- In three calls the top level is reached, and experience is still added there. -/
theorem grown_run_iff_to_top :
    EveryStep (grow tenRows) (fun growth a => Grown tenRows 0 (grow tenRows growth a))
      ⟨⟨1, 0, []⟩, 0⟩ [15, 10, 7] := by
  have hamounts : ∀ a ∈ ([15, 10, 7] : List Int32), 0 ≤ a :=
    List.forall_mem_cons.mpr ⟨by decide, List.forall_mem_cons.mpr
      ⟨by decide, List.forall_mem_singleton.mpr (by decide)⟩⟩
  refine (grown_run_iff 1 0 [15, 10, 7] hamounts).mpr ⟨⟨by decide, ?_⟩, ⟨by decide, ?_⟩,
    ⟨by decide, ?_⟩, trivial⟩
  · rintro nextCfg ⟨⟩ -
    refine ⟨by decide, ?_⟩
    rintro cfg ⟨⟩
    decide
  · rintro nextCfg ⟨⟩ -
    refine ⟨by decide, ?_⟩
    rintro cfg ⟨⟩
  · rintro nextCfg ⟨⟩

/-- **Not so in general**: with enough experience for two levels, only one is gained. -/
theorem not_grown :
    ¬EveryStep (grow tenRows) (fun growth a => Grown tenRows 0 (grow tenRows growth a))
      ⟨⟨1, 0, []⟩, 0⟩ [25] := by
  rintro ⟨⟨hbelow, -⟩, -⟩
  exact absurd (hbelow { lv := 3, reqExp := 10 } rfl) (by decide)

end SrgpGame.GuildExp
