import SrgpGame.Func.FixedDrop

set_option autoImplicit false

/-!
# The executor that selects again and again

`BaseFuncsExecutor` is the executor that game code builds: functions are accepted, the ones that
are pending are selected and checked, more functions are accepted and selected, and at last all
are executed. The lists of accepted, pending and selected functions are objects that are handed
from one method to another: `getFuncs` gives out the pending list itself, and the list that `fix`
returns becomes the selected list at the first selection and is copied into it later.

## Main definitions

* `Lists` — the list objects, by reference.
* `AbstractFunc`, `CheckRec` — functions and recorded costs, by their methods.
* `BaseFuncsExecutor` — the executor, with `acceptFunc`, `selectAndCheck`, `exec` and `copy`.
* `getExecutor`, `withExecutors` — a new executor, and executors at work on a player.
* `Event` — which methods of the functions were called.
* `runCalls`, `accepted` — acceptances and selections in any order, and what they accept.

## Design notes

The methods of a function do what they like with the player, the counters of guaranteed drops and
the random numbers, but they do not know the executor. A clone of a function has its class and its
fields, so it is the function. The records that a function returns are new ones. An exception ends
the use of an executor. The events are for the statements only: no method reads them.
-/

namespace SrgpGame.BaseExecutor

open Func (FixedExecConfig)
open FixedDrop (PlayerVO)

variable {σ ρ κ α : Type}

/-! ## Lists as objects -/

/-- The `ArrayList`s that exist, by reference. -/
structure Lists (α : Type) where
  data : ℕ → List α
  /-- The next reference. -/
  size : ℕ

/-- Changes what a list has. -/
def Lists.set (lists : Lists α) (ref : ℕ) (l : List α) : Lists α :=
  { lists with data := Function.update lists.data ref l }

/-- A new list, under the next reference. -/
def Lists.alloc (lists : Lists α) : Lists α :=
  ⟨Function.update lists.data lists.size [], lists.size + 1⟩

@[simp] lemma Lists.set_data_self (lists : Lists α) (ref : ℕ) (l : List α) :
    (lists.set ref l).data ref = l := Function.update_self ..

lemma Lists.set_data_of_ne (lists : Lists α) {ref ref' : ℕ} (l : List α) (h : ref' ≠ ref) :
    (lists.set ref l).data ref' = lists.data ref' := Function.update_of_ne h ..

@[simp] lemma Lists.set_size (lists : Lists α) (ref : ℕ) (l : List α) :
    (lists.set ref l).size = lists.size := rfl

@[simp] lemma Lists.alloc_size (lists : Lists α) : lists.alloc.size = lists.size + 1 := rfl

@[simp] lemma Lists.alloc_data_self (lists : Lists α) : lists.alloc.data lists.size = [] :=
  Function.update_self ..

lemma Lists.alloc_data_of_lt (lists : Lists α) {ref : ℕ} (h : ref < lists.size) :
    lists.alloc.data ref = lists.data ref := Function.update_of_ne (Nat.ne_of_lt h) ..

/-! ## Functions and records -/

/-- `AbstractFunc`: a function, by the methods that the executor calls. -/
structure AbstractFunc (σ ρ : Type) where
  /-- The configuration of guaranteed drops that the function is under. -/
  steadyExecId : Int32
  /-- `getDepotCapacityChecker`, with the function's parameter. -/
  depotCapacityChecker : Option (EStateM Thrown (PlayerVO σ) Unit)
  /-- `getParamChecker`, with the function's parameter. -/
  paramChecker : Option (EStateM Thrown (PlayerVO σ) Unit)
  /-- The costs of the function. -/
  record : EStateM Thrown (PlayerVO σ) (Option (List (Option ρ)))
  /-- Executes the function for a command, a number of times. -/
  exec : Option Int32 → Int32 → EStateM Thrown (PlayerVO σ) Unit

/-- `clone`. -/
def AbstractFunc.clone (func : AbstractFunc σ ρ) : AbstractFunc σ ρ := func

/-- What `fix` reads of a function. -/
def AbstractFunc.drop (func : AbstractFunc σ ρ) : FixedDrop.AbstractFunc Unit Unit where
  steadyExecId := func.steadyExecId
  checkDepotCapacity _ := .ok ()
  checkParam _ := .ok ()
  record _ _ := .ok ()
  exec _ := pure ()

/-- `CheckRec`: the methods of recorded costs. -/
structure CheckRec (σ ρ κ : Type) where
  getClass : ρ → κ
  accept : ρ → ρ → ρ
  check : ρ → EStateM Thrown (PlayerVO σ) Unit

/-- A method of a function was called. -/
inductive Event (σ ρ : Type) where
  | record (func : AbstractFunc σ ρ) (recs : Option (List (Option ρ)))
  | exec (func : AbstractFunc σ ρ)

/-- What the methods of executors work on. -/
structure ExecState (σ ρ : Type) where
  player : PlayerVO σ
  lists : Lists (AbstractFunc σ ρ)
  log : List (Event σ ρ)

/-- A method of an executor. -/
abbrev Exec (σ ρ : Type) := EStateM Thrown (ExecState σ ρ)

/-- A method on the player. -/
def onPlayer (x : EStateM Thrown (PlayerVO σ) α) : Exec σ ρ α :=
  EStateM.zoom ExecState.player (fun player s => { s with player := player }) x

/-- Notes a call. -/
def called (event : Event σ ρ) : Exec σ ρ Unit :=
  modify fun s => { s with log := s.log ++ [event] }

/-- `GameUtil.createList`. -/
def createList : Exec σ ρ ℕ := fun s => .ok s.lists.size { s with lists := s.lists.alloc }

/-- What a list has. -/
def elements (ref : ℕ) : Exec σ ρ (List (AbstractFunc σ ρ)) := fun s => .ok (s.lists.data ref) s

/-- `List.addAll`, of what another list has. -/
def addAll (ref : ℕ) (funcs : List (AbstractFunc σ ρ)) : Exec σ ρ Unit :=
  modify fun s => { s with lists := s.lists.set ref (s.lists.data ref ++ funcs) }

/-- `List.add`. -/
def add (ref : ℕ) (func : AbstractFunc σ ρ) : Exec σ ρ Unit := addAll ref [func]

/-- `List.clear`. -/
def clear (ref : ℕ) : Exec σ ρ Unit := modify fun s => { s with lists := s.lists.set ref [] }

/-! ## The executor -/

/-- `BaseFuncsExecutor`, with references to its lists. -/
structure BaseFuncsExecutor (σ ρ κ : Type) where
  allFuncs : ℕ
  selectedFuncs : Option ℕ
  checkRec : AList fun _ : κ => ρ
  firstSelect : Bool
  cmd : Option Int32
  function : Option (List (AbstractFunc σ ρ) → EStateM Thrown (PlayerVO σ) Unit)
  unSelectFuncs : ℕ

variable [DecidableEq κ] (cfgs : Int32 → Option FixedExecConfig) (recs : CheckRec σ ρ κ)

/-- `groupRecord`, for one record. -/
def CheckRec.group (checkRec : AList fun _ : κ => ρ) (rec : Option ρ) : AList fun _ : κ => ρ :=
  match rec with
  | none => checkRec
  | some rec =>
    match checkRec.lookup (recs.getClass rec) with
    | some oldRec => checkRec.insert (recs.getClass rec) (recs.accept oldRec rec)
    | none => checkRec.insert (recs.getClass rec) rec

/-- `groupRecord`. -/
def CheckRec.groupRecord (checkRec : AList fun _ : κ => ρ) (rec : Option (List (Option ρ))) :
    AList fun _ : κ => ρ :=
  match rec with
  | none => checkRec
  | some rec => rec.foldl recs.group checkRec

/-- One round of `fix`: whether the function is selected. -/
def fixOne (func : AbstractFunc σ ρ) : Exec σ ρ Bool :=
  onPlayer (FixedDrop.onDrops (FixedDrop.fixOne cfgs func.drop))

/-- `fix`: a new list with the functions that take part. -/
def fix (funcs : ℕ) : Exec σ ρ ℕ := do
  let ret ← createList
  let funcs ← elements funcs
  EStateM.each (fun func => do
    let selected ← fixOne cfgs func
    if selected then add ret func) funcs
  return ret

/-- Records the costs of the functions. -/
def recordAll : List (AbstractFunc σ ρ) → (AList fun _ : κ => ρ) →
    Exec σ ρ (AList fun _ : κ => ρ)
  | [], checkRec => pure checkRec
  | func :: funcs, checkRec => do
    let record ← onPlayer func.record
    called (.record func record)
    recordAll funcs (recs.groupRecord checkRec record)

/-- `checkAndRec`: checks the functions of a list and records their costs. -/
def checkAndRec (checkRec : AList fun _ : κ => ρ) (selectedFuncs : ℕ) :
    Exec σ ρ (AList fun _ : κ => ρ) := do
  let funcs ← elements selectedFuncs
  if funcs.isEmpty then return checkRec
  else
    EStateM.each (fun func =>
      match func.paramChecker with
      | none => pure ()
      | some checker => onPlayer checker) funcs
    recordAll recs funcs checkRec

namespace BaseFuncsExecutor

/-- A new executor. -/
def new : Exec σ ρ (BaseFuncsExecutor σ ρ κ) := do
  let allFuncs ← createList
  let unSelectFuncs ← createList
  return ⟨allFuncs, none, ∅, true, none, none, unSelectFuncs⟩

variable (executor : BaseFuncsExecutor σ ρ κ)

/-- `acceptFunc`, with `whenAcceptFunc`. -/
def acceptFunc (func : AbstractFunc σ ρ) : Exec σ ρ Unit := do
  add executor.allFuncs func
  add executor.unSelectFuncs func

/-- `getFuncs`: the pending list itself. -/
def getFuncs : ℕ := executor.unSelectFuncs

/-- `isSupportManySelect`. -/
def isSupportManySelect : Bool := true

/-- `addSelectFunc`: the first list becomes the selected list, later ones are added to it. -/
def addSelectFunc (select : ℕ) : Exec σ ρ (BaseFuncsExecutor σ ρ κ) :=
  match executor.selectedFuncs with
  | none => do
    clear executor.unSelectFuncs
    return { executor with selectedFuncs := some select }
  | some selectedFuncs => do
    let funcs ← elements select
    addAll selectedFuncs funcs
    clear executor.unSelectFuncs
    return executor

/-- `select`: the list of what was selected, and the executor afterwards. -/
def select : Exec σ ρ (ℕ × BaseFuncsExecutor σ ρ κ) :=
  if isSupportManySelect || executor.firstSelect then do
    let select ← fix cfgs executor.getFuncs
    let executor ← addSelectFunc { executor with firstSelect := false } select
    return (select, executor)
  else EStateM.ofExcept fun _ => CodeGeneral.generalUnSupportOperation.throwException

/-- `reCheckRecs`: checks all records. -/
def reCheckRecs : Exec σ ρ Unit :=
  EStateM.each (fun rec => onPlayer (recs.check rec)) (executor.checkRec.entries.map fun e => e.2)

/-- **`selectAndCheck`.** -/
def selectAndCheck : Exec σ ρ (BaseFuncsExecutor σ ρ κ) := do
  let (select, executor) ← executor.select cfgs
  let checkRec ← checkAndRec recs executor.checkRec select
  let executor := { executor with checkRec := checkRec }
  executor.reCheckRecs recs
  return executor

/-- `doDepotChecker`: checks the capacity for every function. -/
def doDepotChecker : Exec σ ρ Unit := do
  let funcs ← elements executor.allFuncs
  EStateM.each (fun func =>
    match func.depotCapacityChecker with
    | none => pure ()
    | some checker => onPlayer checker) funcs

/-- **`runSelectedFuncs`**: executes the selected functions in order. -/
def runSelectedFuncs (execNum : Int32) : Exec σ ρ Unit :=
  match executor.selectedFuncs with
  | none => throw .nullPointer
  | some selectedFuncs => do
    let funcs ← elements selectedFuncs
    EStateM.each (fun func => do
      called (.exec func)
      onPlayer (func.exec executor.cmd execNum)) funcs
    match executor.function with
    | none => pure ()
    | some function => onPlayer (function funcs)

/-- The checks of `exec`: of the capacity if they are asked for, and of what is selected. -/
def checks (checkDepot : Bool) : Exec σ ρ (BaseFuncsExecutor σ ρ κ) := do
  if checkDepot then executor.doDepotChecker
  executor.selectAndCheck cfgs recs

/-- **`exec`.** -/
def exec (checkDepot : Bool) (execNum : Int32) : Exec σ ρ Unit := do
  let executor ← executor.checks cfgs recs checkDepot
  executor.runSelectedFuncs execNum

/-- `innerCopy`: a new executor that accepts clones of all functions. -/
def innerCopy : Exec σ ρ (BaseFuncsExecutor σ ρ κ) := do
  let exec ← new
  let funcs ← elements executor.allFuncs
  EStateM.each (fun func => exec.acceptFunc func.clone) funcs
  return exec

/-- **`copy`.** -/
def copy : Exec σ ρ (BaseFuncsExecutor σ ρ κ) := do
  let t ← executor.innerCopy
  return { t with cmd := executor.cmd }

end BaseFuncsExecutor

/-- `getExecutor`: a new executor for a command. -/
def getExecutor (cmd : Option Int32) : Exec σ ρ (BaseFuncsExecutor σ ρ κ) := do
  let exec ← BaseFuncsExecutor.new
  return { exec with cmd := cmd }

/-- Uses executors on a player. -/
def withExecutors (x : Exec σ ρ α) : EStateM Thrown (PlayerVO σ) α := fun player =>
  match x.run ⟨player, ⟨fun _ => [], 0⟩, []⟩ with
  | .ok a s => .ok a s.player
  | .error e s => .error e s.player

lemma run_withExecutors (x : Exec σ ρ α) (player : PlayerVO σ) :
    (withExecutors x).run player =
      match x.run ⟨player, ⟨fun _ => [], 0⟩, []⟩ with
      | .ok a s => .ok a s.player
      | .error e s => .error e s.player := rfl

/-! ## Runs -/

/-- What is called on an executor before it is executed. -/
inductive Call (σ ρ : Type) where
  | acceptFunc (func : AbstractFunc σ ρ)
  | selectAndCheck

/-- The functions that are accepted. -/
def accepted : List (Call σ ρ) → List (AbstractFunc σ ρ)
  | [] => []
  | .acceptFunc func :: calls => func :: accepted calls
  | .selectAndCheck :: calls => accepted calls

/-- **The calls**, one after another. -/
def runCalls : List (Call σ ρ) → BaseFuncsExecutor σ ρ κ → Exec σ ρ (BaseFuncsExecutor σ ρ κ)
  | [], executor => pure executor
  | .acceptFunc func :: calls, executor => do
    executor.acceptFunc func
    runCalls calls executor
  | .selectAndCheck :: calls, executor => do
    let executor ← executor.selectAndCheck cfgs recs
    runCalls calls executor

end SrgpGame.BaseExecutor
