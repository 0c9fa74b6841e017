import SrgpGame.Func.BaseFuncsExecutor

set_option autoImplicit false

/-!
# Using goods

`useGoods` uses goods that a player has. For a box (`ItemGoodsConfig`) it builds an executor of one
function that is to take the goods and of the functions of the box, as often as goods are used; the
executor checks them and executes them once. For a `FuncGoodsConfig` the executor has the one
function of the goods, and executes it and the function that is to take the goods a number of times.

## Main definitions

* `Owner`, `User` — the player, and the player while goods are used.
* `SyncFunc` — a function of goods.
* `changeGoodsFunc` — the function that changes the number of goods.
* `useGoods` — the use.

## Design notes

The functions of goods are any functions; what they check and record may read the depot and does not
change it. The same holds of the listeners to events, which may do to the player what functions may.
`User.granted` and the number that `useGoods` returns are for the statements only: no method reads
them. The messages to the client are left out.
-/

namespace SrgpGame.Goods

open Func (Configs FuncConfig FuncParam Rng)
open FixedDrop (PlayerVO)
open BaseExecutor (AbstractFunc BaseFuncsExecutor Exec getExecutor onPlayer withExecutors)

variable {τ ρ κ α : Type}

/-! ## Players -/

/-- What functions read and change of a player. -/
structure Owner (τ : Type) where
  depotVO : DepotVO
  /-- Everything else. -/
  others : τ

/-- The number of goods, as it is. -/
def Owner.stock (owner : Owner τ) (gid : Int32) : ℤ := (getGoodsQuantity owner.depotVO gid).toInt

/-- A player while goods are used. -/
structure User (τ : Type) extends Owner τ where
  /-- What the functions of the goods and the listeners have granted of the used goods. -/
  granted : ℤ

/-- The player of a user. -/
def owner (player : PlayerVO (User τ)) : PlayerVO (Owner τ) :=
  ⟨player.others.toOwner, player.fixedDropVO, player.rng⟩

/-- A player starts to use goods. -/
def start (player : PlayerVO (Owner τ)) : PlayerVO (User τ) :=
  ⟨⟨player.others, 0⟩, player.fixedDropVO, player.rng⟩

/-- The user, with another player: the difference of the goods is what was granted. -/
def grant (gid : Int32) (player : PlayerVO (Owner τ)) (user : PlayerVO (User τ)) :
    PlayerVO (User τ) :=
  ⟨⟨player.others, user.others.granted + (player.others.stock gid - user.others.stock gid)⟩,
    player.fixedDropVO, player.rng⟩

/-- The user, with another depot. -/
def setDepotVO (depotVO : DepotVO) (user : PlayerVO (User τ)) : PlayerVO (User τ) :=
  { user with others := { user.others with depotVO := depotVO } }

/-- A method that may grant goods. -/
def granting (gid : Int32) (x : EStateM Thrown (PlayerVO (Owner τ)) α) :
    EStateM Thrown (PlayerVO (User τ)) α :=
  EStateM.zoom owner (grant gid) x

/-- A method that reads the depot and leaves it. -/
def reading (x : DepotVO → EStateM Thrown (PlayerVO τ) α) :
    EStateM Thrown (PlayerVO (User τ)) α := do
  let user ← get
  EStateM.zoom (fun user => ⟨user.others.others, user.fixedDropVO, user.rng⟩)
    (fun player user =>
      ⟨{ user.others with others := player.others }, player.fixedDropVO, player.rng⟩)
    (x user.others.depotVO)

/-- A random choice. -/
def drawn (x : EStateM Thrown Rng α) : EStateM Thrown (PlayerVO τ) α :=
  EStateM.zoom PlayerVO.rng (fun rng player => { player with rng := rng }) x

/-! ## Recorded costs -/

/-- `CheckRecGoods`, or another record. -/
inductive Record (ρ : Type) where
  | goods (goodsCost : AList fun _ : Int32 => Int32)
  | other (rec : ρ)

/-- `CheckRecGoods.add`. -/
def addCost (goodsCost : AList fun _ : Int32 => Int32) (gid num : Int32) :
    AList fun _ : Int32 => Int32 :=
  match goodsCost.lookup gid with
  | none => goodsCost.insert gid num
  | some gnum => goodsCost.insert gid (gnum + num)

/-- The methods of the other records. -/
structure OtherRecs (τ ρ κ : Type) where
  getClass : ρ → κ
  accept : ρ → ρ → ρ
  check : ρ → DepotVO → EStateM Thrown (PlayerVO τ) Unit

/-- `checkGoodsEnough`, of the goods of a record. -/
def checkGoodsCost (goodsCost : AList fun _ : Int32 => Int32) :
    EStateM Thrown (PlayerVO (User τ)) Unit :=
  EStateM.each (fun e => EStateM.ofExcept fun user =>
    checkGoodsEnough user.others.depotVO e.1 e.2) goodsCost.entries

/-- The methods of all records. Only records of one class are added up. -/
def OtherRecs.checkRec (recs : OtherRecs τ ρ κ) :
    BaseExecutor.CheckRec (User τ) (Record ρ) (Option κ) where
  getClass
    | .goods _ => none
    | .other rec => some (recs.getClass rec)
  accept
    | .goods cost, .goods rec =>
      .goods (rec.entries.foldl (fun cost e => addCost cost e.1 e.2) cost)
    | .other old, .other rec => .other (recs.accept old rec)
    | old, _ => old
  check
    | .goods cost => checkGoodsCost cost
    | .other rec => reading (recs.check rec)

/-! ## Functions and goods -/

/-- A function of goods, by the methods that executors call. None has a `DepotCapacityChecker`. -/
structure SyncFunc (τ ρ : Type) where
  steadyExecId : Int32
  paramChecker : Option (DepotVO → EStateM Thrown (PlayerVO τ) Unit)
  record : DepotVO → EStateM Thrown (PlayerVO τ) (Option (List (Option (Record ρ))))
  exec : Option Int32 → Int32 → EStateM Thrown (PlayerVO (Owner τ)) Unit

/-- The function, for executors. -/
def SyncFunc.toFunc (func : SyncFunc τ ρ) (gid : Int32) : AbstractFunc (User τ) (Record ρ) where
  steadyExecId := func.steadyExecId
  depotCapacityChecker := none
  paramChecker := func.paramChecker.map reading
  record := reading func.record
  exec cmd execNum := granting gid (func.exec cmd execNum)

/-- A `GoodsConfig`, by its class. -/
inductive GoodsClass (τ ρ : Type) where
  /-- A `GoodsConfig` that is nothing else. -/
  | goods
  /-- An `ItemGoodsConfig`, with `getFuncs` of a copy of its executor. -/
  | itemGoods (getFuncs : List Int32 → EStateM Thrown Rng (List (SyncFunc τ ρ)))
  /-- A `FuncGoodsConfig`. -/
  | funcGoods (funcType : Int32) (func : Option FuncConfig)

/-- `FuncGoodsConfig.FuncType_Player`. -/
def funcTypePlayer : Int32 := 1

/-- The configurations, and what a use of goods calls. -/
structure GoodsCfgs (τ ρ κ : Type) where
  /-- The configurations, with that of the goods by id. -/
  configs : Configs
  goodsClass : Int32 → GoodsClass τ ρ
  /-- `SyncFuncType.getFunc`, by type. -/
  getFunc : Int32 → Option (FuncParam → SyncFunc τ ρ)
  recs : OtherRecs τ ρ κ
  /-- `onGoodsChange`: the listeners to a change of goods. -/
  onGoodsChange : Int32 → Int32 → EStateM Thrown (PlayerVO (Owner τ)) Unit
  /-- The listeners to `EvtTypeGoods.USE_BOX`, for the goods and their number. -/
  useBox : Int32 → Int32 → EStateM Thrown (PlayerVO (Owner τ)) Unit

variable (cfgs : GoodsCfgs τ ρ κ)

/-- `changeGoodsNum`, as the depot with events has it. -/
def changeGoods (cid num : Int32) : EStateM Thrown (PlayerVO (User τ)) Unit := do
  EStateM.ofExcept fun _ =>
    CodeDepot.depotGoodsNotFound.throwIfTrue (cfgs.configs.goods.getGoodsConfigById cid).isNone
  let r ← EStateM.ofExcept fun user =>
    changeGoodsNum cfgs.configs.goods user.others.depotVO cid num
  modify (setDepotVO r.1)
  granting cid (cfgs.onGoodsChange cid num)

/-- **`ChangeGoodsFunc`**: its checker is `GoodsCostChecker`. -/
def changeGoodsFunc (param : FuncParam) : AbstractFunc (User τ) (Record ρ) where
  steadyExecId := 0
  depotCapacityChecker := none
  paramChecker :=
    some (if param.value < 0 then checkGoodsCost (addCost ∅ param.param param.value.abs.toInt32)
      else pure ())
  record := pure (some
    [if param.value < 0 then some (.goods (addCost ∅ param.param param.value.abs.toInt32))
      else none])
  exec _ execNum := do
    let num ← drawn (Func.ChangeGoodsFunc.num cfgs.configs param execNum)
    if 0 < param.param then changeGoods cfgs param.param num

/-! ## A use -/

/-- `addExecutor`: accepts what the executor of a box has for the chosen ones. -/
def addExecutor (exec : BaseFuncsExecutor (User τ) (Record ρ) (Option κ)) (gid : Int32)
    (getFuncs : EStateM Thrown Rng (List (SyncFunc τ ρ))) : Exec (User τ) (Record ρ) Unit := do
  let funcs ← onPlayer (drawn getFuncs)
  EStateM.each (fun func => exec.acceptFunc (func.toFunc gid)) funcs

/-- The executor for a box: the box is added `num` times. -/
def boxExecutor (gid num : Int32) (getFuncs : EStateM Thrown Rng (List (SyncFunc τ ρ)))
    (cmd : Option Int32) :
    Exec (User τ) (Record ρ) (BaseFuncsExecutor (User τ) (Record ρ) (Option κ)) :=
  do
  let exec ← getExecutor cmd
  exec.acceptFunc (changeGoodsFunc cfgs { param := gid, value := (-num).toInt64 })
  EStateM.each (fun _ => addExecutor exec gid getFuncs) (List.range num.toInt.toNat)
  return exec

/-- `addSyncFunc`. -/
def addSyncFunc (exec : BaseFuncsExecutor (User τ) (Record ρ) (Option κ)) (gid : Int32)
    (funcConfig : Option FuncConfig) : Exec (User τ) (Record ρ) Unit :=
  match funcConfig with
  | none => throw .nullPointer
  | some funcConfig =>
    match cfgs.getFunc funcConfig.type with
    | none => throw .nullPointer
    | some getFunc => exec.acceptFunc ((getFunc funcConfig.copy.param).toFunc gid)

/-- The executor for the function of a `FuncGoodsConfig`. -/
def funcExecutor (gid num : Int32) (func : Option FuncConfig) (cmd : Option Int32) :
    Exec (User τ) (Record ρ) (BaseFuncsExecutor (User τ) (Record ρ) (Option κ)) := do
  let exec ← getExecutor cmd
  exec.acceptFunc (changeGoodsFunc cfgs { param := gid, value := (-num).toInt64 })
  addSyncFunc cfgs exec gid func
  return exec

/-- A request to use goods. -/
structure UseReq where
  gid : Int32
  num : Int32
  chosen : Option (List Int32)
  cmd : Option Int32

variable [DecidableEq κ]

/-- **`useGoods`**: how often the functions of the goods were applied. -/
def useGoods (req : UseReq) : EStateM Thrown (PlayerVO (User τ)) ℤ :=
  if (cfgs.configs.goods.getGoodsConfigById req.gid).isNone then return 0
  else
    match cfgs.goodsClass req.gid with
    | .goods => return 0
    | .itemGoods getFuncs => do
      let num := req.num.abs
      withExecutors do
        let exec ← boxExecutor cfgs req.gid num (getFuncs (req.chosen.getD [])) req.cmd
        exec.exec cfgs.configs.fixedExec cfgs.recs.checkRec true 1
      granting req.gid (cfgs.useBox req.gid num)
      return num.toInt.toNat
    | .funcGoods funcType func => do
      EStateM.ofExcept fun _ => CodeGoods.goodsTypeError.throwIfTrue (funcType ≠ funcTypePlayer)
      withExecutors do
        let exec ← funcExecutor cfgs req.gid req.num func req.cmd
        exec.exec cfgs.configs.fixedExec cfgs.recs.checkRec true req.num
      return req.num.toInt

end SrgpGame.Goods
