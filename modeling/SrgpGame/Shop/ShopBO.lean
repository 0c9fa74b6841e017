import SrgpGame.Func.BaseFuncsExecutor

set_option autoImplicit false

/-!
# Shops

A shop sells items. The shops of the system are shared by all players, the other ones belong to a
player. An item of a guild shop has a limit, by the level of the player's guild: `buy` checks what
is recorded as sold together with the quantity, lets an executor run the item's function, and then
records the quantity.

## Main definitions

* `ShopItemVO`, `ShopVO`, `ShopMap` — items and shops.
* `ShopCfgs` — the configurations, and what a purchase calls.
* `getShopItemLimit`, `checkLimit` — the limit of an item.
* `buy` — a purchase.
* `step` — the system after a purchase, whether it returned or threw.

## Design notes

The function of an item is any `AbstractFunc` of the executor, found by its type. A configuration
has the id under which it is found. The prices are not modelled: `buildBuyCost` is empty. The
guild levels do not change, and no item list is refreshed. `ShopItemVO.total` is for the statements
only: no method reads it.
-/

namespace SrgpGame.Shop

open Func (FixedExecConfig FuncConfig FuncParam)
open FixedDrop (PlayerVO)
open BaseExecutor

variable {σ ρ κ α : Type}

/-! ## Configurations -/

/-- `ShopItemConfig`. -/
structure ShopItemConfig where
  /-- The limits, by the level of the guild. -/
  limit : Option (List Int32)
  purchase : Option FuncConfig

/-- `ShopConfig`. -/
structure ShopConfig where
  type : Int32
  /-- Where the shop is stored: in the system or with a player. -/
  placeHolder : Int32

/-- `ShopType.Guild`. -/
def ShopType.guild : Int32 := 2

/-- `isSystem`. -/
def ShopConfig.isSystem (config : ShopConfig) : Bool := config.placeHolder = 1

/-- `isGuild`. -/
def ShopConfig.isGuild (config : ShopConfig) : Bool := config.type = ShopType.guild

/-- The configurations, and what a purchase calls. -/
structure ShopCfgs (σ ρ κ : Type) where
  shop : Int32 → Option ShopConfig
  shopItem : Int32 → Option ShopItemConfig
  fixedExec : Int32 → Option FixedExecConfig
  /-- `SyncFuncType.getFunc`, by type. -/
  getFunc : Int32 → Option (FuncParam → AbstractFunc σ ρ)
  recs : CheckRec σ ρ κ
  /-- `CheckRec.check` only reads. -/
  check_leaves : ∀ rec player, (recs.check rec).finalState player = player
  /-- The level of a player's guild. -/
  guildLevel : Int32 → Option Int32
  /-- The listeners of `EvtTypeShop.BUY`, for a shop, an item and a quantity. -/
  listen : Int32 → Int32 → Int32 → PlayerVO σ → PlayerVO σ

/-! ## Shops -/

/-- `ShopItemVO`. -/
structure ShopItemVO where
  cid : Int32
  sold : Int32
  /-- The quantities recorded so far, as they are. -/
  total : ℤ
  deriving DecidableEq, Repr

/-- `SoldUpdater.addAndGet`. -/
def ShopItemVO.addSold (shopItemVO : ShopItemVO) (quantity : Int32) : ShopItemVO :=
  { shopItemVO with
    sold := shopItemVO.sold + quantity, total := shopItemVO.total + quantity.toInt }

/-- `ShopVO`. -/
structure ShopVO where
  cid : Int32
  itemVOs : List ShopItemVO
  deriving DecidableEq, Repr

/-- Shops, by their ids; of a shop, more or less may be known. -/
@[ext]
structure ShopMap (ν : Type) (cid : ν → Int32) where
  get : Int32 → Option ν
  /-- A shop is under its own id. -/
  cid_of_get : ∀ {shopId shopVO}, get shopId = some shopVO → cid shopVO = shopId

namespace ShopMap

variable {ν : Type} {cid : ν → Int32}

/-- No shops. -/
def empty : ShopMap ν cid where
  get := fun _ => none
  cid_of_get := nofun

/-- `put(shopVO.getCid(), shopVO)`. -/
def put (map : ShopMap ν cid) (shopVO : ν) : ShopMap ν cid where
  get := Function.update map.get (cid shopVO) (some shopVO)
  cid_of_get := by
    intro shopId shopVO' h
    by_cases hid : shopId = cid shopVO
    · rw [hid, Function.update_self] at h
      rw [hid, ← Option.some.inj h]
    · rw [Function.update_of_ne hid] at h
      exact map.cid_of_get h

lemma get_put (map : ShopMap ν cid) (shopVO : ν) (shopId : Int32) :
    (map.put shopVO).get shopId = if shopId = cid shopVO then some shopVO else map.get shopId :=
  Function.update_apply ..

/-- A shop, where its configuration says: in the system or with the player. The code of an unknown
place is thrown without the module. -/
def getPlaced (placeHolder : Int32) (systemVO shopVOMap : ShopMap ν cid) (shopId : Int32) :
    Except Thrown (Option ν) :=
  if placeHolder = 1 then .ok (systemVO.get shopId)
  else if placeHolder = 2 then .ok (shopVOMap.get shopId)
  else .error (.logic CodeShop.shopUnknownPlaceHolder.code)

end ShopMap

/-- The shops, with their items. -/
abbrev ShopVOMap := ShopMap ShopVO ShopVO.cid

/-- The shops of the system and of the players, and the players. -/
structure ShopState (σ : Type) where
  /-- `SystemVO.getShopVOMap`. -/
  systemVO : ShopVOMap
  /-- `PlayerVO.getShopVOMap`. -/
  shopVOMap : Int32 → ShopVOMap
  players : Int32 → PlayerVO σ

variable (cfgs : ShopCfgs σ ρ κ)

/-- `ShopVO.getCfg`; what uses a missing configuration throws. -/
def ShopVO.getCfg (shopVO : ShopVO) : Except Thrown ShopConfig :=
  match cfgs.shop shopVO.cid with
  | none => .error .nullPointer
  | some config => .ok config

/-- `getShopVO`. -/
def getShopVO (s : ShopState σ) (pid shopId : Int32) (config : ShopConfig) :
    Except Thrown (Option ShopVO) :=
  s.systemVO.getPlaced config.placeHolder (s.shopVOMap pid) shopId

/-- An element of an array. -/
def elementAt (array : List Int32) (i : ℤ) : Except Thrown Int32 :=
  match if 0 ≤ i then array[i.toNat]? else none with
  | none => .error .indexOutOfBounds
  | some value => .ok value

/-- **`getShopItemLimit`**: −1 without limits; levels beyond the last limit have the last one. -/
def getShopItemLimit (pid : Int32) (shopVO : ShopVO) (shopItemVO : ShopItemVO) :
    Except Thrown Int32 := do
  let config ← shopVO.getCfg cfgs
  if config.isGuild then
    match cfgs.guildLevel pid with
    | none => CodeShop.shopRequireGuildVip.throwException
    | some level =>
      match cfgs.shopItem shopItemVO.cid with
      | none => .error .nullPointer
      | some shopItemConfig =>
        let limit := shopItemConfig.limit.getD []
        if limit.isEmpty then return -1
        else if (limit.length : ℤ) ≤ level.toInt then elementAt limit (limit.length - 1)
        else elementAt limit level.toInt
  else
    match cfgs.shopItem shopItemVO.cid with
    | none => .error .nullPointer
    | some shopItemConfig => if (shopItemConfig.limit.getD []).isEmpty then return -1 else return 0

/-- **`checkLimit`**: what is recorded and the quantity are added up as they come. -/
def checkLimit (pid : Int32) (shopVO : ShopVO) (shopItemVO : ShopItemVO) (quantity : Int32) :
    Except Thrown Unit := do
  let limit ← getShopItemLimit cfgs pid shopVO shopItemVO
  if 0 < limit then CodeShop.shopLimit.throwIfTrue (limit < shopItemVO.sold + quantity)

/-! ## A purchase -/

/-- `addSyncFunc`: accepts the function of a configuration, with its value times the quantity. -/
def addSyncFunc (exec : BaseFuncsExecutor σ ρ κ) (funcConfig : Option FuncConfig)
    (quantity : Int32) : Exec σ ρ Unit :=
  match funcConfig with
  | none => throw .nullPointer
  | some funcConfig =>
    let config := funcConfig.copy
    match cfgs.getFunc funcConfig.type with
    | none => throw .nullPointer
    | some getFunc =>
      exec.acceptFunc
        (getFunc { config.param with value := config.param.value * quantity.toInt64 })

/-- A method on a player. -/
def onPlayer (pid : Int32) (x : EStateM Thrown (PlayerVO σ) α) : EStateM Thrown (ShopState σ) α :=
  EStateM.zoom (fun s => s.players pid)
    (fun player s => { s with players := Function.update s.players pid player }) x

/-- The checks of `buy`: the shop, the item and its configuration. -/
def checkBuy (s : ShopState σ) (pid shopId index quantity : Int32) :
    Except Thrown (ShopVO × ShopItemVO × ShopItemConfig) :=
  match cfgs.shop shopId with
  | none => CodeShop.shopNotFound.throwException
  | some config => do
    match ← getShopVO s pid shopId config with
    | none => CodeShop.shopNotFound.throwException
    | some shopVO =>
      CodeShop.shopDataException.throwIfTrue
        (index < 0 ∨ (shopVO.itemVOs.length : ℤ) ≤ index.toInt)
      match shopVO.itemVOs[index.toInt.toNat]? with
      | none => .error .indexOutOfBounds
      | some shopItemVO =>
        checkLimit cfgs pid shopVO shopItemVO quantity
        match cfgs.shopItem shopItemVO.cid with
        | none => .error .nullPointer
        | some shopItemConfig => return (shopVO, shopItemVO, shopItemConfig)

/-- **`afterShopBuy`**: records what was sold, unless the shop is one of the system. -/
def afterShopBuy (pid : Int32) (shopVO : ShopVO) (shopItemVO : ShopItemVO)
    (index quantity : Int32) : EStateM Thrown (ShopState σ) Unit := do
  let config ← EStateM.ofExcept fun _ => shopVO.getCfg cfgs
  if config.isSystem then return ()
  else
    modify fun s =>
      { s with
        shopVOMap := Function.update s.shopVOMap pid ((s.shopVOMap pid).put
          { shopVO with
            itemVOs := shopVO.itemVOs.set index.toInt.toNat (shopItemVO.addSold quantity) }) }

variable [DecidableEq κ]

/-- What `buy` does with executors: one that is given up, and one that first checks the costs, of
which there are none, and then executes the item's function. -/
def purchase (cmd : Option Int32) (shopItemConfig : ShopItemConfig) (quantity : Int32) :
    Exec σ ρ Unit := do
  let exec : BaseFuncsExecutor σ ρ κ ← getExecutor cmd
  addSyncFunc cfgs exec shopItemConfig.purchase quantity
  let exec : BaseFuncsExecutor σ ρ κ ← getExecutor cmd
  let exec ← exec.selectAndCheck cfgs.fixedExec cfgs.recs
  addSyncFunc cfgs exec shopItemConfig.purchase quantity
  exec.exec cfgs.fixedExec cfgs.recs true 1

/-- A request to buy. -/
structure BuyReq where
  pid : Int32
  shopId : Int32
  index : Int32
  quantity : Int32
  cmd : Option Int32

/-- **`buy`.** -/
def buy (req : BuyReq) : EStateM Thrown (ShopState σ) Unit := do
  let quantity := max 1 req.quantity
  let (shopVO, shopItemVO, shopItemConfig) ← EStateM.ofExcept fun s =>
    checkBuy cfgs s req.pid req.shopId req.index quantity
  onPlayer req.pid (withExecutors (purchase cfgs req.cmd shopItemConfig quantity))
  afterShopBuy cfgs req.pid shopVO shopItemVO req.index quantity
  onPlayer req.pid (modify (cfgs.listen req.shopId shopItemVO.cid quantity))

/-- **The system after a purchase**, whether it returned or threw. -/
def step (s : ShopState σ) (req : BuyReq) : ShopState σ := (buy cfgs req).finalState s

end SrgpGame.Shop
