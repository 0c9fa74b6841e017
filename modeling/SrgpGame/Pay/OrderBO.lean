import SrgpGame.Lib.Machine
import SrgpGame.Core.Codes

set_option autoImplicit false

/-!
# Orders

An order is a payment for an item. The pay platform notifies the server of it; the prize of the
item is granted at once if the player is loaded, and is left to the next login otherwise. A player
in memory counts the orders of each item; the counters are not saved, a login rebuilds them from
the saved orders.

Orders are saved by a `BaseDAO`. It keeps what is saved in a cache that a job writes to the database
now and then, and it gives a new object its primary key when this is saved for the first time.
`OrderVO.initPrimaryKey` is the empty string, and every order is saved once: all orders share one
row.

## Main definitions

* `OrderItemConfig`, `OrderVO`, `PlayerVO`, `Server` — items, orders, loaded players and the server.
* `OrderDAO`, `save`, `saveAndRemoveCache`, `getByRelationKey` — the orders that are saved.
* `sendOrderPrize`, `dealPaySucOrder`, `testBuy`, `buildAsLoad` — the methods of `OrderBOImpl`.
* `PayStep`, `PayStep.next` — what can happen to the server.

## Design notes

`ι` is the type of prizes; a prize is granted by an executor, which is taken to succeed. Three
fields are none of the source: `number` is the order number that an order was made with, which its
first save overwrites, `paid` is the history of the orders and `granted` that of the granted prizes.
Whether a login loads orders is a parameter: `loadOrderVOJob` is defined, and the present
`loadPlayerChainMap` does not name it. The counters are natural numbers: they count orders that were
loaded into one list. The price of an order, which no method reads, is left out, and so are the
messages and events.
-/

namespace SrgpGame.Pay

/-! ## Data -/

/-- `OrderItemConfig`: an item on sale. -/
structure OrderItemConfig (ι : Type) where
  prize : Option (List ι)
  /-- Added when the item is bought for the first time. -/
  fristPrize : Option (List ι)
  /-- Added when the item is bought again. -/
  extraPrize : Option (List ι)

/-- `CacheOrderItem`: the items by their id. -/
abbrev CacheOrderItem (ι : Type) := String → Option (OrderItemConfig ι)

/-- `OrderInfo`: what the pay platform says of an order. -/
structure OrderInfo where
  orderNumber : String
  goodsId : String
  /-- What `Integer.parseInt` makes of the player id, nothing when it throws. -/
  pid : Option Int32
  deriving DecidableEq, Repr

/-- `OrderVO`: an order. -/
structure OrderVO where
  /-- The primary key. -/
  orderId : String
  playerId : Int32
  itemId : String
  /-- Whether the prize was granted. -/
  prize : Bool
  /-- The order number that the order was made with. -/
  number : String
  deriving DecidableEq, Repr

/-- `PlayerVO`: a loaded player, as far as orders go. -/
structure PlayerVO where
  id : Int32
  /-- How often each item was bought. -/
  buyOrderItemTimes : AList fun _ : String => ℕ

/-- A player that was just created or read. -/
def PlayerVO.fresh (id : Int32) : PlayerVO := ⟨id, ∅⟩

/-- How often an item was bought, as far as the player's counters say. -/
def PlayerVO.times (player : PlayerVO) (itemId : String) : ℕ :=
  player.buyOrderItemTimes.getOrDefault itemId 0

/-- Counts one more order of an item. -/
def PlayerVO.buy (player : PlayerVO) (itemId : String) : PlayerVO :=
  { player with
    buyOrderItemTimes := player.buyOrderItemTimes.insert itemId (player.times itemId + 1) }

/-- An order as it was paid for: its number, its player and its item. -/
structure Payment where
  number : String
  playerId : Int32
  itemId : String
  deriving DecidableEq, Repr

/-- What an order was paid for. -/
def OrderVO.payment (o : OrderVO) : Payment := ⟨o.number, o.playerId, o.itemId⟩

/-- A granted prize: the order it is for, with the player who has it. -/
structure Grant (ι : Type) where
  payment : Payment
  funcs : List ι

/-! ## The saved orders -/

/-- `orderDAO`: what was saved, and what the database has. -/
structure OrderDAO where
  /-- The orders that are still to be written, by their primary key. -/
  cacheUpdate : AList fun _ : String => OrderVO
  /-- The table `order_data`. -/
  orderData : AList fun _ : String => OrderVO
  /-- The table `order_playerId`: the primary keys of each player's orders. -/
  orderPlayerId : Int32 → List String

/-- `OrderVO.initPrimaryKey`. -/
def initPrimaryKey : String := ""

namespace OrderDAO

/-- `save` of an order that was never saved: it gets its primary key. -/
def save (dao : OrderDAO) (orderVO : OrderVO) : OrderDAO :=
  { dao with
    cacheUpdate :=
      dao.cacheUpdate.insert initPrimaryKey { orderVO with orderId := initPrimaryKey } }

/-- Writes one order to the database. -/
def write (dao : OrderDAO) (key : String) (orderVO : OrderVO) : OrderDAO :=
  { dao with
    orderData := dao.orderData.insert key orderVO
    orderPlayerId := Function.update dao.orderPlayerId orderVO.playerId
      ((dao.orderPlayerId orderVO.playerId).insert key) }

/-- `saveAndRemoveCache`: writes the orders of the cache. -/
def saveAndRemoveCache (dao : OrderDAO) : OrderDAO :=
  { dao.cacheUpdate.entries.foldl (fun dao entry => dao.write entry.1 entry.2) dao with
    cacheUpdate := ∅ }

/-- `getByRelationKey`: the orders under the primary keys that the database has for the player; an
order that is still to be written takes the place of the one under its key. -/
def getByRelationKey (dao : OrderDAO) (playerId : Int32) : List OrderVO :=
  (dao.orderPlayerId playerId).filterMap fun key =>
    (dao.orderData.lookup key).map fun orderVO => (dao.cacheUpdate.lookup key).getD orderVO

end OrderDAO

/-- The server. -/
structure Server (ι : Type) where
  /-- `CachePlayer`: the loaded players. -/
  players : AList fun _ : Int32 => PlayerVO
  orderDAO : OrderDAO
  /-- The orders so far. -/
  paid : List Payment
  /-- The prizes granted so far. -/
  granted : List (Grant ι)

/-- A server without loaded players and without orders. -/
def Server.init (ι : Type) : Server ι := ⟨∅, ⟨∅, ∅, fun _ => []⟩, [], []⟩

/-! ## Methods -/

section Methods

variable {ι : Type} (cfgs : CacheOrderItem ι)

/-- `sendOrderPrize`: grants the player the prize of the item, and what is added to it for a first
or for a further order, and counts the order. -/
def sendOrderPrize (player : PlayerVO) (orderVO : OrderVO) :
    Except Thrown (PlayerVO × Grant ι) :=
  match cfgs orderVO.itemId with
  | none => .error .nullPointer
  | some config =>
    let buyTimes := player.times orderVO.itemId
    let funcs := config.prize.getD [] ++
      if buyTimes < 1 then config.fristPrize.getD [] else config.extraPrize.getD []
    .ok (player.buy orderVO.itemId, ⟨⟨orderVO.number, player.id, orderVO.itemId⟩, funcs⟩)

/-- `createOrderVO`, with the parsed player id. -/
def createOrderVO (orderInfo : OrderInfo) (playerId : Int32) : OrderVO :=
  ⟨orderInfo.orderNumber, playerId, orderInfo.goodsId, false, orderInfo.orderNumber⟩

/-- `dealPaySucOrder`: a notification. The answer is a code; an exception becomes the code
`ExecFail`. `known` tells which players exist. -/
def dealPaySucOrder (known : Int32 → Bool) (server : Server ι) (orderInfo : OrderInfo) :
    Server ι × Int32 :=
  match cfgs orderInfo.goodsId with
  | none => (server, CodePay.notFincOrderItem.get)
  | some _ =>
    match orderInfo.pid with
    | none => (server, CodePay.execFail.get)
    | some playerId =>
      let orderVO := createOrderVO orderInfo playerId
      match server.players.lookup playerId with
      | none =>
        if known playerId then
          ({ server with
              orderDAO := server.orderDAO.save orderVO, paid := server.paid ++ [orderVO.payment] },
            CodeSystem.suc.get)
        else (server, CodePay.notFindPlayer.get)
      | some player =>
        match sendOrderPrize cfgs player orderVO with
        | .error _ => (server, CodePay.execFail.get)
        | .ok (player, grant) =>
          (⟨server.players.insert playerId player,
            server.orderDAO.save { orderVO with prize := true },
            server.paid ++ [orderVO.payment], server.granted ++ [grant]⟩, CodeSystem.suc.get)

/-- `testBuy` by a loaded player; the order id is made of a new unique id. The order is saved
before its prize is granted, and not once more. -/
def testBuy (server : Server ι) (playerId : Int32) (orderItemId uuid : String) : Server ι :=
  match server.players.lookup playerId, cfgs orderItemId with
  | some player, some _ =>
    let orderVO : OrderVO := ⟨"order" ++ uuid, playerId, orderItemId, false, "order" ++ uuid⟩
    let server := { server with
      orderDAO := server.orderDAO.save orderVO, paid := server.paid ++ [orderVO.payment] }
    match sendOrderPrize cfgs player orderVO with
    | .error _ => server
    | .ok (player, grant) =>
      { server with
        players := server.players.insert playerId player, granted := server.granted ++ [grant] }
  | _, _ => server

/-- One round of `buildAsLoad`: the prize of an order that is not marked is granted, and the order
is counted. -/
def buildOrder (acc : PlayerVO × List (Grant ι)) (orderVO : OrderVO) :
    Except Thrown (PlayerVO × List (Grant ι)) := do
  let (player, granted) := acc
  let (player, granted) ←
    if ¬orderVO.prize then do
      let (player, grant) ← sendOrderPrize cfgs player orderVO
      pure (player, granted ++ [grant])
    else pure (player, granted)
  return (player.buy orderVO.itemId, granted)

/-- `buildAsLoad`: the counters of a player from the orders that were loaded, if any were. -/
def buildAsLoad (player : PlayerVO) : Option (List OrderVO) →
    Except Thrown (PlayerVO × List (Grant ι))
  | none => .ok (player, [])
  | some dbObjs => dbObjs.foldlM (buildOrder cfgs) (player, [])

/-- What a login loads of the orders: nothing if `loadPlayerChainMap` does not name the job. -/
def loadOrders (loads : Bool) (server : Server ι) (playerId : Int32) : Option (List OrderVO) :=
  if loads then some (server.orderDAO.getByRelationKey playerId) else none

/-- A login: a player that is not loaded is read and built from what is loaded of the orders. A
login that throws leaves no loaded player behind. -/
def login (loads : Bool) (server : Server ι) (playerId : Int32) : Server ι :=
  match server.players.lookup playerId with
  | some _ => server
  | none =>
    match buildAsLoad cfgs (PlayerVO.fresh playerId) (loadOrders loads server playerId) with
    | .error _ => server
    | .ok (player, granted) =>
      { server with
        players := server.players.insert playerId player, granted := server.granted ++ granted }

/-- A logout: the player is no longer loaded. -/
def logout (server : Server ι) (playerId : Int32) : Server ι :=
  { server with players := server.players.erase playerId }

end Methods

/-! ## Steps -/

/-- What can happen to the server. -/
inductive PayStep where
  | notify (orderInfo : OrderInfo)
  | testBuy (playerId : Int32) (orderItemId uuid : String)
  | login (playerId : Int32)
  | logout (playerId : Int32)
  /-- The job that writes what was saved to the database. -/
  | write
  deriving DecidableEq, Repr

namespace PayStep

variable {ι : Type}

/-- The server after a step. -/
def next (cfgs : CacheOrderItem ι) (known : Int32 → Bool) (loads : Bool) (server : Server ι) :
    PayStep → Server ι
  | .notify orderInfo => (dealPaySucOrder cfgs known server orderInfo).1
  | .testBuy playerId orderItemId uuid => Pay.testBuy cfgs server playerId orderItemId uuid
  | .login playerId => Pay.login cfgs loads server playerId
  | .logout playerId => Pay.logout server playerId
  | .write => { server with orderDAO := server.orderDAO.saveAndRemoveCache }

/-- The order number that a step brings. -/
def number? : PayStep → Option String
  | .notify orderInfo => some orderInfo.orderNumber
  | .testBuy _ _ uuid => some ("order" ++ uuid)
  | .login _ => none
  | .logout _ => none
  | .write => none

end PayStep

end SrgpGame.Pay
