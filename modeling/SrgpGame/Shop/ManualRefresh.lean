import SrgpGame.Func.CurrencyFunc
import SrgpGame.Shop.RuleOutcomes

set_option autoImplicit false

/-!
# Refreshing a shop by hand

A player pays for a refresh of a shop out of turn. The price depends on how often it was refreshed
so far. It is taken before the rule of the shop gives the new items: the listeners that are told of
the payment may throw, and so may the rule. And where there are more refreshes than prices, the
price is read behind the end of the array.

## Main definitions

* `ShopConfig`, `ShopVO`, `ManualState` — configurations, shops and the system.
* `getRefreshShopCost`, `manualRefresh` — the methods.
* `AllOrNothing` — what is required of a refresh.
* `Ready` — when it is met.

## Main results

* `run_manualRefresh_of_due` — what a refresh does that is not rejected at once.
* `allOrNothing_iff` — a refresh is all or nothing just if it is ready.

## Design notes

A configuration has the id under which it is found, and so has a shop. The listeners to the payment
may do anything to the player and the generator. Those of `EvtTypeShop.Refresh` only write logs.
The times and the version of a shop, which no refresh by hand reads, are left out.
-/

namespace SrgpGame.ShopRefresh

open EStateM (Returns Throws ofExcept zoom)
open Func (ExecState Lacks Rng bookedCur curFunc eventDepotBOImpl)
open Shop (ShopMap elementAt)
open Util (RandomState)

/-! ## Shops and players -/

/-- `ShopConfig`. -/
structure ShopConfig where
  /-- Where the shop is stored: in the system or with a player. -/
  placeHolder : Int32
  maxRefreshTimes : Int32
  refreshCosts : Option (List Int32)
  refreshRule : Option String
  refreshParams : List String
  deriving DecidableEq, Repr

/-- `isSystem`. -/
def ShopConfig.isSystem (config : ShopConfig) : Bool := config.placeHolder = 1

/-- `ShopVO`. -/
structure ShopVO where
  cid : Int32
  itemVOs : List ShopItemVO
  extraData : ShopExtraVO
  manualRefreshTimes : Int32

/-- A new shop. -/
def ShopVO.init (cid : Int32) : ShopVO := ⟨cid, [], .init, 0⟩

/-- The shops, with what a refresh reads of them. -/
abbrev ShopVOMap := ShopMap ShopVO ShopVO.cid

/-- A player, the shops, and what a refresh of them works on. -/
structure ManualState where
  player : Func.PlayerVO
  /-- The level of the player's guild. -/
  guildLevel : Option Int32
  /-- `SystemVO.getShopVOMap`. -/
  systemVO : ShopVOMap
  /-- `PlayerVO.getShopVOMap`. -/
  shopVOMap : ShopVOMap
  /-- `ShopBO.ShopItemGroup`. -/
  shopItemGroup : AList fun _ : Int32 => GroupShopItem
  random : RandomState

namespace ManualState

variable (s : ManualState)

/-- Where the shop of a configuration is stored. -/
def mapOf (config : ShopConfig) : ShopVOMap :=
  if config.isSystem then s.systemVO else s.shopVOMap

/-- Stores a shop. -/
def putShopVO (config : ShopConfig) (shopVO : ShopVO) : ManualState :=
  if config.isSystem then { s with systemVO := s.systemVO.put shopVO }
  else { s with shopVOMap := s.shopVOMap.put shopVO }

/-- A shop as it is now. -/
def current (config : ShopConfig) (shopVO : ShopVO) : ShopVO :=
  ((s.mapOf config).get shopVO.cid).getD shopVO

/-- The player and the generator, as a payment sees them. -/
def toExec : ExecState := ⟨s.player, s.random.rng⟩

/-- The state after a payment. -/
def ofExec (e : ExecState) (s : ManualState) : ManualState :=
  { s with player := e.player, random := { s.random with rng := e.rng } }

/-- What the rule of a shop works on. -/
def toRefresh (config : ShopConfig) (shopVO : ShopVO) : RefreshState :=
  ⟨s.shopItemGroup, s.random, (s.current config shopVO).extraData⟩

/-- The state after the rule of a shop. -/
def ofRefresh (config : ShopConfig) (shopVO : ShopVO) (t : RefreshState) (s : ManualState) :
    ManualState :=
  { s.putShopVO config { s.current config shopVO with extraData := t.extraVO } with
    shopItemGroup := t.shopItemGroup, random := t.random }

end ManualState

/-- The configurations, and what is known of texts. -/
structure Setup where
  texts : Texts
  cfgs : Func.Configs
  /-- The listeners to the events of the depot. -/
  happen : Func.DepotEvent → Func.Exec Unit
  /-- `CacheConfig.getCfg`, for shops. -/
  shop : Int32 → Option ShopConfig

variable (setup : Setup)

/-! ## A refresh -/

/-- The configuration of a shop. -/
def getCfg (shopId : Int32) : Except Thrown ShopConfig :=
  match setup.shop shopId with
  | none => CodeShop.shopNotFound.throwException
  | some config => .ok config

/-- `getShopVO`. -/
def getShopVO (s : ManualState) (shopId : Int32) (config : ShopConfig) :
    Except Thrown (Option ShopVO) :=
  s.systemVO.getPlaced config.placeHolder s.shopVOMap shopId

/-- `createShopVO`. -/
def createShopVO (shopId : Int32) (config : ShopConfig) : EStateM Thrown ManualState ShopVO := do
  if config.placeHolder = 1 ∨ config.placeHolder = 2 then
    modify fun s => s.putShopVO config (.init shopId)
    return .init shopId
  else throw .illegalArgument

/-- The shop, or a new one. -/
def obtainShopVO (shopId : Int32) (config : ShopConfig) : EStateM Thrown ManualState ShopVO := do
  match ← ofExcept fun s => getShopVO s shopId config with
  | some shopVO => return shopVO
  | none => createShopVO shopId config

/-- **`getRefreshShopCost`**: behind the last price the element is read that has the length of the
array as its index. -/
def getRefreshShopCost (shopVO : ShopVO) (config : ShopConfig) : Except Thrown Int32 :=
  match config.refreshCosts with
  | none => .error .nullPointer
  | some refCost =>
    if (refCost.length : ℤ) ≤ shopVO.manualRefreshTimes.toInt then
      elementAt refCost refCost.length
    else elementAt refCost shopVO.manualRefreshTimes.toInt

/-- `SyncFuncType.ChangeCur` with the price. -/
def charge (refCost : Int32) : EStateM Thrown ManualState Unit :=
  zoom ManualState.toExec ManualState.ofExec
    ((curFunc .tre (-refCost).toInt64).checkAndExec setup.cfgs
      (eventDepotBOImpl setup.cfgs setup.happen))

/-- The rule of a shop, on the system. -/
def refreshItems (config : ShopConfig) (shopVO : ShopVO) :
    EStateM Thrown ManualState (List ShopItemVO) := do
  let s ← get
  match config.refreshRule.bind ShopRefreshRule.ofType with
  | none => throw .nullPointer
  | some rule =>
    zoom (fun s => s.toRefresh config shopVO) (ManualState.ofRefresh config shopVO)
      (rule.refresh setup.texts ⟨s.guildLevel, config.refreshParams⟩)

/-- A shop with new items. -/
def ShopVO.setItems (shopVO : ShopVO) (items : List ShopItemVO) : ShopVO :=
  { shopVO with itemVOs := items, manualRefreshTimes := shopVO.manualRefreshTimes + 1 }

/-- **`manualRefresh`.** -/
def manualRefresh (shopId : Int32) : EStateM Thrown ManualState Unit := do
  let config ← ofExcept fun _ => getCfg setup shopId
  ofExcept fun _ => CodeShop.shopNotAllowManualRefresh.throwIfTrue
    (config.maxRefreshTimes ≤ 0 ∨ config.isSystem)
  let shopVO ← obtainShopVO shopId config
  ofExcept fun _ => CodeShop.shopMaxManualRefresh.throwIfTrue
    (config.maxRefreshTimes ≤ shopVO.manualRefreshTimes)
  let refCost ← ofExcept fun _ => getRefreshShopCost shopVO config
  charge setup refCost
  let items ← refreshItems setup config shopVO
  modify fun s => s.putShopVO config ((s.current config shopVO).setItems items)

/-! ## What is required -/

namespace ManualState

variable (s : ManualState) (shopId : Int32)

/-- A shop of the player, or a new one. -/
def shopOf : ShopVO := (s.shopVOMap.get shopId).getD (.init shopId)

/-- The items of a shop of the player. -/
def itemsOf : List ShopItemVO := (s.shopOf shopId).itemVOs

/-- How often a shop of the player was refreshed by hand. -/
def timesOf : Int32 := (s.shopOf shopId).manualRefreshTimes

/-- The currency that is paid with. -/
def balance : Int64 := getCurByType s.player.depotVO .tre

/-- What the rule of a shop of the player works on. -/
def refreshState : RefreshState := ⟨s.shopItemGroup, s.random, (s.shopOf shopId).extraData⟩

/-- The depot once a price is taken. -/
def charged (cost : Int32) : DepotVO := bookedCur s.player.depotVO .tre (-cost).toInt64

/-- What the listeners make of the player who has paid a price. -/
def told (cost : Int32) : EStateM.Result Thrown ExecState Unit :=
  (setup.happen (.currency CurrencyType.tre.getType s.balance (s.balance + (-cost).toInt64)
    (-cost).toInt64 false)).run ⟨s.player.setDepotVO (s.charged cost), s.random.rng⟩

end ManualState

/-- The currencies are as they were. -/
def SameCurrencies (player player' : Func.PlayerVO) : Prop :=
  ∀ type, getCurByType player'.depotVO type = getCurByType player.depotVO type

/-- **Nothing has changed** of the currencies, and of the items and the counts of all shops. -/
structure Untouched (s s' : ManualState) : Prop where
  currencies : SameCurrencies s.player s'.player
  systemVO : s'.systemVO = s.systemVO
  items : ∀ shopId, s'.itemsOf shopId = s.itemsOf shopId
  times : ∀ shopId, s'.timesOf shopId = s.timesOf shopId

/-- **A refresh that was paid for**: the price was taken once, the shop has the items that its rule
gives, and one more refresh. -/
structure Completed (s s' : ManualState) (shopId : Int32) (config : ShopConfig) (cost : Int32)
    (items : List ShopItemVO) : Prop where
  price : (config.refreshCosts.getD [])[min (s.timesOf shopId).toInt.toNat
    ((config.refreshCosts.getD []).length - 1)]? = some cost
  balance : (getCurByType (s.charged cost) .tre).toInt = s.balance.toInt - cost.toInt
  currencies : ∀ type, type ≠ .tre →
    getCurByType (s.charged cost) type = getCurByType s.player.depotVO type
  /-- The listeners are told of the payment, and then the rule is carried out. -/
  rule : ∃ e, s.told setup cost = .ok () e ∧ s'.player = e.player ∧
    ∃ rule t, config.refreshRule.bind ShopRefreshRule.ofType = some rule ∧
      (rule.refresh setup.texts ⟨s.guildLevel, config.refreshParams⟩).run
        ((ManualState.ofExec e s).refreshState shopId) = .ok items t
  items : s'.itemsOf shopId = items
  times : (s'.timesOf shopId).toInt = (s.timesOf shopId).toInt + 1
  others : ∀ shopId', shopId' ≠ shopId →
    s'.itemsOf shopId' = s.itemsOf shopId' ∧ s'.timesOf shopId' = s.timesOf shopId'
  systemVO : s'.systemVO = s.systemVO

/-- **All or nothing**: a refresh is completed, or it throws a code and nothing has changed. -/
def AllOrNothing (s : ManualState) (shopId : Int32) : Prop :=
  match (manualRefresh setup shopId).run s with
  | .ok _ s' => ∃ config cost items, setup.shop shopId = some config ∧
      Completed setup s s' shopId config cost items
  | .error e s' => IsLogic e ∧ Untouched s s'

/-! ## When it is met -/

/-- A shop that can be refreshed by hand, and was so fewer times than it may be. -/
structure Due (s : ManualState) (shopId : Int32) (config : ShopConfig) : Prop where
  shop_eq : setup.shop shopId = some config
  placed : config.placeHolder = 2
  below : 0 < config.maxRefreshTimes ∧ s.timesOf shopId < config.maxRefreshTimes

/-- There is a price for a number of refreshes. -/
def Priced (config : ShopConfig) (times cost : Int32) : Prop :=
  0 ≤ times.toInt ∧ (config.refreshCosts.getD [])[times.toInt.toNat]? = some cost

/-- The player can pay a price. -/
def Affords (s : ManualState) (cost : Int32) : Prop :=
  ¬Lacks s.player.depotVO .tre (-cost).toInt64

/-- The balance without a price, as it is. -/
def Exact (s : ManualState) (cost : Int32) : Prop :=
  (s.balance + (-cost).toInt64).toInt = s.balance.toInt - cost.toInt

/-- The rule of a shop returns. -/
def RuleReturns (s : ManualState) (shopId : Int32) (config : ShopConfig) : Prop :=
  ∃ rule, config.refreshRule.bind ShopRefreshRule.ofType = some rule ∧
    Refreshable setup.texts ⟨s.guildLevel, config.refreshParams⟩ (s.refreshState shopId) rule

/-- The rule of a shop throws a code. -/
def RuleRefuses (s : ManualState) (shopId : Int32) (config : ShopConfig) : Prop :=
  ∃ rule, config.refreshRule.bind ShopRefreshRule.ofType = some rule ∧
    Refuses setup.texts ⟨s.guildLevel, config.refreshParams⟩ (s.refreshState shopId) rule

/-- What must be true behind the payment of a price: the listeners to it return, the balance is
exact, and the rule returns. A listener or a rule that throws a code does no harm where the
currencies are as they were: where the price is zero, and the listeners leave them. -/
def Carried (s : ManualState) (shopId : Int32) (config : ShopConfig) (cost : Int32) : Prop :=
  match s.told setup cost with
  | .ok _ e => (RuleReturns setup (ManualState.ofExec e s) shopId config ∧ Exact s cost) ∨
      (RuleRefuses setup (ManualState.ofExec e s) shopId config ∧ SameCurrencies s.player e.player)
  | .error thrown e => IsLogic thrown ∧ SameCurrencies s.player e.player

/-- **A refresh is ready**: a shop that is due has a price, and if the player can pay it the refresh
can be carried out. -/
def Ready (s : ManualState) (shopId : Int32) : Prop :=
  ∀ config, Due setup s shopId config → ∃ cost, Priced config (s.timesOf shopId) cost ∧
    (Affords s cost → Carried setup s shopId config cost)

/-! ## The checks -/

variable {setup} {s : ManualState} {shopId : Int32} {config : ShopConfig}

/-- The state in which a shop is there. -/
def ManualState.opened (s : ManualState) (shopId : Int32) : ManualState :=
  { s with shopVOMap := s.shopVOMap.put (s.shopOf shopId) }

/-- What a refresh does behind its checks. -/
def payAndRefresh (setup : Setup) (config : ShopConfig) (shopVO : ShopVO) :
    EStateM Thrown ManualState Unit := do
  let refCost ← ofExcept fun _ => getRefreshShopCost shopVO config
  charge setup refCost
  let items ← refreshItems setup config shopVO
  modify fun s => s.putShopVO config ((s.current config shopVO).setItems items)

namespace ManualState

lemma cid_shopOf : (s.shopOf shopId).cid = shopId := by
  unfold shopOf
  cases hget : s.shopVOMap.get shopId with
  | none => rfl
  | some shopVO => exact s.shopVOMap.cid_of_get hget

/-- A shop that is stored is found, and the other ones stay. -/
lemma shopOf_of_put {s' : ManualState} {shopVO : ShopVO}
    (h : s'.shopVOMap = s.shopVOMap.put shopVO) :
    s'.shopOf shopId = if shopId = shopVO.cid then shopVO else s.shopOf shopId := by
  unfold shopOf
  rw [h, ShopMap.get_put]
  split_ifs <;> rfl

@[simp] lemma shopOf_opened (shopId' : Int32) :
    (s.opened shopId).shopOf shopId' = s.shopOf shopId' := by
  rw [shopOf_of_put (s := s) rfl, cid_shopOf]
  split_ifs with h
  · rw [h]
  · rfl

lemma get_opened : (s.opened shopId).shopVOMap.get shopId = some (s.shopOf shopId) := by
  rw [opened, ShopMap.get_put, if_pos cid_shopOf.symm]

end ManualState

/-- A shop that was there is there. -/
lemma opened_of_get {shopVO : ShopVO} (h : s.shopVOMap.get shopId = some shopVO) :
    s.opened shopId = s := by
  have hshop : s.shopOf shopId = shopVO := by rw [ManualState.shopOf, h, Option.getD_some]
  have hcid : shopVO.cid = shopId := s.shopVOMap.cid_of_get h
  have hmap : s.shopVOMap.put shopVO = s.shopVOMap := by
    refine ShopMap.ext (funext fun shopId' => ?_)
    rw [ShopMap.get_put, hcid]
    split_ifs with hid
    · rw [hid, h]
    · rfl
  rw [ManualState.opened, hshop, hmap]

lemma untouched_opened : Untouched s (s.opened shopId) where
  currencies _ := rfl
  systemVO := rfl
  items := fun shopId' => congrArg ShopVO.itemVOs (ManualState.shopOf_opened shopId')
  times := fun shopId' => congrArg ShopVO.manualRefreshTimes (ManualState.shopOf_opened shopId')

lemma isSystem_of_placed (h : config.placeHolder = 2) : config.isSystem = false := by
  rw [ShopConfig.isSystem, h]
  rfl

/-- The shop is got, or a new one is stored. -/
lemma run_obtainShopVO (h : config.placeHolder = 2) :
    (obtainShopVO shopId config).run s = .ok (s.shopOf shopId) (s.opened shopId) := by
  have hget : getShopVO s shopId config = .ok (s.shopVOMap.get shopId) := by
    rw [getShopVO, ShopMap.getPlaced, h]
    rfl
  unfold obtainShopVO
  rw [EStateM.run_bind, EStateM.run_ofExcept, hget]
  cases hshop : s.shopVOMap.get shopId with
  | some shopVO =>
    rw [opened_of_get hshop, ManualState.shopOf, hshop]
    rfl
  | none =>
    have hinit : s.shopOf shopId = .init shopId := by rw [ManualState.shopOf, hshop]; rfl
    rw [ManualState.opened, hinit]
    simp only [createShopVO, h, or_true, if_true]
    rw [EStateM.run_bind]
    simp only [EStateM.run_modify, ManualState.putShopVO, isSystem_of_placed h]
    rfl

/-- **A refresh that is not rejected at once** pays and refreshes. -/
lemma run_manualRefresh_of_due (h : Due setup s shopId config) :
    (manualRefresh setup shopId).run s =
      (payAndRefresh setup config (s.shopOf shopId)).run (s.opened shopId) := by
  have hcfg : getCfg setup shopId = .ok config := by rw [getCfg, h.shop_eq]
  have hallowed : ¬(config.maxRefreshTimes ≤ 0 ∨ config.isSystem = true) := by
    rw [isSystem_of_placed h.placed]
    rintro (hle | hsystem)
    · exact absurd h.below.1 (Int32.not_lt.mpr hle)
    · cases hsystem
  have hbelow : ¬config.maxRefreshTimes ≤ (s.shopOf shopId).manualRefreshTimes :=
    Int32.not_le.mpr h.below.2
  unfold manualRefresh
  rw [EStateM.run_bind, EStateM.run_ofExcept, hcfg]
  simp only
  rw [EStateM.run_bind, EStateM.run_ofExcept, ICode.throwIfTrue, if_neg hallowed]
  simp only
  rw [EStateM.run_bind, run_obtainShopVO h.placed]
  simp only
  rw [EStateM.run_bind, EStateM.run_ofExcept, ICode.throwIfTrue, if_neg hbelow]
  rfl

/-- **Any other refresh** throws a code and changes nothing. -/
lemma run_manualRefresh_of_not_due (h : ∀ config, ¬Due setup s shopId config) :
    ∃ code s', (manualRefresh setup shopId).run s = .error (.logic code) s' ∧ Untouched s s' := by
  have hsame : Untouched s s := ⟨fun _ => rfl, rfl, fun _ => rfl, fun _ => rfl⟩
  unfold manualRefresh
  rw [EStateM.run_bind, EStateM.run_ofExcept, getCfg]
  cases hshop : setup.shop shopId with
  | none => exact ⟨_, s, rfl, hsame⟩
  | some config =>
    simp only
    rw [EStateM.run_bind, EStateM.run_ofExcept, ICode.throwIfTrue]
    by_cases hallowed : config.maxRefreshTimes ≤ 0 ∨ config.isSystem = true
    · rw [if_pos hallowed]
      exact ⟨_, s, rfl, hsame⟩
    · rw [if_neg hallowed]
      simp only
      by_cases hplaced : config.placeHolder = 2
      · rw [EStateM.run_bind, run_obtainShopVO hplaced]
        simp only
        have hmax : config.maxRefreshTimes ≤ (s.shopOf shopId).manualRefreshTimes := by
          refine Int32.not_lt.mp fun hbelow => h config ⟨hshop, hplaced, ?_, hbelow⟩
          exact Int32.not_le.mp fun hle => hallowed (.inl hle)
        rw [EStateM.run_bind, EStateM.run_ofExcept, ICode.throwIfTrue, if_pos hmax]
        exact ⟨_, _, rfl, untouched_opened⟩
      · have hone : config.placeHolder ≠ 1 := by
          intro hone
          exact hallowed (.inr (decide_eq_true hone))
        have hget : getShopVO s shopId config =
            .error (.logic CodeShop.shopUnknownPlaceHolder.code) := by
          rw [getShopVO, ShopMap.getPlaced, if_neg hone, if_neg hplaced]
        rw [EStateM.run_bind, obtainShopVO, EStateM.run_bind, EStateM.run_ofExcept, hget]
        exact ⟨_, s, rfl, hsame⟩

/-! ## The payment -/

lemma getRefreshShopCost_eq_ok {shopVO : ShopVO} {cost : Int32} :
    getRefreshShopCost shopVO config = .ok cost ↔
      Priced config shopVO.manualRefreshTimes cost := by
  unfold getRefreshShopCost Priced
  cases config.refreshCosts with
  | none => simp
  | some refCost =>
    simp only [Option.getD_some]
    by_cases hbehind : (refCost.length : ℤ) ≤ shopVO.manualRefreshTimes.toInt
    · rw [if_pos hbehind, elementAt_eq_ok]
      constructor
      · rintro ⟨-, hcost⟩
        rw [Int.toNat_natCast, List.getElem?_eq_none le_rfl] at hcost
        cases hcost
      · rintro ⟨hneg, hcost⟩
        rw [List.getElem?_eq_none (by omega)] at hcost
        cases hcost
    · rw [if_neg hbehind, elementAt_eq_ok]

lemma unchecked_of_getRefreshShopCost {shopVO : ShopVO} {e : Thrown}
    (h : getRefreshShopCost shopVO config = .error e) : Unchecked e := by
  have helement : ∀ array i, elementAt array i = .error e → Unchecked e := by
    intro array i he
    unfold elementAt at he
    split at he
    · obtain rfl := Except.error.inj he
      exact unchecked_indexOutOfBounds
    · cases he
  unfold getRefreshShopCost at h
  cases hcosts : config.refreshCosts with
  | none =>
    rw [hcosts] at h
    obtain rfl := Except.error.inj h
    exact unchecked_nullPointer
  | some refCost =>
    rw [hcosts] at h
    simp only at h
    split_ifs at h
    · exact helement _ _ h
    · exact helement _ _ h

/-- A price is not below the least long. -/
lemma toInt_price_ne (cost : Int32) : (-cost).toInt64.toInt ≠ -2 ^ 63 := by
  have hle := (-cost).le_toInt
  rw [Int32.toInt_toInt64]
  omega

variable (setup) in
/-- A price that the player cannot pay is not taken. -/
lemma run_charge_of_not_affords {cost : Int32} (h : ¬Affords s cost) :
    ∃ code, (charge setup cost).run s = .error (.logic code) s := by
  have hlacks : Lacks s.toExec.player.depotVO .tre (-cost).toInt64 := not_not.mp h
  rw [charge, EStateM.run_zoom, Func.run_checkAndExec_curFunc (by decide), if_pos hlacks]
  exact ⟨_, rfl⟩

variable (setup) in
/-- A price that the player can pay is taken, and the listeners are told. -/
lemma run_charge_of_affords {cost : Int32} (h : Affords s cost) :
    (charge setup cost).run s =
      match s.told setup cost with
      | .ok _ e => .ok () (ManualState.ofExec e s)
      | .error thrown e => .error thrown (ManualState.ofExec e s) := by
  have htre : CurrencyType.tre ≠ .null := by decide
  have hrun := Func.run_checkAndExec_curFunc_event htre setup.cfgs setup.happen (s := s.toExec) h
    (toInt_price_ne cost)
  have htold : _ = s.told setup cost := hrun
  rw [charge, EStateM.run_zoom, htold]
  cases s.told setup cost with
  | ok a e => rfl
  | error thrown e => rfl

lemma getCurByType_charged (cost : Int32) (type : CurrencyType) :
    getCurByType (s.charged cost) type =
      if type = .tre then s.balance + (-cost).toInt64 else getCurByType s.player.depotVO type :=
  Func.getCurByType_bookedCur ..

/-! ## The new items -/

section Items

variable {shopVO : ShopVO}

lemma current_of_get (hplaced : config.placeHolder = 2)
    (hget : s.shopVOMap.get shopVO.cid = some shopVO) : s.current config shopVO = shopVO := by
  rw [ManualState.current, ManualState.mapOf, isSystem_of_placed hplaced]
  simp only [Bool.false_eq_true, if_false, hget, Option.getD_some]

/-- Without a rule. -/
lemma run_refreshItems_of_none (h : config.refreshRule.bind ShopRefreshRule.ofType = none) :
    (refreshItems setup config shopVO).run s = .error .nullPointer s := by
  unfold refreshItems
  rw [EStateM.run_bind, EStateM.run_get]
  simp only [h]
  rfl

section Rule

variable {rule : ShopRefreshRule} {t : RefreshState}
  (hrule : config.refreshRule.bind ShopRefreshRule.ofType = some rule)
  (hplaced : config.placeHolder = 2) (hget : s.shopVOMap.get shopVO.cid = some shopVO)

include hrule hplaced hget

/-- A rule that returns. -/
lemma run_refreshItems_of_ok {items : List ShopItemVO}
    (h : (rule.refresh setup.texts ⟨s.guildLevel, config.refreshParams⟩).run
      ⟨s.shopItemGroup, s.random, shopVO.extraData⟩ = .ok items t) :
    (refreshItems setup config shopVO).run s = .ok items (s.ofRefresh config shopVO t) := by
  unfold refreshItems
  rw [EStateM.run_bind, EStateM.run_get]
  simp only [hrule]
  rw [EStateM.run_zoom, ManualState.toRefresh, current_of_get hplaced hget, h]

/-- A rule that throws. -/
lemma run_refreshItems_of_error {e : Thrown}
    (h : (rule.refresh setup.texts ⟨s.guildLevel, config.refreshParams⟩).run
      ⟨s.shopItemGroup, s.random, shopVO.extraData⟩ = .error e t) :
    (refreshItems setup config shopVO).run s = .error e (s.ofRefresh config shopVO t) := by
  unfold refreshItems
  rw [EStateM.run_bind, EStateM.run_get]
  simp only [hrule]
  rw [EStateM.run_zoom, ManualState.toRefresh, current_of_get hplaced hget, h]

end Rule

lemma putShopVO_of_placed (hplaced : config.placeHolder = 2) (shopVO : ShopVO) :
    s.putShopVO config shopVO = { s with shopVOMap := s.shopVOMap.put shopVO } := by
  rw [ManualState.putShopVO, isSystem_of_placed hplaced]
  rfl

/-- The rule changes the extra data of the shop. -/
lemma ofRefresh_of_placed (hplaced : config.placeHolder = 2)
    (hget : s.shopVOMap.get shopVO.cid = some shopVO) (t : RefreshState) :
    s.ofRefresh config shopVO t =
      { s with
        shopVOMap := s.shopVOMap.put { shopVO with extraData := t.extraVO }
        shopItemGroup := t.shopItemGroup
        random := t.random } := by
  rw [ManualState.ofRefresh, current_of_get hplaced hget, putShopVO_of_placed hplaced]

/-- The shop in a state that stores it. -/
lemma shopOf_of_get (hget : s.shopVOMap.get shopVO.cid = some shopVO) :
    s.shopOf shopVO.cid = shopVO := by
  rw [ManualState.shopOf, hget, Option.getD_some]

/-- **The rule changes** no items and no counts. -/
lemma untouched_ofRefresh (hplaced : config.placeHolder = 2)
    (hget : s.shopVOMap.get shopVO.cid = some shopVO) (t : RefreshState) :
    Untouched s (s.ofRefresh config shopVO t) := by
  rw [ofRefresh_of_placed hplaced hget]
  refine ⟨fun _ => rfl, rfl, fun shopId => ?_, fun shopId => ?_⟩
  · rw [ManualState.itemsOf, ManualState.shopOf_of_put (s := s) rfl]
    split_ifs with hid
    · rw [hid, ManualState.itemsOf, shopOf_of_get hget]
    · rfl
  · rw [ManualState.timesOf, ManualState.shopOf_of_put (s := s) rfl]
    split_ifs with hid
    · rw [hid, ManualState.timesOf, shopOf_of_get hget]
    · rfl

/-- **The shops at the end**: the shop has the items, and one more refresh. -/
lemma shopOf_putShopVO (hplaced : config.placeHolder = 2)
    (hget : s.shopVOMap.get shopVO.cid = some shopVO) (t : RefreshState)
    (items : List ShopItemVO) (shopId : Int32) :
    ((s.ofRefresh config shopVO t).putShopVO config
      (((s.ofRefresh config shopVO t).current config shopVO).setItems items)).shopOf shopId =
        if shopId = shopVO.cid then { shopVO with extraData := t.extraVO }.setItems items
        else s.shopOf shopId := by
  have hcurrent : (s.ofRefresh config shopVO t).current config shopVO =
      { shopVO with extraData := t.extraVO } := by
    rw [ofRefresh_of_placed hplaced hget, ManualState.current, ManualState.mapOf,
      isSystem_of_placed hplaced]
    simp only [Bool.false_eq_true, if_false, ShopMap.get_put, if_true, Option.getD_some]
  rw [hcurrent, putShopVO_of_placed hplaced,
    ManualState.shopOf_of_put (s := s.ofRefresh config shopVO t) rfl]
  have hcid : (ShopVO.setItems { shopVO with extraData := t.extraVO } items).cid = shopVO.cid := rfl
  rw [hcid]
  split_ifs with hid
  · rfl
  · rw [ofRefresh_of_placed hplaced hget, ManualState.shopOf_of_put (s := s) rfl, if_neg hid]

end Items

/-! ## When a refresh is all or nothing -/

lemma Untouched.trans {s' s'' : ManualState} (h : Untouched s s') (h' : Untouched s' s'') :
    Untouched s s'' where
  currencies := fun type => (h'.currencies type).trans (h.currencies type)
  systemVO := h'.systemVO.trans h.systemVO
  items := fun shopId => (h'.items shopId).trans (h.items shopId)
  times := fun shopId => (h'.times shopId).trans (h.times shopId)

lemma allOrNothing_of_run_eq_error {e : Thrown} {s' : ManualState}
    (h : (manualRefresh setup shopId).run s = .error e s') :
    AllOrNothing setup s shopId ↔ IsLogic e ∧ Untouched s s' := by
  rw [AllOrNothing, h]

lemma allOrNothing_of_run_eq_ok {s' : ManualState}
    (h : (manualRefresh setup shopId).run s = .ok () s') :
    AllOrNothing setup s shopId ↔ ∃ config cost items, setup.shop shopId = some config ∧
      Completed setup s s' shopId config cost items := by
  rw [AllOrNothing, h]

/-- Behind a payment the items and the counts are as they were. -/
lemma untouched_ofExec {e : ExecState} :
    Untouched s (ManualState.ofExec e (s.opened shopId)) ↔ SameCurrencies s.player e.player := by
  refine ⟨fun h => h.currencies, fun h => ⟨h, rfl, fun shopId' => ?_, fun shopId' => ?_⟩⟩
  · exact untouched_opened.items shopId'
  · exact untouched_opened.times shopId'

lemma get_opened_shopOf :
    (s.opened shopId).shopVOMap.get (s.shopOf shopId).cid = some (s.shopOf shopId) := by
  rw [ManualState.cid_shopOf, ManualState.get_opened]

lemma Due.config_eq {config' : ShopConfig} (h : Due setup s shopId config)
    (h' : Due setup s shopId config') : config = config' :=
  Option.some.inj (h.shop_eq.symm.trans h'.shop_eq)

lemma Priced.cost_eq {times cost cost' : Int32} (h : Priced config times cost)
    (h' : Priced config times cost') : cost = cost' :=
  Option.some.inj (h.2.symm.trans h'.2)

/-- One more refresh is counted exactly. -/
lemma Due.toInt_times_add_one (h : Due setup s shopId config) :
    (s.timesOf shopId + 1).toInt = (s.timesOf shopId).toInt + 1 :=
  Int32.toInt_succ_of_lt h.below.2

/-- A price is the one that is required. -/
lemma Priced.price {times cost : Int32} (h : Priced config times cost) :
    (config.refreshCosts.getD [])[min times.toInt.toNat
      ((config.refreshCosts.getD []).length - 1)]? = some cost := by
  obtain ⟨hlt, -⟩ := List.getElem?_eq_some_iff.mp h.2
  rw [min_eq_left (by omega)]
  exact h.2

/-- A price that is taken, with listeners that return. -/
lemma run_charge_of_told {cost : Int32} {e : ExecState} (hpays : Affords s cost)
    (htold : s.told setup cost = .ok () e) :
    (charge setup cost).run (s.opened shopId) =
      .ok () (ManualState.ofExec e (s.opened shopId)) := by
  have hcharge := run_charge_of_affords setup (s := s.opened shopId) hpays
  have htold' : (s.opened shopId).told setup cost = .ok () e := htold
  rwa [htold'] at hcharge

section Due

variable (hdue : Due setup s shopId config)

include hdue

/-- Without a price an unchecked exception is thrown. -/
lemma not_allOrNothing_of_not_priced (h : ∀ cost, ¬Priced config (s.timesOf shopId) cost) :
    ¬AllOrNothing setup s shopId := by
  cases hcost : getRefreshShopCost (s.shopOf shopId) config with
  | ok cost => exact absurd (getRefreshShopCost_eq_ok.mp hcost) (h cost)
  | error e =>
    have hrun : (manualRefresh setup shopId).run s = .error e (s.opened shopId) := by
      rw [run_manualRefresh_of_due hdue, payAndRefresh, EStateM.run_bind, EStateM.run_ofExcept,
        hcost]
    rw [allOrNothing_of_run_eq_error hrun]
    exact fun h' => unchecked_of_getRefreshShopCost hcost h'.1

variable {cost : Int32} (hpriced : Priced config (s.timesOf shopId) cost)

include hpriced

/-- A player who cannot pay gets a code. -/
lemma allOrNothing_of_not_affords (h : ¬Affords s cost) : AllOrNothing setup s shopId := by
  have hcost : getRefreshShopCost (s.shopOf shopId) config = .ok cost :=
    getRefreshShopCost_eq_ok.mpr hpriced
  obtain ⟨code, hcharge⟩ := run_charge_of_not_affords setup (s := s.opened shopId) h
  have hrun : (manualRefresh setup shopId).run s = .error (.logic code) (s.opened shopId) := by
    rw [run_manualRefresh_of_due hdue, payAndRefresh, EStateM.run_bind, EStateM.run_ofExcept, hcost]
    simp only [EStateM.run_bind, hcharge]
  exact (allOrNothing_of_run_eq_error hrun).mpr ⟨⟨code, rfl⟩, untouched_opened⟩

/-- Behind the payment the rule gives the items. -/
lemma run_manualRefresh_of_charge {paid : ManualState}
    (hcharge : (charge setup cost).run (s.opened shopId) = .ok () paid) :
    (manualRefresh setup shopId).run s =
      match (refreshItems setup config (s.shopOf shopId)).run paid with
      | .ok items s' => .ok () (s'.putShopVO config
          ((s'.current config (s.shopOf shopId)).setItems items))
      | .error e s' => .error e s' := by
  have hcost : getRefreshShopCost (s.shopOf shopId) config = .ok cost :=
    getRefreshShopCost_eq_ok.mpr hpriced
  rw [run_manualRefresh_of_due hdue, payAndRefresh, EStateM.run_bind, EStateM.run_ofExcept, hcost]
  simp only
  rw [EStateM.run_bind, hcharge]
  simp only
  rw [EStateM.run_bind]
  cases (refreshItems setup config (s.shopOf shopId)).run paid with
  | ok items s' => rfl
  | error e s' => rfl

/-- **Listeners that throw** leave what they have made of the player. -/
lemma allOrNothing_of_told_eq_error (hpays : Affords s cost) {thrown : Thrown} {e : ExecState}
    (htold : s.told setup cost = .error thrown e) :
    AllOrNothing setup s shopId ↔ IsLogic thrown ∧ SameCurrencies s.player e.player := by
  have hcost : getRefreshShopCost (s.shopOf shopId) config = .ok cost :=
    getRefreshShopCost_eq_ok.mpr hpriced
  have hcharge := run_charge_of_affords setup (s := s.opened shopId) hpays
  have htold' : (s.opened shopId).told setup cost = .error thrown e := htold
  rw [htold'] at hcharge
  have hrun : (manualRefresh setup shopId).run s =
      .error thrown (ManualState.ofExec e (s.opened shopId)) := by
    rw [run_manualRefresh_of_due hdue, payAndRefresh, EStateM.run_bind, EStateM.run_ofExcept, hcost]
    simp only [EStateM.run_bind, hcharge]
  rw [allOrNothing_of_run_eq_error hrun, untouched_ofExec]

section Charged

variable (hpays : Affords s cost) {e : ExecState} (htold : s.told setup cost = .ok () e)
  {rule : ShopRefreshRule} (hrule : config.refreshRule.bind ShopRefreshRule.ofType = some rule)
  {t : RefreshState}

include hpays htold hrule

/-- **The end of a refresh** whose rule gives items: the shop has the items and one more refresh,
and the other shops are as they were. -/
lemma exists_run_of_ok {items : List ShopItemVO}
    (hrefresh : (rule.refresh setup.texts ⟨s.guildLevel, config.refreshParams⟩).run
      ((ManualState.ofExec e s).refreshState shopId) = .ok items t) :
    ∃ s', (manualRefresh setup shopId).run s = .ok () s' ∧
      s'.player = e.player ∧ s'.systemVO = s.systemVO ∧
      ∀ shopId', s'.shopOf shopId' = if shopId' = shopId then
        { s.shopOf shopId with extraData := t.extraVO }.setItems items else s.shopOf shopId' := by
  have hget : (ManualState.ofExec e (s.opened shopId)).shopVOMap.get (s.shopOf shopId).cid =
      some (s.shopOf shopId) := get_opened_shopOf
  have hrun := run_manualRefresh_of_charge hdue hpriced (run_charge_of_told hpays htold)
  rw [run_refreshItems_of_ok hrule hdue.placed hget hrefresh] at hrun
  refine ⟨_, hrun, ?_, ?_, fun shopId' => ?_⟩
  · rw [putShopVO_of_placed hdue.placed, ofRefresh_of_placed hdue.placed hget]
    rfl
  · rw [putShopVO_of_placed hdue.placed, ofRefresh_of_placed hdue.placed hget]
    rfl
  · have hcid : (s.shopOf shopId).cid = shopId := ManualState.cid_shopOf
    refine (shopOf_putShopVO hdue.placed hget t items shopId').trans ?_
    split_ifs with hid hid' hid'
    · rfl
    · exact absurd (hid.trans hcid) hid'
    · exact absurd (hid'.trans hcid.symm) hid
    · exact ManualState.shopOf_opened shopId'

/-- **A rule that gives items**, after the payment. -/
lemma allOrNothing_of_ok {items : List ShopItemVO}
    (hrefresh : (rule.refresh setup.texts ⟨s.guildLevel, config.refreshParams⟩).run
      ((ManualState.ofExec e s).refreshState shopId) = .ok items t) :
    AllOrNothing setup s shopId ↔ Exact s cost := by
  obtain ⟨s', hrun, hplayer, hsystem, hshops⟩ :=
    exists_run_of_ok hdue hpriced hpays htold hrule hrefresh
  rw [allOrNothing_of_run_eq_ok hrun]
  have hshop : s'.shopOf shopId =
      { s.shopOf shopId with extraData := t.extraVO }.setItems items := by
    rw [hshops, if_pos rfl]
  have hprice := hpriced.price
  have hbalance : getCurByType (s.charged cost) .tre = s.balance + (-cost).toInt64 := by
    rw [getCurByType_charged, if_pos rfl]
  constructor
  · rintro ⟨config', cost', items', hconfig, hdone⟩
    obtain rfl : config = config' := Option.some.inj (hdue.shop_eq.symm.trans hconfig)
    obtain rfl : cost = cost' := Option.some.inj (hprice.symm.trans hdone.price)
    have hpaid := hdone.balance
    rw [hbalance] at hpaid
    exact hpaid
  · intro hexact
    refine ⟨config, cost, items, hdue.shop_eq, hprice, ?_, fun type htype => ?_,
      ⟨e, htold, hplayer, rule, t, hrule, hrefresh⟩, ?_, ?_, ?_, hsystem⟩
    · rw [hbalance]
      exact hexact
    · rw [getCurByType_charged, if_neg htype]
    · rw [ManualState.itemsOf, hshop]
      rfl
    · rw [ManualState.timesOf, hshop]
      exact hdue.toInt_times_add_one
    · intro shopId' hne
      rw [ManualState.itemsOf, ManualState.timesOf, hshops, if_neg hne]
      exact ⟨rfl, rfl⟩

/-- **A rule that throws**, after the payment: nothing has changed just if the currencies are as
they were. -/
lemma allOrNothing_of_error {thrown : Thrown}
    (hrefresh : (rule.refresh setup.texts ⟨s.guildLevel, config.refreshParams⟩).run
      ((ManualState.ofExec e s).refreshState shopId) = .error thrown t) :
    AllOrNothing setup s shopId ↔ IsLogic thrown ∧ SameCurrencies s.player e.player := by
  have hget : (ManualState.ofExec e (s.opened shopId)).shopVOMap.get (s.shopOf shopId).cid =
      some (s.shopOf shopId) := get_opened_shopOf
  have hrun := run_manualRefresh_of_charge hdue hpriced (run_charge_of_told hpays htold)
  rw [run_refreshItems_of_error hrule hdue.placed hget hrefresh] at hrun
  rw [allOrNothing_of_run_eq_error hrun]
  refine and_congr_right fun _ => ⟨fun hsame => ?_, fun hsame => ?_⟩
  · have hcurrencies := hsame.currencies
    rw [ofRefresh_of_placed hdue.placed hget] at hcurrencies
    exact hcurrencies
  · exact (untouched_ofExec.mpr hsame).trans (untouched_ofRefresh hdue.placed hget t)

end Charged

/-- **Where the player can pay**, a refresh is all or nothing just if it can be carried out. -/
lemma allOrNothing_iff_of_affords (hpays : Affords s cost) :
    AllOrNothing setup s shopId ↔ Carried setup s shopId config cost := by
  unfold Carried
  cases htold : s.told setup cost with
  | error thrown e => exact allOrNothing_of_told_eq_error hdue hpriced hpays htold
  | ok _ e =>
    simp only
    cases hrule : config.refreshRule.bind ShopRefreshRule.ofType with
    | none =>
      have hrun := run_manualRefresh_of_charge hdue hpriced (run_charge_of_told hpays htold)
      rw [run_refreshItems_of_none hrule] at hrun
      rw [allOrNothing_of_run_eq_error hrun]
      constructor
      · exact fun hlogic => absurd hlogic.1 unchecked_nullPointer
      · rintro (⟨⟨rule, hsome, -⟩, -⟩ | ⟨⟨rule, hsome, -⟩, -⟩)
        · exact absurd (hrule.symm.trans hsome) nofun
        · exact absurd (hrule.symm.trans hsome) nofun
    | some rule =>
      have hreturns : RuleReturns setup (ManualState.ofExec e s) shopId config ↔
          Refreshable setup.texts ⟨s.guildLevel, config.refreshParams⟩
            ((ManualState.ofExec e s).refreshState shopId) rule := by
        simp only [RuleReturns, hrule, Option.some.injEq, exists_eq_left', ManualState.ofExec]
      have hrefuses : RuleRefuses setup (ManualState.ofExec e s) shopId config ↔
          Refuses setup.texts ⟨s.guildLevel, config.refreshParams⟩
            ((ManualState.ofExec e s).refreshState shopId) rule := by
        simp only [RuleRefuses, hrule, Option.some.injEq, exists_eq_left', ManualState.ofExec]
      rw [hreturns, hrefuses, ← returns_refresh_iff, ← throws_refresh_iff]
      cases hrefresh : (rule.refresh setup.texts ⟨s.guildLevel, config.refreshParams⟩).run
        ((ManualState.ofExec e s).refreshState shopId) with
      | ok items t =>
        rw [allOrNothing_of_ok hdue hpriced hpays htold hrule hrefresh]
        constructor
        · exact fun hexact => .inl ⟨⟨items, t, hrefresh⟩, hexact⟩
        · rintro (⟨-, hexact⟩ | ⟨⟨thrown, t', hrun, -⟩, -⟩)
          · exact hexact
          · exact absurd (hrefresh.symm.trans hrun) nofun
      | error thrown t =>
        rw [allOrNothing_of_error hdue hpriced hpays htold hrule hrefresh]
        constructor
        · exact fun ⟨hlogic, hsame⟩ => .inr ⟨⟨thrown, t, hrefresh, hlogic⟩, hsame⟩
        · rintro (⟨⟨items, t', hrun⟩, -⟩ | ⟨⟨thrown', t', hrun, hlogic⟩, hsame⟩)
          · exact absurd (hrefresh.symm.trans hrun) nofun
          · obtain ⟨rfl, -⟩ := EStateM.Result.error.inj (hrefresh.symm.trans hrun)
            exact ⟨hlogic, hsame⟩

end Due

variable (setup s shopId)

/-- **A refresh is all or nothing** just if it is ready. -/
theorem allOrNothing_iff : AllOrNothing setup s shopId ↔ Ready setup s shopId := by
  by_cases hdue : ∃ config, Due setup s shopId config
  · obtain ⟨config, hdue⟩ := hdue
    by_cases hpriced : ∃ cost, Priced config (s.timesOf shopId) cost
    · obtain ⟨cost, hpriced⟩ := hpriced
      have hready : Ready setup s shopId ↔
          (Affords s cost → Carried setup s shopId config cost) := by
        constructor
        · intro hready
          obtain ⟨cost', hpriced', hrest⟩ := hready config hdue
          exact hpriced.cost_eq hpriced' ▸ hrest
        · intro hrest config' hdue'
          obtain rfl := hdue.config_eq hdue'
          exact ⟨cost, hpriced, hrest⟩
      rw [hready]
      by_cases hpays : Affords s cost
      · rw [allOrNothing_iff_of_affords hdue hpriced hpays]
        exact ⟨fun h _ => h, fun h => h hpays⟩
      · exact iff_of_true (allOrNothing_of_not_affords hdue hpriced hpays)
          fun h => absurd h hpays
    · refine iff_of_false (not_allOrNothing_of_not_priced hdue (not_exists.mp hpriced)) fun h => ?_
      obtain ⟨cost, hcost, -⟩ := h config hdue
      exact hpriced ⟨cost, hcost⟩
  · obtain ⟨code, s', hrun, hsame⟩ := run_manualRefresh_of_not_due (not_exists.mp hdue)
    exact iff_of_true ((allOrNothing_of_run_eq_error hrun).mpr ⟨⟨code, rfl⟩, hsame⟩)
      fun config h => absurd ⟨config, h⟩ hdue

/-! ## Example -/

/-- A shop with one price that can be refreshed twice. Its rule has no parameters. -/
def onePrice : ShopConfig := ⟨2, 2, some [10], some ShopRefreshRule.fix.getType, []⟩

/-- All shops are like it, and nothing is done on an event. -/
def onePriceSetup : Setup where
  texts := ⟨fun _ => none, fun _ _ => false⟩
  cfgs := ⟨GoodsTable.ofList [], fun _ => none, fun _ => none⟩
  happen := fun _ => pure ()
  shop := fun _ => some onePrice

/-- A player with 100 of the currency, whose first shop was refreshed so many times. -/
def visitor (times : Int32) : ManualState where
  player := (Func.PlayerVO.init ⟨0, 0, 0⟩).setDepotVO
    { DepotVO.init with currencyMap := AList.insert CurrencyType.tre.getType 100 ∅ }
  guildLevel := none
  systemVO := .empty
  shopVOMap := ShopMap.empty.put { ShopVO.init 1 with manualRefreshTimes := times }
  shopItemGroup := ∅
  random := ⟨.empty, ⟨fun _ => 0⟩⟩

/-- At first the price is taken and the rule throws, and then the price is behind the array. -/
theorem not_allOrNothing_visitor : ¬AllOrNothing onePriceSetup (visitor 0) 1 ∧
    ¬AllOrNothing onePriceSetup (visitor 1) 1 := by
  have hdue : ∀ times : Int32, times < 2 → Due onePriceSetup (visitor times) 1 onePrice :=
    fun times hlt => ⟨rfl, rfl, by decide, hlt⟩
  constructor
  · have hpriced : Priced onePrice ((visitor 0).timesOf 1) 10 := ⟨by decide, rfl⟩
    have hpays : Affords (visitor 0) 10 := by
      unfold Affords
      decide
    rw [allOrNothing_iff_of_affords (hdue 0 (by decide)) hpriced hpays]
    rintro (⟨⟨rule, hrule, hrefreshable⟩, -⟩ | ⟨-, hsame⟩)
    · obtain rfl : ShopRefreshRule.fix = rule := Option.some.inj hrule
      exact hrefreshable rfl
    · exact absurd (hsame .tre) (by decide)
  · refine not_allOrNothing_of_not_priced (hdue 1 (by decide)) fun cost hpriced => ?_
    cases hpriced.2

end SrgpGame.ShopRefresh
