import SrgpGame.Lib.Runs
import SrgpGame.Pay.OrderBO

set_option autoImplicit false

/-!
# Is every prize granted once?

An order is paid for once, and its prize is due once, whether the player was loaded when the
notification came or not. This file says for which runs of the server that is so: the row that all
orders share is the last one saved, and a login grants it again unless it is marked.

## Main definitions

* `GrantedOnce` — every order had its prize granted exactly once, to its player.
* `CountedAtLogin` — after a login the counters of the player count the orders.
* `PrizesInTime` — the condition on a step.

## Main results

* `Shape.getByRelationKey` — at most one order is loaded.
* `outcome` — what a step can do.
* `right_iff` — a step from a state where all is right leaves it so exactly when it meets the
  condition.
* `orders_exact_iff` — a run grants every prize once and counts right at every login exactly when
  all its steps meet the condition.
* `two_orders_of_one_player` — a player with two orders has one or none of them back.
-/

namespace SrgpGame.Pay

variable {ι : Type}

/-! ## What should hold, and when it does -/

/-- What was granted for the order with a number. -/
def grantsOf (granted : List (Grant ι)) (number : String) : List Payment :=
  (granted.map Grant.payment).filter fun payment => payment.number = number

/-- **Every prize is granted once**: for each order there is exactly one grant, to its player. -/
def GrantedOnce (server : Server ι) : Prop :=
  ∀ payment ∈ server.paid, grantsOf server.granted payment.number = [payment]

/-- The orders of a player. -/
def Server.paidBy (server : Server ι) (playerId : Int32) : List Payment :=
  server.paid.filter fun payment => payment.playerId = playerId

/-- The number of a player's orders of an item. -/
def orderCount (server : Server ι) (playerId : Int32) (itemId : String) : ℕ :=
  (server.paidBy playerId).countP fun payment => payment.itemId = itemId

section Steps

variable (cfgs : CacheOrderItem ι) (known : Int32 → Bool) (loads : Bool)

/-- **The counters are right after a login**: each is the number of the player's orders. -/
def CountedAtLogin (server : Server ι) (step : PayStep) : Prop :=
  ∀ playerId player, step = .login playerId →
    (step.next cfgs known loads server).players.lookup playerId = some player →
      ∀ itemId, player.times itemId =
        orderCount (step.next cfgs known loads server) playerId itemId

/-- **The orders of a player come back** at a login: there are none, or there is one, and what is
loaded is one order of the same item that is marked. -/
def OrdersComeBack (server : Server ι) (playerId : Int32) : Prop :=
  server.paidBy playerId = [] ∨
    ∃ payment orderVO, server.paidBy playerId = [payment] ∧
      loadOrders loads server playerId = some [orderVO] ∧ orderVO.prize = true ∧
      orderVO.itemId = payment.itemId

/-- **The condition on a step**: a notification that is accepted comes while the player is loaded,
and when a player is loaded the player's orders come back. -/
def PrizesInTime (server : Server ι) : PayStep → Prop
  | .notify orderInfo => ∀ playerId, orderInfo.pid = some playerId →
      (cfgs orderInfo.goodsId).isSome → known playerId →
        (server.players.lookup playerId).isSome
  | .login playerId => server.players.lookup playerId = none →
      OrdersComeBack loads server playerId
  | _ => True

/-! ## The invariants -/

/-- All orders have one primary key. -/
structure Shape (dao : OrderDAO) : Prop where
  cached : dao.cacheUpdate = ∅ ∨ ∃ o, dao.cacheUpdate = (∅ : AList _).insert initPrimaryKey o
  keys : ∀ playerId, dao.orderPlayerId playerId = [] ∨
    dao.orderPlayerId playerId = [initPrimaryKey]

/-- An order is in the cache or in the database. -/
def OrderDAO.Holds (dao : OrderDAO) (orderVO : OrderVO) : Prop :=
  dao.cacheUpdate.lookup initPrimaryKey = some orderVO ∨
    dao.orderData.lookup initPrimaryKey = some orderVO

/-- What holds of every run, with the steps `rest` still to come: all orders share a key, what is
saved was paid for and is on sale, only players with orders have the key, no order number comes
twice, and what was granted was paid for. -/
structure PayInv (server : Server ι) (rest : List PayStep) : Prop where
  shape : Shape server.orderDAO
  saved : ∀ o, server.orderDAO.Holds o → o.payment ∈ server.paid ∧ (cfgs o.itemId).isSome
  owners : ∀ playerId, server.orderDAO.orderPlayerId playerId ≠ [] → server.paidBy playerId ≠ []
  distinct : (server.paid.map Payment.number ++ rest.filterMap PayStep.number?).Nodup
  ordered : ∀ g ∈ server.granted, g.payment.number ∈ server.paid.map Payment.number
  own : ∀ playerId player, server.players.lookup playerId = some player → player.id = playerId

/-- What holds of a run whose steps meet the condition. -/
structure Exact (server : Server ι) : Prop where
  once : GrantedOnce server
  counted : ∀ playerId player, server.players.lookup playerId = some player →
    ∀ itemId, player.times itemId = orderCount server playerId itemId

end Steps

/-! ## The orders that are loaded -/

section Loading

variable {dao : OrderDAO}

/-- A new order takes the place of the one that was saved before it. -/
lemma Shape.save (h : Shape dao) (orderVO : OrderVO) : Shape (dao.save orderVO) := by
  refine ⟨.inr ⟨{ orderVO with orderId := initPrimaryKey }, ?_⟩, h.keys⟩
  rcases h.cached with hempty | ⟨o, hone⟩
  · rw [OrderDAO.save, hempty]
  · rw [OrderDAO.save, hone]
    exact AList.insert_insert _

lemma OrderDAO.Holds.of_save {o p : OrderVO} (h : (dao.save p).Holds o) :
    o = { p with orderId := initPrimaryKey } ∨ dao.Holds o := by
  rcases h with hcache | hdata
  · rw [OrderDAO.save, AList.lookup_insert] at hcache
    exact .inl (Option.some.inj hcache).symm
  · exact .inr (.inr hdata)

/-- What the job writes: nothing, or one order. -/
lemma Shape.saveAndRemoveCache_eq (h : Shape dao) :
    dao.saveAndRemoveCache = dao ∨
      ∃ o, dao.cacheUpdate.lookup initPrimaryKey = some o ∧
        dao.saveAndRemoveCache = { dao.write initPrimaryKey o with cacheUpdate := ∅ } := by
  obtain ⟨cacheUpdate, orderData, orderPlayerId⟩ := dao
  rcases h.cached with hempty | ⟨o, hone⟩
  · cases hempty
    exact .inl rfl
  · cases hone
    exact .inr ⟨o, AList.lookup_insert _, rfl⟩

/-- The keys of a player after one order was written. -/
lemma orderPlayerId_write (key : String) (o : OrderVO) (playerId : Int32) :
    (dao.write key o).orderPlayerId playerId =
      if playerId = o.playerId then (dao.orderPlayerId playerId).insert key
      else dao.orderPlayerId playerId := by
  show Function.update dao.orderPlayerId o.playerId _ playerId = _
  rw [Function.update_apply]
  split
  · next h => rw [h]
  · rfl

lemma Shape.saveAndRemoveCache (h : Shape dao) : Shape dao.saveAndRemoveCache := by
  rcases h.saveAndRemoveCache_eq with heq | ⟨o, -, heq⟩
  · rwa [heq]
  · rw [heq]
    refine ⟨.inl rfl, fun playerId => ?_⟩
    show (dao.write initPrimaryKey o).orderPlayerId playerId = [] ∨ _
    rw [orderPlayerId_write]
    split
    · rcases h.keys playerId with hnone | hone
      · rw [hnone]
        exact .inr rfl
      · rw [hone]
        exact .inr rfl
    · exact h.keys playerId

lemma Shape.holds_of_saveAndRemoveCache {o : OrderVO} (h : Shape dao)
    (ho : dao.saveAndRemoveCache.Holds o) : dao.Holds o := by
  rcases h.saveAndRemoveCache_eq with heq | ⟨p, hp, heq⟩
  · rwa [heq] at ho
  · rw [heq] at ho
    rcases ho with hcache | hdata
    · cases hcache
    · change (dao.orderData.insert initPrimaryKey p).lookup initPrimaryKey = some o at hdata
      rw [AList.lookup_insert] at hdata
      exact .inl (hp.trans hdata)

/-- **At most one order is loaded**, one that is saved. -/
lemma Shape.getByRelationKey (h : Shape dao) (playerId : Int32) :
    dao.getByRelationKey playerId = [] ∨
      ∃ o, dao.getByRelationKey playerId = [o] ∧ dao.Holds o ∧ dao.orderPlayerId playerId ≠ [] := by
  unfold OrderDAO.getByRelationKey
  rcases h.keys playerId with hnone | hone
  · rw [hnone]
    exact .inl rfl
  · rw [hone]
    cases hdata : dao.orderData.lookup initPrimaryKey with
    | none =>
      refine .inl ?_
      rw [List.filterMap_cons_none (by rw [hdata]; rfl), List.filterMap_nil]
    | some row =>
      refine .inr ⟨(dao.cacheUpdate.lookup initPrimaryKey).getD row, ?_, ?_, List.cons_ne_nil _ _⟩
      · rw [List.filterMap_cons_some (by rw [hdata]; rfl), List.filterMap_nil]
      · cases hcache : dao.cacheUpdate.lookup initPrimaryKey with
        | none => exact .inr hdata
        | some o => exact .inl hcache

end Loading

/-! ## What a step does -/

section Outcome

variable (cfgs : CacheOrderItem ι) (known : Int32 → Bool) (loads : Bool)

/-- What a step can do: nothing; save an order of a player who is not loaded; save an order of a
loaded player and grant its prize; unload a player; load one; or write what was saved. -/
inductive Outcome (server : Server ι) : PayStep → Server ι → Prop
  | refused {step : PayStep} (hcond : PrizesInTime cfgs known loads server step) :
      Outcome server step server
  | saved {orderInfo : OrderInfo} {playerId : Int32} (hpid : orderInfo.pid = some playerId)
      (hsale : (cfgs orderInfo.goodsId).isSome) (hknown : known playerId)
      (hunloaded : server.players.lookup playerId = none) :
      Outcome server (.notify orderInfo)
        { server with
          orderDAO := server.orderDAO.save (createOrderVO orderInfo playerId)
          paid := server.paid ++ [(createOrderVO orderInfo playerId).payment] }
  | bought {step : PayStep} {o : OrderVO} {player : PlayerVO} {grant : Grant ι}
      (hcond : PrizesInTime cfgs known loads server step) (hid : step.number? = some o.number)
      (hlogin : ∀ playerId, step ≠ .login playerId)
      (hsale : (cfgs o.itemId).isSome) (hplayer : server.players.lookup o.playerId = some player)
      (hgrant : grant.payment = o.payment) :
      Outcome server step
        ⟨server.players.insert o.playerId (player.buy o.itemId), server.orderDAO.save o,
          server.paid ++ [o.payment], server.granted ++ [grant]⟩
  | left (playerId : Int32) :
      Outcome server (.logout playerId) { server with players := server.players.erase playerId }
  | built {playerId : Int32} {player : PlayerVO} {grants : List (Grant ι)} {loaded : List OrderVO}
      (hunloaded : server.players.lookup playerId = none)
      (hloaded : (loadOrders loads server playerId).getD [] = loaded) (hid : player.id = playerId)
      (htimes : ∀ itemId, player.times itemId =
        loaded.countP (fun o => o.itemId = itemId) +
          loaded.countP fun o => o.itemId = itemId ∧ o.prize = false)
      (hgrants : grants.map Grant.payment = (loaded.filter fun o => o.prize = false).map
        fun o => ⟨o.number, playerId, o.itemId⟩) :
      Outcome server (.login playerId)
        { server with
          players := server.players.insert playerId player, granted := server.granted ++ grants }
  | written :
      Outcome server .write { server with orderDAO := server.orderDAO.saveAndRemoveCache }

end Outcome

lemma times_buy (player : PlayerVO) (itemId itemId' : String) :
    (player.buy itemId).times itemId' =
      player.times itemId' + if itemId' = itemId then 1 else 0 := by
  rw [PlayerVO.times, PlayerVO.buy, AList.getOrDefault_insert]
  by_cases h : itemId' = itemId
  · rw [if_pos h, if_pos h, h]
  · rw [if_neg h, if_neg h, add_zero, PlayerVO.times]

section Methods

variable {cfgs : CacheOrderItem ι} {known : Int32 → Bool} {loads : Bool} {server : Server ι}

/-- The prize of an item on sale is granted, and the order counted. -/
lemma exists_sendOrderPrize {o : OrderVO} (hsale : (cfgs o.itemId).isSome) (player : PlayerVO) :
    ∃ grant, sendOrderPrize cfgs player o = .ok (player.buy o.itemId, grant) ∧
      grant.payment = ⟨o.number, player.id, o.itemId⟩ := by
  obtain ⟨config, hconfig⟩ := Option.isSome_iff_exists.mp hsale
  unfold sendOrderPrize
  rw [hconfig]
  exact ⟨_, rfl, rfl⟩

/-- **A login** counts every order that is loaded, counts the unmarked ones twice, and grants their
prizes. -/
lemma exists_foldlM_buildOrder (orders : List OrderVO)
    (hsale : ∀ o ∈ orders, (cfgs o.itemId).isSome) (player : PlayerVO) (granted : List (Grant ι)) :
    ∃ player' grants, orders.foldlM (buildOrder cfgs) (player, granted) =
        .ok (player', granted ++ grants) ∧ player'.id = player.id ∧
      (∀ itemId, player'.times itemId = player.times itemId +
        (orders.countP (fun o => o.itemId = itemId) +
          orders.countP fun o => o.itemId = itemId ∧ o.prize = false)) ∧
      grants.map Grant.payment = (orders.filter fun o => o.prize = false).map
        fun o => ⟨o.number, player.id, o.itemId⟩ := by
  induction orders generalizing player granted with
  | nil => exact ⟨player, [], by simp; rfl, rfl, by simp, rfl⟩
  | cons o orders ih =>
    obtain ⟨hhead, htail⟩ := List.forall_mem_cons.mp hsale
    cases hprize : o.prize with
    | true =>
      obtain ⟨player', grants, hfold, hid, htimes, hkeys⟩ := ih htail (player.buy o.itemId) granted
      have hround : buildOrder cfgs (player, granted) o = .ok (player.buy o.itemId, granted) := by
        simp [buildOrder, hprize, pure, Except.pure, bind, Except.bind]
      refine ⟨player', grants, ?_, hid, fun itemId => ?_, ?_⟩
      · rw [List.foldlM_cons, hround]
        exact hfold
      · rw [htimes, times_buy]
        by_cases hitem : itemId = o.itemId
        · simp [hitem, hprize]
          omega
        · simp [Ne.symm hitem, hitem]
      · rw [hkeys, List.filter_cons_of_neg (by simp [hprize])]
        rfl
    | false =>
      obtain ⟨grant, hsend, hkey⟩ := exists_sendOrderPrize hhead player
      obtain ⟨player', grants, hfold, hid, htimes, hkeys⟩ :=
        ih htail ((player.buy o.itemId).buy o.itemId) (granted ++ [grant])
      have hround : buildOrder cfgs (player, granted) o =
          .ok ((player.buy o.itemId).buy o.itemId, granted ++ [grant]) := by
        simp [buildOrder, hprize, hsend, pure, Except.pure, bind, Except.bind]
      refine ⟨player', grant :: grants, ?_, hid, fun itemId => ?_, ?_⟩
      · rw [List.foldlM_cons, hround]
        simpa [bind, Except.bind] using hfold
      · rw [htimes, times_buy, times_buy]
        by_cases hitem : itemId = o.itemId
        · simp [hitem, hprize]
          omega
        · simp [Ne.symm hitem, hitem]
      · rw [List.map_cons, hkeys, hkey, List.filter_cons_of_pos (by simp [hprize])]
        rfl

/-- The order number that a step brings is new. -/
lemma PayInv.new_number {step : PayStep} {rest : List PayStep}
    (hinv : PayInv cfgs server (step :: rest)) {number : String}
    (hid : step.number? = some number) : number ∉ server.paid.map Payment.number := by
  have hdistinct := hinv.distinct
  rw [List.filterMap_cons_some hid] at hdistinct
  intro hmem
  exact (List.nodup_append.mp hdistinct).2.2 number hmem number List.mem_cons_self rfl

/-- **What a login loads** of the orders: nothing, or the one row, if the player has orders. -/
lemma PayInv.loaded {rest : List PayStep} (hinv : PayInv cfgs server rest) (loads : Bool)
    (playerId : Int32) :
    (loadOrders loads server playerId).getD [] = [] ∨
      ∃ o, loadOrders loads server playerId = some [o] ∧ server.orderDAO.Holds o ∧
        server.paidBy playerId ≠ [] := by
  unfold loadOrders
  cases loads with
  | false => exact .inl rfl
  | true =>
    rcases hinv.shape.getByRelationKey playerId with hnone | ⟨o, hone, hholds, hkeys⟩
    · exact .inl hnone
    · exact .inr ⟨o, congrArg some hone, hholds, hinv.owners playerId hkeys⟩

lemma next_eq_built {playerId : Int32} {rest : List PayStep} (hinv : PayInv cfgs server rest)
    (hunloaded : server.players.lookup playerId = none) :
    Outcome cfgs known loads server (.login playerId) (login cfgs loads server playerId) := by
  have hsale : ∀ o ∈ (loadOrders loads server playerId).getD [], (cfgs o.itemId).isSome := by
    intro o ho
    rcases hinv.loaded loads playerId with hnone | ⟨p, hone, hholds, -⟩
    · rw [hnone] at ho
      cases ho
    · rw [hone] at ho
      obtain rfl := List.mem_singleton.mp ho
      exact (hinv.saved o hholds).2
  obtain ⟨player, grants, hfold, hid, htimes, hgrants⟩ :=
    exists_foldlM_buildOrder _ hsale (PlayerVO.fresh playerId) []
  have hbuild : buildAsLoad cfgs (PlayerVO.fresh playerId) (loadOrders loads server playerId) =
      .ok (player, grants) := by
    cases hload : loadOrders loads server playerId with
    | none =>
      rw [hload] at hfold
      exact hfold
    | some orders =>
      rw [hload] at hfold
      exact hfold
  have hnext : login cfgs loads server playerId = { server with
      players := server.players.insert playerId player
      granted := server.granted ++ grants } := by
    unfold login
    rw [hunloaded]
    simp only [hbuild]
  rw [hnext]
  refine .built hunloaded rfl hid (fun itemId => ?_) hgrants
  have hzero : (PlayerVO.fresh playerId).times itemId = 0 := rfl
  rw [htimes, hzero, zero_add]

/-- **What a step can do.** -/
theorem outcome {step : PayStep} {rest : List PayStep} (hinv : PayInv cfgs server (step :: rest)) :
    Outcome cfgs known loads server step (step.next cfgs known loads server) := by
  cases step with
  | notify orderInfo =>
    change Outcome cfgs known loads server _ (dealPaySucOrder cfgs known server orderInfo).1
    unfold dealPaySucOrder
    cases hconfig : cfgs orderInfo.goodsId with
    | none =>
      refine .refused fun playerId _ hsale _ => ?_
      simp [hconfig] at hsale
    | some config =>
      cases hpid : orderInfo.pid with
      | none =>
        refine .refused fun playerId hp _ _ => ?_
        simp [hpid] at hp
      | some playerId =>
        have hsale : (cfgs orderInfo.goodsId).isSome := by rw [hconfig, Option.isSome_some]
        cases hplayer : server.players.lookup playerId with
        | none =>
          simp only [hplayer]
          by_cases hknown : known playerId
          · rw [if_pos hknown]
            exact .saved hpid hsale hknown hplayer
          · rw [if_neg hknown]
            refine .refused fun playerId' hp _ hk => ?_
            obtain rfl : playerId = playerId' := Option.some.inj (hpid.symm.trans hp)
            exact absurd hk hknown
        | some player =>
          obtain ⟨grant, hsend, hkey⟩ :=
            exists_sendOrderPrize (o := createOrderVO orderInfo playerId) hsale player
          rw [hinv.own playerId player hplayer] at hkey
          simp only [hplayer, hsend]
          refine .bought (o := { createOrderVO orderInfo playerId with prize := true })
            ?_ rfl (fun _ => PayStep.noConfusion) hsale hplayer hkey
          intro playerId' hp _ _
          obtain rfl : playerId = playerId' := Option.some.inj (hpid.symm.trans hp)
          rw [hplayer, Option.isSome_some]
  | testBuy playerId orderItemId uuid =>
    change Outcome cfgs known loads server _ (testBuy cfgs server playerId orderItemId uuid)
    unfold testBuy
    cases hplayer : server.players.lookup playerId with
    | none => exact .refused trivial
    | some player =>
      cases hconfig : cfgs orderItemId with
      | none => exact .refused trivial
      | some config =>
        have hsale : (cfgs orderItemId).isSome := by rw [hconfig, Option.isSome_some]
        obtain ⟨grant, hsend, hkey⟩ := exists_sendOrderPrize
          (o := ⟨"order" ++ uuid, playerId, orderItemId, false, "order" ++ uuid⟩) hsale player
        rw [hinv.own playerId player hplayer] at hkey
        simp only [hsend]
        exact .bought (o := ⟨"order" ++ uuid, playerId, orderItemId, false, "order" ++ uuid⟩)
          trivial rfl (fun _ => PayStep.noConfusion) hsale hplayer hkey
  | login playerId =>
    change Outcome cfgs known loads server _ (login cfgs loads server playerId)
    cases hplayer : server.players.lookup playerId with
    | none => exact next_eq_built hinv hplayer
    | some player =>
      have hnext : login cfgs loads server playerId = server := by
        unfold login
        rw [hplayer]
      rw [hnext]
      refine .refused fun hunloaded => ?_
      simp [hplayer] at hunloaded
  | logout playerId => exact .left playerId
  | write => exact .written

end Methods

/-! ## What every step keeps -/

section Invariants

variable {cfgs : CacheOrderItem ι} {known : Int32 → Bool} {loads : Bool} {server : Server ι}
  {step : PayStep} {rest : List PayStep}

/-- Nothing was granted under an order number that never came. -/
lemma grantsOf_eq_nil {number : String} (hinv : PayInv cfgs server rest)
    (hnew : number ∉ server.paid.map Payment.number) : grantsOf server.granted number = [] := by
  rw [grantsOf, List.filter_eq_nil_iff]
  intro payment hpayment
  obtain ⟨g, hg, rfl⟩ := List.mem_map.mp hpayment
  have hne : g.payment.number ≠ number := by
    rintro rfl
    exact hnew (hinv.ordered g hg)
  simpa using hne

lemma grantsOf_append (xs ys : List (Grant ι)) (number : String) :
    grantsOf (xs ++ ys) number = grantsOf xs number ++ grantsOf ys number := by
  simp [grantsOf]

/-- An order that is added is among those to come. -/
lemma PayInv.distinct_add (hinv : PayInv cfgs server (step :: rest)) {o : OrderVO}
    (hid : step.number? = some o.number) :
    ((server.paid ++ [o.payment]).map Payment.number ++
      rest.filterMap PayStep.number?).Nodup := by
  have hdistinct := hinv.distinct
  rw [List.filterMap_cons_some hid] at hdistinct
  simpa [OrderVO.payment] using hdistinct

/-- **A new order** is saved, paid for, and its player's. -/
lemma PayInv.save (hinv : PayInv cfgs server (step :: rest)) {o : OrderVO}
    (hsale : (cfgs o.itemId).isSome) (hid : step.number? = some o.number)
    {players : AList fun _ : Int32 => PlayerVO} {granted : List (Grant ι)}
    (hordered : ∀ g ∈ granted, g.payment.number ∈ (server.paid ++ [o.payment]).map Payment.number)
    (hown : ∀ playerId player, players.lookup playerId = some player → player.id = playerId) :
    PayInv cfgs ⟨players, server.orderDAO.save o, server.paid ++ [o.payment], granted⟩ rest where
  shape := hinv.shape.save o
  saved p hp := by
    rcases hp.of_save with rfl | hp
    · exact ⟨List.mem_append_right _ List.mem_cons_self, hsale⟩
    · exact ⟨List.mem_append_left _ (hinv.saved p hp).1, (hinv.saved p hp).2⟩
  owners playerId hkeys := by
    have hpaid := hinv.owners playerId hkeys
    intro hnone
    rw [Server.paidBy, List.filter_append] at hnone
    exact hpaid (List.append_eq_nil_iff.mp hnone).1
  distinct := hinv.distinct_add hid
  ordered := hordered
  own := hown

/-- **Every step keeps the invariant.** -/
theorem PayInv.next (hinv : PayInv cfgs server (step :: rest)) :
    PayInv cfgs (step.next cfgs known loads server) rest := by
  have hdrop : (server.paid.map Payment.number ++ rest.filterMap PayStep.number?).Nodup := by
    have hsub : (rest.filterMap PayStep.number?).Sublist
        ((step :: rest).filterMap PayStep.number?) :=
      (List.sublist_cons_self step rest).filterMap _
    exact hinv.distinct.sublist (hsub.append_left _)
  have hadd : ∀ g ∈ server.granted, ∀ payment : Payment,
      g.payment.number ∈ (server.paid ++ [payment]).map Payment.number := by
    intro g hg payment
    rw [List.map_append]
    exact List.mem_append_left _ (hinv.ordered g hg)
  have hout : Outcome cfgs known loads server _ _ := outcome hinv
  generalize step.next cfgs known loads server = server' at hout
  cases hout with
  | refused hcond => exact { hinv with distinct := hdrop }
  | @saved orderInfo playerId hpid hsale hknown hunloaded =>
    exact hinv.save hsale rfl (fun g hg => hadd g hg _) hinv.own
  | @bought _ o player grant hcond hid hlogin hsale hplayer hgrant =>
    refine hinv.save hsale hid ?_ fun playerId' player' hplayer' => ?_
    · simp only [List.forall_mem_append, List.forall_mem_singleton]
      refine ⟨fun g hg => hadd g hg _, ?_⟩
      rw [hgrant, List.map_append]
      exact List.mem_append_right _ List.mem_cons_self
    · rw [AList.lookup_insert_ite] at hplayer'
      split_ifs at hplayer' with heq
      · cases hplayer'
        rw [heq]
        exact hinv.own _ player hplayer
      · exact hinv.own _ _ hplayer'
  | left playerId =>
    refine { hinv with distinct := hdrop, own := fun playerId' player hplayer => ?_ }
    simp only [AList.lookup_erase_ite] at hplayer
    split_ifs at hplayer
    exact hinv.own _ _ hplayer
  | @built playerId player grants loaded hunloaded hloaded hid htimes hgrants =>
    refine { hinv with
      distinct := hdrop, ordered := ?_, own := fun playerId' player' hplayer => ?_ }
    · simp only [List.forall_mem_append]
      refine ⟨hinv.ordered, fun g hg => ?_⟩
      have hmem : g.payment ∈ grants.map Grant.payment := List.mem_map_of_mem hg
      rw [hgrants] at hmem
      obtain ⟨o, ho, hkey⟩ := List.mem_map.mp hmem
      have holds : server.orderDAO.Holds o := by
        rcases hinv.loaded loads playerId with hnone | ⟨p, hone, hholds, -⟩
        · rw [← hloaded, hnone] at ho
          cases List.mem_of_mem_filter ho
        · rw [← hloaded, hone] at ho
          obtain rfl := List.mem_singleton.mp (List.mem_of_mem_filter ho)
          exact hholds
      have hnumber : o.payment.number ∈ server.paid.map Payment.number :=
        List.mem_map_of_mem (hinv.saved o holds).1
      rw [← hkey]
      exact hnumber
    · simp only [AList.lookup_insert_ite] at hplayer
      split_ifs at hplayer with heq
      · cases hplayer
        rw [heq, hid]
      · exact hinv.own _ _ hplayer
  | written =>
    refine { hinv with
      shape := hinv.shape.saveAndRemoveCache
      saved := fun o ho => hinv.saved o (hinv.shape.holds_of_saveAndRemoveCache ho)
      owners := fun playerId hkeys => ?_
      distinct := hdrop }
    rcases hinv.shape.saveAndRemoveCache_eq with heq | ⟨o, ho, heq⟩
    · rw [heq] at hkeys
      exact hinv.owners playerId hkeys
    · rw [heq] at hkeys
      change (server.orderDAO.write initPrimaryKey o).orderPlayerId playerId ≠ [] at hkeys
      rw [orderPlayerId_write] at hkeys
      split_ifs at hkeys with hid
      · -- the key is new: it is the one of the order that was written
        exact List.ne_nil_of_mem (List.mem_filter.mpr
          ⟨(hinv.saved o (.inl ho)).1, decide_eq_true hid.symm⟩)
      · exact hinv.owners playerId hkeys

/-- The orders of an item that a player has after a new one. -/
lemma orderCount_add (o : OrderVO) (players : AList fun _ : Int32 => PlayerVO) (dao : OrderDAO)
    (granted : List (Grant ι)) (playerId : Int32) (itemId : String) :
    orderCount ⟨players, dao, server.paid ++ [o.payment], granted⟩ playerId itemId =
      orderCount server playerId itemId +
        if o.playerId = playerId ∧ o.itemId = itemId then 1 else 0 := by
  rw [orderCount, Server.paidBy, List.filter_append, List.countP_append]
  congr 1
  by_cases hplayer : o.playerId = playerId
  · by_cases hitem : o.itemId = itemId <;> simp [OrderVO.payment, hplayer, hitem]
  · simp [OrderVO.payment, hplayer]

/-- **A step that meets the condition** keeps grants and counters exact. -/
theorem Exact.next (hinv : PayInv cfgs server (step :: rest)) (hexact : Exact server)
    (hcond : PrizesInTime cfgs known loads server step) :
    Exact (step.next cfgs known loads server) := by
  have hout : Outcome cfgs known loads server _ _ := outcome hinv
  generalize step.next cfgs known loads server = server' at hout
  cases hout with
  | refused _ => exact hexact
  | @saved orderInfo playerId hpid hsale hknown hunloaded =>
    have hloaded := hcond playerId hpid hsale hknown
    simp [hunloaded] at hloaded
  | @bought _ o player grant _ hid hlogin hsale hplayer hgrant =>
    have hnew := hinv.new_number hid
    refine ⟨?_, fun playerId player' hplayer' itemId => ?_⟩
    · have hself : grantsOf [grant] o.number = [o.payment] := by
        simp [grantsOf, hgrant, OrderVO.payment]
      simp only [GrantedOnce, List.forall_mem_append, List.forall_mem_singleton, grantsOf_append]
      refine ⟨fun payment hpayment => ?_, ?_⟩
      · have hne : o.number ≠ payment.number := fun heq =>
          hnew (heq ▸ List.mem_map_of_mem hpayment)
        have hother : grantsOf [grant] payment.number = [] := by
          simp [grantsOf, hgrant, OrderVO.payment, hne]
        rw [hexact.once payment hpayment, hother, List.append_nil]
      · show grantsOf server.granted o.number ++ grantsOf [grant] o.number = _
        rw [grantsOf_eq_nil hinv hnew, hself, List.nil_append]
    · simp only [AList.lookup_insert_ite] at hplayer'
      rw [orderCount_add]
      by_cases hid' : playerId = o.playerId
      · subst hid'
        rw [if_pos rfl] at hplayer'
        obtain rfl := Option.some.inj hplayer'
        rw [times_buy, hexact.counted _ _ hplayer]
        simp [eq_comm]
      · rw [if_neg hid'] at hplayer'
        rw [hexact.counted _ _ hplayer']
        simp [Ne.symm hid']
  | left playerId =>
    refine ⟨hexact.once, fun playerId' player hplayer => ?_⟩
    simp only [AList.lookup_erase_ite] at hplayer
    split at hplayer
    · cases hplayer
    · exact hexact.counted _ _ hplayer
  | @built playerId player grants loaded hunloaded hloaded hid htimes hgrants =>
    have hcomes := hcond hunloaded
    -- what is loaded is marked, and as many orders of each item as the player has
    obtain ⟨hmarked, hcount⟩ : (∀ o ∈ loaded, o.prize = true) ∧ ∀ itemId,
        loaded.countP (fun o => o.itemId = itemId) = orderCount server playerId itemId := by
      rcases hcomes with hnone | ⟨payment, o, hpaid, hload, hprize, hitem⟩
      · rcases hinv.loaded loads playerId with hempty | ⟨o, -, -, hpaid⟩
        · rw [hloaded] at hempty
          rw [hempty]
          refine ⟨fun o ho => (List.not_mem_nil ho).elim, fun itemId => ?_⟩
          rw [orderCount, hnone]
          rfl
        · exact absurd hnone hpaid
      · obtain rfl : [o] = loaded := by rw [← hloaded, hload]; rfl
        refine ⟨fun p hp => ?_, fun itemId => ?_⟩
        · obtain rfl := List.mem_singleton.mp hp
          exact hprize
        · rw [orderCount, hpaid, List.countP_singleton, List.countP_singleton, hitem]
    have hnone : ∀ o ∈ loaded, ¬decide (o.prize = false) = true := by
      intro o ho
      simp [hmarked o ho]
    obtain rfl : grants = [] := by
      rw [List.filter_eq_nil_iff.mpr hnone, List.map_nil] at hgrants
      exact List.map_eq_nil_iff.mp hgrants
    refine ⟨?_, fun playerId' player' hplayer' itemId => ?_⟩
    · rw [List.append_nil]
      exact hexact.once
    · simp only [AList.lookup_insert_ite] at hplayer'
      by_cases heq : playerId' = playerId
      · subst heq
        rw [if_pos rfl] at hplayer'
        obtain rfl := Option.some.inj hplayer'
        rw [htimes, hcount, List.countP_eq_zero.mpr]
        · rfl
        · intro o ho
          simp [hmarked o ho]
      · rw [if_neg heq] at hplayer'
        exact hexact.counted _ _ hplayer' itemId
  | written => exact ⟨hexact.once, hexact.counted⟩

/-! ## Steps that go wrong -/

/-- A list has as many elements of each kind as one element of the kind `b` would give exactly when
it is one such element. -/
lemma countP_eq_ite_iff {α β : Type} [DecidableEq β] {f : α → β} {l : List α} {b : β} :
    (∀ a, l.countP (fun x => f x = a) = if b = a then 1 else 0) ↔ ∃ x, l = [x] ∧ b = f x := by
  constructor
  · intro h
    have hof : ∀ x ∈ l, b = f x := by
      intro x hx
      by_contra hne
      have hzero := h (f x)
      rw [if_neg hne, List.countP_eq_zero] at hzero
      exact hzero x hx (decide_eq_true rfl)
    have hlength : l.length = 1 := by
      have hb := h b
      rwa [if_pos rfl, List.countP_eq_length.mpr fun x hx =>
        decide_eq_true (hof x hx).symm] at hb
    obtain ⟨x, rfl⟩ := List.length_eq_one_iff.mp hlength
    exact ⟨x, rfl, hof x List.mem_cons_self⟩
  · rintro ⟨x, rfl, rfl⟩ a
    rw [List.countP_singleton]
    simp only [decide_eq_true_eq]

/-- All is right after a step. -/
def Right (cfgs : CacheOrderItem ι) (known : Int32 → Bool) (loads : Bool) (server : Server ι)
    (step : PayStep) : Prop :=
  GrantedOnce (step.next cfgs known loads server) ∧ CountedAtLogin cfgs known loads server step

/-- **A step from a state where all is right** leaves it so exactly when it meets the condition. -/
theorem right_iff (hinv : PayInv cfgs server (step :: rest)) (hexact : Exact server) :
    Right cfgs known loads server step ↔ PrizesInTime cfgs known loads server step := by
  constructor
  · rintro ⟨honce, hcounted⟩
    have hout : Outcome cfgs known loads server _ _ := outcome hinv
    unfold CountedAtLogin at hcounted
    generalize step.next cfgs known loads server = server' at hout honce hcounted
    cases hout with
    | refused hcond => exact hcond
    | @saved orderInfo playerId hpid hsale hknown hunloaded =>
      -- the prize of the new order is still missing
      have hnew : orderInfo.orderNumber ∉ server.paid.map Payment.number := hinv.new_number rfl
      have hmissing := honce _ (List.mem_append_right _ List.mem_cons_self)
      cases (grantsOf_eq_nil hinv hnew).symm.trans hmissing
    | bought hcond _ _ _ _ _ => exact hcond
    | left playerId => trivial
    | @built playerId player grants loaded hunloaded hloaded hid htimes hgrants =>
      intro _
      have hsum : ∀ itemId, player.times itemId = orderCount server playerId itemId :=
        hcounted playerId player rfl (AList.lookup_insert _)
      rcases hinv.loaded loads playerId with hempty | ⟨o, hload, hholds, hpaid⟩
      · refine .inl (List.eq_nil_iff_forall_not_mem.mpr fun payment hpayment => ?_)
        have hzero := hsum payment.itemId
        rw [htimes, ← hloaded, hempty, orderCount] at hzero
        have hpos : 0 < (server.paidBy playerId).countP fun p => p.itemId = payment.itemId :=
          List.countP_pos_iff.mpr ⟨payment, hpayment, decide_eq_true rfl⟩
        rw [← hzero] at hpos
        exact absurd hpos (lt_irrefl 0)
      · obtain rfl : [o] = loaded := by rw [← hloaded, hload]; rfl
        cases hprize : o.prize with
        | true =>
          have hone : ∀ itemId, (server.paidBy playerId).countP (fun p => p.itemId = itemId) =
              if o.itemId = itemId then 1 else 0 := by
            intro itemId
            have hcount := hsum itemId
            rw [htimes, List.countP_singleton, List.countP_singleton, orderCount] at hcount
            rw [← hcount]
            simp [hprize]
          obtain ⟨payment, hpaid', hitem⟩ := countP_eq_ite_iff.mp hone
          exact .inr ⟨payment, o, hpaid', hload, hprize, hitem⟩
        | false =>
          -- the prize of the row is granted once more
          have htwice := honce _ (hinv.saved o hholds).1
          have hbefore := hexact.once _ (hinv.saved o hholds).1
          have hagain : grantsOf grants o.payment.number = [⟨o.number, playerId, o.itemId⟩] := by
            rw [grantsOf, hgrants]
            simp [hprize, OrderVO.payment]
          change grantsOf (server.granted ++ grants) _ = _ at htwice
          rw [grantsOf_append, hbefore, hagain] at htwice
          cases htwice
    | written => trivial
  · intro hcond
    have hnext := hexact.next hinv hcond
    exact ⟨hnext.once, fun playerId player _ hplayer => hnext.counted playerId player hplayer⟩

end Invariants

/-! ## Whole runs -/

/-- The order numbers that a run brings are pairwise different. -/
def DistinctOrders (steps : List PayStep) : Prop := (steps.filterMap PayStep.number?).Nodup

instance (steps : List PayStep) : Decidable (DistinctOrders steps) :=
  inferInstanceAs (Decidable (List.Nodup _))

lemma payInv_init {cfgs : CacheOrderItem ι} {steps : List PayStep} (h : DistinctOrders steps) :
    PayInv cfgs (Server.init ι) steps where
  shape := ⟨.inl rfl, fun _ => .inl rfl⟩
  saved := by
    rintro o (ho | ho) <;> cases ho
  owners _ hkeys := absurd rfl hkeys
  distinct := h
  ordered := by simp [Server.init]
  own := by
    intro playerId player hplayer
    cases hplayer

lemma exact_init : Exact (Server.init ι) where
  once := by simp [GrantedOnce, Server.init]
  counted := by
    intro playerId player hplayer
    cases hplayer

/-- **After every step each prize was granted exactly once, and after every login the counters are
right, exactly when all steps of the run meet the condition.** The items, the players and the steps
are any; the order numbers of the run are pairwise different.

**Proof sketch.** A step that meets the condition keeps `Exact`, and from a state that is `Exact` a
step that does not meet it leaves a missing or a second prize, or a wrong counter. -/
theorem orders_exact_iff (cfgs : CacheOrderItem ι) (known : Int32 → Bool) (loads : Bool)
    (steps : List PayStep) (hdistinct : DistinctOrders steps) :
    Runs.EveryStep (PayStep.next cfgs known loads) (Right cfgs known loads) (Server.init ι) steps ↔
      Runs.EveryStep (PayStep.next cfgs known loads) (PrizesInTime cfgs known loads)
        (Server.init ι) steps := by
  refine Runs.everyStep_congr (fun server rest => PayInv cfgs server rest ∧ Exact server) ?_ ?_
    ⟨payInv_init hdistinct, exact_init⟩
  · rintro server step rest ⟨hinv, hexact⟩ hcond
    exact ⟨hinv.next, hexact.next hinv hcond⟩
  · rintro server step rest ⟨hinv, hexact⟩
    exact right_iff hinv hexact

/-! ## Examples -/

/-- One item on sale, with the prize 1, and 2 for a first order. -/
def oneItem : CacheOrderItem ℕ := fun itemId =>
  if itemId = "gem" then some ⟨some [1], some [2], none⟩ else none

/-- An order of that item for player 7. -/
def gemOrder (orderNumber : String) : PayStep := .notify ⟨orderNumber, "gem", some 7⟩

/-- The order of a player who is loaded is granted once, and counted at the next login. -/
theorem orders_exact_loaded :
    Runs.EveryStep (PayStep.next oneItem (fun _ => true) true) (Right oneItem (fun _ => true) true)
      (Server.init ℕ) [.login 7, gemOrder "a", .write, .logout 7, .login 7] := by
  refine (orders_exact_iff oneItem (fun _ => true) true _ (by decide)).mpr ?_
  refine ⟨fun _ => .inl rfl, ?_, trivial, trivial, fun _ => .inr ?_, trivial⟩
  · rintro _ ⟨⟩ _ _
    rfl
  · exact ⟨⟨"a", 7, "gem"⟩, ⟨"", 7, "gem", true, "a"⟩, rfl, rfl, rfl, rfl⟩

/-- **Two orders of a player** who is loaded are not both counted at the next login, whether or not
it loads orders: they share a row. -/
theorem two_orders_of_one_player :
    DistinctOrders [.login 7, gemOrder "a", gemOrder "b", .write, .logout 7, .login 7] ∧
      ∀ loads, ¬Runs.EveryStep (PayStep.next oneItem (fun _ => true) loads)
        (CountedAtLogin oneItem (fun _ => true) loads) (Server.init ℕ)
        [.login 7, gemOrder "a", gemOrder "b", .write, .logout 7, .login 7] := by
  refine ⟨by decide, fun loads hcounted => ?_⟩
  cases loads with
  | false =>
    have hlogin := hcounted.2.2.2.2.2.1 7 (PlayerVO.fresh 7) rfl rfl "gem"
    exact absurd hlogin (by decide)
  | true =>
    have hlogin := hcounted.2.2.2.2.2.1 7 ((PlayerVO.fresh 7).buy "gem") rfl rfl "gem"
    exact absurd hlogin (by decide)

end SrgpGame.Pay
