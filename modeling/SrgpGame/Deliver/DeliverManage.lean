import SrgpGame.Lib.Statements
import SrgpGame.Lib.Machine

set_option autoImplicit false

/-!
# Orders for delivery

A pay callback has an order saved for delivery, unless the table has it already. An order that is
in the table is looked up by its number, its uuid and its app; what later becomes of its delivery
is entered by number and app only.

## Main definitions

* `OrderMsg` — the message of a pay callback.
* `saveOrder` — `DeliverManagerService.saveOrder`, statement by statement.
* `SavedOnce` — no order is recorded for delivery twice.

## Main results

* `savedOnce_iff` — when no interleaving of calls records an order twice.

## Design notes

Texts are of any type; their equality is the one of the database. The columns of the table are not
nullable, so an insertion with a null fails; one that succeeds affects one row.
-/

namespace SrgpGame.Deliver

open Statements

variable {ι Text : Type}

/-! ## Messages and rows -/

/-- **The message of a pay callback.** App, uuid and goods are the texts that `toString` gives. -/
structure OrderMsg (Text : Type) where
  orderNumber : Option Text
  app : Text
  orderUuid : Text
  /-- None, if this is no `Int`. -/
  payType : Option Int32
  goodsId : Text
  /-- None, if this is no `Int`. -/
  money : Option Int32
  serverId : Option Text
  pid : Option Text
  channel : Option Text

/-- A row of `deliver_goods`. -/
structure DeliverGoods (Text : Type) where
  app : Text
  payType : Int32
  sendState : Int32
  orderNumber : Text
  orderUuid : Text
  goodsId : Text
  serverId : Text
  pid : Text
  price : Int32
  channel : Text
  logTime : Int64

/-- How `saveOrder` fails. -/
inductive SaveError where
  /-- `PlatformException`. -/
  | platform (message : String) (code : ℕ)
  /-- A field that is no `Int`. -/
  | classCast
  /-- `DataIntegrityViolationException`. -/
  | dataIntegrity
  deriving DecidableEq, Repr

def PRICE_ERROR : ℕ := 20010
def DELIVER_AUTOGRAPH : ℕ := 20011
def GOODS_NOT_EXISTENCE : ℕ := 20012

namespace OrderMsg

/-- No column of the row would be null. -/
def Complete (msg : OrderMsg Text) : Prop :=
  msg.orderNumber.isSome ∧ msg.serverId.isSome ∧ msg.pid.isSome ∧ msg.channel.isSome

instance (msg : OrderMsg Text) : Decidable msg.Complete :=
  inferInstanceAs (Decidable (_ ∧ _))

/-- The row of a complete message. -/
def row (msg : OrderMsg Text) (logTime : Int64) : DeliverGoods Text where
  app := msg.app
  payType := msg.payType.getD 0
  sendState := 1
  orderNumber := msg.orderNumber.getD msg.app
  orderUuid := msg.orderUuid
  goodsId := msg.goodsId
  serverId := msg.serverId.getD msg.app
  pid := msg.pid.getD msg.app
  price := msg.money.getD 0
  channel := msg.channel.getD msg.app
  logTime := logTime

/-- Two messages are about one order. -/
def SameOrder (msg msg' : OrderMsg Text) : Prop :=
  msg.orderNumber = msg'.orderNumber ∧ msg.app = msg'.app

end OrderMsg

section Save

variable [DecidableEq Text]

/-- `GET_ORDER`; null equals nothing. -/
def getOrder (msg : OrderMsg Text) (order : DeliverGoods Text) : Bool :=
  some order.orderNumber = msg.orderNumber ∧ order.orderUuid = msg.orderUuid ∧ order.app = msg.app

/-- The answer of `GOODS_PRICE`, by app and goods. -/
abbrev PriceList (Text : Type) := Text → Text → List Int32

/-- **`saveOrder`**: looks the price up, looks whether the order is in the table, and inserts it. -/
def saveOrder (prices : PriceList Text) (msg : OrderMsg Text) (logTime : Int64) :
    Statements (DeliverGoods Text) SaveError :=
  if msg.payType = none ∨ msg.money = none then .throw .classCast
  else .other <| match prices msg.app msg.goodsId with
    | [] => .throw (.platform "GOODS_NOT_EXISTENCE" GOODS_NOT_EXISTENCE)
    | price :: _ =>
      if msg.money ≠ some price then .throw (.platform "price is error!~" PRICE_ERROR)
      else .select (getOrder msg) fun found =>
        if found then .throw (.platform "DELIVER_AUTOGRAPH!~" DELIVER_AUTOGRAPH)
        else if msg.Complete then .insert (msg.row logTime) .done
        else .other (.throw .dataIntegrity)

/-- The message comes to be saved: its price is right and it is complete. -/
def Accepted (prices : PriceList Text) (msg : OrderMsg Text) : Prop :=
  msg.payType ≠ none ∧ msg.money ≠ none ∧ (prices msg.app msg.goodsId).head? = msg.money ∧
    msg.Complete

/-- What a call looks for, and the row that it inserts. -/
def request (msg : OrderMsg Text) (logTime : Int64) : Request (DeliverGoods Text) where
  hit := getOrder msg
  row := msg.row logTime

/-- **A call with an accepted message** checks and then inserts. -/
theorem checks_saveOrder {prices : PriceList Text} {msg : OrderMsg Text} (h : Accepted prices msg)
    (logTime : Int64) : Checks (request msg logTime) (saveOrder prices msg logTime) := by
  obtain ⟨hpay, hmoney, hprice, hcomplete⟩ := h
  rw [saveOrder, if_neg (by simp [hpay, hmoney])]
  refine .other ?_
  cases hlist : prices msg.app msg.goodsId with
  | nil =>
    rw [hlist] at hprice
    exact absurd hprice.symm hmoney
  | cons price rest =>
    rw [hlist, List.head?_cons] at hprice
    dsimp only
    rw [if_neg (by simp [hprice])]
    simp only [hcomplete, if_true]
    exact .check _

/-- **Any other call** inserts nothing. -/
theorem idle_saveOrder {prices : PriceList Text} {msg : OrderMsg Text} (h : ¬Accepted prices msg)
    (logTime : Int64) : Idle (saveOrder prices msg logTime) := by
  unfold saveOrder
  split
  · exact .throw _
  · next hcast =>
    refine .other ?_
    cases hlist : prices msg.app msg.goodsId with
    | nil => exact .throw _
    | cons price rest =>
      dsimp only
      by_cases hprice : msg.money ≠ some price
      · rw [if_pos hprice]
        exact .throw _
      · rw [if_neg hprice]
        have hcomplete : ¬msg.Complete := by
          intro hcomplete
          rw [not_or] at hcast
          refine h ⟨hcast.1, hcast.2, ?_, hcomplete⟩
          rw [hlist, List.head?_cons, not_not.mp hprice]
        refine .select fun found => ?_
        rw [if_neg hcomplete]
        split
        · exact .throw _
        · exact .other (.throw _)

/-! ## Orders -/

/-- **No order is recorded twice**: the table has at most one row for an order number and an
app. -/
def SavedOnce (table : List (DeliverGoods Text)) : Prop :=
  ∀ orderNumber app,
    table.countP (fun order => order.orderNumber = orderNumber ∧ order.app = app) ≤ 1

/-- What the delivery of an order is entered by. -/
def DeliverGoods.key (order : DeliverGoods Text) : Text × Text := (order.orderNumber, order.app)

lemma savedOnce_iff_nodup (table : List (DeliverGoods Text)) :
    SavedOnce table ↔ (table.map DeliverGoods.key).Nodup := by
  rw [List.nodup_iff_count_le_one, SavedOnce, Prod.forall]
  refine forall₂_congr fun orderNumber app => ?_
  rw [List.count, List.countP_map]
  have hpred : (fun order : DeliverGoods Text =>
      decide (order.orderNumber = orderNumber ∧ order.app = app)) =
        (fun k => k == (orderNumber, app)) ∘ DeliverGoods.key := by
    funext order
    rw [Function.comp_apply, DeliverGoods.key, Bool.eq_iff_iff, decide_eq_true_iff, beq_iff_eq,
      Prod.mk.injEq]
  rw [hpred]

omit [DecidableEq Text] in
/-- The rows of complete messages have the same key just if they are about one order. -/
lemma key_row_eq_iff {msg msg' : OrderMsg Text} (h : msg.Complete) (h' : msg'.Complete)
    (logTime logTime' : Int64) :
    (msg.row logTime).key = (msg'.row logTime').key ↔ msg.SameOrder msg' := by
  obtain ⟨n, hn⟩ := Option.isSome_iff_exists.mp h.1
  obtain ⟨n', hn'⟩ := Option.isSome_iff_exists.mp h'.1
  simp [OrderMsg.row, DeliverGoods.key, OrderMsg.SameOrder, hn, hn']

/-! ## Interleavings -/

/-- The calls, each with a message and the time, at the start. -/
def startCalls (prices : PriceList Text) (calls : ι → OrderMsg Text × Int64) :
    Pool ι (DeliverGoods Text) SaveError :=
  .start fun i => saveOrder prices (calls i).1 (calls i).2

variable [DecidableEq ι] (prices : PriceList Text) (calls : ι → OrderMsg Text × Int64)

/-- **The condition on a step**: when the check of a call finds nothing, there is no row with the
same order number and app under another uuid, and no other call for the same order is between its
check and its insertion. -/
def FirstOfOrder (s : Pool ι (DeliverGoods Text) SaveError) (i : ι) : Prop :=
  (∃ e, s.progs i = checkInsert (request (calls i).1 (calls i).2) e) →
    s.table.any (getOrder (calls i).1) = false →
      (∀ order ∈ s.table,
        ¬(some order.orderNumber = (calls i).1.orderNumber ∧ order.app = (calls i).1.app)) ∧
      ∀ j, s.progs j = .insert ((calls j).1.row (calls j).2) .done →
        ¬(calls j).1.SameOrder (calls i).1

omit [DecidableEq ι] in
lemma checks_calls (i : ι) (h : Accepted prices (calls i).1) :
    Checks (request (calls i).1 (calls i).2) (saveOrder prices (calls i).1 (calls i).2) :=
  checks_saveOrder h _

omit [DecidableEq ι] in
lemma idle_calls (i : ι) (h : ¬Accepted prices (calls i).1) :
    Idle (saveOrder prices (calls i).1 (calls i).2) :=
  idle_saveOrder h _

/-- **One interleaving**: if the checks that find nothing are the first of their order, no order is
recorded twice.

**Proof sketch.** The condition says of accepted messages, and only those come to their checks,
that the keys of the rows are different. -/
theorem savedOnce_of_first {sched : List ι}
    (h : Runs.EveryStep Pool.step (FirstOfOrder calls) (startCalls prices calls) sched) :
    SavedOnce (Runs.run Pool.step (startCalls prices calls) sched).table := by
  have hchecks := checks_calls prices calls
  have hidle := idle_calls prices calls
  refine (savedOnce_iff_nodup _).mpr
    (Pool.nodup_of_apart DeliverGoods.key hchecks hidle ?_)
  refine Runs.everyStep_of_inv (fun s _ => ∃ ins,
    Pool.Inserted (fun i => request (calls i).1 (calls i).2) (fun i => Accepted prices (calls i).1)
      s ins) ?_ ?_ ⟨[], Pool.inserted_start hchecks hidle⟩ h
  · rintro s i _ ⟨ins, hins⟩ -
    exact hins.exists_step i
  · rintro s i _ ⟨ins, hins⟩ hfirst hcheck hnone
    obtain ⟨e, hi⟩ := hcheck
    have hacti := (hins.act_of_check hi).2.2.2
    obtain ⟨htable, hpending⟩ := hfirst ⟨e, hi⟩ hnone
    refine ⟨fun order horder hkey => ?_, fun j hj hkey => ?_⟩
    · obtain ⟨n, hn⟩ := Option.isSome_iff_exists.mp hacti.1
      have hpair : order.orderNumber = n ∧ order.app = (calls i).1.app := by
        simpa [DeliverGoods.key, request, OrderMsg.row, hn] using hkey
      exact htable order horder ⟨by rw [hpair.1, hn], hpair.2⟩
    · have hactj := (hins.act_of_pending hj).1.2.2.2
      exact hpending j hj ((key_row_eq_iff hactj hacti _ _).mp hkey)

/-- **All interleavings**: no order is recorded twice in any of them just if no two accepted
messages are about one order. -/
theorem forall_savedOnce_iff :
    (∀ sched, SavedOnce (Runs.run Pool.step (startCalls prices calls) sched).table) ↔
      ∀ i j, i ≠ j → Accepted prices (calls i).1 → Accepted prices (calls j).1 →
        ¬(calls i).1.SameOrder (calls j).1 := by
  have hall := Pool.forall_nodup_iff DeliverGoods.key (checks_calls prices calls)
    (idle_calls prices calls)
  refine (forall_congr' fun sched => savedOnce_iff_nodup _).trans (hall.trans ?_)
  refine forall₅_congr fun i j _ hi hj => ?_
  exact not_congr (key_row_eq_iff hi.2.2.2 hj.2.2.2 _ _)

/-- **When no order is recorded twice.** In a run in which each check that finds nothing is the
first of its order, no order is recorded twice in any state. And none is in any interleaving just
if no two accepted messages are about one order. -/
theorem savedOnce_iff :
    (∀ sched, Runs.EveryStep Pool.step (FirstOfOrder calls) (startCalls prices calls) sched →
      ∀ pre, pre <+: sched →
        SavedOnce (Runs.run Pool.step (startCalls prices calls) pre).table) ∧
    ((∀ sched, SavedOnce (Runs.run Pool.step (startCalls prices calls) sched).table) ↔
      ∀ i j, i ≠ j → Accepted prices (calls i).1 → Accepted prices (calls j).1 →
        ¬(calls i).1.SameOrder (calls j).1) := by
  refine ⟨fun sched h pre hpre => ?_, forall_savedOnce_iff prices calls⟩
  obtain ⟨rest, rfl⟩ := hpre
  exact savedOnce_of_first prices calls ((Runs.everyStep_append _ _ _).mp h).1

end Save

/-! ## One order, twice -/

/-- A message about the order "n1" with the given uuid. -/
def orderMsg (orderUuid : String) : OrderMsg String where
  orderNumber := some "n1"
  app := "app"
  orderUuid := orderUuid
  payType := some 6
  goodsId := "gold"
  money := some 100
  serverId := some "s1"
  pid := some "p1"
  channel := some "c1"

/-- **One order is recorded twice** under two uuids, one call after the other; and also under one
uuid, when both calls look before either inserts. -/
theorem not_savedOnce_twice :
    ¬SavedOnce (Runs.run Pool.step
      (startCalls (fun _ _ => [100]) fun i : Bool => (orderMsg (if i then "u1" else "u2"), 0))
      [false, false, false, true, true, true]).table ∧
    ¬SavedOnce (Runs.run Pool.step
      (startCalls (fun _ _ => [100]) fun _ : Bool => (orderMsg "u1", 0))
      [false, true, false, true, false, true]).table := by
  constructor
  · intro h
    exact absurd (h "n1" "app") (by decide)
  · intro h
    exact absurd (h "n1" "app") (by decide)

end SrgpGame.Deliver
