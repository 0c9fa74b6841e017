import SrgpGame.Func.Executor
import SrgpGame.Depot.GoodsLedger

set_option autoImplicit false

/-!
# The bookings of a run

A function that is to book an amount (`demand`) does so on an account: a currency, the goods of an
id, or the guild money. In exact integers it is said when the amount can be paid, and what the
player is once it is booked; then the listeners to the change take their turn, and the next function
comes.

## Main definitions

* `demand` — the amount that a function is to book.
* `PlayerVO.NonNegative` — a player with no negative balance.
* `RunSound` — the run completes, pays every cost in full, and leaves nothing negative.
* `Affordable`, `afterBooking`, `happened` — a booking: when it can be paid, what it leaves, and its
  events.
* `Payable` — the condition: every booking can be paid in its turn, and no listener throws.
* `StaysInRange` — no sum leaves its range.

## Design notes

The listeners are arbitrary: a quest that a change finishes may book its prizes in between. So a
cost is paid if the booking itself lowers the account by it, whatever the listeners do afterwards.
-/

namespace SrgpGame.Func

/-! ## Balances -/

namespace PlayerVO

/-- The balance of a currency type. -/
def balance (p : PlayerVO) (type : Int32) : ℤ := (p.depotVO.currencyMap.getOrDefault type 0).toInt

/-- The number of goods in the saved ledger. -/
def stock (p : PlayerVO) (cid : Int32) : ℤ := (p.depotVO.goodsCounts.getOrDefault cid 0).toInt

/-- The number of goods in the counter. -/
def quantity (p : PlayerVO) (key : Int32) : ℤ := (getGoodsQuantity p.depotVO key).toInt

/-- No currency is negative and no count of goods, in either ledger. -/
structure Solvent (p : PlayerVO) : Prop where
  balance : ∀ type, 0 ≤ p.balance type
  stock : ∀ cid, 0 ≤ p.stock cid
  quantity : ∀ key, 0 ≤ p.quantity key

/-- **No balance is negative**: no currency, no count of goods, no guild money. -/
structure NonNegative (p : PlayerVO) : Prop extends Solvent p where
  mny : ∀ guild ∈ p.guild, 0 ≤ guild.mny.toInt

end PlayerVO

/-! ## Bookings -/

/-- A function with the amount it is to book. -/
structure Booking where
  func : AbstractFunc
  amount : ℤ

/-- The player once the amount is booked. -/
def afterBooking (cfgs : GoodsTable) (p : PlayerVO) (b : Booking) : PlayerVO :=
  match b.func.type with
  | .changeCurFunc =>
    match CurrencyType.ofType b.func.param.param with
    | none => p
    | some type =>
      if type = .null ∨ b.amount = 0 then p
      else p.setDepotVO (p.depotVO.putCurrency type
        (getCurByType p.depotVO type + Int64.ofInt b.amount))
  | .changeGoodsFunc =>
    if 0 < b.func.param.param then
      p.setDepotVO (p.depotVO.addGoods cfgs b.func.param.param (Int32.ofInt b.amount))
    else p
  | .changeGuildMnyFunc => ChangeGuildMnyFunc.changed p b.func.param

section Run

variable (cfgs : Configs) (happen : DepotEvent → Exec Unit) (execNum : Int32)

/-- **A cost is paid in full**: a negative amount lowers the account it is booked on by exactly
itself. -/
def CostPaid (f : AbstractFunc) (amount : ℤ) (p p' : PlayerVO) : Prop :=
  amount < 0 →
    match f.type with
    | .changeCurFunc => p'.balance f.param.param = p.balance f.param.param + amount
    | .changeGoodsFunc => p'.stock f.param.param = p.stock f.param.param + amount
    | .changeGuildMnyFunc => ∃ guild ∈ p.guild, ∃ guild' ∈ p'.guild,
        guild'.mny.toInt = guild.mny.toInt + amount

/-- No sum of a booking leaves the integer range of its account. -/
def InRange (cfgs : GoodsTable) (p : PlayerVO) (b : Booking) : Prop :=
  match b.func.type with
  | .changeCurFunc => p.balance b.func.param.param + b.amount < 2 ^ 63
  | .changeGoodsFunc => -2 ^ 31 ≤ b.amount ∧ p.stock b.func.param.param + b.amount < 2 ^ 31 ∧
      ∀ key, p.quantity key +
        booked cfgs key ⟨b.func.param.param, Int32.ofInt b.amount⟩ < 2 ^ 31
  | .changeGuildMnyFunc => ∀ guild ∈ p.guild,
      -2 ^ 63 ≤ guild.mny.toInt + b.amount ∧ guild.mny.toInt + b.amount < 2 ^ 63

end Run

end SrgpGame.Func
