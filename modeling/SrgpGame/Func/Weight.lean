import SrgpGame.Func.Param
import SrgpGame.Lib.Method

set_option autoImplicit false

/-!
# Random amounts

The amount of a goods function can be drawn at random from a weight configuration. The random
generator is a stream of numbers, so that a statement for every stream is a statement for every
random choice.

## Main definitions

* `Rng`, `nextInt` — the generator and `Random.nextInt`.
* `WeightConfig`, `FixedExecConfig`, `Configs` — the configuration tables that functions read.
* `randomWeightValue`, `getValue` — `WeightValueFunc`.
-/

namespace SrgpGame.Func

/-! ## Random numbers -/

/-- A random generator: the numbers still to be drawn. -/
structure Rng where
  draw : ℕ → ℕ

/-- `Random.nextInt(bound)`: a number from zero to `bound`, exclusive. -/
def nextInt (bound : Int32) : EStateM Thrown Rng Int32 := fun rng =>
  if bound ≤ 0 then .error .illegalArgument rng
  else .ok (Int32.ofNat (rng.draw 0 % bound.toInt.toNat)) ⟨fun n => rng.draw (n + 1)⟩

/-- A positive bound has a number below it. -/
lemma run_nextInt_of_pos {bound : Int32} (h : 0 < bound.toInt) (rng : Rng) :
    (nextInt bound).run rng =
      .ok (Int32.ofNat (rng.draw 0 % bound.toInt.toNat)) ⟨fun n => rng.draw (n + 1)⟩ := by
  refine if_neg ?_
  rw [Int32.le_iff_toInt_le, Int32.toInt_zero]
  omega

/-- Below another bound there is no number. -/
lemma run_nextInt_of_nonpos {bound : Int32} (h : bound.toInt ≤ 0) (rng : Rng) :
    (nextInt bound).run rng = .error .illegalArgument rng := by
  refine if_pos ?_
  rw [Int32.le_iff_toInt_le, Int32.toInt_zero]
  exact h

/-- A number of elements has a place below it. -/
lemma run_nextInt_length {n : ℕ} (hpos : 0 < n) (hsize : n < 2 ^ 31) (rng : Rng) :
    ∃ index, (nextInt (Int32.ofNat n)).run rng = .ok index ⟨fun k => rng.draw (k + 1)⟩ ∧
      index.toInt.toNat = rng.draw 0 % n := by
  have hint : (Int32.ofNat n).toInt = n := Int32.toInt_ofNat_of_lt hsize
  have hmod := Nat.mod_lt (rng.draw 0) hpos
  have hindex : (Int32.ofNat (rng.draw 0 % n)).toInt = (rng.draw 0 % n : ℕ) :=
    Int32.toInt_ofNat_of_lt (by omega)
  refine ⟨Int32.ofNat (rng.draw 0 % n), ?_, ?_⟩
  · rw [run_nextInt_of_pos (by omega), hint, Int.toNat_natCast]
  · rw [hindex, Int.toNat_natCast]

/-! ## Configurations -/

/-- `WeightConfig.Item`. -/
structure WeightItem where
  weight : Int32
  value : Int32
  deriving DecidableEq, Repr

/-- `WeightConfig`: items to draw from, and the sum of their weights. -/
structure WeightConfig where
  items : List WeightItem
  sumWeight : Int32
  deriving DecidableEq, Repr

/-- `FixedExecConfig`: of every `total` functions, `fixed` are selected. -/
structure FixedExecConfig where
  total : Int32
  fixed : Int32
  deriving DecidableEq, Repr

/-- The configuration tables. -/
structure Configs where
  goods : GoodsTable
  weight : Int32 → Option WeightConfig
  fixedExec : Int32 → Option FixedExecConfig

/-! ## Drawing an amount -/

/-- The share of an item: `weight * execNum / sumWeight`. -/
def itemNum (config : WeightConfig) (execNum : Int32) (item : WeightItem) :
    EStateM Thrown Rng Int32 :=
  if config.sumWeight = 0 then throw .arithmetic
  else pure (item.weight * execNum / config.sumWeight)

/-- One round of the loop that spreads `execNum` over the items: a number near the share, or all
that is left. -/
def spread (acc : List Int32 × Int32) (num : Int32) : EStateM Thrown Rng (List Int32 × Int32) := do
  let (nums, execNum) := acc
  let random ← nextInt (num * 4)
  let n := (num * 8 + random) / 10
  if execNum ≤ n then return (nums ++ [execNum], 0)
  else return (nums ++ [n], execNum - n)

/-- The items that a random number passes over, one after another: where it does not exceed the
weight the value is added, and the loop goes on. -/
def addItems (items : List WeightItem) (random sumValue : Int32) : Int32 :=
  (items.foldl (fun acc item =>
    if item.weight < acc.1 then (acc.1 - item.weight, acc.2)
    else (acc.1, acc.2 + item.value)) (random, sumValue)).2

/-- Draws `k` times. -/
def drawItems (config : WeightConfig) : ℕ → Int32 → EStateM Thrown Rng Int32
  | 0, sumValue => pure sumValue
  | k + 1, sumValue => do
    let random ← nextInt config.sumWeight
    drawItems config k (addItems config.items random sumValue)

/-- `randomWeightValue`: a random amount. -/
def randomWeightValue (cfgs : Configs) (param : FuncParam) (execNum : Int32) :
    EStateM Thrown Rng Int32 :=
  match cfgs.weight param.param2 with
  | none => pure 0
  | some config =>
    if 100 ≤ execNum then do
      let nums ← config.items.mapM (itemNum config execNum)
      let (nums2, execNum) ← nums.foldlM spread ([], execNum)
      let nums2 ←
        if 0 < execNum then do
          let index ← nextInt (Int32.ofNat nums2.length / 2)
          pure (nums2.modify index.toInt.toNat (· + execNum))
        else pure nums2
      return (nums2.zip config.items).foldl (fun sum p => sum + p.2.value * p.1) 0
    else drawItems config 100 0

/-- `getValue`: a random amount when a weight configuration is named, else `execNum` times the
value. -/
def getValue (cfgs : Configs) (param : FuncParam) (execNum : Int32) :
    EStateM Thrown Rng Int64 :=
  if 0 < param.param2 then do
    let value ← randomWeightValue cfgs param execNum
    return value.toInt64
  else pure (param.value * execNum.toInt64)

end SrgpGame.Func
