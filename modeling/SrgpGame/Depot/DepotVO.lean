import SrgpGame.Core.Codes

set_option autoImplicit false

/-!
# The depot: goods

A player's depot keeps the stackable goods in two ledgers. `goodsCounts` is the saved map from a
goods id to a count. `goodsCounter` is derived, never saved, and is what every affordability
check reads: it counts a goods item under its id and once more under its collect type.

## Main definitions

* `GoodsConfig`, `GoodsTable` — the goods configurations, found by id.
* `IntegerMap` — a map of counters that are zero until counted.
* `DepotVO` — the depot, with `DepotVO.count` and `DepotVO.getCount`.
* `getGoodsQuantity`, `checkGoodsEnough`, `changeGoodsNum` — the goods methods of `DepotBOImpl`.

## Design notes

The goods that are objects of their own (`goodsEntities` and its references) never meet the
counted goods in these methods and are left out, and so is the call to the database. A method
that changes the depot returns the new one; `changeGoodsNum` returns with it the count that it
puts into the client's update message.
-/

namespace SrgpGame

/-! ## Goods configurations -/

/-- The configuration of a goods item, as far as the depot reads it. -/
structure GoodsConfig where
  /-- The goods id. -/
  id : Int32
  /-- The type under which quests collect the item; a configuration that names none has `0`. -/
  collectType : Int32 := 0
  deriving DecidableEq, Repr

/-- `CacheGoods.goodsMap`: every configuration is filed under its own id. -/
structure GoodsTable where
  /-- The configuration filed under an id. -/
  getGoodsConfigById : Int32 → Option GoodsConfig
  /-- The table is filled with `put(cfg.getId(), cfg)`. -/
  id_eq : ∀ gid cfg, getGoodsConfigById gid = some cfg → cfg.id = gid

/-- The table filled from a list of configurations; a later one replaces an earlier one. -/
def GoodsTable.ofList (cfgs : List GoodsConfig) : GoodsTable where
  getGoodsConfigById gid := cfgs.reverse.find? fun cfg => cfg.id = gid
  id_eq gid cfg h := by simpa using List.find?_some h

/-! ## Counters -/

/-- `IntegerMap`: counters that are zero until counted. -/
structure IntegerMap where
  /-- The counters that were written. -/
  map : AList fun _ : Int32 => Int32

namespace IntegerMap

/-- The empty counter map. -/
def create : IntegerMap := ⟨∅⟩

/-- The counter of a key, zero when it was never written. -/
def get (m : IntegerMap) (key : Int32) : Int32 := m.map.getOrDefault key 0

/-- Adds `delta` to the counter of `key`. -/
def addAndGet (m : IntegerMap) (key delta : Int32) : IntegerMap :=
  ⟨m.map.insert key (m.get key + delta)⟩

@[simp] lemma get_create (key : Int32) : create.get key = 0 := rfl

lemma get_addAndGet (m : IntegerMap) (key delta key' : Int32) :
    (m.addAndGet key delta).get key' = m.get key' + if key' = key then delta else 0 := by
  rw [get, addAndGet, AList.getOrDefault_insert]
  split
  · next h => rw [h]
  · simp [get]

end IntegerMap

/-! ## The depot -/

/-- `DepotVO`: the two goods ledgers and the currencies. -/
structure DepotVO where
  /-- The saved counts of the stackable goods, by goods id. -/
  goodsCounts : AList fun _ : Int32 => Int32
  /-- The currencies, by currency type. -/
  currencyMap : AList fun _ : Int32 => Int64
  /-- The derived counter, by goods id or collect type. -/
  goodsCounter : IntegerMap

namespace DepotVO

/-- `DepotVO.init`: a fresh depot. -/
def init : DepotVO := ⟨∅, ∅, IntegerMap.create⟩

/-- Counts a goods item under its id and under its collect type. Without a configuration nothing
is counted. -/
def count (depVO : DepotVO) (cfg : Option GoodsConfig) (delta : Int32) : DepotVO :=
  match cfg with
  | none => depVO
  | some cfg =>
    let counter := depVO.goodsCounter.addAndGet cfg.id delta
    { depVO with goodsCounter := counter.addAndGet cfg.collectType delta }

/-- The count of a goods id or a collect type. -/
def getCount (depVO : DepotVO) (idOrCollectType : Int32) : Int32 :=
  depVO.goodsCounter.get idOrCollectType

/-- Puts a count into the saved ledger. -/
def putGoodsCount (depVO : DepotVO) (cid n : Int32) : DepotVO :=
  { depVO with goodsCounts := depVO.goodsCounts.insert cid n }

@[simp] lemma getCount_putGoodsCount (depVO : DepotVO) (cid n key : Int32) :
    (depVO.putGoodsCount cid n).getCount key = depVO.getCount key := rfl

@[simp] lemma goodsCounts_putGoodsCount (depVO : DepotVO) (cid n : Int32) :
    (depVO.putGoodsCount cid n).goodsCounts = depVO.goodsCounts.insert cid n := rfl

@[simp] lemma goodsCounts_count (depVO : DepotVO) (cfg : Option GoodsConfig) (delta : Int32) :
    (depVO.count cfg delta).goodsCounts = depVO.goodsCounts := by
  cases cfg <;> rfl

@[simp] lemma getCount_count_none (depVO : DepotVO) (delta key : Int32) :
    (depVO.count none delta).getCount key = depVO.getCount key := rfl

lemma getCount_count_some (depVO : DepotVO) (cfg : GoodsConfig) (delta key : Int32) :
    (depVO.count (some cfg) delta).getCount key =
      depVO.getCount key + (if key = cfg.id then delta else 0) +
        if key = cfg.collectType then delta else 0 := by
  simp only [getCount, count, IntegerMap.get_addAndGet]

end DepotVO

/-! ## The goods methods -/

/-- The number of goods of an id or a collect type. -/
def getGoodsQuantity (depVO : DepotVO) (idOrCollectType : Int32) : Int32 :=
  depVO.getCount idOrCollectType

/-- Throws unless `|num|` goods are there. -/
def checkGoodsEnough (depVO : DepotVO) (gid num : Int32) : Except Thrown Unit :=
  CodeDepot.depotGoodsNumNotEnough.throwIfTrue (getGoodsQuantity depVO gid < num.abs)

/-- Changes the number of goods `cid` by `num` and returns the new depot together with the count
for the client. -/
def changeGoodsNum (cfgs : GoodsTable) (depVO : DepotVO) (cid num : Int32) :
    Except Thrown (DepotVO × Int32) :=
  let goodsConfig := cfgs.getGoodsConfigById cid
  let currNum := depVO.goodsCounts.lookup cid
  if num < 0 then
    -- this branch tests the count and leaves both ledgers as they are
    match currNum with
    | none => CodeDepot.depotGoodsNumNotEnough.throwException
    | some n => do
      CodeDepot.depotGoodsNumNotEnough.throwIfTrue (n < num.abs)
      return (depVO, n)
  else
    let currNum := match currNum with
      | none => num
      | some n => n + num
    return ((depVO.putGoodsCount cid currNum).count goodsConfig num, currNum)

/-- **A call with a negative amount changes nothing**: it is accepted exactly when the saved count
covers it, and then returns the depot it was given. -/
theorem changeGoodsNum_neg {cfgs : GoodsTable} {depVO : DepotVO} {cid num : Int32}
    (hnum : num < 0) {r : DepotVO × Int32} :
    changeGoodsNum cfgs depVO cid num = .ok r ↔
      ∃ n, depVO.goodsCounts.lookup cid = some n ∧ num.abs ≤ n ∧ r = (depVO, n) := by
  unfold changeGoodsNum
  rw [if_pos hnum]
  cases depVO.goodsCounts.lookup cid with
  | none => simp [ICode.throwException]
  | some n =>
    by_cases hn : n < num.abs
    · simp [ICode.throwIfTrue, ICode.throwException, hn, bind, Except.bind]
    · have hle : num.abs ≤ n := Int32.not_lt.mp hn
      simp [ICode.throwIfTrue, hn, hle, bind, Except.bind, pure, Except.pure, eq_comm]

/-- The depot after an addition of goods: both ledgers are written. -/
def DepotVO.addGoods (cfgs : GoodsTable) (depVO : DepotVO) (cid num : Int32) : DepotVO :=
  (depVO.putGoodsCount cid (depVO.goodsCounts.getOrDefault cid 0 + num)).count
    (cfgs.getGoodsConfigById cid) num

lemma goodsCounts_addGoods (cfgs : GoodsTable) (depVO : DepotVO) (cid num : Int32) :
    (depVO.addGoods cfgs cid num).goodsCounts =
      depVO.goodsCounts.insert cid (depVO.goodsCounts.getOrDefault cid 0 + num) := by
  rw [DepotVO.addGoods, DepotVO.goodsCounts_count, DepotVO.goodsCounts_putGoodsCount]

/-- **A call with an amount that is not negative is accepted**, and books it on both ledgers. -/
theorem changeGoodsNum_nonneg {cfgs : GoodsTable} {depVO : DepotVO} {cid num : Int32}
    (hnum : ¬num < 0) :
    changeGoodsNum cfgs depVO cid num =
      .ok (depVO.addGoods cfgs cid num, depVO.goodsCounts.getOrDefault cid 0 + num) := by
  unfold changeGoodsNum
  rw [if_neg hnum]
  cases h : depVO.goodsCounts.lookup cid <;>
    simp [DepotVO.addGoods, AList.getOrDefault, h, pure, Except.pure]

end SrgpGame
