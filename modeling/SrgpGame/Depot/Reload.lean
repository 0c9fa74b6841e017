import SrgpGame.Depot.GoodsLedger
import SrgpGame.Lib.Rebuild

set_option autoImplicit false

/-!
# The counter of a depot that is loaded

Only the counts of the goods are saved. The counter is built anew when a depot is loaded, and kept
up to date by `changeGoodsNum` in between. Both agree, whatever the configurations are and however
the sums overflow.

## Main definitions

* `buildAsLoad` — a depot is loaded from its row.
* `Counted` — the counter is the one that would be built anew.

## Main results

* `Counted.call` — a call of `changeGoodsNum` keeps the counter right.
* `getGoodsQuantity_reload` — saving and loading changes no quantity.
-/

namespace SrgpGame

open Rebuild

/-! ## Loading -/

/-- **`buildAsLoad`** with a row: the goods are counted, in the order of their map. -/
def buildAsLoad (cfgs : GoodsTable) (goodsCounts : AList fun _ : Int32 => Int32)
    (currencyMap : AList fun _ : Int32 => Int64) : DepotVO :=
  rebuild (fun depVO gid n => depVO.count (cfgs.getGoodsConfigById gid) n)
    ⟨goodsCounts, currencyMap, IntegerMap.create⟩ goodsCounts

/-- A depot that has no row yet is as if it was loaded from an empty one. -/
example (cfgs : GoodsTable) : buildAsLoad cfgs ∅ ∅ = DepotVO.init := rfl

variable {cfgs : GoodsTable} {depVO : DepotVO} {key gid : Int32}

/-- What goods count for under a key. -/
def share (cfgs : GoodsTable) (key gid n : Int32) : Int32 :=
  match cfgs.getGoodsConfigById gid with
  | none => 0
  | some cfg => (if key = cfg.id then n else 0) + if key = cfg.collectType then n else 0

/-- Goods are booked on the counter of a key. -/
def bookGoods (cfgs : GoodsTable) (key c gid n : Int32) : Int32 := c + share cfgs key gid n

/-- Counting goods books them on every key. -/
lemma getCount_count (n : Int32) : (depVO.count (cfgs.getGoodsConfigById gid) n).getCount key =
    bookGoods cfgs key (depVO.getCount key) gid n := by
  unfold bookGoods share
  cases cfgs.getGoodsConfigById gid with
  | none => rw [DepotVO.getCount_count_none, Int32.add_zero]
  | some cfg => rw [DepotVO.getCount_count_some, Int32.add_assoc]

lemma commutes_bookGoods : Commutes (bookGoods cfgs key) := by
  intro c gid n gid' n'
  simp only [bookGoods, Int32.add_assoc, Int32.add_comm (share cfgs key gid n)]

/-- Goods that are booked in two parts are booked at once. -/
lemma bookGoods_bookGoods (c gid n d : Int32) :
    bookGoods cfgs key (bookGoods cfgs key c gid n) gid d = bookGoods cfgs key c gid (n + d) := by
  unfold bookGoods share
  cases cfgs.getGoodsConfigById gid with
  | none => simp only [Int32.add_zero]
  | some cfg =>
    dsimp only
    split_ifs <;> grind

/-- The counter of a loaded depot, key by key. -/
lemma getCount_buildAsLoad {goodsCounts : AList fun _ : Int32 => Int32}
    {currencyMap : AList fun _ : Int32 => Int64} :
    (buildAsLoad cfgs goodsCounts currencyMap).getCount key =
      rebuild (bookGoods cfgs key) 0 goodsCounts := by
  have hcount : ∀ (entries : List (Sigma fun _ : Int32 => Int32)) (depVO : DepotVO),
      (bookAll (fun depVO gid n => depVO.count (cfgs.getGoodsConfigById gid) n) depVO
        entries).getCount key = bookAll (bookGoods cfgs key) (depVO.getCount key) entries := by
    intro entries
    induction entries with
    | nil => exact fun _ => rfl
    | cons e entries ih =>
      intro depVO
      have hrest := ih (depVO.count (cfgs.getGoodsConfigById e.1) e.2)
      rw [getCount_count] at hrest
      exact hrest
  exact hcount goodsCounts.entries _

/-! ## The counter between two loadings -/

/-- **The counter is a function of the saved counts**: the one that would be built from them. -/
def Counted (cfgs : GoodsTable) (depVO : DepotVO) : Prop :=
  ∀ key, depVO.getCount key = rebuild (bookGoods cfgs key) 0 depVO.goodsCounts

/-- Loading does not change the saved counts. -/
lemma goodsCounts_buildAsLoad {goodsCounts : AList fun _ : Int32 => Int32}
    {currencyMap : AList fun _ : Int32 => Int64} :
    (buildAsLoad cfgs goodsCounts currencyMap).goodsCounts = goodsCounts := by
  have hcounts : ∀ (entries : List (Sigma fun _ : Int32 => Int32)) (depVO : DepotVO),
      (bookAll (fun depVO gid n => depVO.count (cfgs.getGoodsConfigById gid) n) depVO
        entries).goodsCounts = depVO.goodsCounts := by
    intro entries
    induction entries with
    | nil => exact fun _ => rfl
    | cons e entries ih =>
      intro depVO
      exact (ih (depVO.count (cfgs.getGoodsConfigById e.1) e.2)).trans
        (DepotVO.goodsCounts_count _ _ _)
  exact hcounts goodsCounts.entries _

lemma counted_buildAsLoad (goodsCounts : AList fun _ : Int32 => Int32)
    (currencyMap : AList fun _ : Int32 => Int64) :
    Counted cfgs (buildAsLoad cfgs goodsCounts currencyMap) := by
  intro key
  rw [getCount_buildAsLoad, goodsCounts_buildAsLoad]

/-- Goods that are added are booked on both ledgers. -/
lemma Counted.addGoods (h : Counted cfgs depVO) (gid num : Int32) :
    Counted cfgs (depVO.addGoods cfgs gid num) := by
  intro key
  rw [goodsCounts_addGoods, DepotVO.addGoods, getCount_count, DepotVO.getCount_putGoodsCount, h key]
  unfold AList.getOrDefault
  cases hlookup : depVO.goodsCounts.lookup gid with
  | none =>
    rw [Option.getD_none, Int32.zero_add]
    exact (commutes_bookGoods.rebuild_insert_new hlookup).symm
  | some n =>
    rw [Option.getD_some]
    exact (commutes_bookGoods.rebuild_insert_add bookGoods_bookGoods hlookup).symm

/-- A call of `changeGoodsNum`. One that throws leaves the depot as it is. -/
def DepotVO.call (cfgs : GoodsTable) (depVO : DepotVO) (c : GoodsCall) : DepotVO :=
  match changeGoodsNum cfgs depVO c.cid c.num with
  | .ok (depVO, _) => depVO
  | .error _ => depVO

/-- **A call keeps the counter right.** -/
lemma Counted.call (h : Counted cfgs depVO) (c : GoodsCall) : Counted cfgs (depVO.call cfgs c) := by
  unfold DepotVO.call
  by_cases hnum : c.num < 0
  · cases hcall : changeGoodsNum cfgs depVO c.cid c.num with
    | error e => exact h
    | ok r =>
      obtain ⟨n, -, -, rfl⟩ := (changeGoodsNum_neg hnum).mp hcall
      exact h
  · rw [changeGoodsNum_nonneg hnum]
    exact h.addGoods c.cid c.num

/-- **Saving and loading changes no quantity**: after any calls on a depot that was made or loaded
before, the depot that is loaded from what was saved has the same quantity of all goods and collect
types. The order of the entries may have changed. -/
theorem getGoodsQuantity_reload (cfgs : GoodsTable)
    (goodsCounts saved : AList fun _ : Int32 => Int32)
    (currencyMap savedCurrency : AList fun _ : Int32 => Int64) (calls : List GoodsCall)
    (hsaved : ∀ gid, saved.lookup gid =
      (Runs.run (DepotVO.call cfgs) (buildAsLoad cfgs goodsCounts currencyMap) calls
        ).goodsCounts.lookup gid) (idOrCollectType : Int32) :
    getGoodsQuantity (buildAsLoad cfgs saved savedCurrency) idOrCollectType =
      getGoodsQuantity (Runs.run (DepotVO.call cfgs) (buildAsLoad cfgs goodsCounts currencyMap)
        calls) idOrCollectType := by
  have hcounted : Counted cfgs (Runs.run (DepotVO.call cfgs)
      (buildAsLoad cfgs goodsCounts currencyMap) calls) :=
    Runs.forall_inv_run (Counted cfgs) (fun _ c h => h.call c)
      (counted_buildAsLoad goodsCounts currencyMap) calls
  unfold getGoodsQuantity
  rw [hcounted idOrCollectType, getCount_buildAsLoad]
  exact commutes_bookGoods.rebuild_congr hsaved

/-- Two kinds of goods share a collect type, which is the id of one of them, and the row is read
back in another order. -/
theorem getGoodsQuantity_reload_shared :
    getGoodsQuantity (buildAsLoad (.ofList [⟨1, 2⟩, ⟨2, 2⟩])
      ((AList.insert 1 5 ∅).insert 2 2147483647) ∅) 2 =
    getGoodsQuantity (Runs.run (DepotVO.call (.ofList [⟨1, 2⟩, ⟨2, 2⟩]))
      (buildAsLoad (.ofList [⟨1, 2⟩, ⟨2, 2⟩]) ∅ ∅)
      [⟨2, 2147483647⟩, ⟨1, 3⟩, ⟨1, -2⟩, ⟨1, 2⟩]) 2 := by
  refine getGoodsQuantity_reload _ ∅ _ ∅ ∅ _ ?_ 2
  intro gid
  have hcounts : (Runs.run (DepotVO.call (.ofList [⟨1, 2⟩, ⟨2, 2⟩]))
      (buildAsLoad (.ofList [⟨1, 2⟩, ⟨2, 2⟩]) ∅ ∅) [⟨2, 2147483647⟩, ⟨1, 3⟩, ⟨1, -2⟩, ⟨1, 2⟩]
      ).goodsCounts = (AList.insert 2 2147483647 ∅).insert 1 5 := AList.ext (by decide +kernel)
  rw [hcounts]
  exact AList.perm_lookup (AList.insert_insert_of_ne ∅ (by decide))

end SrgpGame
