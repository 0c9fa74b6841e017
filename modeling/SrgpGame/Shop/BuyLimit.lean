import SrgpGame.Func.Rejected
import SrgpGame.Lib.Runs
import SrgpGame.Shop.ShopBO

set_option autoImplicit false

/-!
# The limit of a shop item

What is recorded as sold and the quantity that a client asks for are added up as machine integers.
If the sum wraps around, the check of the limit passes and the item is sold far beyond it. A sum
that fits is compared with the limit before it is recorded. A purchase that is rejected by a check
has changed nothing; one that is rejected by the function of the item has changed what this
function changed.

## Main definitions

* `WithinLimit` — no item was sold beyond its limit.
* `RejectedLeaves` — a rejected purchase leaves everything as it was.
* `LimitKept` — both, for a run.
* `Kept` — the invariant: what is recorded is what was sold, within the limit.
* `Regular` — the sum fits, and the function of the item is careful.

## Main results

* `player_of_purchase` — a rejected purchase of a careful function leaves the player.
* `Kept.step` — a regular request keeps the invariant.
* `limit_kept` — a run of regular requests keeps the limits.
-/

namespace SrgpGame.Shop

open Func (FuncParam)
open FixedDrop (PlayerVO)
open BaseExecutor (Exec AbstractFunc Books Careful BaseFuncsExecutor getExecutor withExecutors
  getExecutor_run run_withExecutors)

variable {σ ρ κ : Type}

/-! ## What is required -/

section Required

variable (cfgs : ShopCfgs σ ρ κ)

/-- A player gets to a shop. -/
structure Sees (s : ShopState σ) (pid shopId : Int32) (config : ShopConfig) (shopVO : ShopVO) :
    Prop where
  shop_eq : cfgs.shop shopId = some config
  getShopVO_eq : getShopVO s pid shopId config = .ok (some shopVO)

/-- **No item was sold beyond its limit.** Only guild shops have limits above zero. -/
def WithinLimit (s : ShopState σ) : Prop :=
  ∀ pid shopId config shopVO, Sees cfgs s pid shopId config shopVO → ∀ item ∈ shopVO.itemVOs,
    ∀ limit, getShopItemLimit cfgs pid shopVO item = .ok limit → 0 < limit →
      item.total ≤ limit.toInt

variable [DecidableEq κ]

/-- **A rejected purchase** leaves the items and the players as they were. -/
def RejectedLeaves (s : ShopState σ) (req : BuyReq) : Prop :=
  ∀ code s', (buy cfgs req).run s = .error (.logic code) s' → s' = s

/-- **The limits are kept** in every state of a run, and rejected purchases change nothing. -/
def LimitKept (s : ShopState σ) (reqs : List BuyReq) : Prop :=
  (∀ pre, pre <+: reqs → WithinLimit cfgs (Runs.run (step cfgs) s pre)) ∧
    Runs.EveryStep (step cfgs) (RejectedLeaves cfgs) s reqs

end Required

/-! ## Rejected purchases -/

section Rejected

variable (cfgs : ShopCfgs σ ρ κ)

/-- The function that a purchase executes. -/
def soldFunc (shopItemConfig : ShopItemConfig) (quantity : Int32) : Option (AbstractFunc σ ρ) :=
  shopItemConfig.purchase.bind fun funcConfig =>
    (cfgs.getFunc funcConfig.type).map fun getFunc =>
      getFunc { funcConfig.copy.param with
        value := funcConfig.copy.param.value * quantity.toInt64 }

variable {cfgs} {shopItemConfig : ShopItemConfig} {quantity : Int32}

/-- Without a function nothing is accepted. -/
lemma addSyncFunc_of_none (h : soldFunc cfgs shopItemConfig quantity = none)
    (exec : BaseFuncsExecutor σ ρ κ) :
    addSyncFunc cfgs exec shopItemConfig.purchase quantity = throw .nullPointer := by
  unfold addSyncFunc
  unfold soldFunc at h
  cases hpurchase : shopItemConfig.purchase with
  | none => rfl
  | some funcConfig =>
    cases hgetFunc : cfgs.getFunc funcConfig.type with
    | none => simp [hgetFunc]
    | some getFunc => simp [hpurchase, hgetFunc] at h

/-- The function is accepted. -/
lemma addSyncFunc_of_some {func : AbstractFunc σ ρ}
    (h : soldFunc cfgs shopItemConfig quantity = some func) (exec : BaseFuncsExecutor σ ρ κ) :
    addSyncFunc cfgs exec shopItemConfig.purchase quantity = exec.acceptFunc func := by
  unfold addSyncFunc
  unfold soldFunc at h
  cases hpurchase : shopItemConfig.purchase with
  | none => simp [hpurchase] at h
  | some funcConfig =>
    cases hgetFunc : cfgs.getFunc funcConfig.type with
    | none => simp [hpurchase, hgetFunc] at h
    | some getFunc =>
      obtain rfl : getFunc _ = func := by simpa [hpurchase, hgetFunc] using h
      simp [hgetFunc]

variable [DecidableEq κ]

/-- A purchase that is rejected among the executors leaves the player. -/
lemma player_of_run_purchase {cmd : Option Int32} {s s' : BaseExecutor.ExecState σ ρ} {code : Int32}
    (hfunc : ∀ func, soldFunc cfgs shopItemConfig quantity = some func →
      Careful cfgs.fixedExec func) (hlog : s.log = [])
    (hrun : (purchase cfgs cmd shopItemConfig quantity).run s = .error (.logic code) s') :
    s'.player = s.player := by
  obtain ⟨exec₁, s₁, hget₁, -, hplayer₁, hlog₁, -⟩ := getExecutor_run cfgs.recs cmd hlog
  rw [purchase, EStateM.run_bind, hget₁] at hrun
  simp only at hrun
  cases hsold : soldFunc cfgs shopItemConfig quantity with
  | none =>
    -- nothing to sell is an unchecked exception
    rw [addSyncFunc_of_none hsold, EStateM.run_bind] at hrun
    cases hrun
  | some func =>
    have hcareful := hfunc func hsold
    set s₂ : BaseExecutor.ExecState σ ρ := (exec₁.acceptFunc func).finalState s₁ with hs₂
    have haccept : (exec₁.acceptFunc func).run s₁ = .ok () s₂ := rfl
    obtain ⟨exec, s₃, hget₃, hfunction, hplayer₃, hlog₃, hbooks₃⟩ :=
      getExecutor_run cfgs.recs cmd (s := s₂) hlog₁
    rw [addSyncFunc_of_some hsold, EStateM.run_bind, haccept] at hrun
    simp only at hrun
    rw [EStateM.run_bind, hget₃] at hrun
    simp only at hrun
    have hplayer : s₃.player = s.player := by
      rw [hplayer₃, ← hplayer₁]
      rfl
    -- the check of the costs finds none
    have hchecks : ((exec.selectAndCheck cfgs.fixedExec cfgs.recs).finalState s₃).player =
        s₃.player := hbooks₃.player_selectAndCheck cfgs.check_leaves (by simp)
    rw [EStateM.run_bind] at hrun
    cases hselect : (exec.selectAndCheck cfgs.fixedExec cfgs.recs).run s₃ with
    | error e s₄ =>
      rw [hselect] at hrun
      cases hrun
      rw [EStateM.finalState_eq_of_error hselect] at hchecks
      rw [hchecks, hplayer]
    | ok exec' s₄ =>
      rw [EStateM.finalState_eq_of_ok hselect] at hchecks
      rw [hselect] at hrun
      simp only at hrun
      obtain ⟨hbooks₄, -, hsame, -⟩ := hbooks₃.selectAndCheck (by simp) hselect
      obtain ⟨s₅, haccept₅, hbooks₅⟩ := hbooks₄.acceptFunc func
      rw [addSyncFunc_of_some hsold, EStateM.run_bind, haccept₅] at hrun
      simp only at hrun
      have hplayer₅ : s₅.player = s₄.player := by
        cases haccept₅
        rfl
      rw [hbooks₅.player_of_exec cfgs.check_leaves (hsame.function.trans hfunction) hcareful hrun,
        hplayer₅, hchecks, hplayer]

/-- **A rejected purchase of a careful function** leaves the player. -/
theorem player_of_purchase {cmd : Option Int32} {player player' : PlayerVO σ} {code : Int32}
    (hfunc : ∀ func, soldFunc cfgs shopItemConfig quantity = some func →
      Careful cfgs.fixedExec func)
    (hrun : (withExecutors (purchase cfgs cmd shopItemConfig quantity)).run player =
      .error (.logic code) player') : player' = player := by
  rw [run_withExecutors] at hrun
  cases hpurchase : (purchase cfgs cmd shopItemConfig quantity).run
      ⟨player, ⟨fun _ => [], 0⟩, []⟩ with
  | ok u s' =>
    rw [hpurchase] at hrun
    cases hrun
  | error e s' =>
    rw [hpurchase] at hrun
    cases hrun
    exact player_of_run_purchase hfunc rfl hpurchase

end Rejected

/-! ## What a purchase does -/

section Purchase

variable {cfgs : ShopCfgs σ ρ κ} {s s' : ShopState σ} {pid shopId index quantity : Int32}
  {config : ShopConfig} {shopVO : ShopVO} {item : ShopItemVO} {shopItemConfig : ShopItemConfig}

/-- A shop that a player gets to is under its id, and so is its configuration. -/
lemma Sees.getCfg (h : Sees cfgs s pid shopId config shopVO) :
    shopVO.cid = shopId ∧ shopVO.getCfg cfgs = .ok config := by
  have hcid : shopVO.cid = shopId := by
    have hget := h.getShopVO_eq
    unfold getShopVO ShopMap.getPlaced at hget
    split_ifs at hget
    · exact s.systemVO.cid_of_get (Except.ok.inj hget)
    · exact (s.shopVOMap pid).cid_of_get (Except.ok.inj hget)
  refine ⟨hcid, ?_⟩
  rw [ShopVO.getCfg, hcid, h.shop_eq]

/-- **What the checks of `buy` have found** when they pass. -/
lemma checkBuy_eq_ok
    (h : checkBuy cfgs s pid shopId index quantity = .ok (shopVO, item, shopItemConfig)) :
    (∃ config, Sees cfgs s pid shopId config shopVO) ∧
      shopVO.itemVOs[index.toInt.toNat]? = some item ∧
      checkLimit cfgs pid shopVO item quantity = .ok () ∧
      cfgs.shopItem item.cid = some shopItemConfig := by
  unfold checkBuy at h
  cases hshop : cfgs.shop shopId with
  | none =>
    rw [hshop] at h
    cases h
  | some config =>
    simp only [hshop] at h
    obtain ⟨found, hget, h⟩ := Except.bind_eq_ok.mp h
    cases found with
    | none => cases h
    | some shopVO₁ =>
      obtain ⟨⟨⟩, -, h⟩ := Except.bind_eq_ok.mp h
      cases hitem : shopVO₁.itemVOs[index.toInt.toNat]? with
      | none =>
        simp only [hitem] at h
        cases h
      | some item₁ =>
        simp only [hitem] at h
        obtain ⟨⟨⟩, hlimit, h⟩ := Except.bind_eq_ok.mp h
        cases hcfg : cfgs.shopItem item₁.cid with
        | none =>
          simp only [hcfg] at h
          cases h
        | some shopItemConfig₁ =>
          simp only [hcfg] at h
          cases h
          exact ⟨⟨config, hshop, hget⟩, hitem, hlimit, hcfg⟩

variable [DecidableEq κ]

/-- What a method on a player does to the shops: nothing. -/
lemma shops_onPlayer (pid : Int32) {α : Type} (x : EStateM Thrown (PlayerVO σ) α)
    (s : ShopState σ) :
    ((onPlayer pid x).finalState s).systemVO = s.systemVO ∧
      ((onPlayer pid x).finalState s).shopVOMap = s.shopVOMap := by
  rw [EStateM.finalState, onPlayer, EStateM.run_zoom]
  cases x.run (s.players pid) with
  | ok a player => exact ⟨rfl, rfl⟩
  | error e player => exact ⟨rfl, rfl⟩

omit [DecidableEq κ] in
/-- What is recorded after a purchase. -/
lemma afterShopBuy_run (hcfg : shopVO.getCfg cfgs = .ok config) (s : ShopState σ) :
    (afterShopBuy cfgs pid shopVO item index quantity).run s =
      .ok () (if config.isSystem then s
        else { s with
          shopVOMap := Function.update s.shopVOMap pid ((s.shopVOMap pid).put
            { shopVO with
              itemVOs := shopVO.itemVOs.set index.toInt.toNat (item.addSold quantity) }) }) := by
  have hread : (EStateM.ofExcept fun _ => shopVO.getCfg cfgs :
      EStateM Thrown (ShopState σ) ShopConfig).run s = .ok config s := by
    rw [EStateM.run_ofExcept, hcfg]
  rw [afterShopBuy, EStateM.run_bind, hread]
  simp only
  split
  · rfl
  · rfl

/-- **What a purchase does to the shops**: nothing, or its checks have passed and the quantity is
recorded for the item. -/
lemma step_cases (cfgs : ShopCfgs σ ρ κ) (s : ShopState σ) (req : BuyReq) :
    (step cfgs s req).systemVO = s.systemVO ∧
      ((step cfgs s req).shopVOMap = s.shopVOMap ∨
        ∃ config shopVO item, Sees cfgs s req.pid req.shopId config shopVO ∧
          config.isSystem = false ∧ shopVO.itemVOs[req.index.toInt.toNat]? = some item ∧
          checkLimit cfgs req.pid shopVO item (max 1 req.quantity) = .ok () ∧
          (step cfgs s req).shopVOMap =
            Function.update s.shopVOMap req.pid ((s.shopVOMap req.pid).put
              { shopVO with
                itemVOs := shopVO.itemVOs.set req.index.toInt.toNat
                  (item.addSold (max 1 req.quantity)) })) := by
  unfold step buy
  rw [EStateM.finalState_ofExcept_bind]
  cases hcheck : checkBuy cfgs s req.pid req.shopId req.index (max 1 req.quantity) with
  | error e => exact ⟨rfl, .inl rfl⟩
  | ok found =>
    obtain ⟨shopVO, item, shopItemConfig⟩ := found
    obtain ⟨⟨config, hsees⟩, hitem, hlimit, -⟩ := checkBuy_eq_ok hcheck
    simp only
    rw [EStateM.finalState_bind]
    have hpurchase := shops_onPlayer req.pid
      (withExecutors (purchase cfgs req.cmd shopItemConfig (max 1 req.quantity))) s
    cases hrun : (onPlayer req.pid (withExecutors
        (purchase cfgs req.cmd shopItemConfig (max 1 req.quantity)))).run s with
    | error e s₁ =>
      rw [EStateM.finalState_eq_of_error hrun] at hpurchase
      exact ⟨hpurchase.1, .inl hpurchase.2⟩
    | ok u s₁ =>
      rw [EStateM.finalState_eq_of_ok hrun] at hpurchase
      obtain ⟨hsystem, hmap⟩ := hpurchase
      simp only
      rw [EStateM.finalState_bind_of_ok (afterShopBuy_run hsees.getCfg.2 s₁)]
      obtain ⟨hsystem', hmap'⟩ := shops_onPlayer req.pid
        (modify (cfgs.listen req.shopId item.cid (max 1 req.quantity)))
        (if config.isSystem then s₁
          else { s₁ with
            shopVOMap := Function.update s₁.shopVOMap req.pid ((s₁.shopVOMap req.pid).put
              { shopVO with
                itemVOs := shopVO.itemVOs.set req.index.toInt.toNat
                  (item.addSold (max 1 req.quantity)) }) })
      rw [hsystem', hmap']
      cases hconfig : config.isSystem with
      | true => exact ⟨hsystem, .inl hmap⟩
      | false =>
        refine ⟨hsystem, .inr ⟨config, shopVO, item, hsees, hconfig, hitem, hlimit, ?_⟩⟩
        show Function.update s₁.shopVOMap _ _ = _
        rw [hmap]

end Purchase

/-! ## The invariant -/

section Invariant

variable (cfgs : ShopCfgs σ ρ κ)

/-- What is recorded for an item with a limit is what was sold, and it is within the limit. -/
def ItemKept (pid : Int32) (shopVO : ShopVO) (item : ShopItemVO) : Prop :=
  ∀ limit, getShopItemLimit cfgs pid shopVO item = .ok limit → 0 < limit →
    item.sold.toInt = item.total ∧ 0 ≤ item.total ∧ item.total ≤ limit.toInt

/-- **What is recorded is what was sold, within the limits.** -/
def Kept (s : ShopState σ) : Prop :=
  ∀ pid shopId config shopVO, Sees cfgs s pid shopId config shopVO → ∀ item ∈ shopVO.itemVOs,
    ItemKept cfgs pid shopVO item

/-- The sum of what is recorded and the quantity fits, where a limit is checked and the quantity is
then recorded. -/
def Fits (s : ShopState σ) (req : BuyReq) : Prop :=
  ∀ config shopVO item limit, Sees cfgs s req.pid req.shopId config shopVO →
    config.isSystem = false → shopVO.itemVOs[req.index.toInt.toNat]? = some item →
    getShopItemLimit cfgs req.pid shopVO item = .ok limit → 0 < limit →
      item.sold.toInt + (max 1 req.quantity).toInt < 2 ^ 31

/-- The function that is sold is careful. -/
def CarefulSale (s : ShopState σ) (req : BuyReq) : Prop :=
  ∀ shopVO item shopItemConfig func,
    checkBuy cfgs s req.pid req.shopId req.index (max 1 req.quantity) =
      .ok (shopVO, item, shopItemConfig) →
    soldFunc cfgs shopItemConfig (max 1 req.quantity) = some func → Careful cfgs.fixedExec func

/-- **A regular request**: the sum fits, and the function that is sold is careful. -/
structure Regular (s : ShopState σ) (req : BuyReq) : Prop where
  fits : Fits cfgs s req
  careful : CarefulSale cfgs s req

variable {cfgs} {s : ShopState σ} {req : BuyReq}

/-- The invariant is more than the limits. -/
lemma Kept.withinLimit (h : Kept cfgs s) : WithinLimit cfgs s :=
  fun pid shopId config shopVO hsees item hitem limit hlimit hpos =>
    (h pid shopId config shopVO hsees item hitem limit hlimit hpos).2.2

/-- A limit depends on the ids only. -/
lemma getShopItemLimit_congr {pid : Int32} {shopVO shopVO' : ShopVO} {item item' : ShopItemVO}
    (hshop : shopVO'.cid = shopVO.cid) (hitem : item'.cid = item.cid) :
    getShopItemLimit cfgs pid shopVO' item' = getShopItemLimit cfgs pid shopVO item := by
  unfold getShopItemLimit ShopVO.getCfg
  rw [hshop, hitem]

/-- **A sale that is within the limit** is recorded as it is. -/
lemma ItemKept.addSold {pid : Int32} {shopVO : ShopVO} {item : ShopItemVO} {quantity : Int32}
    (h : ItemKept cfgs pid shopVO item) (hquantity : 1 ≤ quantity.toInt)
    (hcheck : checkLimit cfgs pid shopVO item quantity = .ok ())
    (hfits : ∀ limit, getShopItemLimit cfgs pid shopVO item = .ok limit → 0 < limit →
      item.sold.toInt + quantity.toInt < 2 ^ 31) :
    ItemKept cfgs pid shopVO (item.addSold quantity) := by
  intro limit hlimit hpos
  have hsame : getShopItemLimit cfgs pid shopVO (item.addSold quantity) =
      getShopItemLimit cfgs pid shopVO item := getShopItemLimit_congr rfl rfl
  rw [hsame] at hlimit
  obtain ⟨hsold, hnonneg, hle⟩ := h limit hlimit hpos
  have hsum : (item.sold + quantity).toInt = item.sold.toInt + quantity.toInt :=
    Int32.toInt_add_of_fits (by omega) (hfits limit hlimit hpos)
  unfold checkLimit at hcheck
  simp only [hlimit, bind, Except.bind, if_pos hpos] at hcheck
  have hnot : ¬limit < item.sold + quantity := ICode.throwIfTrue_eq_ok.mp hcheck
  rw [Int32.lt_iff_toInt_lt, hsum] at hnot
  show (item.sold + quantity).toInt = item.total + quantity.toInt ∧
    0 ≤ item.total + quantity.toInt ∧ item.total + quantity.toInt ≤ limit.toInt
  omega

lemma one_le_toInt_max (quantity : Int32) : 1 ≤ (max 1 quantity).toInt := by
  rw [Int32.toInt_max]
  exact le_max_left _ _

variable [DecidableEq κ]

/-- **A regular request keeps the invariant.** -/
lemma Kept.step (h : Kept cfgs s) (hfits : Fits cfgs s req) : Kept cfgs (step cfgs s req) := by
  obtain ⟨hsystem, hmap | ⟨config, shopVO, item, hsees, hplace, hitem, hlimit, hmap⟩⟩ :=
    step_cases cfgs s req
  · intro pid shopId config shopVO hsees
    refine h pid shopId config shopVO ⟨hsees.shop_eq, ?_⟩
    rw [← hsees.getShopVO_eq, getShopVO, getShopVO, hsystem, hmap]
  · intro pid shopId config' shopVO' hsees' item' hitem'
    have hget := hsees'.getShopVO_eq
    rw [getShopVO, ShopMap.getPlaced, hsystem, hmap] at hget
    split_ifs at hget with hone htwo
    · -- the shops of the system are as before
      refine h pid shopId config' shopVO' ⟨hsees'.shop_eq, ?_⟩ item' hitem'
      rw [getShopVO, ShopMap.getPlaced, if_pos hone, hget]
    have hold : ∀ old, (s.shopVOMap pid).get shopId = some old →
        Sees cfgs s pid shopId config' old := by
      intro old hold
      refine ⟨hsees'.shop_eq, ?_⟩
      rw [getShopVO, ShopMap.getPlaced, if_neg hone, if_pos htwo, hold]
    by_cases hpid : pid = req.pid
    · subst hpid
      rw [Function.update_self] at hget
      by_cases hid : shopId = shopVO.cid
      · -- the shop in which something was bought
        rw [hid, ShopMap.get_put, if_pos rfl] at hget
        obtain rfl := Option.some.inj (Except.ok.inj hget)
        have hmem := List.mem_of_getElem? hitem
        rcases List.mem_or_eq_of_mem_set hitem' with hitem' | rfl
        · intro limit hlimit'
          have hsame : getShopItemLimit cfgs req.pid shopVO item' = .ok limit := by
            rw [← hlimit']
            exact getShopItemLimit_congr rfl rfl
          exact h req.pid req.shopId config shopVO hsees item' hitem' limit hsame
        · have hkept := (h req.pid req.shopId config shopVO hsees item hmem).addSold
            (one_le_toInt_max req.quantity) hlimit
            fun limit => hfits config shopVO item limit hsees hplace hitem
          intro limit hlimit'
          have hsame : getShopItemLimit cfgs req.pid shopVO
              (item.addSold (max 1 req.quantity)) = .ok limit := by
            rw [← hlimit']
            exact getShopItemLimit_congr rfl rfl
          exact hkept limit hsame
      · have hget' : (s.shopVOMap req.pid).get shopId = some shopVO' := by
          rw [← Except.ok.inj hget]
          exact (Function.update_of_ne hid _ _).symm
        exact h _ _ _ _ (hold _ hget') item' hitem'
    · rw [Function.update_of_ne hpid] at hget
      exact h _ _ _ _ (hold _ (Except.ok.inj hget)) item' hitem'

/-- **A rejected purchase of a careful function** changes nothing. -/
lemma rejectedLeaves_of_careful (h : CarefulSale cfgs s req) : RejectedLeaves cfgs s req := by
  intro code s' hrun
  rw [buy, EStateM.run_bind, EStateM.run_ofExcept] at hrun
  cases hcheck : checkBuy cfgs s req.pid req.shopId req.index (max 1 req.quantity) with
  | error e =>
    rw [hcheck] at hrun
    cases hrun
    rfl
  | ok found =>
    obtain ⟨shopVO, item, shopItemConfig⟩ := found
    obtain ⟨⟨config, hsees⟩, -⟩ := checkBuy_eq_ok hcheck
    rw [hcheck] at hrun
    simp only at hrun
    rw [EStateM.run_bind, onPlayer, EStateM.run_zoom] at hrun
    cases hpurchase : (withExecutors
        (purchase cfgs req.cmd shopItemConfig (max 1 req.quantity))).run (s.players req.pid) with
    | error e player =>
      rw [hpurchase] at hrun
      cases hrun
      have hplayer := player_of_purchase (h shopVO item shopItemConfig · hcheck) hpurchase
      rw [hplayer, Function.update_eq_self]
    | ok u player =>
      -- after the executors nothing throws
      rw [hpurchase] at hrun
      simp only at hrun
      rw [EStateM.run_bind, afterShopBuy_run hsees.getCfg.2] at hrun
      cases hrun

/-- **A run of regular requests keeps the limits**: in every state the items are within their
limits, and a rejected purchase leaves the items and the players as they were. -/
theorem limit_kept {reqs : List BuyReq} (h : Kept cfgs s)
    (hreqs : Runs.EveryStep (step cfgs) (Regular cfgs) s reqs) : LimitKept cfgs s reqs := by
  refine ⟨?_, hreqs.mono fun s req hreq => rejectedLeaves_of_careful hreq.careful⟩
  rintro pre ⟨post, rfl⟩
  have hpre := ((Runs.everyStep_append s pre post).mp hreqs).1
  exact (Runs.state_inv_run (Kept cfgs) (fun s req hs hreq => hs.step hreq.fits) h hpre).withinLimit

end Invariant

/-! ## A guild shop -/

/-- Adds to what a player has. -/
def gain (param : FuncParam) : AbstractFunc Int64 Unit where
  steadyExecId := 0
  depotCapacityChecker := none
  paramChecker := none
  record := pure none
  exec _ execNum := modify fun player =>
    { player with others := player.others + param.value * execNum.toInt64 }

/-- The configuration of a guaranteed drop: one of two. -/
def drops (fixedId : Int32) : Option Func.FixedExecConfig :=
  if fixedId = 7 then some ⟨2, 1⟩ else none

/-- A chest with one function, under the guaranteed drop, which costs more than a player has. When
the costs are recorded the function is selected, which is counted, and then its check throws. -/
def chest (_ : FuncParam) : AbstractFunc Int64 Unit where
  steadyExecId := 0
  depotCapacityChecker := none
  paramChecker := none
  record := do
    let selected ← FixedDrop.onDrops (FixedDrop.fixOne drops
      { (gain ⟨0, 0, true, 0, 0, false⟩).drop with steadyExecId := 7 })
    if selected then throw (.logic CodeDepot.depotTreasureMinus.get)
    return none
  exec _ _ := pure ()

/-- A guild shop of two items with the limit 5: one that is a gain, and a chest. -/
def guildShop : ShopCfgs Int64 Unit Unit where
  shop shopId := if shopId = 9 then some ⟨ShopType.guild, 2⟩ else none
  shopItem cid :=
    if cid = 1 then some ⟨some [5], some ⟨4, ⟨1, 10, true, 0, 0, false⟩⟩⟩
    else if cid = 2 then some ⟨some [5], some ⟨11, ⟨1, 1, true, 0, 0, false⟩⟩⟩ else none
  fixedExec := drops
  getFunc type := if type = 4 then some gain else if type = 11 then some chest else none
  recs := ⟨fun _ => (), fun rec _ => rec, fun _ => pure ()⟩
  check_leaves _ _ := rfl
  guildLevel _ := some 0
  listen _ _ _ player := player

/-- The shop of every player, just refreshed. -/
def refreshed : ShopState Int64 where
  systemVO := ⟨fun _ => none, fun h => by cases h⟩
  shopVOMap _ :=
    ⟨fun shopId => if shopId = 9 then some ⟨9, [⟨1, 0, 0⟩, ⟨2, 0, 0⟩]⟩ else none, by
      intro shopId shopVO h
      split_ifs at h with hid
      cases h
      exact hid.symm⟩
  players _ := ⟨0, ⟨∅, ∅⟩, ⟨fun _ => 0⟩⟩

/-- There is one shop to see. -/
lemma Sees.of_refreshed {pid shopId : Int32} {config : ShopConfig} {shopVO : ShopVO}
    (h : Sees guildShop refreshed pid shopId config shopVO) :
    config = ⟨ShopType.guild, 2⟩ ∧ shopVO = ⟨9, [⟨1, 0, 0⟩, ⟨2, 0, 0⟩]⟩ := by
  obtain ⟨hshop, hget⟩ := h
  simp only [guildShop] at hshop
  split_ifs at hshop with hid
  cases hshop
  have hplace : (2 : Int32) ≠ 1 := by decide
  simp only [getShopVO, ShopMap.getPlaced, refreshed, if_neg hplace, if_pos hid] at hget
  exact ⟨rfl, (Option.some.inj (Except.ok.inj hget)).symm⟩

/-- The invariant holds after a refresh. -/
lemma kept_refreshed : Kept guildShop refreshed := by
  intro pid shopId config shopVO hsees item hitem limit hlimit hpos
  obtain ⟨-, rfl⟩ := hsees.of_refreshed
  have hsold : item.sold = 0 ∧ item.total = 0 := by
    rcases List.mem_pair.mp hitem with rfl | rfl
    · exact ⟨rfl, rfl⟩
    · exact ⟨rfl, rfl⟩
  rw [Int32.lt_iff_toInt_lt, Int32.toInt_zero] at hpos
  rw [hsold.1, hsold.2, Int32.toInt_zero]
  omega

/-- The gain is careful. -/
lemma careful_gain (param : FuncParam) : Careful drops (gain param) where
  fixed := rfl
  depot checker h := by cases h
  param checker h := by cases h
  record player := rfl
  exec cmd execNum player code player' h := by cases h

/-- A whole limit is bought at once. -/
theorem limit_kept_wholeLimit : LimitKept guildShop refreshed [⟨1, 9, 0, 5, none⟩] := by
  refine limit_kept kept_refreshed ⟨⟨?_, ?_⟩, trivial⟩
  · intro config shopVO item limit hsees _ hitem _ _
    obtain ⟨-, rfl⟩ := hsees.of_refreshed
    cases hitem
    decide
  · intro shopVO item shopItemConfig func hcheck hsold
    obtain ⟨⟨config, hsees⟩, hitem, -, hcfg⟩ := checkBuy_eq_ok hcheck
    obtain ⟨-, rfl⟩ := hsees.of_refreshed
    cases hitem
    cases hcfg
    cases hsold
    exact careful_gain _

/-- The requests that wrap around: one piece, and as many as an `int` can be. -/
def wrapping : List BuyReq := [⟨1, 9, 0, 1, none⟩, ⟨1, 9, 0, 2147483647, none⟩]

/-- What a rejected purchase has counted for the guaranteed drop of player 1. -/
def rejectedCount : EStateM.Result Thrown (ShopState Int64) Unit → Option Int32
  | .error (.logic _) s => (s.players 1).fixedDropVO.triggerCountMap.lookup 7
  | _ => none

/-- **The limit is not kept**: with one piece sold the largest quantity is sold, for a limit of
five. And a chest that is rejected has counted its selection. -/
theorem not_limitKept : Kept guildShop refreshed ∧ ¬LimitKept guildShop refreshed wrapping ∧
    ¬LimitKept guildShop refreshed [⟨1, 9, 1, 1, none⟩] := by
  refine ⟨kept_refreshed, fun h => ?_, fun h => ?_⟩
  · have hsold : ((Runs.run (step guildShop) refreshed wrapping).shopVOMap 1).get 9 =
        some ⟨9, [⟨1, -2147483648, 2147483648⟩, ⟨2, 0, 0⟩]⟩ := by decide +kernel
    have hsees : Sees guildShop (Runs.run (step guildShop) refreshed wrapping) 1 9
        ⟨ShopType.guild, 2⟩ ⟨9, [⟨1, -2147483648, 2147483648⟩, ⟨2, 0, 0⟩]⟩ := by
      refine ⟨rfl, ?_⟩
      rw [getShopVO, ShopMap.getPlaced, if_neg (by decide), if_pos rfl, hsold]
    have hle := h.1 wrapping List.prefix_rfl _ _ _ _ hsees _ List.mem_cons_self 5
      (by decide +kernel) (by decide)
    exact absurd hle (by decide)
  · have hcounts : rejectedCount ((buy guildShop ⟨1, 9, 1, 1, none⟩).run refreshed) = some 1 := by
      decide +kernel
    cases hrun : (buy guildShop ⟨1, 9, 1, 1, none⟩).run refreshed with
    | ok u s' =>
      rw [hrun] at hcounts
      cases hcounts
    | error e s' =>
      rw [hrun] at hcounts
      cases e with
      | logic code =>
        obtain rfl := h.2.1 code s' hrun
        cases hcounts
      | _ => cases hcounts

end SrgpGame.Shop
