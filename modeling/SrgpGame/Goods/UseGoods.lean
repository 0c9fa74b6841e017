import SrgpGame.Func.Upheld
import SrgpGame.Goods.GoodsBO

set_option autoImplicit false

/-!
# The goods that are used

The function that is to take the goods changes the number of goods by a negative amount, and that
only checks the number: the goods stay. So a use that returns does not do what it is to do, whatever
number a client asks for, and a use that throws does it just if nothing was granted before.

## Main definitions

* `Used` — what a use is to do.
* `Rejected` — a use is rejected, by a check or by a function before which nothing was granted.

## Main results

* `maintains_exec_changeGoodsFunc` — the function that is to take the goods leaves them.
* `maintains_useGoods` — no use takes goods.
* `used_iff` — a use does what it is to do just if it is rejected.
-/

namespace SrgpGame.Goods

open EStateM (Maintains Stops)
open Func (FuncParam Rng)
open FixedDrop (PlayerVO)
open BaseExecutor

variable {τ ρ κ α : Type}

/-! ## What is required -/

/-- Two depots have the same goods and currencies. -/
structure SameDepot (depotVO depotVO' : DepotVO) : Prop where
  goodsCounts : ∀ cid, depotVO'.goodsCounts.lookup cid = depotVO.goodsCounts.lookup cid
  goodsCounter : ∀ cid, depotVO'.getCount cid = depotVO.getCount cid
  currencyMap : ∀ type, depotVO'.currencyMap.lookup type = depotVO.currencyMap.lookup type

lemma SameDepot.refl (depotVO : DepotVO) : SameDepot depotVO depotVO :=
  ⟨fun _ => rfl, fun _ => rfl, fun _ => rfl⟩

variable [DecidableEq κ] (cfgs : GoodsCfgs τ ρ κ)

/-- **What a use is to do**: it throws and leaves goods and currencies as they were, or the number
is positive, so many goods are taken, apart from what was granted, and the functions are applied as
often. -/
def Used (req : UseReq) (player : PlayerVO (Owner τ)) : Prop :=
  match (useGoods cfgs req).run (start player) with
  | .error _ user => SameDepot player.others.depotVO user.others.depotVO
  | .ok times user =>
    1 ≤ req.num ∧
      user.others.stock req.gid =
        player.others.stock req.gid - req.num.toInt + user.others.granted ∧
      times = req.num.toInt

/-- The executor that is built rejects its functions: building it or a check throws, or one of the
functions does, or what comes after them, while goods and currencies are as they were. -/
def RejectedBy (player : PlayerVO (Owner τ))
    (build : Exec (User τ) (Record ρ) (BaseFuncsExecutor (User τ) (Record ρ) (Option κ)))
    (execNum : Int32) (after : List (EStateM Thrown (PlayerVO (User τ)) Unit)) : Prop :=
  match (do
      let exec ← build
      exec.checks cfgs.configs.fixedExec cfgs.recs.checkRec true : Exec _ _ _).run
        ⟨start player, ⟨fun _ => [], 0⟩, []⟩ with
  | .error _ _ => True
  | .ok exec s =>
    Stops (fun user => SameDepot player.others.depotVO user.others.depotVO)
      ((exec.selected s).map (fun func => func.exec exec.cmd execNum) ++ after) s.player

/-- **A use is rejected**: the goods are functional ones of another type, or the executor rejects
its functions. -/
def Rejected (req : UseReq) (player : PlayerVO (Owner τ)) : Prop :=
  if (cfgs.configs.goods.getGoodsConfigById req.gid).isNone then False
  else
    match cfgs.goodsClass req.gid with
    | .goods => False
    | .itemGoods getFuncs =>
      RejectedBy cfgs player
        (boxExecutor cfgs req.gid req.num.abs (getFuncs (req.chosen.getD [])) req.cmd) 1
        [granting req.gid (cfgs.useBox req.gid req.num.abs)]
    | .funcGoods funcType func =>
      funcType ≠ funcTypePlayer ∨
        RejectedBy cfgs player (funcExecutor cfgs req.gid req.num func req.cmd) req.num []

/-! ## What the functions maintain -/

section Functions

variable {cfgs} {P : User τ → Prop}

/-- A property of the depot and of what was granted. -/
def OfDepot (P : User τ → Prop) : Prop := ∀ user others, P user → P { user with others := others }

omit [DecidableEq κ] in
lemma maintainsOthers_reading (hP : OfDepot P) (x : DepotVO → EStateM Thrown (PlayerVO τ) α) :
    MaintainsOthers P (reading x) := by
  refine .bind .get fun user => ?_
  exact .zoom (fun _ _ => trivial) (fun _ user hs _ => hP user.others _ hs)
    (fun _ (_ : True) => trivial)

omit [DecidableEq κ] in
lemma maintainsOthers_drawn (x : EStateM Thrown Rng α) :
    MaintainsOthers P (drawn x : EStateM Thrown (PlayerVO (User τ)) α) :=
  .zoom (fun _ _ => trivial) (fun _ _ hs _ => hs) (fun _ (_ : True) => trivial)

omit [DecidableEq κ] in
lemma maintainsOthers_checkGoodsCost (goodsCost : AList fun _ : Int32 => Int32) :
    MaintainsOthers P (checkGoodsCost goodsCost : EStateM Thrown (PlayerVO (User τ)) Unit) :=
  .each fun _ _ => .ofExcept _

omit [DecidableEq κ] in
/-- The checks of all records leave the depot. -/
lemma maintainsOthers_check (hP : OfDepot P) (recs : OtherRecs τ ρ κ) (rec : Record ρ) :
    MaintainsOthers P (recs.checkRec.check rec) := by
  cases rec with
  | goods goodsCost => exact maintainsOthers_checkGoodsCost goodsCost
  | other rec => exact maintainsOthers_reading hP _

/-- The functions that come up in a use of goods: the one that changes the number of goods, and
those of the goods. -/
def OfUse (cfgs : GoodsCfgs τ ρ κ) (gid num : Int32) (func : AbstractFunc (User τ) (Record ρ)) :
    Prop :=
  func = changeGoodsFunc cfgs { param := gid, value := (-num).toInt64 } ∨
    ∃ own : SyncFunc τ ρ, func = own.toFunc gid

variable {gid num : Int32}

omit [DecidableEq κ] in
/-- What the functions check and record leaves the depot. -/
lemma OfUse.upholds (hP : OfDepot P) {func : AbstractFunc (User τ) (Record ρ)}
    (h : OfUse cfgs gid num func) : Upholds P func := by
  rcases h with rfl | ⟨own, rfl⟩
  · refine ⟨fun checker hchecker => (nomatch hchecker), fun checker hchecker => ?_, .pure _⟩
    obtain rfl := Option.some.inj hchecker
    exact .ite (maintainsOthers_checkGoodsCost _) (.pure ())
  · refine ⟨fun checker hchecker => (nomatch hchecker), fun checker hchecker => ?_,
      maintainsOthers_reading hP _⟩
    obtain ⟨own', -, rfl⟩ := Option.map_eq_some_iff.mp hchecker
    exact maintainsOthers_reading hP _

/-! ## What is executed -/

/-- The number of goods without what was granted. -/
def balance (gid : Int32) (user : User τ) : ℤ := user.stock gid - user.granted

omit [DecidableEq κ] in
/-- What is granted is no part of the balance. -/
lemma maintainsOthers_granting (b : ℤ) (x : EStateM Thrown (PlayerVO (Owner τ)) α) :
    MaintainsOthers (fun user => balance gid user = b) (granting gid x) := by
  refine .zoom (fun _ _ => trivial) (fun player user hs _ => ?_) (fun _ (_ : True) => trivial)
  replace hs : user.others.stock gid - user.others.granted = b := hs
  show player.others.stock gid -
    (user.others.granted + (player.others.stock gid - user.others.stock gid)) = b
  omega

omit [DecidableEq κ] in
/-- A negative amount leaves the goods. -/
lemma maintainsOthers_changeGoods (b : ℤ) (hnum : num < 0) :
    MaintainsOthers (fun user => balance gid user = b) (changeGoods cfgs gid num) := by
  refine .bind (.ofExcept _) fun _ => ?_
  refine .ofExcept_bind fun user r hs hchange => ?_
  obtain ⟨n, -, -, hr⟩ := (changeGoodsNum_neg hnum).mp hchange
  have hsame : balance gid (setDepotVO r.1 user).others = b := by
    rw [hr]
    exact hs
  rw [EStateM.finalState_modify_bind]
  exact maintainsOthers_granting b _ hsame

omit [DecidableEq κ] in
/-- A positive number, negated and extended, is negative. -/
lemma neg_toInt64 (hnum : 0 < num) :
    (-num).toInt64 < 0 ∧ (-num).toInt64.toInt32 < 0 := by
  have hpos : 0 < num.toInt := by simpa using Int32.lt_iff_toInt_lt.mp hnum
  have hlt := num.toInt_lt
  have hneg : (-num).toInt = -num.toInt := by
    rw [Int32.toInt_neg, Int.bmod_def]
    omega
  rw [Int32.toInt32_toInt64, Int64.lt_iff_toInt_lt, Int32.lt_iff_toInt_lt, Int32.toInt_toInt64,
    hneg, Int64.toInt_zero, Int32.toInt_zero]
  omega

omit [DecidableEq κ] in
/-- **The function that is to take the goods** leaves them. -/
theorem maintains_exec_changeGoodsFunc (b : ℤ) (hnum : 0 < num) (cmd : Option Int32)
    (execNum : Int32) :
    MaintainsOthers (fun user => balance gid user = b)
      ((changeGoodsFunc cfgs { param := gid, value := (-num).toInt64 }).exec cmd execNum) := by
  obtain ⟨hvalue, hvalue'⟩ := neg_toInt64 hnum
  have hdraw : Func.ChangeGoodsFunc.num cfgs.configs { param := gid, value := (-num).toInt64 }
      execNum = pure (-num).toInt64.toInt32 := if_pos hvalue
  show MaintainsOthers _ (do
    let num ← drawn (Func.ChangeGoodsFunc.num cfgs.configs _ execNum)
    if 0 < gid then changeGoods cfgs gid num)
  rw [hdraw]
  intro user hs
  exact Maintains.ite (maintainsOthers_changeGoods b hvalue') (.pure ()) hs

omit [DecidableEq κ] in
/-- What is executed leaves the balance. -/
lemma OfUse.exec (b : ℤ) (hnum : 0 < num) {func : AbstractFunc (User τ) (Record ρ)}
    (h : OfUse cfgs gid num func) (cmd : Option Int32) (execNum : Int32) :
    MaintainsOthers (fun user => balance gid user = b) (func.exec cmd execNum) := by
  rcases h with rfl | ⟨own, rfl⟩
  · exact maintains_exec_changeGoodsFunc b hnum cmd execNum
  · exact maintainsOthers_granting b _

/-! ## The executor of a use -/

/-- An executor with the functions of a use is built, and nothing else is done. -/
structure Builds (cfgs : GoodsCfgs τ ρ κ) (gid num : Int32)
    (build : Exec (User τ) (Record ρ) (BaseFuncsExecutor (User τ) (Record ρ) (Option κ))) :
    Prop where
  maintains : ∀ P, Maintains (Holds (OfUse cfgs gid num) P) build
  function : ∀ s exec s', build.run s = .ok exec s' → exec.function = none

omit [DecidableEq κ] in
lemma function_of_getExecutor {cmd : Option Int32} {s s' : ExecState (User τ) (Record ρ)}
    {exec : BaseFuncsExecutor (User τ) (Record ρ) (Option κ)}
    (h : (getExecutor cmd : Exec _ _ _).run s = .ok exec s') : exec.function = none := by
  cases h
  rfl

omit [DecidableEq κ] in
lemma builds_boxExecutor (getFuncs : EStateM Thrown Rng (List (SyncFunc τ ρ)))
    (cmd : Option Int32) : Builds cfgs gid num (boxExecutor cfgs gid num getFuncs cmd) := by
  refine ⟨fun P => ?_, fun s exec s' h => ?_⟩
  · refine .bind (maintains_getExecutor cmd) fun exec => ?_
    refine .bind (maintains_acceptFunc exec (.inl rfl)) fun _ => .bind (.each fun _ _ => ?_)
      fun _ => .pure _
    refine .bind (maintains_onPlayer (maintainsOthers_drawn _)) fun funcs => ?_
    exact .each fun func _ => maintains_acceptFunc exec (.inr ⟨func, rfl⟩)
  · obtain ⟨exec', s₁, hexec, h⟩ := EStateM.run_bind_eq_ok.mp h
    obtain ⟨u, s₂, -, h⟩ := EStateM.run_bind_eq_ok.mp h
    obtain ⟨u, s₃, -, h⟩ := EStateM.run_bind_eq_ok.mp h
    cases h
    exact function_of_getExecutor hexec

omit [DecidableEq κ] in
lemma builds_funcExecutor (func : Option Func.FuncConfig) (cmd : Option Int32) :
    Builds cfgs gid num (funcExecutor cfgs gid num func cmd) := by
  refine ⟨fun P => ?_, fun s exec s' h => ?_⟩
  · refine .bind (maintains_getExecutor cmd) fun exec => ?_
    refine .bind (maintains_acceptFunc exec (.inl rfl)) fun _ => .bind ?_ fun _ => .pure _
    unfold addSyncFunc
    split
    · exact .throw _
    · split
      · exact .throw _
      · exact maintains_acceptFunc exec (.inr ⟨_, rfl⟩)
  · obtain ⟨exec', s₁, hexec, h⟩ := EStateM.run_bind_eq_ok.mp h
    obtain ⟨u, s₂, -, h⟩ := EStateM.run_bind_eq_ok.mp h
    obtain ⟨u, s₃, -, h⟩ := EStateM.run_bind_eq_ok.mp h
    cases h
    exact function_of_getExecutor hexec

variable {build : Exec (User τ) (Record ρ) (BaseFuncsExecutor (User τ) (Record ρ) (Option κ))}
  {execNum : Int32}

/-- No list has a function at first. -/
lemma holds_start {F : AbstractFunc (User τ) (Record ρ) → Prop} {user : PlayerVO (User τ)}
    (h : P user.others) : Holds F P ⟨user, ⟨fun _ => [], 0⟩, []⟩ :=
  ⟨fun _ _ hfunc => (nomatch hfunc), h⟩

/-- **An executor leaves the balance**, whether it returns or throws. -/
lemma Builds.balance (hbuild : Builds cfgs gid num build) (b : ℤ) (hnum : 0 < num) :
    MaintainsOthers (fun user => Goods.balance gid user = b) (withExecutors do
      let exec ← build
      exec.exec cfgs.configs.fixedExec cfgs.recs.checkRec true execNum) := by
  have hP : OfDepot fun user : User τ => Goods.balance gid user = b := fun _ _ => id
  have hexec : Maintains (Holds (OfUse cfgs gid num) fun user => Goods.balance gid user = b) (do
      let exec ← build
      exec.exec cfgs.configs.fixedExec cfgs.recs.checkRec true execNum) := by
    refine .bind_of (hbuild.maintains _) fun s exec s' hrun => ?_
    exact maintains_exec (fun _ hfunc => hfunc.upholds hP) (maintainsOthers_check hP _)
      (hbuild.function s exec s' hrun) (fun _ hfunc => hfunc.exec b hnum) true execNum
  intro user hs
  have hfinal := (hexec (holds_start hs)).others
  rw [EStateM.finalState] at hfinal
  rw [EStateM.finalState, run_withExecutors]
  revert hfinal
  split
  · next hrun =>
    rw [hrun]
    exact id
  · next hrun =>
    rw [hrun]
    exact id

/-- **What throws has left the depot** just if the executor rejects its functions. -/
lemma Builds.rejectedBy_iff (hbuild : Builds cfgs gid num build) (player : PlayerVO (Owner τ))
    (after : List (EStateM Thrown (PlayerVO (User τ)) Unit)) :
    (∃ e user, (withExecutors (do
        let exec ← build
        exec.exec cfgs.configs.fixedExec cfgs.recs.checkRec true execNum) >>= fun _ =>
          EStateM.each id after).run (start player) = .error e user ∧
        SameDepot player.others.depotVO user.others.depotVO) ↔
      RejectedBy cfgs player build execNum after := by
  have hassoc : (do
      let exec ← build
      exec.exec cfgs.configs.fixedExec cfgs.recs.checkRec true execNum : Exec _ _ _) =
      (do
        let exec ← build
        exec.checks cfgs.configs.fixedExec cfgs.recs.checkRec true) >>= fun exec =>
          exec.runSelectedFuncs execNum := by
    rw [bind_assoc]
    rfl
  have hP : OfDepot fun user : User τ => user.depotVO = player.others.depotVO := fun _ _ => id
  have hchecks : Maintains
      (Holds (OfUse cfgs gid num) fun user => user.depotVO = player.others.depotVO) (do
        let exec ← build
        exec.checks cfgs.configs.fixedExec cfgs.recs.checkRec true) :=
    .bind (hbuild.maintains _) fun exec =>
      maintains_checks exec (fun _ hfunc => hfunc.upholds hP) (maintainsOthers_check hP _) true
  rw [hassoc, EStateM.run_bind, run_withExecutors, EStateM.run_bind, RejectedBy]
  cases hrun : (do
      let exec ← build
      exec.checks cfgs.configs.fixedExec cfgs.recs.checkRec true : Exec _ _ _).run
        ⟨start player, ⟨fun _ => [], 0⟩, []⟩ with
  | error e s =>
    have hsame := (hchecks.of_run_eq_error (holds_start rfl) hrun).others
    refine iff_of_true ⟨e, s.player, rfl, ?_⟩ trivial
    rw [hsame]
    exact .refl _
  | ok exec s =>
    obtain ⟨exec', s₁, hexec', hrest⟩ := EStateM.run_bind_eq_ok.mp hrun
    obtain ⟨-, hfunction, hselected⟩ := fields_of_checks hrest
    rw [hbuild.function _ _ _ hexec'] at hfunction
    have hfollows := follows_runSelectedFuncs hfunction hselected execNum s
    unfold EStateM.Follows at hfollows
    simp only
    rw [EStateM.stops_iff, EStateM.run_bind, hfollows]
    cases (exec.runSelectedFuncs execNum).run s with
    | ok u s' => rfl
    | error e s' => rfl

end Functions

/-! ## The main result -/

variable {cfgs} {req : UseReq} {player : PlayerVO (Owner τ)}

/-- A positive number is its absolute value. -/
lemma abs_of_one_le {num : Int32} (h : 1 ≤ num) : num.abs = num := by
  have hpos : 1 ≤ num.toInt := Int32.le_iff_toInt_le.mp h
  refine Int32.toInt_inj.mp ?_
  rw [Int32.toInt_abs_of_ne (by omega), abs_of_pos (by omega)]

/-- **A use leaves the balance** of the goods. -/
theorem maintains_useGoods (b : ℤ) (hnum : 1 ≤ req.num) :
    MaintainsOthers (fun user => balance req.gid user = b) (useGoods cfgs req) := by
  have hpos : 0 < req.num := by
    rw [Int32.lt_iff_toInt_lt, Int32.toInt_zero]
    exact Int32.le_iff_toInt_le.mp hnum
  unfold useGoods
  rw [abs_of_one_le hnum]
  refine .ite (.pure _) ?_
  cases cfgs.goodsClass req.gid with
  | goods => exact .pure _
  | itemGoods getFuncs =>
    refine .bind ((builds_boxExecutor _ _).balance b hpos) fun _ => ?_
    exact .bind (maintainsOthers_granting b _) fun _ => .pure _
  | funcGoods funcType func =>
    refine .bind (.ofExcept _) fun _ => ?_
    exact .bind ((builds_funcExecutor _ _).balance b hpos) fun _ => .pure _

/-- A use that throws, and what it leaves. -/
lemma rejected_iff : Rejected cfgs req player ↔
    ∃ e user, (useGoods cfgs req).run (start player) = .error e user ∧
      SameDepot player.others.depotVO user.others.depotVO := by
  have hpure : ∀ {β γ : Type} (x : EStateM Thrown (PlayerVO (User τ)) β) (c : γ) (e : Thrown)
      (user : PlayerVO (User τ)),
      (x >>= fun _ => pure c).run (start player) = .error e user ↔
        x.run (start player) = .error e user := by
    intro β γ x c e user
    rw [EStateM.run_bind]
    cases x.run (start player) with
    | ok a user' => simp
    | error e' user' => simp
  unfold Rejected useGoods
  split_ifs with hnone
  · refine iff_of_false id ?_
    rintro ⟨e, user, h, -⟩
    cases h
  cases cfgs.goodsClass req.gid with
  | goods =>
    refine iff_of_false id ?_
    rintro ⟨e, user, h, -⟩
    cases h
  | itemGoods getFuncs =>
    simp only
    rw [← (builds_boxExecutor (getFuncs (req.chosen.getD [])) req.cmd).rejectedBy_iff]
    refine exists_congr fun e => exists_congr fun user => and_congr_left fun _ => ?_
    simp only [EStateM.each, id]
    rw [← bind_assoc, ← bind_assoc, hpure, hpure]
  | funcGoods funcType func =>
    simp only
    by_cases htype : funcType ≠ funcTypePlayer
    · refine iff_of_true (.inl htype)
        ⟨.logic CodeGoods.goodsTypeError.get, start player, ?_, .refl _⟩
      simp only [EStateM.run_bind, EStateM.run_ofExcept, ICode.throwIfTrue, if_pos htype]
      rfl
    · rw [or_iff_right htype, ← (builds_funcExecutor func req.cmd).rejectedBy_iff]
      refine exists_congr fun e => exists_congr fun user => and_congr_left fun _ => ?_
      simp only [EStateM.each]
      rw [hpure, EStateM.run_bind, EStateM.run_ofExcept]
      simp only [ICode.throwIfTrue, if_neg htype]
      rw [hpure]

/-- **A use does what it is to do** just if it is rejected. -/
theorem used_iff : Used cfgs req player ↔ Rejected cfgs req player := by
  rw [rejected_iff, Used]
  cases hrun : (useGoods cfgs req).run (start player) with
  | error e user =>
    constructor
    · exact fun h => ⟨e, user, rfl, h⟩
    · rintro ⟨e', user', h, hsame⟩
      cases h
      exact hsame
  | ok times user =>
    refine iff_of_false ?_ ?_
    · rintro ⟨hnum, htaken, -⟩
      have hpos : 1 ≤ req.num.toInt := Int32.le_iff_toInt_le.mp hnum
      have hbalance : balance req.gid user.others = player.others.stock req.gid :=
        (maintains_useGoods _ hnum).of_run_eq_ok (sub_zero _) hrun
      -- nothing was taken, but a positive number should have been
      rw [balance] at hbalance
      omega
    · rintro ⟨e, user', h, -⟩
      cases h

/-! ## Goods that stay -/

section Stays

/-- Ten of a currency, as often as they are executed. -/
def tenCoins : SyncFunc Unit Empty where
  steadyExecId := 0
  paramChecker := none
  record _ := pure none
  exec _ execNum := modify fun player =>
    let depotVO := player.others.depotVO
    let coins := depotVO.currencyMap.getOrDefault 1 0 + 10 * execNum.toInt64
    { player with
      others := ⟨{ depotVO with currencyMap := depotVO.currencyMap.insert 1 coins }, ()⟩ }

/-- A box with ten coins. -/
def coinBox : GoodsCfgs Unit Empty Unit where
  configs := ⟨GoodsTable.ofList [{ id := 7 }], fun _ => none, fun _ => none⟩
  goodsClass _ := .itemGoods fun _ => pure [tenCoins]
  getFunc _ := none
  recs := ⟨nofun, nofun, nofun⟩
  onGoodsChange _ _ := pure ()
  useBox _ _ := pure ()

/-- A player with five boxes. -/
def fiveBoxes : PlayerVO (Owner Unit) :=
  ⟨⟨DepotVO.init.addGoods coinBox.configs.goods 7 5, ()⟩, ⟨∅, ∅⟩, ⟨fun _ => 0⟩⟩

/-- One of five boxes is used: its coins are granted, and five boxes are left. -/
theorem not_used : ¬Used coinBox ⟨7, 1, none, none⟩ fiveBoxes := by
  have hrun : (match (useGoods coinBox ⟨7, 1, none, none⟩).run (start fiveBoxes) with
      | .ok times user => some (times, user.others.stock 7, user.others.granted)
      | .error _ _ => none) = some (1, 5, 0) := by decide +kernel
  have hstock : fiveBoxes.others.stock 7 = 5 := by decide +kernel
  rw [Used]
  cases h : (useGoods coinBox ⟨7, 1, none, none⟩).run (start fiveBoxes) with
  | error e user =>
    rw [h] at hrun
    cases hrun
  | ok times user =>
    rw [h] at hrun
    simp only [Option.some.injEq, Prod.mk.injEq] at hrun
    rintro ⟨-, htaken, -⟩
    simp only [hstock, hrun] at htaken
    exact absurd htaken (by decide)

end Stays

end SrgpGame.Goods
