import SrgpGame.Core.Codes
import SrgpGame.Lib.Method
import SrgpGame.Lib.PathSearch
import SrgpGame.Lib.Runs

set_option autoImplicit false

/-!
# Goods that open goods

A box (`ItemGoodsConfig`) has functions, and one kind of function (`FuncsGoodsFunc`) opens another
box. `FuncsGoodsChecker` checks, before a box is opened, that no box comes to be opened inside
itself, and that everything that would be opened can be. It remembers its verdicts.

## Main definitions

* `GoodsConfig`, `Opens` — the goods, and which goods a goods opens.
* `checkFuncGoodsEndlessLoop`, `check` — the search and the check with its two caches.
* `Openable` — what the check is for.
* `Right` — the verdict of the check is right, whatever was checked before.

## Main results

* `checkFuncGoodsEndlessLoop_eq_ok_iff` — the search is a search along all paths.
* `check_eq` — the caches do not change the verdict.
* `right_of_boxes` — the verdict on a goods is right if all it opens of the type of a box are boxes.

## Design notes

The executor of a box is its functions: `getAllFuncs` of a copy lists clones of them in their order.
Every function of a box has a parameter (`transFunc` sets it), so a function that opens goods is the
id of these goods. The configuration does not change.
-/

namespace SrgpGame.FuncsGoods

/-! ## The goods -/

/-- A function of a box: a `FuncsGoodsFunc` with the id of its parameter, or another one. -/
inductive AbstractFunc where
  | funcsGoodsFunc (goodsId : Int32)
  | other
  deriving DecidableEq, Repr

/-- `FuncsExecutorCollection`: executors, each with its functions, and functions of its own. -/
structure FuncsExecutor where
  execs : List (List AbstractFunc)
  allFuncs : List AbstractFunc
  deriving DecidableEq, Repr

/-- `getAllFuncs`. -/
def FuncsExecutor.getAllFuncs (exec : FuncsExecutor) : List AbstractFunc :=
  exec.execs.flatten ++ exec.allFuncs

/-- A `GoodsConfig`, by its class. -/
inductive GoodsConfig where
  /-- A `GoodsConfig` that is nothing else. -/
  | goods (goodsType : Int32)
  /-- A `FuncGoodsConfig`. -/
  | funcGoods (goodsType : Int32)
  /-- An `ItemGoodsConfig`, with its functions if they were set. -/
  | itemGoods (goodsType : Int32) (funcs : Option FuncsExecutor)
  deriving DecidableEq, Repr

/-- `getGoodsType`. -/
def GoodsConfig.getGoodsType : GoodsConfig → Int32
  | .goods goodsType => goodsType
  | .funcGoods goodsType => goodsType
  | .itemGoods goodsType _ => goodsType

namespace GoodsConstant

def goodsTypeFunc : Int32 := 2
def goodsTypeItem : Int32 := 3

end GoodsConstant

/-- `CacheGoods.goodsMap`. -/
abbrev GoodsMap := AList fun _ : Int32 => GoodsConfig

/-- What a check can throw: what other methods can, or a `ClassCastException`. -/
inductive Failure where
  | thrown (e : Thrown)
  | classCast
  deriving DecidableEq, Repr

/-- A `LogicException` with a code. -/
def Failure.logic (code : ICode) : Failure := .thrown (.logic code.get)

/-- The functions of a goods, after the cast to `ItemGoodsConfig`. -/
def GoodsConfig.getFuncs : GoodsConfig → Except Failure FuncsExecutor
  | .goods _ => .error .classCast
  | .funcGoods _ => .error .classCast
  | .itemGoods _ none => .error (.thrown .nullPointer)
  | .itemGoods _ (some funcs) => .ok funcs

/-! ## The search -/

variable (goodsMap : GoodsMap)

/-- The goods that a search has still to come to. -/
def ahead (existsFuncGoodsId : Finset Int32) : ℕ :=
  (goodsMap.keys.toFinset \ existsFuncGoodsId).card

variable {goodsMap} in
lemma ahead_insert_lt {goodsId : Int32} {goodsCfg : GoodsConfig} {existsFuncGoodsId : Finset Int32}
    (hcfg : goodsMap.lookup goodsId = some goodsCfg) (hnew : goodsId ∉ existsFuncGoodsId) :
    ahead goodsMap (insert goodsId existsFuncGoodsId) < ahead goodsMap existsFuncGoodsId := by
  have hkey : goodsId ∈ goodsMap := AList.lookup_isSome.mp (by rw [hcfg]; rfl)
  refine Finset.card_lt_card (Finset.ssubset_iff_subset_ne.mpr ⟨?_, fun heq => ?_⟩)
  · exact Finset.sdiff_subset_sdiff (Finset.Subset.refl _) (Finset.subset_insert _ _)
  · have hmem : goodsId ∈ goodsMap.keys.toFinset \ existsFuncGoodsId :=
      Finset.mem_sdiff.mpr ⟨List.mem_toFinset.mpr (AList.mem_keys.mp hkey), hnew⟩
    rw [← heq] at hmem
    exact (Finset.mem_sdiff.mp hmem).2 (Finset.mem_insert_self _ _)

mutual

/-- **`checkFuncGoodsEndlessLoop`**: the goods ids on the way are not to come up again, and every
goods must be a box. -/
def checkFuncGoodsEndlessLoop (goodsId : Int32) (existsFuncGoodsId : Finset Int32) :
    Except Failure Unit :=
  if _hnew : goodsId ∈ existsFuncGoodsId then .error (.logic CodeGoods.goodsFuncsEndlessLoop)
  else
    match _hcfg : goodsMap.lookup goodsId with
    | none => .error (.logic CodeGoods.goodsConfigError)
    | some goodsCfg =>
      if goodsCfg.getGoodsType ≠ GoodsConstant.goodsTypeFunc ∧
          goodsCfg.getGoodsType ≠ GoodsConstant.goodsTypeItem then
        .error (.logic CodeGoods.goodsTypeError)
      else
        match goodsCfg.getFuncs with
        | .error e => .error e
        | .ok exec => checkFuncs exec.getAllFuncs (insert goodsId existsFuncGoodsId)
termination_by (ahead goodsMap existsFuncGoodsId, 0)
decreasing_by exact Prod.Lex.left _ _ (ahead_insert_lt _hcfg _hnew)

/-- The loop over the functions of a box. -/
def checkFuncs (allFuncs : List AbstractFunc) (existsFuncGoodsId : Finset Int32) :
    Except Failure Unit :=
  match allFuncs with
  | [] => .ok ()
  | .other :: allFuncs => checkFuncs allFuncs existsFuncGoodsId
  | .funcsGoodsFunc goodsId :: allFuncs =>
    match checkFuncGoodsEndlessLoop goodsId existsFuncGoodsId with
    | .error e => .error e
    | .ok () => checkFuncs allFuncs existsFuncGoodsId
termination_by (ahead goodsMap existsFuncGoodsId, allFuncs.length + 1)
decreasing_by
  · exact Prod.Lex.right _ (Nat.lt_succ_self _)
  · exact Prod.Lex.right _ (Nat.succ_pos _)
  · exact Prod.Lex.right _ (Nat.lt_succ_self _)

end

/-! ## The check -/

/-- The verdicts that the checker remembers. -/
structure Caches where
  validGoodsId : Finset Int32
  invalidGoodsId : AList fun _ : Int32 => Int32

/-- The checker at first. -/
def Caches.empty : Caches := ⟨∅, ∅⟩

/-- **`check`**, of a parameter with a goods id. A `LogicException` is remembered by its code. -/
def check (goodsId : Int32) : EStateM Failure Caches Unit := do
  let caches ← get
  if goodsId ∈ caches.validGoodsId then return ()
  else
    match caches.invalidGoodsId.lookup goodsId with
    | some oldException => throw (.thrown (.logic oldException))
    | none =>
      match checkFuncGoodsEndlessLoop goodsMap goodsId ∅ with
      | .ok () => modify fun caches =>
          { caches with validGoodsId := insert goodsId caches.validGoodsId }
      | .error (.thrown (.logic code)) => do
        modify fun caches =>
          { caches with invalidGoodsId := caches.invalidGoodsId.insert goodsId code }
        throw (.thrown (.logic code))
      | .error e => throw e

/-! ## What the check is for -/

/-- The goods type of a box. -/
def IsBoxType (goodsType : Int32) : Prop :=
  goodsType = GoodsConstant.goodsTypeFunc ∨ goodsType = GoodsConstant.goodsTypeItem

/-- A goods that exists and has the type of a box. -/
def Typed (goodsId : Int32) : Prop :=
  ∃ goodsCfg, goodsMap.lookup goodsId = some goodsCfg ∧ IsBoxType goodsCfg.getGoodsType

/-- A box with its functions. -/
def Boxed (goodsId : Int32) : Prop :=
  ∃ goodsType funcs, goodsMap.lookup goodsId = some (.itemGoods goodsType (some funcs)) ∧
    IsBoxType goodsType

/-- A goods opens another one: one of its functions is a `FuncsGoodsFunc` for it. -/
def Opens (goodsId next : Int32) : Prop :=
  ∃ goodsType funcs, goodsMap.lookup goodsId = some (.itemGoods goodsType (some funcs)) ∧
    .funcsGoodsFunc next ∈ funcs.getAllFuncs

/-- A goods comes to be opened when another one is. -/
def Reaches : Int32 → Int32 → Prop := Relation.ReflTransGen (Opens goodsMap)

/-- **What the check is for**: every goods that would be opened exists and has the type of a box,
and none of them opens itself, directly or through others. -/
def Openable (goodsId : Int32) : Prop := PathSearch.Sound (Typed goodsMap) (Opens goodsMap) goodsId

/-! ## What the search finds -/

section Search

variable {goodsMap} {goodsId : Int32} {existsFuncGoodsId : Finset Int32} {e : Failure}

lemma Boxed.typed (h : Boxed goodsMap goodsId) : Typed goodsMap goodsId := by
  obtain ⟨goodsType, funcs, hcfg, htype⟩ := h
  exact ⟨_, hcfg, htype⟩

lemma not_isBoxType_iff (goodsType : Int32) :
    ¬IsBoxType goodsType ↔
      goodsType ≠ GoodsConstant.goodsTypeFunc ∧ goodsType ≠ GoodsConstant.goodsTypeItem :=
  not_or

/-- The loop over the functions passes just if the search passes for all goods they open. -/
lemma checkFuncs_eq_ok_iff (allFuncs : List AbstractFunc) :
    checkFuncs goodsMap allFuncs existsFuncGoodsId = .ok () ↔
      ∀ next, .funcsGoodsFunc next ∈ allFuncs →
        checkFuncGoodsEndlessLoop goodsMap next existsFuncGoodsId = .ok () := by
  induction allFuncs with
  | nil => simp [checkFuncs]
  | cons func allFuncs ih =>
    cases func with
    | other =>
      rw [checkFuncs, ih]
      simp
    | funcsGoodsFunc goodsId =>
      rw [checkFuncs]
      cases hsearch : checkFuncGoodsEndlessLoop goodsMap goodsId existsFuncGoodsId with
      | error e =>
        refine iff_of_false (by simp) fun h => ?_
        cases hsearch.symm.trans (h goodsId List.mem_cons_self)
      | ok u =>
        simp only [ih, List.mem_cons, AbstractFunc.funcsGoodsFunc.injEq]
        constructor
        · rintro h next (rfl | hnext)
          · exact hsearch
          · exact h next hnext
        · exact fun h next hnext => h next (.inr hnext)

/-- What the loop over the functions throws, the search for one of the goods throws. -/
lemma exists_of_checkFuncs {allFuncs : List AbstractFunc}
    (h : checkFuncs goodsMap allFuncs existsFuncGoodsId = .error e) :
    ∃ next, .funcsGoodsFunc next ∈ allFuncs ∧
      checkFuncGoodsEndlessLoop goodsMap next existsFuncGoodsId = .error e := by
  induction allFuncs with
  | nil =>
    rw [checkFuncs] at h
    cases h
  | cons func allFuncs ih =>
    cases func with
    | other =>
      rw [checkFuncs] at h
      obtain ⟨next, hnext, hsearch⟩ := ih h
      exact ⟨next, List.mem_cons_of_mem _ hnext, hsearch⟩
    | funcsGoodsFunc goodsId =>
      rw [checkFuncs] at h
      cases hsearch : checkFuncGoodsEndlessLoop goodsMap goodsId existsFuncGoodsId with
      | error e' =>
        rw [hsearch] at h
        cases h
        exact ⟨goodsId, List.mem_cons_self, hsearch⟩
      | ok u =>
        rw [hsearch] at h
        obtain ⟨next, hnext, hsearch'⟩ := ih h
        exact ⟨next, List.mem_cons_of_mem _ hnext, hsearch'⟩

/-- **One visit of the search**, at a box that is new on the way. -/
lemma checkFuncGoodsEndlessLoop_of_box (hnew : goodsId ∉ existsFuncGoodsId) {goodsType : Int32}
    {funcs : FuncsExecutor}
    (hcfg : goodsMap.lookup goodsId = some (.itemGoods goodsType (some funcs)))
    (htype : IsBoxType goodsType) :
    checkFuncGoodsEndlessLoop goodsMap goodsId existsFuncGoodsId =
      checkFuncs goodsMap funcs.getAllFuncs (insert goodsId existsFuncGoodsId) := by
  have htype' : ¬(goodsType ≠ GoodsConstant.goodsTypeFunc ∧
      goodsType ≠ GoodsConstant.goodsTypeItem) := by
    rw [← not_isBoxType_iff, not_not]
    exact htype
  rw [checkFuncGoodsEndlessLoop, dif_neg hnew]
  split
  · next hnone => cases hnone.symm.trans hcfg
  · next goodsCfg hsome =>
    obtain rfl := Option.some.inj (hsome.symm.trans hcfg)
    exact if_neg htype'

/-- **One visit of the search**, elsewhere: it throws a `LogicException`, unless the goods has the
type of a box and is none. -/
lemma checkFuncGoodsEndlessLoop_of_not_box
    (h : goodsId ∈ existsFuncGoodsId ∨ ¬Boxed goodsMap goodsId) :
    ∃ e, checkFuncGoodsEndlessLoop goodsMap goodsId existsFuncGoodsId = .error e ∧
      ((∃ code, e = .logic code) ∨ Typed goodsMap goodsId ∧ ¬Boxed goodsMap goodsId) := by
  rw [checkFuncGoodsEndlessLoop]
  split_ifs with hmem
  · exact ⟨_, rfl, .inl ⟨_, rfl⟩⟩
  · have hbox := h.resolve_left hmem
    split
    · exact ⟨_, rfl, .inl ⟨_, rfl⟩⟩
    · next goodsCfg hcfg =>
      split_ifs with htype
      · exact ⟨_, rfl, .inl ⟨_, rfl⟩⟩
      · rw [← not_isBoxType_iff, not_not] at htype
        have htyped : Typed goodsMap goodsId := ⟨goodsCfg, hcfg, htype⟩
        cases goodsCfg with
        | goods goodsType => exact ⟨_, rfl, .inr ⟨htyped, hbox⟩⟩
        | funcGoods goodsType => exact ⟨_, rfl, .inr ⟨htyped, hbox⟩⟩
        | itemGoods goodsType funcs =>
          cases funcs with
          | none => exact ⟨_, rfl, .inr ⟨htyped, hbox⟩⟩
          | some funcs => exact absurd ⟨goodsType, funcs, hcfg, htype⟩ hbox

/-- **The search is a search along all paths** of the goods that are opened. -/
lemma checkFuncGoodsEndlessLoop_eq_ok_iff :
    checkFuncGoodsEndlessLoop goodsMap goodsId existsFuncGoodsId = .ok () ↔
      PathSearch.Passes (Boxed goodsMap) (Opens goodsMap) existsFuncGoodsId goodsId := by
  constructor
  · intro h
    generalize hn : ahead goodsMap existsFuncGoodsId = n
    induction n using Nat.strong_induction_on generalizing goodsId existsFuncGoodsId with
    | _ n ih =>
      by_cases hvisit : goodsId ∈ existsFuncGoodsId ∨ ¬Boxed goodsMap goodsId
      · obtain ⟨e, hsearch, -⟩ := checkFuncGoodsEndlessLoop_of_not_box hvisit
        cases h.symm.trans hsearch
      · rw [not_or, not_not] at hvisit
        obtain ⟨hnew, goodsType, funcs, hcfg, htype⟩ := hvisit
        rw [checkFuncGoodsEndlessLoop_of_box hnew hcfg htype, checkFuncs_eq_ok_iff] at h
        refine .visit (Finset.mem_coe.not.mpr hnew) ⟨goodsType, funcs, hcfg, htype⟩ ?_
        rintro next ⟨goodsType', funcs', hcfg', hnext⟩
        cases hcfg.symm.trans hcfg'
        rw [← Finset.coe_insert]
        exact ih _ (hn ▸ ahead_insert_lt hcfg hnew) (h next hnext) rfl
  · intro h
    generalize hpath : (existsFuncGoodsId : Set Int32) = path at h
    induction h generalizing existsFuncGoodsId with
    | @visit path goodsId hnew hbox hnext ih =>
      obtain ⟨goodsType, funcs, hcfg, htype⟩ := hbox
      rw [← hpath, Finset.mem_coe] at hnew
      rw [checkFuncGoodsEndlessLoop_of_box hnew hcfg htype, checkFuncs_eq_ok_iff]
      intro next hopens
      refine ih next ⟨goodsType, funcs, hcfg, hopens⟩ ?_
      rw [Finset.coe_insert, hpath]

/-- If everything of the type of a box that is opened is one, the search throws `LogicException`
only. Induction on the goods that the search has still to come to. -/
lemma exists_logic_of_error
    (hboxes : ∀ next, Reaches goodsMap goodsId next → Typed goodsMap next → Boxed goodsMap next)
    (h : checkFuncGoodsEndlessLoop goodsMap goodsId existsFuncGoodsId = .error e) :
    ∃ code, e = .logic code := by
  generalize hn : ahead goodsMap existsFuncGoodsId = n
  induction n using Nat.strong_induction_on generalizing goodsId existsFuncGoodsId with
  | _ n ih =>
    by_cases hvisit : goodsId ∈ existsFuncGoodsId ∨ ¬Boxed goodsMap goodsId
    · obtain ⟨e', hsearch, hlogic⟩ := checkFuncGoodsEndlessLoop_of_not_box hvisit
      obtain rfl := Except.error.inj (h.symm.trans hsearch)
      exact hlogic.resolve_right fun hbad => hbad.2 (hboxes goodsId .refl hbad.1)
    · rw [not_or, not_not] at hvisit
      obtain ⟨hnew, goodsType, funcs, hcfg, htype⟩ := hvisit
      rw [checkFuncGoodsEndlessLoop_of_box hnew hcfg htype] at h
      obtain ⟨next, hnext, hsearch⟩ := exists_of_checkFuncs h
      have hopens : Opens goodsMap goodsId next := ⟨goodsType, funcs, hcfg, hnext⟩
      exact ih _ (hn ▸ ahead_insert_lt hcfg hnew) (fun j hj => hboxes j (.head hopens hj))
        hsearch rfl

/-- There are finitely many boxes. -/
lemma finite_boxed : {goodsId | Boxed goodsMap goodsId}.Finite := by
  refine goodsMap.keys.toFinset.finite_toSet.subset ?_
  rintro goodsId ⟨goodsType, funcs, hcfg, -⟩
  have hkey : goodsId ∈ goodsMap := AList.lookup_isSome.mp (by rw [hcfg]; rfl)
  exact Finset.mem_coe.mpr (List.mem_toFinset.mpr (AList.mem_keys.mp hkey))

/-- **What the search finds** from the beginning, if everything of the type of a box that is opened
is one. -/
lemma search_eq_ok_iff
    (hboxes : ∀ next, Reaches goodsMap goodsId next → Typed goodsMap next → Boxed goodsMap next) :
    checkFuncGoodsEndlessLoop goodsMap goodsId ∅ = .ok () ↔ Openable goodsMap goodsId := by
  rw [checkFuncGoodsEndlessLoop_eq_ok_iff, Finset.coe_empty, PathSearch.passes_iff finite_boxed]
  constructor
  · intro h
    exact ⟨fun next hnext => (h.ok next hnext).typed, h.acyclic⟩
  · intro h
    exact ⟨fun next hnext => hboxes next hnext (h.ok next hnext), h.acyclic⟩

end Search

/-! ## The verdicts -/

/-- What the checker remembers is what the search finds. -/
structure Caches.Remembers (caches : Caches) : Prop where
  valid : ∀ goodsId ∈ caches.validGoodsId, checkFuncGoodsEndlessLoop goodsMap goodsId ∅ = .ok ()
  invalid : ∀ goodsId code, caches.invalidGoodsId.lookup goodsId = some code →
    checkFuncGoodsEndlessLoop goodsMap goodsId ∅ = .error (.thrown (.logic code))

/-- The checker after a check. -/
def callCheck (caches : Caches) (goodsId : Int32) : Caches :=
  (check goodsMap goodsId).finalState caches

/-- **The verdict on a goods is right**, whatever was checked before: the check returns if the goods
can be opened, and throws a `LogicException` if not. -/
structure Right (goodsId : Int32) : Prop where
  returns : Openable goodsMap goodsId → ∀ earlier, ∃ caches,
    (check goodsMap goodsId).run (Runs.run (callCheck goodsMap) .empty earlier) = .ok () caches
  throws : ¬Openable goodsMap goodsId → ∀ earlier, ∃ code caches,
    (check goodsMap goodsId).run (Runs.run (callCheck goodsMap) .empty earlier) =
      .error (.thrown (.logic code)) caches

section Verdicts

variable {goodsMap} {caches : Caches} {goodsId : Int32}

lemma Caches.remembers_empty : Caches.empty.Remembers goodsMap where
  valid goodsId h := absurd h (Finset.notMem_empty goodsId)
  invalid goodsId code h := by
    rw [Caches.empty, AList.lookup_empty] at h
    cases h

/-- **The caches do not change the verdict**: a check ends as the search does. -/
lemma Caches.Remembers.check_eq (h : caches.Remembers goodsMap) (goodsId : Int32) :
    ∃ caches', caches'.Remembers goodsMap ∧ (check goodsMap goodsId).run caches =
      match checkFuncGoodsEndlessLoop goodsMap goodsId ∅ with
      | .ok () => .ok () caches'
      | .error e => .error e caches' := by
  rw [check, EStateM.run_bind, EStateM.run_get]
  simp only
  split_ifs with hvalid
  · exact ⟨caches, h, by rw [h.valid goodsId hvalid]; rfl⟩
  · cases hinvalid : caches.invalidGoodsId.lookup goodsId with
    | some code => exact ⟨caches, h, by rw [h.invalid goodsId code hinvalid]; rfl⟩
    | none =>
      cases hsearch : checkFuncGoodsEndlessLoop goodsMap goodsId ∅ with
      | ok u =>
        refine ⟨{ caches with validGoodsId := insert goodsId caches.validGoodsId },
          ⟨fun id hid => ?_, h.invalid⟩, rfl⟩
        rcases Finset.mem_insert.mp hid with rfl | hid
        · exact hsearch
        · exact h.valid id hid
      | error e =>
        cases e with
        | classCast => exact ⟨caches, h, rfl⟩
        | thrown e =>
          cases e with
          | logic code =>
            refine ⟨{ caches with invalidGoodsId := caches.invalidGoodsId.insert goodsId code },
              ⟨h.valid, fun id code' hid => ?_⟩, rfl⟩
            rw [AList.lookup_insert_ite] at hid
            split_ifs at hid with heq
            · cases hid
              rw [heq, hsearch]
            · exact h.invalid id code' hid
          | nullPointer => exact ⟨caches, h, rfl⟩
          | illegalArgument => exact ⟨caches, h, rfl⟩
          | arithmetic => exact ⟨caches, h, rfl⟩
          | indexOutOfBounds => exact ⟨caches, h, rfl⟩

lemma Caches.Remembers.callCheck (h : caches.Remembers goodsMap) (goodsId : Int32) :
    (callCheck goodsMap caches goodsId).Remembers goodsMap := by
  obtain ⟨caches', hcaches', hrun⟩ := h.check_eq goodsId
  rw [FuncsGoods.callCheck, EStateM.finalState, hrun]
  cases checkFuncGoodsEndlessLoop goodsMap goodsId ∅ with
  | ok u => exact hcaches'
  | error e => exact hcaches'

variable (goodsMap) in
/-- Whatever was checked before, a check ends as the search does. -/
lemma check_eq (earlier : List Int32) (goodsId : Int32) :
    ∃ caches', (check goodsMap goodsId).run (Runs.run (callCheck goodsMap) .empty earlier) =
      match checkFuncGoodsEndlessLoop goodsMap goodsId ∅ with
      | .ok () => .ok () caches'
      | .error e => .error e caches' := by
  have hremembers : (Runs.run (callCheck goodsMap) .empty earlier).Remembers goodsMap :=
    Runs.forall_inv_run (Caches.Remembers goodsMap) (fun _ goodsId h => h.callCheck goodsId)
      Caches.remembers_empty earlier
  obtain ⟨caches', -, hrun⟩ := hremembers.check_eq goodsId
  exact ⟨caches', hrun⟩

end Verdicts

/-- **The verdict on a goods is right** if everything of the type of a box that is opened is one, as
the goods that are loaded are. -/
theorem right_of_boxes {goodsId : Int32}
    (hboxes : ∀ next, Reaches goodsMap goodsId next → Typed goodsMap next → Boxed goodsMap next) :
    Right goodsMap goodsId := by
  refine ⟨fun hopenable earlier => ?_, fun hopenable earlier => ?_⟩
  · obtain ⟨caches', hrun⟩ := check_eq goodsMap earlier goodsId
    rw [(search_eq_ok_iff hboxes).mpr hopenable] at hrun
    exact ⟨caches', hrun⟩
  · obtain ⟨caches', hrun⟩ := check_eq goodsMap earlier goodsId
    cases hsearch : checkFuncGoodsEndlessLoop goodsMap goodsId ∅ with
    | ok u => exact absurd ((search_eq_ok_iff hboxes).mp hsearch) hopenable
    | error e =>
      obtain ⟨code, rfl⟩ := exists_logic_of_error hboxes hsearch
      rw [hsearch] at hrun
      exact ⟨code.get, caches', hrun⟩

/-- A box that opens another one twice, which opens nothing. -/
def twoBoxes : GoodsMap :=
  ((∅ : AList _).insert 30110002 (.itemGoods 3 (some ⟨[[.other]], []⟩))).insert 30110001
    (.itemGoods 3 (some ⟨[[.funcsGoodsFunc 30110002, .other], [.funcsGoodsFunc 30110002]], []⟩))

/-- The verdict on the first box is right. -/
theorem right_of_boxes_twoBoxes : Right twoBoxes 30110001 := by
  refine right_of_boxes twoBoxes fun next _ htyped => ?_
  obtain ⟨goodsCfg, hcfg, htype⟩ := htyped
  have hcfg' := hcfg
  rw [twoBoxes, AList.lookup_insert_ite, AList.lookup_insert_ite] at hcfg
  split_ifs at hcfg
  · cases hcfg
    exact ⟨_, _, hcfg', htype⟩
  · cases hcfg
    exact ⟨_, _, hcfg', htype⟩
  · cases hcfg

/-- A goods with the type of a box that is none. -/
def oneTypedGoods : GoodsMap := (∅ : AList _).insert 41020009 (.goods GoodsConstant.goodsTypeItem)

/-- The goods opens nothing and is of the right type, and the check throws
`ClassCastException`. -/
theorem not_right_goods :
    Openable oneTypedGoods 41020009 ∧ ¬Right oneTypedGoods 41020009 ∧
      checkFuncGoodsEndlessLoop oneTypedGoods 41020009 ∅ = .error .classCast := by
  have hcfg : oneTypedGoods.lookup 41020009 = some (.goods GoodsConstant.goodsTypeItem) := by decide
  have hsearch : checkFuncGoodsEndlessLoop oneTypedGoods 41020009 ∅ = .error .classCast := by
    rw [checkFuncGoodsEndlessLoop, dif_neg (Finset.notMem_empty _)]
    split
    · next hnone => cases hnone.symm.trans hcfg
    · next goodsCfg hsome =>
      obtain rfl := Option.some.inj (hsome.symm.trans hcfg)
      rfl
  have hopens : ∀ next, ¬Opens oneTypedGoods 41020009 next := by
    rintro next ⟨goodsType, funcs, hitem, -⟩
    cases hcfg.symm.trans hitem
  have hopenable : Openable oneTypedGoods 41020009 :=
    PathSearch.sound_of_no_edge ⟨_, hcfg, .inr rfl⟩ hopens
  refine ⟨hopenable, fun hright => ?_, hsearch⟩
  obtain ⟨caches, hrun⟩ := hright.returns hopenable []
  obtain ⟨caches', hrun'⟩ := check_eq oneTypedGoods [] 41020009
  rw [hsearch, hrun] at hrun'
  cases hrun'

end SrgpGame.FuncsGoods
