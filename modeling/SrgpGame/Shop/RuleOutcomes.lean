import SrgpGame.Shop.ShopRefreshRule

set_option autoImplicit false

/-!
# When a rule returns

A rule returns, throws a code or throws an unchecked exception. Which of these happens depends on
the parameters of the shop, on what is drawn, and on the group.

## Main definitions

* `IsLogic` — an exception with a code.
* `Readable`, `Startable` — a group or a sequence of groups can be drawn.
* `Refreshable`, `Refuses` — when a rule returns, and when it throws a code.

## Main results

* `returns_refresh_iff`, `throws_refresh_iff` — how a rule ends.
-/

namespace SrgpGame.ShopRefresh

open EStateM (OnlyThrows Returns Throws)
open Func (Rng nextInt)
open Shop (elementAt)
open Util (Caches Converter.toInteger RandomState drawOfString onCaches onRng randomByWeight
  randomString readConfig)

/-- A `LogicException`. -/
def IsLogic (e : Thrown) : Prop := ∃ code, e = .logic code

/-- An unchecked exception. -/
def Unchecked (e : Thrown) : Prop := ¬IsLogic e

lemma unchecked_illegalArgument : Unchecked .illegalArgument := by
  rintro ⟨code, h⟩
  cases h

lemma unchecked_indexOutOfBounds : Unchecked .indexOutOfBounds := by
  rintro ⟨code, h⟩
  cases h

lemma unchecked_nullPointer : Unchecked .nullPointer := by
  rintro ⟨code, h⟩
  cases h

/-- Where only unchecked exceptions are thrown. -/
lemma not_throws_isLogic {σ α : Type} {x : EStateM Thrown σ α} (hx : OnlyThrows Unchecked x)
    {s : σ} : ¬Throws IsLogic x s := hx.not_throws fun _ h => h

section Checks

variable {σ β : Type} {s : σ} {c : ICode} {cond : Prop} [Decidable cond]
  {g : Unit → EStateM Thrown σ β}

/-- Behind a check. -/
lemma returns_throwIfTrue_bind :
    Returns (EStateM.ofExcept (fun _ => c.throwIfTrue cond) >>= g) s ↔
      ¬cond ∧ Returns (g ()) s := by
  by_cases h : cond
  · have herror : c.throwIfTrue cond = .error (.logic c.get) := if_pos h
    refine iff_of_false ?_ fun h' => h'.1 h
    exact EStateM.not_returns_ofExcept_bind (f := fun _ => c.throwIfTrue cond) herror
  · have hok : c.throwIfTrue cond = .ok () := if_neg h
    rw [EStateM.returns_ofExcept_bind_of_ok (f := fun _ => c.throwIfTrue cond) hok,
      and_iff_right h]

lemma throws_throwIfTrue_bind :
    Throws IsLogic (EStateM.ofExcept (fun _ => c.throwIfTrue cond) >>= g) s ↔
      cond ∨ Throws IsLogic (g ()) s := by
  by_cases h : cond
  · have herror : c.throwIfTrue cond = .error (.logic c.get) := if_pos h
    rw [EStateM.throws_ofExcept_bind_of_error (f := fun _ => c.throwIfTrue cond) herror]
    exact iff_of_true ⟨c.get, rfl⟩ (.inl h)
  · have hok : c.throwIfTrue cond = .ok () := if_neg h
    rw [EStateM.throws_ofExcept_bind_of_ok (f := fun _ => c.throwIfTrue cond) hok, or_iff_right h]

end Checks

/-! ## Random choices -/

/-- Below a positive bound there is a number. -/
lemma returns_nextInt_iff {bound : Int32} {rng : Rng} :
    Returns (nextInt bound) rng ↔ 0 < bound.toInt := by
  by_cases h : 0 < bound.toInt
  · exact iff_of_true ⟨_, _, Func.run_nextInt_of_pos h rng⟩ h
  · refine iff_of_false ?_ h
    rintro ⟨a, rng', hrun⟩
    rw [Func.run_nextInt_of_nonpos (not_lt.mp h)] at hrun
    cases hrun

lemma onlyThrows_nextInt (bound : Int32) : OnlyThrows Unchecked (nextInt bound) := by
  intro rng e rng' h
  by_cases hpos : 0 < bound.toInt
  · rw [Func.run_nextInt_of_pos hpos] at h
    cases h
  · rw [Func.run_nextInt_of_nonpos (not_lt.mp hpos)] at h
    cases h
    exact unchecked_illegalArgument

/-- **A text from which a number can be drawn**: a number, or entries whose weights and one more
make up a positive sum. -/
def Readable (digit : Char → Option ℕ) (caches : Caches) (str : String) : Prop :=
  (',' ∉ str.toList ∧ ':' ∉ str.toList) ∨
    ∃ draw caches', (drawOfString digit str).run caches = .ok draw caches' ∧ 0 < draw.bound.toInt

lemma returns_run_draw_iff {draw : Util.Draw} {rng : Rng} :
    Returns draw.run rng ↔ 0 < draw.bound.toInt := by
  unfold Util.Draw.run
  have hnext : Returns (nextInt draw.bound) rng ↔ 0 < draw.bound.toInt := returns_nextInt_iff
  rw [EStateM.returns_bind, ← hnext]
  constructor
  · rintro ⟨a, rng', hrun, -⟩
    exact ⟨a, rng', hrun⟩
  · rintro ⟨a, rng', hrun⟩
    exact ⟨a, rng', hrun, EStateM.returns_pure _⟩

lemma returns_randomString_iff {digit : Char → Option ℕ} {s : RandomState} {str : String} :
    Returns (randomString digit str) s ↔ Readable digit s.caches str := by
  unfold randomString Readable
  split_ifs with hplain
  · exact iff_of_true (EStateM.returns_pure _) (.inl hplain)
  · rw [EStateM.returns_bind, or_iff_right hplain]
    simp only [onRng, EStateM.returns_zoom, returns_run_draw_iff]
    rw [onCaches, EStateM.run_zoom]
    constructor
    · rintro ⟨draw, s', hrun, hpos⟩
      cases hdraw : (drawOfString digit str).run s.caches with
      | ok draw' caches' =>
        rw [hdraw] at hrun
        obtain ⟨rfl, -⟩ := EStateM.Result.ok.inj hrun
        exact ⟨draw', caches', rfl, hpos⟩
      | error e caches' =>
        rw [hdraw] at hrun
        cases hrun
    · rintro ⟨draw, caches', hdraw, hpos⟩
      rw [hdraw]
      exact ⟨draw, _, rfl, hpos⟩

/-- What cannot be read is an array without a second part. -/
lemma unchecked_of_readConfig {digit : Char → Option ℕ} {str : String} {e : Thrown}
    (h : readConfig digit str = .error e) : Unchecked e := by
  refine Except.of_foldlM_eq_error ?_ h
  intro acc info e he
  unfold Util.readInfo at he
  split at he
  · cases he
  · obtain rfl := Except.error.inj he
    exact unchecked_indexOutOfBounds

/-- **A draw** throws no code. -/
lemma onlyThrows_randomString (digit : Char → Option ℕ) (str : String) :
    OnlyThrows Unchecked (randomString digit str) := by
  have hdraw : OnlyThrows Unchecked (drawOfString digit str) := by
    refine .bind .get fun caches => ?_
    cases caches.randomCache.lookup str with
    | some reference => exact .bind (.pure _) fun _ => .pure _
    | none =>
      refine .bind (.ofExcept fun _ e h => unchecked_of_readConfig h) fun reference => ?_
      exact .bind (.modify _) fun _ => .bind (.pure _) fun _ => .pure _
  refine .ite (.pure _) (.bind (.zoom hdraw _ _) fun draw => .zoom ?_ _ _)
  exact .bind (onlyThrows_nextInt _) fun _ => .pure _

/-! ## Groups -/

section Groups

variable {texts : Texts} {s : RefreshState} {destGroup level quantity : Int32}

/-- What a group has for a level, now. -/
def Offers (group : GroupShopItem) (level copyWeight : Int32) (copy : List ShopItemConfig) : Prop :=
  ∃ group', (matchByGuildLevel level).run group = .ok (copyWeight, copy) group'

lemma onlyThrows_randomByWeight (copyWeight : Int32) (copy : List ShopItemConfig) :
    OnlyThrows Unchecked (randomByWeight ShopItemConfig.weight copyWeight copy) :=
  .ite (.pure _) (.ite (.pure _) (.bind (onlyThrows_nextInt _) fun _ => .pure _))

/-- A loop with a positive sum returns: it stops before the sum is not positive. -/
lemma returns_refreshLoop_of_pos (rounds : ℕ) {i copyWeight : Int32} (hpos : 0 < copyWeight.toInt)
    {copy : List ShopItemConfig} {results : List ShopItemVO} {rng : Rng} :
    Returns (refreshLoop rounds i copyWeight copy results) rng := by
  induction rounds generalizing i copyWeight copy results rng with
  | zero => exact EStateM.returns_pure results
  | succ rounds ih =>
    have hdraw : Returns (randomByWeight ShopItemConfig.weight copyWeight copy) rng := by
      unfold randomByWeight
      split_ifs
      · exact EStateM.returns_pure none
      · exact EStateM.returns_pure copy.head?
      · obtain ⟨random, rng', hrun⟩ := returns_nextInt_iff.mpr hpos
        exact EStateM.returns_bind.mpr ⟨random, rng', hrun, EStateM.returns_pure _⟩
    obtain ⟨drawn, rng', hrun⟩ := hdraw
    rw [refreshLoop]
    refine EStateM.returns_bind.mpr ⟨drawn, rng', hrun, ?_⟩
    cases drawn with
    | none => exact ih hpos
    | some item =>
      simp only
      split_ifs with hempty hweight
      · exact EStateM.returns_pure _
      · exact EStateM.returns_pure _
      · rw [Int32.le_iff_toInt_le, Int32.toInt_zero, not_le] at hweight
        exact ih hweight

/-- **The loop returns** just if it is not asked for an item or the sum is positive. -/
lemma returns_refreshLoop_iff {rounds : ℕ} {i copyWeight : Int32} {copy : List ShopItemConfig}
    (hne : copy ≠ []) {results : List ShopItemVO} {rng : Rng} :
    Returns (refreshLoop rounds i copyWeight copy results) rng ↔
      rounds = 0 ∨ 0 < copyWeight.toInt := by
  cases rounds with
  | zero => exact iff_of_true (EStateM.returns_pure results) (.inl rfl)
  | succ rounds =>
    by_cases hpos : 0 < copyWeight.toInt
    · exact iff_of_true (returns_refreshLoop_of_pos _ hpos) (.inr hpos)
    · refine iff_of_false ?_ ?_
      · rintro ⟨r, rng', hrun⟩
        rw [refreshLoop, EStateM.run_bind,
          Util.run_randomByWeight_of_nonpos hne (not_lt.mp hpos)] at hrun
        cases hrun
      · rintro (h | h)
        · cases h
        · exact hpos h

lemma onlyThrows_refreshLoop (rounds : ℕ) (i copyWeight : Int32) (copy : List ShopItemConfig)
    (results : List ShopItemVO) :
    OnlyThrows Unchecked (refreshLoop rounds i copyWeight copy results) := by
  induction rounds generalizing i copyWeight copy results with
  | zero => exact .pure _
  | succ rounds ih =>
    refine .bind (onlyThrows_randomByWeight copyWeight copy) fun drawn => ?_
    cases drawn with
    | none => exact ih _ _ _ _
    | some item => exact .ite (.pure _) (.ite (.pure _) (ih _ _ _ _))

lemma onlyThrows_matchByGuildLevel (level : Int32) :
    OnlyThrows Unchecked (matchByGuildLevel level) := by
  have hrange : ∀ range e, compareRange level range = .error e → Unchecked e := by
    intro range e he
    rcases range with _ | ⟨first, _ | ⟨last, rest⟩⟩
    · cases he
    · rw [compareRange] at he
      split_ifs at he
      obtain rfl := Except.error.inj he
      exact unchecked_indexOutOfBounds
    · cases he
  have hitem : ∀ acc item e, matchItem level acc item = .error e → Unchecked e := by
    intro acc item e he
    unfold matchItem meetsGuildLevel at he
    cases hmeets : compareRange level (item.refreshRequireGuildLv.getD []) with
    | error e' =>
      rw [hmeets] at he
      obtain rfl := Except.error.inj he
      exact hrange _ _ hmeets
    | ok b =>
      rw [hmeets] at he
      cases b <;> cases he
  refine .bind .get fun group => ?_
  cases group.guildLevelRelateCache.lookup level with
  | some result => exact .pure _
  | none =>
    refine .bind (.ofExcept fun _ e he => Except.of_foldlM_eq_error hitem he) fun result => ?_
    exact .bind (.modify _) fun _ => .pure _

/-- What is done with the items of a group. -/
def drawItems (quantity copyWeight : Int32) (copy : List ShopItemConfig) :
    EStateM Thrown RefreshState (List ShopItemVO) := do
  EStateM.ofExcept fun _ => CodeShop.shopGroupNotFound.throwIfTrue (copy = [])
  onRandom (onRng (refreshLoop quantity.toInt.toNat 0 copyWeight copy []))

lemma returns_drawItems_iff {copyWeight : Int32} {copy : List ShopItemConfig} :
    Returns (drawItems quantity copyWeight copy) s ↔
      copy ≠ [] ∧ (quantity.toInt.toNat = 0 ∨ 0 < copyWeight.toInt) := by
  unfold drawItems
  rw [returns_throwIfTrue_bind, onRandom, EStateM.returns_zoom, onRng, EStateM.returns_zoom]
  exact and_congr_right fun hempty => returns_refreshLoop_iff hempty

lemma throws_drawItems_iff {copyWeight : Int32} {copy : List ShopItemConfig} :
    Throws IsLogic (drawItems quantity copyWeight copy) s ↔ copy = [] := by
  unfold drawItems
  rw [throws_throwIfTrue_bind, onRandom, EStateM.throws_zoom, onRng, EStateM.throws_zoom]
  exact or_iff_left (not_throws_isLogic (onlyThrows_refreshLoop _ _ _ _ _))

/-- A group has items for a level, and the sum of their weights is positive where some are asked
for. -/
def GivesItems (s : RefreshState) (destGroup level quantity : Int32) : Prop :=
  ∃ group copyWeight copy, s.shopItemGroup.lookup destGroup = some group ∧
    Offers group level copyWeight copy ∧ copy ≠ [] ∧
      (quantity.toInt.toNat = 0 ∨ 0 < copyWeight.toInt)

/-- There is no group, or it has no item for a level. -/
def GivesNone (s : RefreshState) (destGroup level : Int32) : Prop :=
  s.shopItemGroup.lookup destGroup = none ∨ ∃ group copyWeight,
    s.shopItemGroup.lookup destGroup = some group ∧ Offers group level copyWeight []

/-- **A group gives items** if it has some. -/
lemma returns_refreshGroup_iff :
    Returns (refreshGroup destGroup level quantity) s ↔ GivesItems s destGroup level quantity := by
  unfold refreshGroup GivesItems
  rw [EStateM.returns_get_bind]
  cases hlookup : s.shopItemGroup.lookup destGroup with
  | none =>
    refine iff_of_false ?_ ?_
    · rintro ⟨r, s', hrun⟩
      cases hrun
    · rintro ⟨group, copyWeight, copy, hnone, -⟩
      cases hnone
  | some group =>
    simp only
    rw [EStateM.returns_bind, onGroup, EStateM.run_zoom]
    cases hmatch : (matchByGuildLevel level).run group with
    | error e group' =>
      refine iff_of_false ?_ ?_
      · rintro ⟨a, s', hrun, -⟩
        cases hrun
      · rintro ⟨_, copyWeight, copy, hsome, ⟨group'', hoffers⟩, -⟩
        obtain rfl := Option.some.inj hsome
        cases hmatch.symm.trans hoffers
    | ok result group' =>
      obtain ⟨copyWeight, copy⟩ := result
      constructor
      · rintro ⟨a, s', hrun, hrest⟩
        obtain ⟨rfl, rfl⟩ := EStateM.Result.ok.inj hrun
        exact ⟨group, copyWeight, copy, rfl, ⟨group', hmatch⟩, returns_drawItems_iff.mp hrest⟩
      · rintro ⟨_, copyWeight', copy', hsome, ⟨group'', hoffers⟩, hitems⟩
        obtain rfl := Option.some.inj hsome
        obtain ⟨heq, rfl⟩ := EStateM.Result.ok.inj (hmatch.symm.trans hoffers)
        obtain ⟨rfl, rfl⟩ := Prod.mk.inj heq
        exact ⟨_, _, rfl, returns_drawItems_iff.mpr hitems⟩

/-- **A code is thrown** where there is no group, or no item for the level. -/
lemma throws_refreshGroup_iff :
    Throws IsLogic (refreshGroup destGroup level quantity) s ↔ GivesNone s destGroup level := by
  unfold refreshGroup GivesNone
  rw [EStateM.throws_get_bind]
  cases hlookup : s.shopItemGroup.lookup destGroup with
  | none =>
    refine iff_of_true ?_ (.inl rfl)
    exact EStateM.throws_ofExcept.mpr ⟨_, rfl, _, rfl⟩
  | some group =>
    simp only
    have hunchecked : ¬Throws IsLogic
        (onGroup destGroup group (matchByGuildLevel level)) s :=
      not_throws_isLogic ((onlyThrows_matchByGuildLevel level).zoom _ _)
    rw [EStateM.throws_bind, or_iff_right hunchecked, onGroup, EStateM.run_zoom]
    cases hmatch : (matchByGuildLevel level).run group with
    | error e group' =>
      refine iff_of_false ?_ ?_
      · rintro ⟨a, s', hrun, -⟩
        cases hrun
      · rintro (hnone | ⟨_, copyWeight, hsome, ⟨group'', hoffers⟩⟩)
        · cases hnone
        · obtain rfl := Option.some.inj hsome
          cases hmatch.symm.trans hoffers
    | ok result group' =>
      obtain ⟨copyWeight, copy⟩ := result
      constructor
      · rintro ⟨a, s', hrun, hrest⟩
        obtain ⟨rfl, rfl⟩ := EStateM.Result.ok.inj hrun
        obtain rfl := throws_drawItems_iff.mp hrest
        exact .inr ⟨group, copyWeight, rfl, group', hmatch⟩
      · rintro (hnone | ⟨_, copyWeight', hsome, ⟨group'', hoffers⟩⟩)
        · cases hnone
        · obtain rfl := Option.some.inj hsome
          obtain ⟨heq, rfl⟩ := EStateM.Result.ok.inj (hmatch.symm.trans hoffers)
          obtain ⟨rfl, rfl⟩ := Prod.mk.inj heq
          exact ⟨_, _, rfl, throws_drawItems_iff.mpr rfl⟩

end Groups

/-! ## Sequences -/

section Sequences

variable {texts : Texts}

/-- The sequences from which the next one is chosen, unless there is one that is not used up. -/
def sequencePool (texts : Texts) (extraVO : ShopExtraVO) (params : List String) :
    Option (List String) :=
  if extraVO.groupSequence = [] then some params
  else if (extraVO.groupSequence.length : ℤ) ≤ extraVO.nextGroupIndex.toInt then
    some (params.filter (· ∉
      if startsAnew texts extraVO params then ∅ else extraVO.usedGroupSequence))
  else none

/-- **There is a next group**: in the sequence in use, or first in the one that is chosen. -/
def HasNext (texts : Texts) (extraVO : ShopExtraVO) (rng : Rng) (params : List String) : Prop :=
  match sequencePool texts extraVO params with
  | none => 0 ≤ extraVO.nextGroupIndex.toInt
  | some pool => ∃ newSequence rng', (chooseSequence pool).run rng = .ok newSequence rng' ∧
      toIntArray texts newSequence ≠ []

lemma onlyThrows_chooseSequence (pool : List String) :
    OnlyThrows Unchecked (chooseSequence pool) := by
  have hshuffle : OnlyThrows Unchecked
      (modifyGet fun rng => Util.shuffle pool.length pool rng : EStateM Thrown Rng _) := by
    intro rng e rng' h
    cases h
  refine .bind hshuffle fun pool' => .bind (onlyThrows_nextInt _) fun index => ?_
  cases pool'[index.toInt.toNat]? with
  | none => exact .throw unchecked_indexOutOfBounds
  | some newSequence => exact .pure _

lemma onlyThrows_randomSequence (pool : List String) :
    OnlyThrows Unchecked (randomSequence texts pool) :=
  .bind (.zoom (.zoom (onlyThrows_chooseSequence pool) _ _) _ _) fun _ => .modify _

lemma onlyThrows_elementAt (array : RefreshState → List Int32) (i : RefreshState → ℤ) :
    OnlyThrows Unchecked (EStateM.ofExcept fun s => elementAt (array s) (i s)) := by
  refine .ofExcept fun s e h => ?_
  unfold elementAt at h
  split at h
  · obtain rfl := Except.error.inj h
    exact unchecked_indexOutOfBounds
  · cases h

/-- The part of `Sequence.refresh` behind the choice of a sequence. -/
def takeGroup : EStateM Thrown RefreshState (List ShopItemVO) := do
  let _destGroup ← EStateM.ofExcept fun s =>
    elementAt s.extraVO.groupSequence s.extraVO.nextGroupIndex.toInt
  modify fun s =>
    { s with extraVO := { s.extraVO with nextGroupIndex := s.extraVO.nextGroupIndex + 1 } }
  return []

lemma elementAt_eq_ok {array : List Int32} {i : ℤ} {value : Int32} :
    elementAt array i = .ok value ↔ 0 ≤ i ∧ array[i.toNat]? = some value := by
  unfold elementAt
  by_cases hneg : 0 ≤ i
  · rw [if_pos hneg, and_iff_right hneg]
    cases array[i.toNat]? <;> simp
  · rw [if_neg hneg]
    simp [hneg]

lemma elementAt_eq_ok_iff {array : List Int32} {i : ℤ} :
    (∃ value, elementAt array i = .ok value) ↔ 0 ≤ i ∧ i < array.length := by
  constructor
  · rintro ⟨value, hvalue⟩
    obtain ⟨hneg, helement⟩ := elementAt_eq_ok.mp hvalue
    obtain ⟨hlength, -⟩ := List.getElem?_eq_some_iff.mp helement
    omega
  · rintro ⟨hneg, hlength⟩
    have hbound : i.toNat < array.length := by omega
    exact ⟨_, elementAt_eq_ok.mpr ⟨hneg, List.getElem?_eq_getElem hbound⟩⟩

lemma returns_takeGroup_iff {s : RefreshState} : Returns takeGroup s ↔
    0 ≤ s.extraVO.nextGroupIndex.toInt ∧
      s.extraVO.nextGroupIndex.toInt < s.extraVO.groupSequence.length := by
  rw [← elementAt_eq_ok_iff, takeGroup, EStateM.returns_ofExcept_bind]
  constructor
  · rintro ⟨value, hvalue, -⟩
    exact ⟨value, hvalue⟩
  · rintro ⟨value, hvalue⟩
    exact ⟨value, hvalue, _, _, rfl⟩

lemma onlyThrows_takeGroup : OnlyThrows Unchecked takeGroup :=
  .bind (onlyThrows_elementAt _ _) fun _ => .bind (.modify _) fun _ => .pure _

/-- A sequence that is chosen has a first group if it has any. -/
lemma returns_randomSequence_iff {pool : List String} {s : RefreshState} :
    Returns (randomSequence texts pool >>= fun _ => takeGroup) s ↔
      ∃ newSequence rng', (chooseSequence pool).run s.random.rng = .ok newSequence rng' ∧
        toIntArray texts newSequence ≠ [] := by
  rw [EStateM.returns_bind, randomSequence]
  simp only [onRandom, onRng, EStateM.run_bind, EStateM.run_zoom]
  cases hchoose : (chooseSequence pool).run s.random.rng with
  | error e rng' =>
    refine iff_of_false ?_ ?_
    · rintro ⟨a, s', hrun, -⟩
      cases hrun
    · rintro ⟨newSequence, rng'', hrun, -⟩
      cases hrun
  | ok newSequence rng' =>
    have hfirst : ∀ random, Returns takeGroup ⟨s.shopItemGroup, random,
        s.extraVO.startSequence texts newSequence⟩ ↔ toIntArray texts newSequence ≠ [] := by
      intro random
      have hzero : (0 : Int32).toInt = 0 := rfl
      rw [returns_takeGroup_iff]
      simp only [ShopExtraVO.startSequence, hzero, le_refl, true_and]
      rw [← List.length_pos_iff]
      omega
    constructor
    · rintro ⟨a, s', hrun, hrest⟩
      obtain ⟨-, rfl⟩ := EStateM.Result.ok.inj hrun
      exact ⟨newSequence, rng', rfl, (hfirst _).mp hrest⟩
    · rintro ⟨newSequence', rng'', hrun, hne⟩
      obtain ⟨rfl, rfl⟩ := EStateM.Result.ok.inj hrun
      exact ⟨_, _, rfl, (hfirst _).mpr hne⟩

lemma returns_refreshSequence_iff {params : Parameters} {s : RefreshState} :
    Returns (refreshSequence texts params) s ↔
      params.refreshParams ≠ [] ∧ HasNext texts s.extraVO s.random.rng params.refreshParams := by
  unfold refreshSequence
  rw [returns_throwIfTrue_bind, EStateM.returns_get_bind]
  refine and_congr_right fun hne => ?_
  change Returns (nextSequence texts s.extraVO params.refreshParams >>= fun _ => takeGroup) s ↔ _
  unfold nextSequence HasNext sequencePool
  by_cases hfirst : s.extraVO.groupSequence = []
  · rw [if_pos hfirst, if_pos hfirst]
    exact returns_randomSequence_iff
  · rw [if_neg hfirst, if_neg hfirst]
    by_cases hused : (s.extraVO.groupSequence.length : ℤ) ≤ s.extraVO.nextGroupIndex.toInt
    · rw [if_pos hused, if_pos hused]
      simp only [bind_assoc]
      rw [EStateM.returns_modify_bind]
      exact returns_randomSequence_iff
    · rw [if_neg hused, if_neg hused, pure_bind, returns_takeGroup_iff]
      exact and_iff_left (not_le.mp hused)

lemma throws_refreshSequence_iff {params : Parameters} {s : RefreshState} :
    Throws IsLogic (refreshSequence texts params) s ↔ params.refreshParams = [] := by
  unfold refreshSequence
  rw [throws_throwIfTrue_bind]
  refine or_iff_left (not_throws_isLogic (.bind .get fun s => .bind ?_ fun _ =>
    onlyThrows_takeGroup))
  refine .ite (onlyThrows_randomSequence _) (.ite ?_ (.pure _))
  exact .bind (.modify _) fun _ => onlyThrows_randomSequence _

end Sequences

/-! ## By rule -/

lemma twoParams_eq_ok_iff {params : List String} {groupRule quantity : String} :
    twoParams params = .ok (groupRule, quantity) ↔ params = [groupRule, quantity] := by
  rcases params with _ | ⟨a, _ | ⟨b, _ | ⟨c, rest⟩⟩⟩ <;>
    simp [twoParams, ICode.throwException]

lemma twoParams_eq_error_iff {params : List String} :
    (∃ e, twoParams params = .error e ∧ IsLogic e) ↔ params.length ≠ 2 := by
  rcases params with _ | ⟨a, _ | ⟨b, _ | ⟨c, rest⟩⟩⟩ <;>
    simp [twoParams, ICode.throwException, IsLogic]

lemma threeParams_eq_ok_iff {params : List String} {groupRule levelOffset quantity : String} :
    threeParams params = .ok (groupRule, levelOffset, quantity) ↔
      params = [groupRule, levelOffset, quantity] := by
  rcases params with _ | ⟨a, _ | ⟨b, _ | ⟨c, _ | ⟨d, rest⟩⟩⟩⟩ <;>
    simp [threeParams, ICode.throwException]

lemma threeParams_eq_error_iff {params : List String} :
    (∃ e, threeParams params = .error e ∧ IsLogic e) ↔ params.length ≠ 3 := by
  rcases params with _ | ⟨a, _ | ⟨b, _ | ⟨c, _ | ⟨d, rest⟩⟩⟩⟩ <;>
    simp [threeParams, ICode.throwException, IsLogic]

/-- **When a rule returns.** -/
def Refreshable (texts : Texts) (params : Parameters) (s : RefreshState) : ShopRefreshRule → Prop
  | .fix => params.refreshParams ≠ []
  | .weight => ∃ groupRule quantity, params.refreshParams = [groupRule, quantity] ∧
      Readable texts.digit s.random.caches groupRule
  | .guildLevel => ∀ level, params.guildLevel = some level →
      ∃ groupRule quantity destGroup random, params.refreshParams = [groupRule, quantity] ∧
        (randomString texts.digit groupRule).run s.random = .ok destGroup random ∧
          GivesItems s destGroup level (Converter.toInteger texts.digit quantity.toList)
  | .vip => ∃ groupRule levelOffset quantity,
      params.refreshParams = [groupRule, levelOffset, quantity] ∧
        Readable texts.digit s.random.caches groupRule
  | .sequence => params.refreshParams ≠ [] ∧
      HasNext texts s.extraVO s.random.rng params.refreshParams

/-- **When a rule throws a code.** -/
def Refuses (texts : Texts) (params : Parameters) (s : RefreshState) : ShopRefreshRule → Prop
  | .fix => params.refreshParams = []
  | .weight => params.refreshParams.length ≠ 2
  | .guildLevel => ∃ level, params.guildLevel = some level ∧
      (params.refreshParams.length ≠ 2 ∨
        ∃ groupRule quantity destGroup random, params.refreshParams = [groupRule, quantity] ∧
          (randomString texts.digit groupRule).run s.random = .ok destGroup random ∧
            GivesNone s destGroup level)
  | .vip => params.refreshParams.length ≠ 3
  | .sequence => params.refreshParams = []

section Rules

variable {texts : Texts} {params : Parameters} {s : RefreshState}

lemma run_onRandom_eq_ok {α : Type} {x : EStateM Thrown RandomState α} {a : α}
    {s' : RefreshState} : (onRandom x).run s = .ok a s' ↔
      ∃ random, x.run s.random = .ok a random ∧ s' = { s with random := random } := by
  rw [onRandom, EStateM.run_zoom]
  cases x.run s.random with
  | ok b random => simp [eq_comm]
  | error e random => simp

/-- A group that is drawn, and nothing done with it. -/
lemma returns_onRandom_bind {groupRule : String} {results : List ShopItemVO} :
    Returns (onRandom (randomString texts.digit groupRule) >>= fun _ => pure results) s ↔
      Readable texts.digit s.random.caches groupRule := by
  have hdraw : Returns (onRandom (randomString texts.digit groupRule)) s ↔
      Readable texts.digit s.random.caches groupRule :=
    EStateM.returns_zoom.trans returns_randomString_iff
  rw [← hdraw, EStateM.returns_bind]
  constructor
  · rintro ⟨a, s', hrun, -⟩
    exact ⟨a, s', hrun⟩
  · rintro ⟨a, s', hrun⟩
    exact ⟨a, s', hrun, EStateM.returns_pure results⟩

lemma onlyThrows_onRandom (groupRule : String) :
    OnlyThrows Unchecked (onRandom (randomString texts.digit groupRule)) :=
  (onlyThrows_randomString _ _).zoom _ _

lemma not_throws_onRandom_bind {groupRule : String} {results : List ShopItemVO} :
    ¬Throws IsLogic (onRandom (randomString texts.digit groupRule) >>= fun _ => pure results) s :=
  not_throws_isLogic (.bind (onlyThrows_onRandom groupRule) fun _ => .pure _)

lemma returns_refreshGuildLevel_iff :
    Returns (refreshGuildLevel texts params) s ↔ Refreshable texts params s .guildLevel := by
  unfold refreshGuildLevel Refreshable
  cases params.guildLevel with
  | none => exact iff_of_true (EStateM.returns_pure []) fun level h => by cases h
  | some level =>
    simp only [Option.some.injEq, forall_eq']
    rw [EStateM.returns_ofExcept_bind]
    constructor
    · rintro ⟨⟨groupRule, quantity⟩, hparams, hrest⟩
      obtain ⟨destGroup, s', hdraw, hgroup⟩ := EStateM.returns_bind.mp hrest
      obtain ⟨random, hrandom, rfl⟩ := run_onRandom_eq_ok.mp hdraw
      have hgives := returns_refreshGroup_iff.mp hgroup
      exact ⟨groupRule, quantity, destGroup, random, twoParams_eq_ok_iff.mp hparams, hrandom,
        hgives⟩
    · rintro ⟨groupRule, quantity, destGroup, random, hparams, hdraw, hgives⟩
      refine ⟨_, twoParams_eq_ok_iff.mpr hparams, EStateM.returns_bind.mpr ?_⟩
      exact ⟨destGroup, _, run_onRandom_eq_ok.mpr ⟨random, hdraw, rfl⟩,
        returns_refreshGroup_iff.mpr hgives⟩

lemma throws_refreshGuildLevel_iff :
    Throws IsLogic (refreshGuildLevel texts params) s ↔ Refuses texts params s .guildLevel := by
  unfold refreshGuildLevel Refuses
  cases params.guildLevel with
  | none =>
    refine iff_of_false (EStateM.not_throws_pure []) ?_
    rintro ⟨level, h, -⟩
    cases h
  | some level =>
    simp only [Option.some.injEq, exists_eq_left']
    rw [EStateM.throws_ofExcept_bind, twoParams_eq_error_iff]
    refine or_congr_right ?_
    have hdraws : ∀ groupRule, ¬Throws IsLogic (onRandom (randomString texts.digit groupRule)) s :=
      fun groupRule => not_throws_isLogic (onlyThrows_onRandom groupRule)
    constructor
    · rintro ⟨⟨groupRule, quantity⟩, hparams, hrest⟩
      rw [EStateM.throws_bind, or_iff_right (hdraws groupRule)] at hrest
      obtain ⟨destGroup, s', hdraw, hgroup⟩ := hrest
      obtain ⟨random, hrandom, rfl⟩ := run_onRandom_eq_ok.mp hdraw
      have hnone := throws_refreshGroup_iff.mp hgroup
      exact ⟨groupRule, quantity, destGroup, random, twoParams_eq_ok_iff.mp hparams, hrandom, hnone⟩
    · rintro ⟨groupRule, quantity, destGroup, random, hparams, hdraw, hnone⟩
      refine ⟨_, twoParams_eq_ok_iff.mpr hparams, EStateM.throws_bind.mpr (.inr ?_)⟩
      exact ⟨destGroup, _, run_onRandom_eq_ok.mpr ⟨random, hdraw, rfl⟩,
        throws_refreshGroup_iff.mpr hnone⟩

/-- **A rule returns** just if it is refreshable. -/
theorem returns_refresh_iff (rule : ShopRefreshRule) :
    Returns (rule.refresh texts params) s ↔ Refreshable texts params s rule := by
  cases rule with
  | fix => exact returns_throwIfTrue_bind.trans (and_iff_left (EStateM.returns_pure []))
  | weight =>
    refine EStateM.returns_ofExcept_bind.trans ?_
    constructor
    · rintro ⟨⟨groupRule, quantity⟩, hparams, hrest⟩
      exact ⟨groupRule, quantity, twoParams_eq_ok_iff.mp hparams, returns_onRandom_bind.mp hrest⟩
    · rintro ⟨groupRule, quantity, hparams, hreadable⟩
      exact ⟨_, twoParams_eq_ok_iff.mpr hparams, returns_onRandom_bind.mpr hreadable⟩
  | guildLevel => exact returns_refreshGuildLevel_iff
  | vip =>
    refine EStateM.returns_ofExcept_bind.trans ?_
    constructor
    · rintro ⟨⟨groupRule, levelOffset, quantity⟩, hparams, hrest⟩
      exact ⟨groupRule, levelOffset, quantity, threeParams_eq_ok_iff.mp hparams,
        returns_onRandom_bind.mp hrest⟩
    · rintro ⟨groupRule, levelOffset, quantity, hparams, hreadable⟩
      exact ⟨_, threeParams_eq_ok_iff.mpr hparams, returns_onRandom_bind.mpr hreadable⟩
  | sequence => exact returns_refreshSequence_iff

/-- **A rule throws a code** just if it refuses. -/
theorem throws_refresh_iff (rule : ShopRefreshRule) :
    Throws IsLogic (rule.refresh texts params) s ↔ Refuses texts params s rule := by
  cases rule with
  | fix => exact throws_throwIfTrue_bind.trans (or_iff_left (EStateM.not_throws_pure []))
  | weight =>
    refine EStateM.throws_ofExcept_bind.trans (Iff.trans (or_iff_left ?_) twoParams_eq_error_iff)
    rintro ⟨a, -, hthrows⟩
    exact not_throws_onRandom_bind hthrows
  | guildLevel => exact throws_refreshGuildLevel_iff
  | vip =>
    refine EStateM.throws_ofExcept_bind.trans (Iff.trans (or_iff_left ?_) threeParams_eq_error_iff)
    rintro ⟨a, -, hthrows⟩
    exact not_throws_onRandom_bind hthrows
  | sequence => exact throws_refreshSequence_iff

end Rules

end SrgpGame.ShopRefresh
