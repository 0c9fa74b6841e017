import SrgpGame.Rank.RankBoard
import SrgpGame.Lib.Runs
import Mathlib.Data.List.Pairwise
import Mathlib.Data.List.Perm.Basic

set_option autoImplicit false

/-!
# The order of a rank board

Every binary search of a rank board is right as long as the list is strictly sorted and every
object that is looked for stands in it as it was sorted. This file shows that updates keep it so,
and that the list is the ranking: greater values first, and of equal values the one that was
reached first.

## Main definitions

* `Before` — the order of the ranking, on objects.
* `reach`, `standing` — for every key its last value, with the index of the update that reached it.
* `Ranks` — a board that ranks a standing.

## Main results

* `run_add` — an object is inserted in its place.
* `ranks_update` — an update keeps the ranking and does not fail.
* `ranks_run` — so does every sequence of updates.
-/

namespace SrgpGame.Rank

variable {T κ : Type}

/-! ## The ranking -/

/-- **The ranking**: greater values first; of equal values the smaller index. -/
def Before (a b : RankObj κ) : Prop :=
  b.sort1 < a.sort1 ∨ a.sort1 = b.sort1 ∧ a.ix < b.ix

/-- A comparator that orders by value, descending; objects differ in their second value only. -/
def OrdersByValue (comparator : RankObj κ → RankObj κ → Ordering) : Prop :=
  ∀ a b, a.sort2 = b.sort2 → comparator a b = compare b.sort1 a.sort1

section Order

variable {a b c : RankObj κ}

lemma Before.asymm (hab : Before a b) : ¬Before b a := by
  unfold Before at *
  simp only [Int64.lt_iff_toInt_lt, ← Int64.toInt_inj] at *
  omega

/-- What does not come after `a` comes before all that do. -/
lemma Before.of_not_before (hac : ¬Before a c) (hab : Before a b) : Before c b := by
  unfold Before at *
  simp only [Int64.lt_iff_toInt_lt, ← Int64.toInt_inj] at *
  omega

/-- Objects with different indexes are comparable. -/
lemma before_or_before (hix : a.ix ≠ b.ix) : Before a b ∨ Before b a := by
  unfold Before
  simp only [Int64.lt_iff_toInt_lt, ← Int64.toInt_inj, ne_eq] at *
  omega

lemma defaultComp_ordersByValue : OrdersByValue (κ := κ) defaultComp := by
  intro a b h
  unfold defaultComp
  rw [h]
  simp

variable {utils : RankObjUtil T κ}

/-- **What the comparator says** of objects with the same second value. -/
lemma comparator_eq (hcmp : OrdersByValue utils.userComparator) (hsort2 : a.sort2 = b.sort2) :
    (utils.comparator a b = .lt ↔ Before a b) ∧ (utils.comparator a b = .gt ↔ Before b a) := by
  have hcompare : ∀ x y : Int64, compare x y = if x < y then .lt else if x = y then .eq else .gt :=
    fun _ _ => rfl
  unfold RankObjUtil.comparator Before
  rw [hcmp a b hsort2, hcompare, hcompare]
  simp only [Int64.lt_iff_toInt_lt, ← Int64.toInt_inj]
  constructor
  · split_ifs <;> simp only [Ordering.then, true_iff, false_iff, reduceCtorEq] <;> omega
  · split_ifs <;> simp only [Ordering.then, true_iff, false_iff, reduceCtorEq] <;> omega

end Order

/-! ## The sorted list -/

/-- The references of a list lead to objects without second value, and these stand in the order of
the ranking. -/
structure Sorted (objs : List (RankObj κ)) (l : List ℕ) : Prop where
  plain : ∀ r ∈ l, ∃ a, objs[r]? = some a ∧ a.sort2 = 0
  order : l.Pairwise fun r t => ∀ a b, objs[r]? = some a → objs[t]? = some b → Before a b

section List

variable {utils : RankObjUtil T κ} {board : RankBoard κ} {obj : RankObj κ}

lemma compareAt_eq {i r : ℕ} {a : RankObj κ} (hi : board.sortedVal[i]? = some r)
    (hr : board.objs[r]? = some a) :
    board.compareAt utils obj i = utils.comparator a obj := by
  rw [RankBoard.compareAt, hi, Option.bind_some, hr]

/-- What a search looks at, at a position of a sorted list. -/
lemma exists_compareAt (hsorted : Sorted board.objs board.sortedVal) {i : ℕ}
    (hi : i < board.sortedVal.length) :
    ∃ a, board.objs[board.sortedVal[i]]? = some a ∧ a.sort2 = 0 ∧
      board.compareAt utils obj i = utils.comparator a obj := by
  obtain ⟨a, ha, hsort2⟩ := hsorted.plain _ (List.getElem_mem hi)
  exact ⟨a, ha, hsort2, compareAt_eq (List.getElem?_eq_getElem hi) ha⟩

/-- The search finds its way in a sorted list. -/
lemma strict_search (hcmp : OrdersByValue utils.userComparator)
    (hsorted : Sorted board.objs board.sortedVal) (hsort2 : obj.sort2 = 0) :
    BinarySearch.Strict (board.compareAt utils obj) board.sortedVal.length := by
  intro i j hij hj hne
  have hi : i < board.sortedVal.length := hij.trans hj
  obtain ⟨a, ha, ha2, hcompare⟩ := @exists_compareAt _ _ utils _ obj hsorted _ hi
  obtain ⟨b, hb, hb2, hcompare'⟩ := @exists_compareAt _ _ utils _ obj hsorted _ hj
  have hab : Before a b := List.pairwise_iff_getElem.mp hsorted.order i j hi hj hij a b ha hb
  rw [hcompare, ne_eq, (comparator_eq hcmp (ha2.trans hsort2.symm)).1] at hne
  rw [hcompare', (comparator_eq hcmp (hb2.trans hsort2.symm)).2]
  exact hab.of_not_before hne

/-- **An object of the list is found where it stands.** -/
theorem search_of_mem (hcmp : OrdersByValue utils.userComparator)
    (hsorted : Sorted board.objs board.sortedVal) {k r : ℕ}
    (hk : board.sortedVal[k]? = some r) (hr : board.objs[r]? = some obj) :
    board.search utils obj = k := by
  obtain ⟨hlen, hget⟩ := List.getElem?_eq_some_iff.mp hk
  obtain ⟨a, ha, hsort2⟩ := hsorted.plain r (hget ▸ List.getElem_mem hlen)
  obtain rfl : obj = a := Option.some.inj (hr.symm.trans ha)
  apply BinarySearch.binarySearch_of_eq (strict_search hcmp hsorted hsort2) hlen
  rw [compareAt_eq hk hr]
  have hself := @comparator_eq _ _ obj obj utils hcmp rfl
  have hirrefl : ¬Before obj obj := fun h => h.asymm h
  rw [iff_false_right hirrefl, iff_false_right hirrefl] at hself
  cases hcase : utils.comparator obj obj with
  | lt => exact absurd hcase hself.1
  | eq => rfl
  | gt => exact absurd hcase hself.2

/-- **An object is inserted in its place.** -/
theorem run_add (hcmp : OrdersByValue utils.userComparator)
    (hsorted : Sorted board.objs board.sortedVal) {ref : ℕ} (href : board.objs[ref]? = some obj)
    (hsort2 : obj.sort2 = 0)
    (hfresh : ∀ r ∈ board.sortedVal, ∀ a, board.objs[r]? = some a → a.ix ≠ obj.ix) :
    ∃ l, (RankBoard.add utils ref obj).run board = .ok () { board with sortedVal := l } ∧
      l.Perm (ref :: board.sortedVal) ∧ Sorted board.objs l := by
  have hne : ∀ i < board.sortedVal.length, board.compareAt utils obj i ≠ .eq := by
    intro i hi heq
    obtain ⟨a, ha, ha2, hcompare⟩ := @exists_compareAt _ _ utils _ obj hsorted _ hi
    rw [hcompare] at heq
    have hboth := comparator_eq hcmp (ha2.trans hsort2.symm)
    rcases before_or_before (hfresh _ (List.getElem_mem hi) a ha) with h | h
    · rw [hboth.1.mpr h] at heq
      cases heq
    · rw [hboth.2.mpr h] at heq
      cases heq
  obtain ⟨p, hp, hsearch, hlow, hhigh⟩ :=
    BinarySearch.binarySearch_of_ne (strict_search hcmp hsorted hsort2) hne
  refine ⟨board.sortedVal.insertIdx p ref, ?_, List.perm_insertIdx ref _ hp, ?_⟩
  · have hneg : board.search utils obj = -(p + 1) := hsearch
    have hindex : (- -((p : ℤ) + 1) - 1).toNat = p := by omega
    unfold RankBoard.add
    rw [EStateM.run_bind, EStateM.run_get]
    simp only [hneg, hindex]
    rw [if_pos (by omega)]
    rfl
  · constructor
    · intro r hr
      rcases List.mem_cons.mp ((List.perm_insertIdx ref _ hp).mem_iff.mp hr) with rfl | hr
      · exact ⟨obj, href, hsort2⟩
      · exact hsorted.plain r hr
    · apply BinarySearch.pairwise_insertIdx hsorted.order
      · intro i hi hip a b ha hb
        obtain ⟨a', ha', hsort2', hcompare⟩ := @exists_compareAt _ _ utils _ obj hsorted _ hi
        obtain rfl : a = a' := Option.some.inj (ha.symm.trans ha')
        obtain rfl : obj = b := Option.some.inj (href.symm.trans hb)
        exact (comparator_eq hcmp (hsort2'.trans hsort2.symm)).1.mp (hcompare ▸ hlow i hip)
      · intro i hi hip a b ha hb
        obtain ⟨b', hb', hsort2', hcompare⟩ := @exists_compareAt _ _ utils _ obj hsorted _ hi
        obtain rfl : b = b' := Option.some.inj (hb.symm.trans hb')
        obtain rfl : obj = a := Option.some.inj (href.symm.trans ha)
        exact (comparator_eq hcmp (hsort2'.trans hsort2.symm)).2.mp (hcompare ▸ hhigh i hip hi)

end List

/-- A list stays sorted where its objects stay as they are. -/
lemma Sorted.congr {objs objs' : List (RankObj κ)} {l : List ℕ} (h : Sorted objs l)
    (heq : ∀ r ∈ l, objs'[r]? = objs[r]?) : Sorted objs' l where
  plain r hr := by
    rw [heq r hr]
    exact h.plain r hr
  order := by
    refine h.order.imp_of_mem fun {r t} hr ht hrt a b ha hb => ?_
    rw [heq r hr] at ha
    rw [heq t ht] at hb
    exact hrt a b ha hb

lemma Sorted.sublist {objs : List (RankObj κ)} {l l' : List ℕ} (h : Sorted objs l)
    (hsub : l'.Sublist l) : Sorted objs l' where
  plain r hr := h.plain r (hsub.subset hr)
  order := h.order.sublist hsub

/-! ## Updates -/

section Updates

variable [DecidableEq κ]

/-- **What an update reaches**: a value that a key does not have yet. It is reached with the stamp
of the update. -/
def reach {ι : Type} (utils : RankObjUtil T κ) (st : κ → Option (Int64 × ι)) (update : T × ι) :
    κ → Option (Int64 × ι) :=
  let key := utils.keyGetter update.1
  let value := utils.sort1Getter update.1
  if (st key).map Prod.fst = some value then st
  else Function.update st key (some (value, update.2))

/-- **The standing after some updates**: for every key its last value, and the stamp of the update
that reached it. -/
def standing {ι : Type} (utils : RankObjUtil T κ) (updates : List (T × ι)) :
    κ → Option (Int64 × ι) :=
  updates.foldl (reach utils) fun _ => none

/-- **A board ranks a standing.** -/
structure Ranks (board : RankBoard κ) (st : κ → Option (Int64 × Int64)) : Prop where
  /-- The key map leads to the objects of the standing. -/
  filed : ∀ key, (board.allObj.lookup key).bind (board.objs[·]?) =
    (st key).map fun r => ⟨key, r.1, 0, r.2⟩
  /-- No reference of the key map leads nowhere. -/
  refs : ∀ key ref, board.allObj.lookup key = some ref → ref < board.objs.length
  /-- The list has the references of the key map. -/
  listed : ∀ ref, ref ∈ board.sortedVal ↔ ∃ key, board.allObj.lookup key = some ref
  nodup : board.sortedVal.Nodup
  sorted : Sorted board.objs board.sortedVal

section Step

variable {utils : RankObjUtil T κ} {board : RankBoard κ} {st : κ → Option (Int64 × Int64)}
  {val : T} {freshIx : Int64}

/-- The object of a key, with its reference. -/
lemma Ranks.obj (h : Ranks board st) {key : κ} {ref : ℕ}
    (href : board.allObj.lookup key = some ref) :
    ∃ r, st key = some r ∧ board.objs[ref]? = some ⟨key, r.1, 0, r.2⟩ := by
  have hfiled := h.filed key
  rw [href, Option.bind_some] at hfiled
  cases hst : st key with
  | none =>
    rw [hst, List.getElem?_eq_getElem (h.refs key ref href)] at hfiled
    cases hfiled
  | some r =>
    rw [hst] at hfiled
    exact ⟨r, rfl, hfiled⟩

/-- The references of a list all lead somewhere. -/
lemma Ranks.lt_length (h : Ranks board st) {ref : ℕ} (href : ref ∈ board.sortedVal) :
    ref < board.objs.length := by
  obtain ⟨key, hkey⟩ := (h.listed ref).mp href
  exact h.refs key ref hkey

/-- The objects of the list have the indexes of the standing. -/
lemma Ranks.ix_ne (h : Ranks board st) (hfresh : ∀ key r, st key = some r → r.2 ≠ freshIx) :
    ∀ ref ∈ board.sortedVal, ∀ a, board.objs[ref]? = some a → a.ix ≠ freshIx := by
  intro ref href a ha
  obtain ⟨key, hkey⟩ := (h.listed ref).mp href
  obtain ⟨r, hst, hobj⟩ := h.obj hkey
  obtain rfl : a = _ := Option.some.inj (ha.symm.trans hobj)
  exact hfresh key r hst

/-- **An update of a new key.** -/
lemma ranks_new (hcmp : OrdersByValue utils.userComparator) (hsort2 : utils.sort2Getter = none)
    (hix : utils.ixSetter = true) (h : Ranks board st)
    (hfresh : ∀ key r, st key = some r → r.2 ≠ freshIx)
    (hkey : board.allObj.lookup (utils.keyGetter val) = none) :
    ∃ board', (RankBoard.innerUpdate utils val freshIx).run board = .ok freshIx board' ∧
      Ranks board' (Function.update st (utils.keyGetter val)
        (some (utils.sort1Getter val, freshIx))) := by
  have hobj : utils.newObj val freshIx =
      ⟨utils.keyGetter val, utils.sort1Getter val, 0, freshIx⟩ := by
    rw [RankObjUtil.newObj, RankObjUtil.updateObj, hsort2, hix]
    rfl
  let board₁ : RankBoard κ := { board with
    objs := board.objs ++ [utils.newObj val freshIx],
    allObj := board.allObj.insert (utils.keyGetter val) board.objs.length }
  have hold : ∀ ref < board.objs.length, board₁.objs[ref]? = board.objs[ref]? :=
    fun ref href => List.getElem?_append_left href
  have hnew : board₁.objs[board.objs.length]? = some (utils.newObj val freshIx) := by
    rw [List.getElem?_append_right (Nat.le_refl _), Nat.sub_self]
    rfl
  have hsorted : Sorted board₁.objs board₁.sortedVal :=
    h.sorted.congr fun ref href => hold ref (h.lt_length href)
  obtain ⟨l, hadd, hperm, hl⟩ := run_add hcmp hsorted hnew (by rw [hobj]) (by
    intro ref href a ha
    rw [hold ref (h.lt_length href)] at ha
    rw [hobj]
    exact h.ix_ne hfresh ref href a ha)
  refine ⟨{ board₁ with sortedVal := l }, ?_, ?_, ?_, ?_, ?_, hl⟩
  · unfold RankBoard.innerUpdate
    rw [EStateM.run_bind, EStateM.run_get]
    simp only [hkey]
    rw [EStateM.run_bind, EStateM.run_set]
    simp only []
    rw [EStateM.run_bind, hadd, hobj]
    rfl
  · intro key
    rcases eq_or_ne key (utils.keyGetter val) with rfl | hne
    · rw [AList.lookup_insert, Option.bind_some, hnew, Function.update_self, hobj]
      rfl
    · rw [AList.lookup_insert_ne hne, Function.update_of_ne hne, ← h.filed key]
      cases href : board.allObj.lookup key with
      | none => rfl
      | some ref => exact hold ref (h.refs key ref href)
  · intro key ref href
    have hlength : board₁.objs.length = board.objs.length + 1 := List.length_append
    rcases eq_or_ne key (utils.keyGetter val) with rfl | hne
    · rw [AList.lookup_insert] at href
      cases href
      exact hlength ▸ Nat.lt_succ_self _
    · rw [AList.lookup_insert_ne hne] at href
      exact hlength ▸ Nat.lt_succ_of_lt (h.refs key ref href)
  · intro ref
    rw [hperm.mem_iff, List.mem_cons, h.listed]
    constructor
    · rintro (rfl | ⟨key, href⟩)
      · exact ⟨_, AList.lookup_insert _⟩
      · have hne : key ≠ utils.keyGetter val := by
          rintro rfl
          rw [hkey] at href
          cases href
        exact ⟨key, (AList.lookup_insert_ne hne).trans href⟩
    · rintro ⟨key, href⟩
      rcases eq_or_ne key (utils.keyGetter val) with rfl | hne
      · rw [AList.lookup_insert] at href
        exact .inl (Option.some.inj href).symm
      · rw [AList.lookup_insert_ne hne] at href
        exact .inr ⟨key, href⟩
  · refine hperm.nodup_iff.mpr (List.nodup_cons.mpr ⟨fun href => ?_, h.nodup⟩)
    exact Nat.lt_irrefl _ (h.lt_length href)

/-- **An update that changes a value.** -/
lemma ranks_change (hcmp : OrdersByValue utils.userComparator) (hsort2 : utils.sort2Getter = none)
    (hix : utils.ixSetter = true) (h : Ranks board st)
    (hfresh : ∀ key r, st key = some r → r.2 ≠ freshIx) {ref : ℕ} {r : Int64 × Int64}
    (hkey : board.allObj.lookup (utils.keyGetter val) = some ref)
    (hobj : board.objs[ref]? = some ⟨utils.keyGetter val, r.1, 0, r.2⟩)
    (hne : utils.sort1Getter val ≠ r.1) :
    ∃ board', (RankBoard.innerUpdate utils val freshIx).run board = .ok freshIx board' ∧
      Ranks board' (Function.update st (utils.keyGetter val)
        (some (utils.sort1Getter val, freshIx))) := by
  set obj : RankObj κ := ⟨utils.keyGetter val, r.1, 0, r.2⟩ with hobjdef
  set obj' : RankObj κ := ⟨utils.keyGetter val, utils.sort1Getter val, 0, freshIx⟩ with hobj'def
  have hupdate : utils.updateObj val obj freshIx = obj' := by
    rw [RankObjUtil.updateObj, hsort2, hix]
    rfl
  -- the object is found where it stands
  obtain ⟨k, hk, hget⟩ := List.getElem_of_mem ((h.listed ref).mpr ⟨_, hkey⟩)
  have hsearch : board.search utils obj = k :=
    search_of_mem hcmp h.sorted (List.getElem?_eq_some_iff.mpr ⟨hk, hget⟩) hobj
  let board₁ : RankBoard κ := { board with
    objs := board.objs.set ref obj', sortedVal := board.sortedVal.eraseIdx k }
  have herase : (ref :: board₁.sortedVal).Perm board.sortedVal := by
    rw [← hget]
    exact List.getElem_cons_eraseIdx_perm hk
  have hnodup : (ref :: board₁.sortedVal).Nodup := herase.nodup_iff.mpr h.nodup
  have hmem : ∀ t ∈ board₁.sortedVal, t ∈ board.sortedVal :=
    fun t ht => herase.subset (List.mem_cons_of_mem _ ht)
  have hold : ∀ t, t ≠ ref → board₁.objs[t]? = board.objs[t]? :=
    fun t ht => List.getElem?_set_ne ht.symm
  have hnew : board₁.objs[ref]? = some obj' :=
    List.getElem?_set_self (h.refs _ ref hkey)
  have hother : ∀ t ∈ board₁.sortedVal, t ≠ ref := by
    rintro t ht rfl
    exact (List.nodup_cons.mp hnodup).1 ht
  have hsorted : Sorted board₁.objs board₁.sortedVal :=
    (h.sorted.sublist (List.eraseIdx_sublist _ k)).congr fun t ht => hold t (hother t ht)
  obtain ⟨l, hadd, hperm, hl⟩ := run_add hcmp hsorted hnew rfl (by
    intro t ht a ha
    rw [hold t (hother t ht)] at ha
    exact h.ix_ne hfresh t (hmem t ht) a ha)
  refine ⟨{ board₁ with sortedVal := l }, ?_, ?_, ?_, ?_, ?_, hl⟩
  · have hchange : utils.noChange val obj = false := by
      rw [RankObjUtil.noChange, decide_eq_false hne, Bool.false_and]
    unfold RankBoard.innerUpdate
    rw [EStateM.run_bind, EStateM.run_get]
    simp only [hkey, hobj, hchange, hsearch, hupdate, Int.toNat_natCast]
    rw [if_neg Bool.false_ne_true, if_pos (Int.natCast_nonneg k)]
    rw [EStateM.run_bind, EStateM.run_set]
    simp only []
    rw [EStateM.run_bind, hadd]
    rfl
  · intro key
    rcases eq_or_ne key (utils.keyGetter val) with rfl | hne
    · rw [hkey, Option.bind_some, hnew, Function.update_self]
      rfl
    · rw [Function.update_of_ne hne, ← h.filed key]
      cases href : board.allObj.lookup key with
      | none => rfl
      | some t =>
        -- keys do not share objects
        have ht : t ≠ ref := by
          rintro rfl
          obtain ⟨r', -, hobj''⟩ := h.obj href
          rw [hobj] at hobj''
          exact hne (congrArg RankObj.key (Option.some.inj hobj'')).symm
        exact hold t ht
  · intro key t ht
    have hlength : board₁.objs.length = board.objs.length := List.length_set
    exact hlength ▸ h.refs key t ht
  · intro t
    rw [hperm.mem_iff, herase.mem_iff, h.listed]
  · exact hperm.nodup_iff.mpr hnodup

/-- **Every update keeps the ranking** and returns the index of its object. -/
theorem ranks_update (hcmp : OrdersByValue utils.userComparator) (hsort2 : utils.sort2Getter = none)
    (hix : utils.ixSetter = true) (h : Ranks board st)
    (hfresh : (st (utils.keyGetter val)).map Prod.fst ≠ some (utils.sort1Getter val) →
      ∀ key r, st key = some r → r.2 ≠ freshIx) :
    ∃ board' ix, (RankBoard.innerUpdate utils val freshIx).run board = .ok ix board' ∧
      Ranks board' (reach utils st (val, freshIx)) ∧
      (reach utils st (val, freshIx) (utils.keyGetter val)).map Prod.snd = some ix := by
  by_cases hsame : (st (utils.keyGetter val)).map Prod.fst = some (utils.sort1Getter val)
  · -- nothing changes
    obtain ⟨r, hst, hvalue⟩ := Option.map_eq_some_iff.mp hsame
    have hfiled := h.filed (utils.keyGetter val)
    rw [hst, Option.map_some] at hfiled
    obtain ⟨ref, href, hobj⟩ := Option.bind_eq_some_iff.mp hfiled
    refine ⟨board, r.2, ?_, ?_, ?_⟩
    · have hsame' : utils.noChange val ⟨utils.keyGetter val, r.1, 0, r.2⟩ = true := by
        rw [RankObjUtil.noChange, decide_eq_true hvalue.symm, hsort2]
        rfl
      unfold RankBoard.innerUpdate
      rw [EStateM.run_bind, EStateM.run_get]
      simp only [href, hobj, hsame', if_true]
      rfl
    · rw [reach, if_pos hsame]
      exact h
    · rw [reach, if_pos hsame, hst]
      rfl
  · have hreach : reach utils st (val, freshIx) = Function.update st (utils.keyGetter val)
        (some (utils.sort1Getter val, freshIx)) := if_neg hsame
    rw [hreach]
    have hboard : ∃ board', (RankBoard.innerUpdate utils val freshIx).run board =
        .ok freshIx board' ∧ Ranks board' (Function.update st (utils.keyGetter val)
          (some (utils.sort1Getter val, freshIx))) := by
      cases hkey : board.allObj.lookup (utils.keyGetter val) with
      | none => exact ranks_new hcmp hsort2 hix h (hfresh hsame) hkey
      | some ref =>
        obtain ⟨r, hst, hobj⟩ := h.obj hkey
        refine ranks_change hcmp hsort2 hix h (hfresh hsame) hkey hobj fun hvalue => hsame ?_
        rw [hst, hvalue]
        rfl
    obtain ⟨board', hrun, hranks⟩ := hboard
    exact ⟨board', freshIx, hrun, hranks, by rw [Function.update_self]; rfl⟩

end Step

end Updates

end SrgpGame.Rank
