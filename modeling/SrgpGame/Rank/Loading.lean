import SrgpGame.Rank.Windows

set_option autoImplicit false

/-!
# Loading a rank board

When the server starts it loads the saved values into the boards. Loaded objects have no index, so
those with equal values compare equal, and the list takes only the first of them: the second is put
into the key map before the list refuses it.

## Main definitions

* `Loads`, `LoadsOrRejects` — what loading a value should do.
* `Admits` — the list has the object of the key, or it has no object that compares equal.

## Main results

* `ordered_run` — every board is ordered, whatever was loaded and updated and whatever failed.
* `load_iff` — a load does what it should just if the list admits the value; a set of values loads
  just if no two compare equal, and then into the same list in every order.
-/

namespace SrgpGame.Rank

variable {T κ : Type} [DecidableEq κ]

/-! ## What a load should do -/

/-- The object of a value is on a board that is still ordered. -/
structure IsOn (utils : RankObjUtil T κ) (board : RankBoard κ) (val : T) (board' : RankBoard κ) :
    Prop where
  ordered : Ordered utils board'
  both : ∃ ref, board'.allObj.lookup (utils.keyGetter val) = some ref ∧ ref ∈ board'.sortedVal ∧
    (board.allObj.lookup (utils.keyGetter val) = none →
      board'.objs[ref]? = some (utils.loadObj val))

/-- **A load puts the object of a value on the board.** -/
def Loads (utils : RankObjUtil T κ) (board : RankBoard κ) (val : T) : Prop :=
  ∃ board', (RankBoard.load utils val).run board = .ok () board' ∧ IsOn utils board val board'

/-- **What a load should do**: it puts the object on the board, or throws and leaves the key map and
the list as they were. -/
def LoadsOrRejects (utils : RankObjUtil T κ) (board : RankBoard κ) (val : T) : Prop :=
  Loads utils board val ∨
    ∃ fault board', (RankBoard.load utils val).run board = .error fault board' ∧
      board'.allObj = board.allObj ∧ board'.sortedVal = board.sortedVal

/-- The list has the object of the key; or the key is new, and no object compares equal. -/
def Admits (utils : RankObjUtil T κ) (board : RankBoard κ) (val : T) : Prop :=
  match board.allObj.lookup (utils.keyGetter val) with
  | some ref => ref ∈ board.sortedVal
  | none => ∀ a ∈ board.sortedObjs, utils.comparator a (utils.loadObj val) ≠ .eq

/-- The board after a load. -/
def loadNext (utils : RankObjUtil T κ) (board : RankBoard κ) (val : T) : RankBoard κ :=
  (RankBoard.load utils val).finalState board

/-! ## Adding an object -/

section Add

variable {utils : RankObjUtil T κ} {board : RankBoard κ} {ref : ℕ} {obj : RankObj κ}

/-- References in use lead to objects. -/
lemma Ordered.lt_length (h : Ordered utils board) {key : κ}
    (href : board.allObj.lookup key = some ref) : ref < board.objs.length := by
  obtain ⟨obj, hobj, -⟩ := h.filed key ref href
  exact (List.getElem?_eq_some_iff.mp hobj).1

/-- The board with a new object in the key map. -/
def putNew (board : RankBoard κ) (obj : RankObj κ) : RankBoard κ :=
  { board with
    objs := board.objs ++ [obj], allObj := board.allObj.insert obj.key board.objs.length }

lemma getElem?_putNew (href : ref < board.objs.length) :
    (putNew board obj).objs[ref]? = board.objs[ref]? :=
  List.getElem?_append_left href

lemma getElem?_putNew_new : (putNew board obj).objs[board.objs.length]? = some obj := by
  unfold putNew
  rw [List.getElem?_append_right (Nat.le_refl _), Nat.sub_self]
  rfl

lemma lookup_putNew_new : (putNew board obj).allObj.lookup obj.key = some board.objs.length :=
  AList.lookup_insert _

/-- The objects of the list are the same. -/
lemma Ordered.sortedObjs_putNew (h : Ordered utils board) :
    (putNew board obj).sortedObjs = board.sortedObjs := by
  refine List.filterMap_congr fun ref href => ?_
  obtain ⟨key, hkey⟩ := h.listed ref href
  exact getElem?_putNew (h.lt_length hkey)

/-- **A new object in the key map alone** leaves a board ordered. -/
lemma Ordered.after_putNew (h : Ordered utils board) (hkey : board.allObj.lookup obj.key = none) :
    Ordered utils (putNew board obj) where
  filed key ref href := by
    change (board.allObj.insert _ _).lookup key = some ref at href
    rw [AList.lookup_insert_ite] at href
    split_ifs at href with heq
    · cases href
      exact ⟨_, getElem?_putNew_new, heq.symm⟩
    · rw [getElem?_putNew (h.lt_length href)]
      exact h.filed key ref href
  listed ref href := by
    obtain ⟨key, hlookup⟩ := h.listed ref href
    refine ⟨key, ?_⟩
    have hne : key ≠ obj.key := by
      rintro rfl
      rw [hkey] at hlookup
      cases hlookup
    exact (AList.lookup_insert_ne hne).trans hlookup
  sorted := by
    refine h.sorted.imp_of_mem fun {r t} hr ht hrt a b ha hb => ?_
    obtain ⟨key, hlookup⟩ := h.listed r hr
    obtain ⟨key', hlookup'⟩ := h.listed t ht
    rw [getElem?_putNew (h.lt_length hlookup)] at ha
    rw [getElem?_putNew (h.lt_length hlookup')] at hb
    exact hrt a b ha hb

variable [Std.TransCmp utils.userComparator]

/-- **An object is added** to the list that has none that compares equal. -/
lemma Ordered.add_of_ne (h : Ordered utils board) (hobj : board.objs[ref]? = some obj)
    (hkey : board.allObj.lookup obj.key = some ref)
    (hne : ∀ a ∈ board.sortedObjs, utils.comparator a obj ≠ .eq) :
    ∃ l, (RankBoard.add utils ref obj).run board = .ok () { board with sortedVal := l } ∧
      l.Perm (ref :: board.sortedVal) ∧ Ordered utils { board with sortedVal := l } := by
  obtain ⟨p, hp, hsearch, hlow, hhigh⟩ := h.exists_search hne
  have hperm : (board.sortedVal.insertIdx p ref).Perm (ref :: board.sortedVal) :=
    List.perm_insertIdx _ _ hp
  refine ⟨board.sortedVal.insertIdx p ref, ?_, hperm, h.filed, ?_, ?_⟩
  · have hindex : (- -((p : ℤ) + 1) - 1).toNat = p := by omega
    unfold RankBoard.add
    rw [EStateM.run_bind, EStateM.run_get]
    simp only [hsearch, hindex]
    rw [if_pos (by omega)]
    rfl
  · intro r hr
    rcases List.mem_cons.mp (hperm.mem_iff.mp hr) with rfl | hr
    · exact ⟨_, hkey⟩
    · exact h.listed r hr
  · apply BinarySearch.pairwise_insertIdx h.sorted
    · intro i hi hip a b ha hb
      rw [hobj] at hb
      cases hb
      exact hlow i hi a hip ha
    · intro i hi hip a b ha hb
      rw [hobj] at ha
      cases ha
      exact hhigh i hi b hip hb

/-- **An object is refused** by a list that has one that compares equal. -/
lemma Ordered.add_of_eq (h : Ordered utils board) {a : RankObj κ} (ha : a ∈ board.sortedObjs)
    (heq : utils.comparator a obj = .eq) :
    (RankBoard.add utils ref obj).run board = .error .duplicated board := by
  obtain ⟨r, hr, hobj⟩ := List.mem_filterMap.mp ha
  obtain ⟨k, hk⟩ := List.mem_iff_getElem?.mp hr
  have hsearch : board.search utils obj = k := by
    apply BinarySearch.binarySearch_of_eq (h.strict obj) (List.getElem?_eq_some_iff.mp hk).1
    rw [compareAt_eq hk hobj]
    exact heq
  unfold RankBoard.add
  rw [EStateM.run_bind, EStateM.run_get]
  simp only [hsearch]
  rw [if_neg (by omega)]
  rfl

/-- A board stays ordered whether the list takes the object or not. -/
lemma Ordered.after_add (h : Ordered utils board) (hobj : board.objs[ref]? = some obj)
    (hkey : board.allObj.lookup obj.key = some ref) :
    Ordered utils ((RankBoard.add utils ref obj).finalState board) := by
  unfold EStateM.finalState
  by_cases hne : ∀ a ∈ board.sortedObjs, utils.comparator a obj ≠ .eq
  · obtain ⟨l, hrun, -, hl⟩ := h.add_of_ne hobj hkey hne
    rw [hrun]
    exact hl
  · push Not at hne
    obtain ⟨a, ha, heq⟩ := hne
    rw [h.add_of_eq ha heq]
    exact h

end Add

/-! ## One load -/

section Load

variable {utils : RankObjUtil T κ} {board : RankBoard κ} {val : T}

/-- What a load does for a new key: the object is in the key map when it is added to the list. -/
lemma run_load_new (hkey : board.allObj.lookup (utils.keyGetter val) = none) :
    (RankBoard.load utils val).run board =
      (RankBoard.add utils board.objs.length (utils.loadObj val)).run
        (putNew board (utils.loadObj val)) := by
  unfold RankBoard.load
  rw [EStateM.run_bind, EStateM.run_get]
  simp only [hkey]
  rw [EStateM.run_bind, EStateM.run_set]
  rfl

lemma run_load_old {ref : ℕ} (hkey : board.allObj.lookup (utils.keyGetter val) = some ref) :
    (RankBoard.load utils val).run board = .ok () board := by
  unfold RankBoard.load
  rw [EStateM.run_bind, EStateM.run_get]
  simp only [hkey]
  rfl

variable [Std.TransCmp utils.userComparator]

/-- **A load that the list admits**, of a new key. -/
lemma Ordered.load_of_ne (h : Ordered utils board)
    (hkey : board.allObj.lookup (utils.keyGetter val) = none)
    (hne : ∀ a ∈ board.sortedObjs, utils.comparator a (utils.loadObj val) ≠ .eq) :
    ∃ board', (RankBoard.load utils val).run board = .ok () board' ∧ IsOn utils board val board' ∧
      board'.allObj = board.allObj.insert (utils.keyGetter val) board.objs.length ∧
      board'.sortedObjs.Perm (utils.loadObj val :: board.sortedObjs) := by
  set obj := utils.loadObj val
  have hnew : Ordered utils (putNew board obj) := h.after_putNew hkey
  obtain ⟨l, hrun, hperm, hl⟩ := hnew.add_of_ne getElem?_putNew_new lookup_putNew_new (by
    rw [h.sortedObjs_putNew]
    exact hne)
  refine ⟨_, (run_load_new hkey).trans hrun, ⟨hl, ?_⟩, rfl, ?_⟩
  · exact ⟨board.objs.length, lookup_putNew_new, hperm.mem_iff.mpr List.mem_cons_self,
      fun _ => getElem?_putNew_new⟩
  · have hobjs := hperm.filterMap ((putNew board obj).objs[·]?)
    rw [List.filterMap_cons, getElem?_putNew_new] at hobjs
    have hsame : (putNew board obj).sortedObjs = board.sortedObjs := h.sortedObjs_putNew
    exact hsame ▸ hobjs

/-- **A load that the list refuses**: the object stays in the key map. -/
lemma Ordered.load_of_eq (h : Ordered utils board)
    (hkey : board.allObj.lookup (utils.keyGetter val) = none) {a : RankObj κ}
    (ha : a ∈ board.sortedObjs) (heq : utils.comparator a (utils.loadObj val) = .eq) :
    (RankBoard.load utils val).run board =
      .error .duplicated (putNew board (utils.loadObj val)) := by
  rw [run_load_new hkey]
  exact (h.after_putNew hkey).add_of_eq (h.sortedObjs_putNew.symm ▸ ha) heq

/-- **A board stays ordered** whether the list takes the object of a load or not. -/
theorem Ordered.load (h : Ordered utils board) (val : T) :
    Ordered utils (loadNext utils board val) := by
  unfold loadNext EStateM.finalState
  cases hkey : board.allObj.lookup (utils.keyGetter val) with
  | some ref =>
    rw [run_load_old hkey]
    exact h
  | none =>
    rw [run_load_new hkey]
    exact (h.after_putNew hkey).after_add getElem?_putNew_new lookup_putNew_new

/-- **A load does what it should just if the list admits the value.** -/
lemma Ordered.loadsOrRejects_iff (h : Ordered utils board) (val : T) :
    LoadsOrRejects utils board val ↔ Admits utils board val := by
  unfold LoadsOrRejects Loads Admits
  cases hkey : board.allObj.lookup (utils.keyGetter val) with
  | some ref =>
    simp only [run_load_old hkey]
    constructor
    · rintro (⟨board', hrun, hon⟩ | ⟨fault, board', hrun, -⟩)
      · cases hrun
        obtain ⟨ref', href', hmem, -⟩ := hon.both
        rw [hkey] at href'
        cases href'
        exact hmem
      · cases hrun
    · intro hmem
      exact .inl ⟨board, rfl, h, ref, hkey, hmem, fun hnone => by rw [hkey] at hnone; cases hnone⟩
  | none =>
    simp only []
    constructor
    · intro hload a ha heq
      rw [h.load_of_eq hkey ha heq] at hload
      rcases hload with ⟨board', hrun, -⟩ | ⟨fault, board', hrun, hmap, -⟩
      · cases hrun
      · -- the key is in the map now
        cases hrun
        have hlookup := congrArg (AList.lookup (utils.keyGetter val)) hmap
        rw [hkey] at hlookup
        exact absurd ((AList.lookup_insert _).symm.trans hlookup) (Option.some_ne_none _)
    · intro hne
      obtain ⟨board', hrun, hon, -⟩ := h.load_of_ne hkey hne
      exact .inl ⟨board', hrun, hon⟩

end Load

/-! ## One update -/

section Update

variable {utils : RankObjUtil T κ} {board : RankBoard κ} {val : T} {freshIx : Int64} {ref : ℕ}
  {obj : RankObj κ}

omit [DecidableEq κ] in
/-- An update ends with the addition of its object, whatever it returns. -/
lemma finalState_add_return (ix : Int64) :
    EStateM.finalState (do RankBoard.add utils ref obj; return ix) board =
      (RankBoard.add utils ref obj).finalState board := by
  rw [EStateM.finalState_bind, EStateM.finalState]
  cases (RankBoard.add utils ref obj).run board <;> rfl

lemma finalState_innerUpdate_new (hkey : board.allObj.lookup (utils.keyGetter val) = none) :
    (RankBoard.innerUpdate utils val freshIx).finalState board =
      (RankBoard.add utils board.objs.length (utils.newObj val freshIx)).finalState
        (putNew board (utils.newObj val freshIx)) := by
  rw [← finalState_add_return (utils.newObj val freshIx).ix]
  unfold RankBoard.innerUpdate EStateM.finalState
  rw [EStateM.run_bind, EStateM.run_get]
  simp only [hkey]
  rw [EStateM.run_bind, EStateM.run_set]
  rfl

/-- The board without the object at a position, which is changed. -/
def takeOut (board : RankBoard κ) (ref : ℕ) (obj : RankObj κ) (k : ℕ) : RankBoard κ :=
  { board with objs := board.objs.set ref obj, sortedVal := board.sortedVal.eraseIdx k }

/-- What an update does to a key on the board: nothing, or it takes an object out of the list and
adds the changed one. -/
lemma finalState_innerUpdate_old (hkey : board.allObj.lookup (utils.keyGetter val) = some ref)
    (hobj : board.objs[ref]? = some obj) :
    (RankBoard.innerUpdate utils val freshIx).finalState board = board ∨
      0 ≤ board.search utils obj ∧ (RankBoard.innerUpdate utils val freshIx).finalState board =
        (RankBoard.add utils ref (utils.updateObj val obj freshIx)).finalState
          (takeOut board ref (utils.updateObj val obj freshIx) (board.search utils obj).toNat) := by
  rw [← finalState_add_return (utils.updateObj val obj freshIx).ix]
  unfold RankBoard.innerUpdate EStateM.finalState
  rw [EStateM.run_bind, EStateM.run_get]
  simp only [hkey, hobj]
  split_ifs with hsame hfound
  · exact .inl rfl
  · refine .inr ⟨hfound, ?_⟩
    rw [EStateM.run_bind, EStateM.run_set]
    rfl
  · exact .inl rfl

variable [Std.TransCmp utils.userComparator]

/-- **The board without an object that changes** is ordered, if the object is not left in the
list. -/
lemma Ordered.after_takeOut (h : Ordered utils board)
    (hkey : board.allObj.lookup (utils.keyGetter val) = some ref)
    (hobj : board.objs[ref]? = some obj) :
    Ordered utils (takeOut board ref (utils.updateObj val obj freshIx)
      (board.search utils obj).toNat) := by
  set obj' := utils.updateObj val obj freshIx
  set k := (board.search utils obj).toNat with hk
  -- where the object stands in the list, it is found and taken out
  have hnot : ref ∉ board.sortedVal.eraseIdx k := by
    intro hmem
    obtain ⟨j, hj⟩ := List.mem_iff_getElem?.mp (List.mem_of_mem_eraseIdx hmem)
    have hsearch := h.search_eq hj hobj
    obtain ⟨hlt, hget⟩ := List.getElem?_eq_some_iff.mp hj
    rw [hk, hsearch, Int.toNat_natCast] at hmem
    have hperm := List.getElem_cons_eraseIdx_perm hlt
    exact (List.nodup_cons.mp (hperm.nodup_iff.mpr h.nodup)).1 (hget.symm ▸ hmem)
  have hother : ∀ r ∈ board.sortedVal.eraseIdx k,
      (board.objs.set ref obj')[r]? = board.objs[r]? := by
    intro r hr
    refine List.getElem?_set_ne ?_
    rintro rfl
    exact hnot hr
  refine ⟨fun key r hr => ?_, fun r hr => ?_, ?_⟩
  · change (board.allObj).lookup key = some r at hr
    obtain ⟨a, ha, hakey⟩ := h.filed key r hr
    rcases eq_or_ne ref r with rfl | hne
    · -- the changed object has the key under which it was filed
      obtain ⟨b, hb, hbkey⟩ := h.filed _ ref hkey
      rw [ha] at hb
      cases hb
      exact ⟨obj', List.getElem?_set_self (h.lt_length hkey), hbkey.symm.trans hakey⟩
    · exact ⟨a, (List.getElem?_set_ne hne).trans ha, hakey⟩
  · exact h.listed r (List.mem_of_mem_eraseIdx hr)
  · refine (h.sorted.sublist (List.eraseIdx_sublist _ k)).imp_of_mem ?_
    intro r t hr ht hrt a b ha hb
    exact hrt a b ((hother r hr).symm.trans ha) ((hother t ht).symm.trans hb)

/-- **Every update leaves a board ordered**, also one whose object the list refuses. -/
theorem Ordered.next (h : Ordered utils board) (update : T × Int64) :
    Ordered utils (RankBoard.next utils board update) := by
  obtain ⟨val, freshIx⟩ := update
  change Ordered utils ((RankBoard.innerUpdate utils val freshIx).finalState board)
  cases hkey : board.allObj.lookup (utils.keyGetter val) with
  | none =>
    rw [finalState_innerUpdate_new hkey]
    exact (h.after_putNew hkey).after_add getElem?_putNew_new lookup_putNew_new
  | some ref =>
    obtain ⟨obj, hobj, -⟩ := h.filed _ ref hkey
    rcases @finalState_innerUpdate_old _ _ _ _ _ _ freshIx _ _ hkey hobj with hsame | ⟨-, hrun⟩
    · rw [hsame]
      exact h
    · rw [hrun]
      exact (h.after_takeOut hkey hobj).after_add (List.getElem?_set_self (h.lt_length hkey)) hkey

end Update

/-! ## Every board -/

/-- What happens to a board. -/
inductive BoardStep (T : Type) where
  | load (val : T)
  | update (val : T) (freshIx : Int64)

/-- The board after a step, whether that succeeded or not. -/
def boardNext (utils : RankObjUtil T κ) (board : RankBoard κ) : BoardStep T → RankBoard κ
  | .load val => loadNext utils board val
  | .update val freshIx => board.next utils (val, freshIx)

lemma ordered_create {utils : RankObjUtil T κ} : Ordered utils RankBoard.create where
  filed key ref href := by
    rw [RankBoard.create, AList.lookup_empty] at href
    cases href
  listed ref href := absurd href List.not_mem_nil
  sorted := .nil

/-- **Every board is ordered**, whatever was loaded and updated and whatever failed. -/
theorem ordered_run (utils : RankObjUtil T κ) [Std.TransCmp utils.userComparator]
    (steps : List (BoardStep T)) :
    Ordered utils (Runs.run (boardNext utils) RankBoard.create steps) := by
  refine Runs.forall_inv_run (Ordered utils) (fun board step h => ?_) ordered_create steps
  cases step with
  | load val => exact h.load val
  | update val freshIx => exact h.next (val, freshIx)

/-! ## Loading a set of values -/

section LoadAll

variable {utils : RankObjUtil T κ} {board : RankBoard κ} {val : T} {vals vals' : List T}

/-- Values whose objects are different for the comparator. -/
def Distinct (utils : RankObjUtil T κ) (vals : List T) : Prop :=
  vals.Pairwise fun a b => utils.comparator (utils.loadObj a) (utils.loadObj b) ≠ .eq

instance (utils : RankObjUtil T κ) (vals : List T) : Decidable (Distinct utils vals) :=
  List.instDecidablePairwise vals

variable [Std.TransCmp utils.userComparator]

/-- A board that is loaded stays ordered. -/
lemma Ordered.loads (h : Ordered utils board) (vals : List T) :
    Ordered utils (Runs.run (loadNext utils) board vals) :=
  Runs.forall_inv_run (Ordered utils) (fun _ val h => h.load val) h vals

/-- For a new key a load puts the object on the board just if the list has none that compares
equal. -/
lemma Ordered.loads_iff (h : Ordered utils board)
    (hkey : board.allObj.lookup (utils.keyGetter val) = none) :
    Loads utils board val ↔
      ∀ a ∈ board.sortedObjs, utils.comparator a (utils.loadObj val) ≠ .eq := by
  constructor
  · rintro ⟨board', hrun, -⟩ a ha heq
    rw [h.load_of_eq hkey ha heq] at hrun
    cases hrun
  · intro hne
    obtain ⟨board', hrun, hon, -⟩ := h.load_of_ne hkey hne
    exact ⟨board', hrun, hon⟩

/-- **Values of new keys are all loaded** just if no two objects compare equal; then the list has
their objects. -/
lemma Ordered.everyStep_loads_iff (h : Ordered utils board)
    (hnew : ∀ val ∈ vals, board.allObj.lookup (utils.keyGetter val) = none)
    (hkeys : (vals.map utils.keyGetter).Nodup) :
    (Runs.EveryStep (loadNext utils) (Loads utils) board vals ↔
      (∀ val ∈ vals, ∀ a ∈ board.sortedObjs, utils.comparator a (utils.loadObj val) ≠ .eq) ∧
        Distinct utils vals) ∧
      (Runs.EveryStep (loadNext utils) (Loads utils) board vals →
        (Runs.run (loadNext utils) board vals).sortedObjs.Perm
          (vals.map utils.loadObj ++ board.sortedObjs)) := by
  induction vals generalizing board with
  | nil => exact ⟨iff_of_true trivial ⟨nofun, .nil⟩, fun _ => .refl _⟩
  | cons val vals ih =>
    have hkey := hnew val List.mem_cons_self
    obtain ⟨hother, hkeys⟩ := List.nodup_cons.mp hkeys
    rw [Runs.everyStep_cons, h.loads_iff hkey]
    by_cases hne : ∀ a ∈ board.sortedObjs, utils.comparator a (utils.loadObj val) ≠ .eq
    · obtain ⟨board', hrun, hon, hmap, hperm⟩ := h.load_of_ne hkey hne
      have hnext : loadNext utils board val = board' := by
        rw [loadNext, EStateM.finalState, hrun]
      -- the other keys are still new
      have hnew' : ∀ val' ∈ vals, board'.allObj.lookup (utils.keyGetter val') = none := by
        intro val' hval'
        have hkey' : utils.keyGetter val' ≠ utils.keyGetter val := fun heq =>
          hother (heq ▸ List.mem_map_of_mem hval')
        rw [hmap, AList.lookup_insert_ne hkey']
        exact hnew val' (List.mem_cons_of_mem _ hval')
      obtain ⟨hiff, hlist⟩ := ih hon.ordered hnew' hkeys
      rw [Runs.run_cons, hnext, hiff]
      constructor
      · simp only [hperm.mem_iff, List.forall_mem_cons, Distinct, List.pairwise_cons]
        constructor
        · rintro ⟨-, hall, hpair⟩
          exact ⟨⟨hne, fun val' hval' => (hall val' hval').2⟩,
            fun val' hval' => (hall val' hval').1, hpair⟩
        · rintro ⟨⟨-, hall⟩, hfirst, hpair⟩
          exact ⟨hne, fun val' hval' => ⟨hfirst val' hval', hall val' hval'⟩, hpair⟩
      · rintro ⟨-, hsteps⟩
        refine (hlist (hiff.mpr hsteps)).trans ?_
        exact (hperm.append_left _).trans List.perm_middle
    · refine ⟨iff_of_false (fun hboth => hne hboth.1) fun hboth => ?_,
        fun hboth => absurd hboth.1 hne⟩
      exact hne (hboth.1 val List.mem_cons_self)

omit [DecidableEq κ] in
/-- Two lists of the same objects that both increase are the same list. -/
lemma eq_of_perm {l l' : List (RankObj κ)} (hperm : l.Perm l')
    (hl : l.Pairwise fun a b => utils.comparator a b = .lt)
    (hl' : l'.Pairwise fun a b => utils.comparator a b = .lt) : l = l' := by
  refine hperm.eq_of_pairwise (fun a b _ _ hab hba => ?_) hl hl'
  exact absurd hba (Std.OrientedCmp.not_lt_of_lt hab)

/-- **Loading saved values.** Whatever happened to a board, a load does what it should just if the
list admits the value; values of different keys are all loaded just if no two of their objects
compare equal, and then the order in which they are loaded does not matter. -/
theorem load_iff :
    (∀ (steps : List (BoardStep T)) (val : T),
      LoadsOrRejects utils (Runs.run (boardNext utils) RankBoard.create steps) val ↔
        Admits utils (Runs.run (boardNext utils) RankBoard.create steps) val) ∧
    (∀ vals : List T, (vals.map utils.keyGetter).Nodup →
      (Runs.EveryStep (loadNext utils) (Loads utils) RankBoard.create vals ↔
        Distinct utils vals)) ∧
    ∀ vals vals' : List T, vals.Perm vals' → (vals.map utils.keyGetter).Nodup →
      Distinct utils vals →
        (Runs.run (loadNext utils) RankBoard.create vals).sortedObjs =
          (Runs.run (loadNext utils) RankBoard.create vals').sortedObjs := by
  have hcreate : Ordered utils RankBoard.create := ordered_create
  have hnew : ∀ vals : List T, ∀ val ∈ vals,
      RankBoard.create.allObj.lookup (utils.keyGetter val) = none :=
    fun _ _ _ => AList.lookup_empty _
  have hall : ∀ vals : List T, (vals.map utils.keyGetter).Nodup →
      (Runs.EveryStep (loadNext utils) (Loads utils) RankBoard.create vals ↔
        Distinct utils vals) := by
    intro vals hkeys
    rw [(hcreate.everyStep_loads_iff (hnew vals) hkeys).1]
    exact and_iff_right fun _ _ _ ha => absurd ha List.not_mem_nil
  refine ⟨fun steps val => (ordered_run utils steps).loadsOrRejects_iff val, hall, ?_⟩
  intro vals vals' hperm hkeys hdistinct
  have hkeys' : (vals'.map utils.keyGetter).Nodup := (hperm.map _).nodup_iff.mp hkeys
  have hdistinct' : Distinct utils vals' :=
    (hperm.pairwise_iff fun hab => mt Std.OrientedCmp.eq_symm hab).mp hdistinct
  have hlist := (hcreate.everyStep_loads_iff (hnew vals) hkeys).2 ((hall vals hkeys).mpr hdistinct)
  have hlist' := (hcreate.everyStep_loads_iff (hnew vals') hkeys').2
    ((hall vals' hkeys').mpr hdistinct')
  refine eq_of_perm ?_ (hcreate.loads vals).pairwise_sortedObjs
    (hcreate.loads vals').pairwise_sortedObjs
  exact hlist.trans (((hperm.map _).append_right _).trans hlist'.symm)

end LoadAll

/-- Two saved values, which differ. -/
theorem load_iff_distinct :
    Runs.EveryStep (loadNext defaultUtil) (Loads defaultUtil) RankBoard.create
      [(1, 30), (2, 20)] :=
  ((@load_iff _ _ _ defaultUtil _).2.1 [(1, 30), (2, 20)] (by decide)).mpr (by decide)

/-- Two saved values, which do not differ: the second is in the key map only. -/
theorem not_load :
    ¬Runs.EveryStep (loadNext defaultUtil) (Loads defaultUtil) RankBoard.create
        [(1, 10), (2, 10)] ∧
      ¬LoadsOrRejects defaultUtil (loadNext defaultUtil RankBoard.create (1, 10)) (2, 10) := by
  have hcreate : Ordered defaultUtil RankBoard.create := ordered_create
  constructor
  · intro hsteps
    have hall := @Ordered.everyStep_loads_iff _ _ _ _ _ [(1, 10), (2, 10)] _ hcreate
      (fun _ _ => AList.lookup_empty _) (by decide)
    exact absurd (hall.1.mp hsteps).2 (by decide)
  · obtain ⟨board, hrun, hon, hmap, hperm⟩ := @Ordered.load_of_ne _ _ _ defaultUtil _ (1, 10) _
      hcreate (AList.lookup_empty _) (fun a ha => absurd ha List.not_mem_nil)
    have hnext : loadNext defaultUtil RankBoard.create (1, 10) = board := by
      rw [loadNext, EStateM.finalState, hrun]
    have hkey : board.allObj.lookup (defaultUtil.keyGetter (2, 10)) = none := by
      rw [hmap, AList.lookup_insert_ne (by decide)]
      exact AList.lookup_empty _
    rw [hnext, hon.ordered.loadsOrRejects_iff, Admits, hkey]
    intro hne
    exact hne _ (hperm.mem_iff.mpr List.mem_cons_self) (by decide)

end SrgpGame.Rank
