import SrgpGame.Rank.RankOrder

set_option autoImplicit false

/-!
# The runs of a rank board

A board is updated all its life. Every update that changes something draws an index from one
counter, so a later one has a greater index, and the board always ranks what its players have
reached: greater values first, and who reached a value first stands before all others with it.

## Main definitions

* `draws` — the indexes that the updates of a run draw.
* `reachedAt` — the update that reached the value of a key.
* `Ranking` — what holds of a board after some updates.

## Main results

* `ranks_run` — every run keeps the ranking, and none of its updates fails.
* `ranking_run` — so the list is in order, and a rank is a position in it.
-/

namespace SrgpGame.Rank

variable {T κ : Type}

variable [DecidableEq κ]

/-! ## Fresh indexes -/

/-- The indexes that updates draw from the counter. An update that changes nothing draws none. -/
def draws (utils : RankObjUtil T κ) :
    (κ → Option (Int64 × Int64)) → List (T × Int64) → List Int64
  | _, [] => []
  | st, update :: updates =>
    (if (st (utils.keyGetter update.1)).map Prod.fst = some (utils.sort1Getter update.1) then []
      else [update.2]) ++ draws utils (reach utils st update) updates

/-- **What a counter hands out**: indexes that increase from a nonnegative number. -/
def Drawn (utils : RankObjUtil T κ) (updates : List (T × Int64)) : Prop :=
  (draws utils (fun _ => none) updates).Pairwise (· < ·) ∧
    ∀ ix ∈ draws utils (fun _ => none) updates, 0 ≤ ix

instance (utils : RankObjUtil T κ) (updates : List (T × Int64)) :
    Decidable (Drawn utils updates) :=
  @instDecidableAnd _ _ (List.instDecidablePairwise _) (List.decidableBAll _ _)

/-- The indexes still to be drawn are greater than those of a standing. -/
structure Ahead (st : κ → Option (Int64 × Int64)) (l : List Int64) : Prop where
  increasing : l.Pairwise (· < ·)
  nonneg : ∀ ix ∈ l, 0 ≤ ix
  behind : ∀ key r, st key = some r → 0 ≤ r.2 ∧ ∀ ix ∈ l, r.2 < ix

section Runs

variable {utils : RankObjUtil T κ} {st : κ → Option (Int64 × Int64)} {update : T × Int64}
  {updates : List (T × Int64)}

/-- An update that changes something draws its index. -/
lemma mem_draws
    (hne : (st (utils.keyGetter update.1)).map Prod.fst ≠ some (utils.sort1Getter update.1)) :
    draws utils st (update :: updates) =
      update.2 :: draws utils (reach utils st update) updates := by
  rw [draws, if_neg hne]
  rfl

/-- The counter stays ahead. -/
lemma Ahead.reach (h : Ahead st (draws utils st (update :: updates))) :
    Ahead (reach utils st update) (draws utils (reach utils st update) updates) := by
  by_cases hsame : (st (utils.keyGetter update.1)).map Prod.fst =
      some (utils.sort1Getter update.1)
  · rw [draws, if_pos hsame, List.nil_append] at h
    have hreach : Rank.reach utils st update = st := if_pos hsame
    rw [hreach] at h ⊢
    exact h
  · rw [mem_draws hsame] at h
    obtain ⟨hfirst, hrest⟩ := List.pairwise_cons.mp h.increasing
    refine ⟨hrest, fun ix hix => h.nonneg ix (List.mem_cons_of_mem _ hix), ?_⟩
    intro key r hr
    rw [Rank.reach, if_neg hsame, Function.update_apply] at hr
    split_ifs at hr
    · obtain rfl := Option.some.inj hr
      exact ⟨h.nonneg _ List.mem_cons_self, hfirst⟩
    · obtain ⟨hnonneg, hbehind⟩ := h.behind key r hr
      exact ⟨hnonneg, fun ix hix => hbehind ix (List.mem_cons_of_mem _ hix)⟩

/-- What every update of a run does: it returns the index of its object. -/
def Succeeds (utils : RankObjUtil T κ) (board : RankBoard κ) (update : T × Int64) : Prop :=
  ∃ board' ix, (RankBoard.innerUpdate utils update.1 update.2).run board = .ok ix board' ∧ 0 ≤ ix

/-- **Every run keeps the ranking**, and none of its updates fails. -/
theorem ranks_run (hcmp : OrdersByValue utils.userComparator) (hsort2 : utils.sort2Getter = none)
    (hix : utils.ixSetter = true) {board : RankBoard κ} (h : Ranks board st)
    (hahead : Ahead st (draws utils st updates)) :
    Runs.EveryStep (RankBoard.next utils) (Succeeds utils) board updates ∧
      Ranks (Runs.run (RankBoard.next utils) board updates)
        (updates.foldl (reach utils) st) := by
  induction updates generalizing board st with
  | nil => exact ⟨trivial, h⟩
  | cons update updates ih =>
    obtain ⟨board', ix, hrun, hranks, hreach⟩ := @ranks_update _ _ _ utils board st update.1
      update.2 hcmp hsort2 hix h (by
        intro hne key r hr heq
        rw [mem_draws hne] at hahead
        have hlt := (hahead.behind key r hr).2 _ List.mem_cons_self
        rw [heq] at hlt
        exact Int64.lt_irrefl hlt)
    have hnext : RankBoard.next utils board update = board' := by
      rw [RankBoard.next, EStateM.finalState, hrun]
    obtain ⟨r, hr, rfl⟩ := Option.map_eq_some_iff.mp hreach
    obtain ⟨hsteps, hend⟩ := ih (hnext ▸ hranks) hahead.reach
    exact ⟨⟨⟨board', r.2, hrun, (hahead.reach.behind _ r hr).1⟩, hsteps⟩, hend⟩

/-! ## Who was first -/

/-- Two standings after the same updates, one with indexes and one with positions for stamps, tell
who was first alike. -/
structure Agree (st : κ → Option (Int64 × Int64)) (st' : κ → Option (Int64 × ℕ)) (n : ℕ) :
    Prop where
  value : ∀ key, (st key).map Prod.fst = (st' key).map Prod.fst
  past : ∀ key p, st' key = some p → p.2 < n
  order : ∀ key key' r r' p p', st key = some r → st key' = some r' → st' key = some p →
    st' key' = some p' → r.2 < r'.2 → p.2 < p'.2

lemma Agree.reach {st' : κ → Option (Int64 × ℕ)} {n : ℕ} (h : Agree st st' n)
    (hahead : Ahead st (draws utils st (update :: updates))) :
    Agree (reach utils st update) (reach utils st' (update.1, n)) (n + 1) := by
  by_cases hsame : (st (utils.keyGetter update.1)).map Prod.fst =
      some (utils.sort1Getter update.1)
  · have hreach : Rank.reach utils st update = st := if_pos hsame
    have hreach' : Rank.reach utils st' (update.1, n) = st' :=
      if_pos ((h.value _).symm.trans hsame)
    rw [hreach, hreach']
    exact ⟨h.value, fun key p hp => Nat.lt_succ_of_lt (h.past key p hp), h.order⟩
  · have hreach : Rank.reach utils st update = Function.update st (utils.keyGetter update.1)
        (some (utils.sort1Getter update.1, update.2)) := if_neg hsame
    have hreach' : Rank.reach utils st' (update.1, n) = Function.update st'
        (utils.keyGetter update.1) (some (utils.sort1Getter update.1, n)) :=
      if_neg ((h.value _) ▸ hsame)
    rw [mem_draws hsame] at hahead
    rw [hreach, hreach']
    constructor
    · intro key
      simp only [Function.update_apply]
      split_ifs
      · rfl
      · exact h.value key
    · intro key p hp
      rw [Function.update_apply] at hp
      split_ifs at hp
      · obtain rfl := Option.some.inj hp
        exact Nat.lt_succ_self n
      · exact Nat.lt_succ_of_lt (h.past key p hp)
    · intro key key' r r' p p' hr hr' hp hp' hlt
      rw [Function.update_apply] at hr hr' hp hp'
      split_ifs at hr hr' hp hp'
      · -- one update cannot come before itself
        obtain rfl := Option.some.inj hr
        obtain rfl := Option.some.inj hr'
        exact absurd hlt Int64.lt_irrefl
      · -- nothing reached before has a greater index than the one just drawn
        obtain rfl := Option.some.inj hr
        have hbehind := (hahead.behind key' r' hr').2 _ List.mem_cons_self
        exact absurd (Int64.lt_trans hlt hbehind) Int64.lt_irrefl
      · obtain rfl := Option.some.inj hp'
        exact h.past key p hp
      · exact h.order key key' r r' p p' hr hr' hp hp' hlt

lemma agree_run {st' : κ → Option (Int64 × ℕ)} {n : ℕ} (h : Agree st st' n)
    (hahead : Ahead st (draws utils st updates)) :
    Agree (updates.foldl (reach utils) st)
      (((updates.map Prod.fst).zipIdx n).foldl (reach utils) st') (n + updates.length) := by
  induction updates generalizing st st' n with
  | nil => exact h
  | cons update updates ih =>
    rw [List.map_cons, List.zipIdx_cons, List.foldl_cons, List.foldl_cons, List.length_cons,
      Nat.add_comm updates.length, ← Nat.add_assoc]
    exact ih (h.reach hahead) hahead.reach

end Runs

/-! ## The ranking -/

/-- The update that reached the value that a key has. -/
def reachedAt (utils : RankObjUtil T κ) (updates : List (T × Int64)) (key : κ) : Option ℕ :=
  (standing utils (updates.map Prod.fst).zipIdx key).map Prod.snd

/-- **A ranking**: what holds of the board after some updates. -/
structure Ranking (utils : RankObjUtil T κ) (updates : List (T × Int64)) (board : RankBoard κ) :
    Prop where
  /-- The list has exactly the objects of the key map, -/
  listed : board.sortedVal.Perm board.allObj.values
  /-- once each. -/
  nodup : board.sortedVal.Nodup
  /-- No reference of the list leads nowhere. -/
  sortedObjs : board.sortedObjs.map some = board.sortedVal.map (board.objs[·]?)
  /-- The key map has the objects of the keys that were updated, with their last values. -/
  filed : ∀ key, (board.allObj.lookup key).bind (board.objs[·]?) =
    (standing utils updates key).map fun r => ⟨key, r.1, 0, r.2⟩
  /-- The list increases under the comparator. -/
  increasing : board.sortedObjs.Pairwise fun a b => utils.comparator a b = .lt
  /-- Greater values come first; of equal values the one that was reached first. -/
  order : board.sortedObjs.Pairwise fun a b => b.sort1 < a.sort1 ∨ a.sort1 = b.sort1 ∧
    ∃ m n, reachedAt utils updates a.key = some m ∧ reachedAt utils updates b.key = some n ∧ m < n
  /-- The rank of a value is the position of its object. -/
  rank : ∀ val ref, board.allObj.lookup (utils.keyGetter val) = some ref →
    ∃ k : ℕ, board.getRank utils (some val) = k ∧ board.sortedVal[k]? = some ref

section Ranking

variable {utils : RankObjUtil T κ} {board : RankBoard κ} {st : κ → Option (Int64 × Int64)}

/-- The objects of the list are those of the standing. -/
lemma Ranks.obj_of_mem (h : Ranks board st) {a : RankObj κ} (ha : a ∈ board.sortedObjs) :
    ∃ r, st a.key = some r ∧ a = ⟨a.key, r.1, 0, r.2⟩ := by
  obtain ⟨ref, href, hobj⟩ := List.mem_filterMap.mp ha
  obtain ⟨key, hkey⟩ := (h.listed ref).mp href
  obtain ⟨r, hst, hobj'⟩ := h.obj hkey
  obtain rfl := Option.some.inj (hobj.symm.trans hobj')
  exact ⟨r, hst, rfl⟩

lemma Ranks.pairwise_sortedObjs (h : Ranks board st) : board.sortedObjs.Pairwise Before := by
  refine List.pairwise_filterMap.mpr (h.sorted.order.imp fun {r t} hrt a ha b hb => ?_)
  exact hrt a b ha hb

/-- The key map has no reference twice. -/
lemma Ranks.perm_values (h : Ranks board st) : board.sortedVal.Perm board.allObj.values := by
  have hvalues : board.allObj.values.Nodup := by
    refine AList.nodup_values fun key key' ref hkey hkey' => ?_
    obtain ⟨r, -, hobj⟩ := h.obj hkey
    obtain ⟨r', -, hobj'⟩ := h.obj hkey'
    exact congrArg RankObj.key (Option.some.inj (hobj.symm.trans hobj'))
  refine (List.perm_ext_iff_of_nodup h.nodup hvalues).mpr fun ref => ?_
  rw [h.listed, AList.mem_values]

/-- The references of the list all lead to objects. -/
lemma Ranks.map_sortedObjs (h : Ranks board st) :
    board.sortedObjs.map some = board.sortedVal.map (board.objs[·]?) := by
  rw [RankBoard.sortedObjs, List.map_filterMap_some_eq_filter_map_isSome]
  refine List.filter_eq_self.mpr fun x hx => ?_
  obtain ⟨ref, href, rfl⟩ := List.mem_map.mp hx
  rw [List.getElem?_eq_getElem (h.lt_length href)]
  rfl

/-- The rank of a value is the position of its object. -/
lemma Ranks.getRank_eq (h : Ranks board st) (hcmp : OrdersByValue utils.userComparator) {val : T}
    {ref : ℕ} (href : board.allObj.lookup (utils.keyGetter val) = some ref) :
    ∃ k : ℕ, board.getRank utils (some val) = k ∧ board.sortedVal[k]? = some ref := by
  obtain ⟨r, -, hobj⟩ := h.obj href
  obtain ⟨k, hk⟩ := List.mem_iff_getElem?.mp ((h.listed ref).mpr ⟨_, href⟩)
  refine ⟨k, ?_, hk⟩
  rw [RankBoard.getRank]
  simp only [href, Option.bind_some, hobj]
  exact search_of_mem hcmp h.sorted hk hobj

lemma ranks_create : Ranks (κ := κ) RankBoard.create fun _ => none where
  filed key := by rw [RankBoard.create, AList.lookup_empty]; rfl
  refs key ref href := by rw [RankBoard.create, AList.lookup_empty] at href; cases href
  listed ref := by simp [RankBoard.create]
  nodup := List.nodup_nil
  sorted := ⟨fun _ hr => absurd hr List.not_mem_nil, List.Pairwise.nil⟩

omit [DecidableEq κ] in
lemma agree_create : Agree (κ := κ) (fun _ => none) (fun _ => none) 0 where
  value _ := rfl
  past _ _ h := absurd h (Option.some_ne_none _).symm
  order _ _ _ _ _ _ h := absurd h (Option.some_ne_none _).symm

/-- **After a run the list is in order, and a rank is a position in it.** -/
theorem ranking_run (updates : List (T × Int64)) (hcmp : OrdersByValue utils.userComparator)
    (hsort2 : utils.sort2Getter = none) (hix : utils.ixSetter = true)
    (hdrawn : Drawn utils updates) :
    Runs.EveryStep (RankBoard.next utils) (Succeeds utils) RankBoard.create updates ∧
      Ranking utils updates (Runs.run (RankBoard.next utils) RankBoard.create updates) := by
  have hahead : Ahead (κ := κ) (fun _ => none) (draws utils (fun _ => none) updates) :=
    ⟨hdrawn.1, hdrawn.2, fun _ _ h => absurd h (Option.some_ne_none _).symm⟩
  obtain ⟨hsteps, hranks⟩ := ranks_run hcmp hsort2 hix ranks_create hahead
  have hagree := agree_run agree_create hahead
  refine ⟨hsteps, hranks.perm_values, hranks.nodup, hranks.map_sortedObjs, hranks.filed, ?_, ?_,
    fun val ref href => hranks.getRank_eq hcmp href⟩
  · refine hranks.pairwise_sortedObjs.imp_of_mem fun {a b} ha hb hab => ?_
    obtain ⟨r, -, ha⟩ := hranks.obj_of_mem ha
    obtain ⟨r', -, hb⟩ := hranks.obj_of_mem hb
    exact (comparator_eq hcmp (by rw [ha, hb])).1.mpr hab
  · refine hranks.pairwise_sortedObjs.imp_of_mem fun {a b} ha hb hab => ?_
    obtain ⟨r, hr, ha⟩ := hranks.obj_of_mem ha
    obtain ⟨r', hr', hb⟩ := hranks.obj_of_mem hb
    refine hab.imp id fun ⟨hvalue, hlt⟩ => ⟨hvalue, ?_⟩
    -- the positions tell who was first like the indexes do
    obtain ⟨p, hp, -⟩ := Option.map_eq_some_iff.mp
      ((hagree.value a.key).symm.trans (congrArg (Option.map Prod.fst) hr))
    obtain ⟨p', hp', -⟩ := Option.map_eq_some_iff.mp
      ((hagree.value b.key).symm.trans (congrArg (Option.map Prod.fst) hr'))
    rw [ha, hb] at hlt
    refine ⟨p.2, p'.2, ?_, ?_, hagree.order _ _ r r' p p' hr hr' hp hp' hlt⟩
    · rw [reachedAt, standing, hp]
      rfl
    · rw [reachedAt, standing, hp']
      rfl

/-- Two players reach the same value, and one of them leaves it again. -/
theorem ranking_run_defaultComp :
    ∃ (utils : RankObjUtil (Int32 × Int64) Int32) (updates : List ((Int32 × Int64) × Int64)),
      updates.length = 4 ∧ Ranking utils updates
        (Runs.run (RankBoard.next utils) RankBoard.create updates) :=
  ⟨⟨Prod.fst, Prod.snd, none, true, defaultComp⟩,
    [((1, 10), 1001), ((2, 10), 1002), ((1, 10), 1002), ((1, 12), 1003)], rfl,
    (ranking_run _ defaultComp_ordersByValue rfl rfl (by decide)).2⟩

end Ranking

end SrgpGame.Rank
