import SrgpGame.Rank.RankRuns
import Mathlib.Data.List.Pairwise

set_option autoImplicit false

/-!
# Well-formed rank boards

Whatever the comparator of a rank board is, the searches are right as long as the list increases
under it and the key map and the list have the same objects.

## Main definitions

* `Ordered` — the list increases, and has objects of the key map only.
* `WellFormed` — and it has all of them.

## Main results

* `Ordered.search_eq` — an object of the list is found where it stands.
* `Ordered.exists_search` — without an object that compares equal the search finds where an object
  belongs.
* `Ranks.wellFormed` — a board that ranks a standing is well-formed.

## Design notes

A comparator has to be transitive and to say the opposite of exchanged objects, as Java demands of
it (`Std.TransCmp`).
-/

namespace SrgpGame.Rank

variable {T κ : Type}

/-! ## The comparator -/

section Comparator

variable {utils : RankObjUtil T κ}

/-- The index after a comparator makes a comparator. -/
instance [Std.TransCmp utils.userComparator] : Std.TransCmp utils.comparator :=
  inferInstanceAs (Std.TransCmp (compareLex utils.userComparator (compareOn RankObj.ix)))

instance {κ : Type} : Std.TransCmp (defaultComp (κ := κ)) := by
  have hsort1 : Std.TransCmp fun a b : RankObj κ => compare b.sort1 a.sort1 :=
    inferInstanceAs (Std.TransCmp fun a b : RankObj κ => compareOn RankObj.sort1 b a)
  exact inferInstanceAs (Std.TransCmp (compareLex
    (fun a b : RankObj κ => compare b.sort1 a.sort1) (compareOn RankObj.sort2)))

end Comparator

/-! ## Boards -/

/-- **An ordered board**: the list increases under the comparator, and has objects of the key map
only. -/
structure Ordered [DecidableEq κ] (utils : RankObjUtil T κ) (board : RankBoard κ) : Prop where
  filed : ∀ key ref, board.allObj.lookup key = some ref →
    ∃ obj, board.objs[ref]? = some obj ∧ obj.key = key
  listed : ∀ ref ∈ board.sortedVal, ∃ key, board.allObj.lookup key = some ref
  sorted : board.sortedVal.Pairwise fun r t => ∀ a b, board.objs[r]? = some a →
    board.objs[t]? = some b → utils.comparator a b = .lt

/-- **A well-formed board**: its list has all objects of the key map, and no more than a Java list
can have. -/
structure WellFormed [DecidableEq κ] (utils : RankObjUtil T κ) (board : RankBoard κ) : Prop
    extends Ordered utils board where
  complete : ∀ key ref, board.allObj.lookup key = some ref → ref ∈ board.sortedVal
  fits : board.sortedVal.length < 2 ^ 31

section Ordered

variable [DecidableEq κ] {utils : RankObjUtil T κ} {board : RankBoard κ} {obj : RankObj κ}

/-- The references of the list lead to objects. -/
lemma Ordered.exists_obj (h : Ordered utils board) {ref : ℕ} (href : ref ∈ board.sortedVal) :
    ∃ obj, board.objs[ref]? = some obj ∧ board.allObj.lookup obj.key = some ref := by
  obtain ⟨key, hkey⟩ := h.listed ref href
  obtain ⟨obj, hobj, rfl⟩ := h.filed key ref hkey
  exact ⟨obj, hobj, hkey⟩

/-- The objects of the list, position by position. -/
lemma Ordered.getElem?_sortedObjs (h : Ordered utils board) (i : ℕ) :
    board.sortedObjs[i]? = (board.sortedVal[i]?).bind (board.objs[·]?) := by
  have hmap : board.sortedObjs.map some = board.sortedVal.map (board.objs[·]?) := by
    rw [RankBoard.sortedObjs, List.map_filterMap_some_eq_filter_map_isSome]
    refine List.filter_eq_self.mpr fun x hx => ?_
    obtain ⟨ref, href, rfl⟩ := List.mem_map.mp hx
    obtain ⟨obj, hobj, -⟩ := h.exists_obj href
    rw [hobj]
    rfl
  have hget := congrArg (·[i]?) hmap
  simp only [List.getElem?_map] at hget
  cases hval : board.sortedVal[i]? with
  | none =>
    rw [hval, Option.map_none] at hget
    exact Option.map_eq_none_iff.mp hget
  | some ref =>
    obtain ⟨obj, hobj, -⟩ := h.exists_obj (List.mem_of_getElem? hval)
    rw [hval, Option.map_some, hobj, Option.map_eq_some_iff] at hget
    obtain ⟨obj', hobj', hsome⟩ := hget
    rw [hobj', Option.bind_some, hobj]
    exact hsome

lemma Ordered.length_sortedObjs (h : Ordered utils board) :
    board.sortedObjs.length = board.sortedVal.length := by
  apply Nat.le_antisymm
  · exact List.length_filterMap_le _ _
  · by_contra hlt
    have hget := h.getElem?_sortedObjs board.sortedObjs.length
    have hin : board.sortedObjs.length < board.sortedVal.length := by omega
    obtain ⟨obj, hobj, -⟩ := h.exists_obj (List.getElem_mem hin)
    rw [List.getElem?_eq_none (Nat.le_refl _), List.getElem?_eq_getElem hin, Option.bind_some,
      hobj] at hget
    cases hget

/-- The objects of the list increase. -/
lemma Ordered.pairwise_sortedObjs (h : Ordered utils board) :
    board.sortedObjs.Pairwise fun a b => utils.comparator a b = .lt :=
  List.pairwise_filterMap.mpr (h.sorted.imp fun hrt a ha b hb => hrt a b ha hb)

/-- What a search looks at, at a position of the list. -/
lemma Ordered.exists_compareAt (h : Ordered utils board) (obj : RankObj κ) {i : ℕ}
    (hi : i < board.sortedVal.length) :
    ∃ a, board.objs[board.sortedVal[i]]? = some a ∧
      board.compareAt utils obj i = utils.comparator a obj := by
  obtain ⟨a, ha, -⟩ := h.exists_obj (List.getElem_mem hi)
  exact ⟨a, ha, compareAt_eq (List.getElem?_eq_getElem hi) ha⟩

variable [Std.TransCmp utils.userComparator]

omit [DecidableEq κ] in
/-- No object is less than itself. -/
lemma comparator_self_ne_lt (a : RankObj κ) : utils.comparator a a ≠ .lt := by
  have hself : utils.comparator a a = .eq := Std.ReflCmp.compare_self
  rw [hself]
  exact Ordering.noConfusion

/-- The list has no object twice. -/
lemma Ordered.nodup (h : Ordered utils board) : board.sortedVal.Nodup := by
  refine h.sorted.imp_of_mem fun {r t} hr _ hrt heq => ?_
  obtain ⟨obj, hobj, -⟩ := h.exists_obj hr
  exact comparator_self_ne_lt obj (hrt obj obj hobj (heq ▸ hobj))

/-- The keys of the list are different. -/
lemma Ordered.nodup_keys (h : Ordered utils board) : board.keys.Nodup := by
  have hrefs := h.nodup
  refine List.pairwise_map.mpr (List.pairwise_filterMap.mpr (hrefs.imp_of_mem ?_))
  intro r t hr ht hne a ha b hb hkey
  obtain ⟨obj, hobj, hr⟩ := h.exists_obj hr
  obtain ⟨obj', hobj', ht⟩ := h.exists_obj ht
  rw [ha] at hobj
  rw [hb] at hobj'
  cases hobj
  cases hobj'
  rw [hkey, ht] at hr
  exact hne (Option.some.inj hr).symm

/-- The search finds its way. -/
lemma Ordered.strict (h : Ordered utils board) (obj : RankObj κ) :
    BinarySearch.Strict (board.compareAt utils obj) board.sortedVal.length := by
  intro i j hij hj hne
  have hi : i < board.sortedVal.length := hij.trans hj
  obtain ⟨a, ha, hcompare⟩ := h.exists_compareAt obj hi
  obtain ⟨b, hb, hcompare'⟩ := h.exists_compareAt obj hj
  have hab : utils.comparator a b = .lt :=
    List.pairwise_iff_getElem.mp h.sorted i j hi hj hij a b ha hb
  rw [hcompare] at hne
  rw [hcompare', Std.OrientedCmp.gt_iff_lt]
  -- the object is not after the first, which is before the second
  have hle : (utils.comparator obj a).isLE := by
    by_contra hgt
    exact hne (Std.OrientedCmp.lt_of_not_isLE hgt)
  exact Std.TransCmp.lt_of_isLE_of_lt hle hab

/-- **An object of the list is found where it stands.** -/
theorem Ordered.search_eq (h : Ordered utils board) {k r : ℕ} (hk : board.sortedVal[k]? = some r)
    (hr : board.objs[r]? = some obj) : board.search utils obj = k := by
  obtain ⟨hlen, -⟩ := List.getElem?_eq_some_iff.mp hk
  apply BinarySearch.binarySearch_of_eq (h.strict obj) hlen
  rw [compareAt_eq hk hr]
  exact Std.ReflCmp.compare_self

/-- **Without an object that compares equal** the search finds where an object belongs. -/
theorem Ordered.exists_search (h : Ordered utils board)
    (hne : ∀ a ∈ board.sortedObjs, utils.comparator a obj ≠ .eq) :
    ∃ p ≤ board.sortedVal.length, board.search utils obj = -(p + 1) ∧
      (∀ i (hi : i < board.sortedVal.length) a, i < p → board.objs[board.sortedVal[i]]? = some a →
        utils.comparator a obj = .lt) ∧
      ∀ i (hi : i < board.sortedVal.length) a, p ≤ i → board.objs[board.sortedVal[i]]? = some a →
        utils.comparator obj a = .lt := by
  have hcompare : ∀ i (hi : i < board.sortedVal.length) a,
      board.objs[board.sortedVal[i]]? = some a →
        board.compareAt utils obj i = utils.comparator a obj :=
    fun i hi a ha => compareAt_eq (List.getElem?_eq_getElem hi) ha
  obtain ⟨p, hp, hsearch, hlow, hhigh⟩ :=
    BinarySearch.binarySearch_of_ne (h.strict obj) (by
      intro i hi heq
      obtain ⟨a, ha, hcmp⟩ := h.exists_compareAt obj hi
      exact hne a (List.mem_filterMap.mpr ⟨_, List.getElem_mem hi, ha⟩) (hcmp ▸ heq))
  refine ⟨p, hp, hsearch, fun i hi a hip ha => ?_, fun i hi a hip ha => ?_⟩
  · exact hcompare i hi a ha ▸ hlow i hip
  · exact Std.OrientedCmp.gt_iff_lt.mp (hcompare i hi a ha ▸ hhigh i hip hi)

end Ordered

/-! ## Boards that are updated -/

section Ranks

variable [DecidableEq κ] {utils : RankObjUtil T κ} {board : RankBoard κ}
  {st : κ → Option (Int64 × Int64)}

lemma Ranks.ordered (h : Ranks board st) (hcmp : OrdersByValue utils.userComparator) :
    Ordered utils board where
  filed key ref href := by
    obtain ⟨r, -, hobj⟩ := h.obj href
    exact ⟨_, hobj, rfl⟩
  listed ref href := (h.listed ref).mp href
  sorted := by
    refine h.sorted.order.imp_of_mem fun {r t} hr ht hrt a b ha hb => ?_
    obtain ⟨a', ha', hsort2⟩ := h.sorted.plain r hr
    obtain ⟨b', hb', hsort2'⟩ := h.sorted.plain t ht
    rw [ha] at ha'
    rw [hb] at hb'
    cases ha'
    cases hb'
    exact (comparator_eq hcmp (hsort2.trans hsort2'.symm)).1.mpr (hrt a b ha hb)

/-- **A board that ranks a standing is well-formed**, as long as it fits. -/
theorem Ranks.wellFormed (h : Ranks board st) (hcmp : OrdersByValue utils.userComparator)
    (hfits : board.sortedVal.length < 2 ^ 31) : WellFormed utils board where
  toOrdered := h.ordered hcmp
  complete key ref href := (h.listed ref).mpr ⟨key, href⟩
  fits := hfits

end Ranks

end SrgpGame.Rank
