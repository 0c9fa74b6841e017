import SrgpGame.Rank.WellFormed

set_option autoImplicit false

/-!
# Windows of a ranking

Two methods show a part of the ranking. `getKeysAround` takes half of its range before a key and
half after it; what there is too little of before the key it takes after it, but not the other way
around. `getRankInfo` shows the objects from one rank to another, and bounds the first rank below
only and the second above only.

## Main definitions

* `Around` — what the neighbours of a key should be.
* `shown` — the objects that should be shown.

## Main results

* `around_iff` — the neighbours are right just if there is no lack of them after the key.
* `getRankInfo_iff` — what is shown is right just if the bounded ranks are in order.
-/

namespace SrgpGame.Rank

variable {T κ : Type}

open SubList (subList)

/-! ## The neighbours of a key -/

/-- **What the neighbours of a key should be**: other keys, as many as the range says as long as
there are so many, which make a part of the ranking with the key. -/
structure Around (board : RankBoard κ) (key : κ) (range : ℤ) (ret : List κ) : Prop where
  length_eq : (ret.length : ℤ) = min range (board.sortedVal.length - 1)
  nodup : ret.Nodup
  other : key ∉ ret
  contiguous : ∃ before after, ret = before ++ after ∧ (before ++ key :: after) <:+: board.keys

section Around

variable [DecidableEq κ] {utils : RankObjUtil T κ} {board : RankBoard κ} {key : κ} {ref k : ℕ}

lemma Ordered.length_keys (h : Ordered utils board) :
    board.keys.length = board.sortedVal.length := by
  rw [RankBoard.keys, List.length_map, h.length_sortedObjs]

/-- The key at the position of an object. -/
lemma Ordered.getElem?_keys (h : Ordered utils board)
    (href : board.allObj.lookup key = some ref) (hk : board.sortedVal[k]? = some ref) :
    board.keys[k]? = some key := by
  obtain ⟨obj, hobj, hkey⟩ := h.filed key ref href
  rw [RankBoard.keys, List.getElem?_map, h.getElem?_sortedObjs, hk, Option.bind_some, hobj,
    Option.map_some, hkey]

/-- **The parts before and after a key** make a part of the ranking with it. -/
lemma Ordered.around [Std.TransCmp utils.userComparator] (h : Ordered utils board)
    (hkey : board.keys[k]? = some key) {i j : ℕ} (hi : i ≤ k) (hj : k < j) :
    (subList board.keys i k ++ subList board.keys (k + 1) j).Nodup ∧
      key ∉ subList board.keys i k ++ subList board.keys (k + 1) j ∧
      (subList board.keys i k ++ key :: subList board.keys (k + 1) j) <:+: board.keys := by
  have hinfix : subList board.keys i k ++ key :: subList board.keys (k + 1) j <:+: board.keys := by
    rw [← SubList.subList_eq_append_cons hi hj hkey]
    exact SubList.subList_infix
  have hnodup := List.nodup_middle.mp (h.nodup_keys.sublist hinfix.sublist)
  exact ⟨(List.nodup_cons.mp hnodup).2, (List.nodup_cons.mp hnodup).1, hinfix⟩

/-- The last position that `getKeysAround` looks at, as an `int`. -/
def upperOf (size ix range lower : ℤ) : ℤ :=
  min (Int.bmod (range - range / 2 + (range / 2 - lower) + ix) (2 ^ 32)) (size - 1)

section Upper

variable {size ix range lower : ℤ}

lemma upperOf_of_fits (hnonneg : 0 ≤ range - lower + ix) (hfits : range - lower + ix < 2 ^ 31) :
    upperOf size ix range lower = min (range - lower + ix) (size - 1) := by
  have hsum : range - range / 2 + (range / 2 - lower) + ix = range - lower + ix := by omega
  rw [upperOf, hsum, Int.bmod_eq_of_le_mul_two (by omega) (by omega)]

/-- A sum that is more than an `int` holds is negative. -/
lemma upperOf_of_overflow (hover : 2 ^ 31 ≤ range - lower + ix)
    (hlt : range - lower + ix < 2 ^ 32) : upperOf size ix range lower < 0 := by
  have hsum : range - range / 2 + (range / 2 - lower) + ix = range - lower + ix := by omega
  have hwrap : Int.bmod (range - lower + ix) (2 ^ 32) = range - lower + ix - 2 ^ 32 := by
    rw [← Int.sub_bmod_right]
    exact Int.bmod_eq_of_le_mul_two (by push_cast; omega) (by push_cast; omega)
  rw [upperOf, hsum, hwrap]
  omega

end Upper

section Bounds

variable {range : Int32} (hrange : 0 ≤ range.toInt)

include hrange

lemma toInt_half : (range / 2).toInt = range.toInt / 2 := by
  rw [Int32.toInt_div_of_ne_right _ _ (by decide)]
  exact Int.tdiv_eq_ediv_of_nonneg hrange

/-- The first position that is looked at. -/
lemma toInt_lower {k : ℕ} (hk : k < 2 ^ 31) :
    (max 0 (Int32.ofInt (k : ℤ) - range / 2)).toInt.toNat = k - (range.toInt / 2).toNat := by
  have hbelow := range.toInt_lt
  have hhalf := toInt_half hrange
  have hix : (Int32.ofInt (k : ℤ)).toInt = k := Int32.toInt_ofInt_of_le (by omega) (by omega)
  rw [Int32.toInt_max, Int32.toInt_sub_of_fits (by omega) (by omega), hix, hhalf, Int32.toInt_zero]
  omega

/-- The last position that is looked at. Only the sum of the index and the number of neighbours may
be more than an `int` holds. -/
lemma toInt_upper {k size : ℕ} (hk : k < size) (hsize : size < 2 ^ 31) :
    (min (range - range / 2 + (range / 2 - .ofNat (min k (range.toInt / 2).toNat)) +
      Int32.ofInt (k : ℤ)) (Int32.ofNat size - 1)).toInt =
        upperOf size k range.toInt (min (k : ℤ) (range.toInt / 2)) := by
  have hbelow := range.toInt_lt
  have hhalf := toInt_half hrange
  have hix : (Int32.ofInt (k : ℤ)).toInt = k := Int32.toInt_ofInt_of_le (by omega) (by omega)
  have hint : (Int32.ofNat size).toInt = size := Int32.toInt_ofNat_of_lt hsize
  have hone : Int32.toInt 1 = 1 := by decide
  have hlast : (Int32.ofNat size - 1).toInt = size - 1 := by
    rw [Int32.toInt_sub_of_fits (by omega) (by omega), hint, hone]
  have hrest : (range - range / 2).toInt = range.toInt - range.toInt / 2 := by
    rw [Int32.toInt_sub_of_fits (by omega) (by omega), hhalf]
  have hnat : (Int32.ofNat (min k (range.toInt / 2).toNat)).toInt =
      min (k : ℤ) (range.toInt / 2) := by
    rw [Int32.toInt_ofNat_of_lt (by omega)]
    omega
  have hdelta : (range / 2 - .ofNat (min k (range.toInt / 2).toNat)).toInt =
      range.toInt / 2 - min (k : ℤ) (range.toInt / 2) := by
    rw [Int32.toInt_sub_of_fits (by omega) (by omega), hhalf, hnat]
  have hsum : (range - range / 2 + (range / 2 - .ofNat (min k (range.toInt / 2).toNat))).toInt =
      range.toInt - range.toInt / 2 + (range.toInt / 2 - min (k : ℤ) (range.toInt / 2)) := by
    rw [Int32.toInt_add_of_fits (by omega) (by omega), hrest, hdelta]
  rw [Int32.toInt_min, Int32.toInt_add, hsum, hix, hlast]
  rfl

end Bounds

/-- **The neighbours that `getKeysAround` finds.** -/
lemma WellFormed.getKeysAround_eq [Std.TransCmp utils.userComparator] (h : WellFormed utils board)
    (href : board.allObj.lookup key = some ref) (hk : board.sortedVal[k]? = some ref)
    {range : Int32} (hrange : 0 ≤ range) :
    board.getKeysAround utils (some key) range =
      subList board.keys (k - (range.toInt / 2).toNat) k ++
        subList board.keys (k + 1) (upperOf board.sortedVal.length k range.toInt
          (min (k : ℤ) (range.toInt / 2)) + 1).toNat := by
  obtain ⟨obj, hobj, -⟩ := h.filed key ref href
  obtain ⟨hlt, -⟩ := List.getElem?_eq_some_iff.mp hk
  have hfits := h.fits
  rw [Int32.le_iff_toInt_le, Int32.toInt_zero] at hrange
  have hlower := toInt_lower hrange (k := k) (by omega)
  have hupper := toInt_upper hrange hlt (by omega)
  have hix : (Int32.ofInt (k : ℤ)).toInt = k :=
    Int32.toInt_ofInt_of_le (by omega) (by omega)
  have hnext : (Int32.ofInt (k : ℤ) + 1).toInt = k + 1 := by
    rw [Int32.toInt_succ_of_fits (by omega), hix]
  have hcount : (subList board.keys (k - (range.toInt / 2).toNat) k).length =
      min k (range.toInt / 2).toNat := by
    rw [SubList.length_subList, h.length_keys]
    omega
  have hnonneg : ¬Int32.ofInt (k : ℤ) < 0 := by
    rw [Int32.lt_zero_iff, hix]
    omega
  unfold RankBoard.getKeysAround RankBoard.getKeysAroundRanges
  simp only [Option.bind_some, href, hobj, h.search_eq hk hobj, if_neg hnonneg, hlower, hix,
    Int.toNat_natCast, hcount, hupper, hnext]
  rfl

/-- **The neighbours of a key on the board are right just if there is no lack of them after it.** -/
theorem around_iff [Std.TransCmp utils.userComparator] (h : WellFormed utils board)
    (href : board.allObj.lookup key = some ref) (hk : board.sortedVal[k]? = some ref)
    {range : Int32} (hrange : 0 ≤ range) :
    Around board key range.toInt (board.getKeysAround utils (some key) range) ↔
      (k : ℤ) ≤ range.toInt / 2 ∨
        k + (range.toInt - range.toInt / 2) ≤ board.sortedVal.length - 1 := by
  obtain ⟨hlt, -⟩ := List.getElem?_eq_some_iff.mp hk
  have hkey := h.getElem?_keys href hk
  have hfits := h.fits
  have hbelow := range.toInt_lt
  have hlength := h.length_keys
  rw [h.getKeysAround_eq href hk hrange]
  rw [Int32.le_iff_toInt_le, Int32.toInt_zero] at hrange
  constructor
  · intro haround
    have heq := haround.length_eq
    rw [List.length_append, SubList.length_subList, SubList.length_subList, hlength] at heq
    by_contra hlack
    rw [not_or, not_le, not_le] at hlack
    rw [min_eq_right hlack.1.le] at heq
    -- the last position is the last one of the board, or none at all
    rcases lt_or_ge (range.toInt - range.toInt / 2 + k) (2 ^ 31) with hsum | hsum
    · rw [upperOf_of_fits (by omega) hsum] at heq
      omega
    · have hneg : upperOf board.sortedVal.length k range.toInt (range.toInt / 2) < 0 :=
        upperOf_of_overflow hsum (by omega)
      omega
  · intro henough
    have hupper : upperOf board.sortedVal.length k range.toInt (min (k : ℤ) (range.toInt / 2)) =
        min (range.toInt - min (k : ℤ) (range.toInt / 2) + k) (board.sortedVal.length - 1) := by
      rcases henough with hfront | hback
      · rw [min_eq_left hfront]
        exact upperOf_of_fits (by omega) (by omega)
      · exact upperOf_of_fits (by omega) (by omega)
    obtain ⟨hnodup, hother, hinfix⟩ := h.around hkey
      (Nat.sub_le k (range.toInt / 2).toNat)
      (j := (upperOf board.sortedVal.length k range.toInt
        (min (k : ℤ) (range.toInt / 2)) + 1).toNat)
      (by omega)
    refine ⟨?_, hnodup, hother, _, _, rfl, hinfix⟩
    rw [List.length_append, SubList.length_subList, SubList.length_subList, hlength, hupper]
    omega

/-- How the boards are made (`createBoard`), with a value for every key. -/
def defaultUtil : RankObjUtil (Int32 × Int64) Int32 :=
  ⟨Prod.fst, Prod.snd, none, true, defaultComp⟩

instance : Std.TransCmp defaultUtil.userComparator :=
  inferInstanceAs (Std.TransCmp (defaultComp (κ := Int32)))

/-- A board with three keys. -/
def threeKeys : RankBoard Int32 :=
  ⟨[⟨1, 30, 0, 1001⟩, ⟨2, 20, 0, 1002⟩, ⟨3, 10, 0, 1003⟩], [0, 1, 2],
    (((∅ : AList fun _ => ℕ).insert 3 2).insert 2 1).insert 1 0⟩

lemma lookup_threeKeys {key : Int32} {ref : ℕ} (href : threeKeys.allObj.lookup key = some ref) :
    key = 1 ∧ ref = 0 ∨ key = 2 ∧ ref = 1 ∨ key = 3 ∧ ref = 2 := by
  unfold threeKeys at href
  simp only [AList.lookup_insert_ite] at href
  split_ifs at href with h1 h2 h3
  · exact .inl ⟨h1, (Option.some.inj href).symm⟩
  · exact .inr (.inl ⟨h2, (Option.some.inj href).symm⟩)
  · exact .inr (.inr ⟨h3, (Option.some.inj href).symm⟩)
  · cases href

lemma wellFormed_threeKeys : WellFormed defaultUtil threeKeys where
  filed key ref href := by
    rcases lookup_threeKeys href with ⟨rfl, rfl⟩ | ⟨rfl, rfl⟩ | ⟨rfl, rfl⟩
    · exact ⟨_, rfl, rfl⟩
    · exact ⟨_, rfl, rfl⟩
    · exact ⟨_, rfl, rfl⟩
  listed ref href := by
    change ref ∈ [0, 1, 2] at href
    simp only [List.mem_cons, List.not_mem_nil, or_false] at href
    rcases href with rfl | rfl | rfl
    · exact ⟨1, rfl⟩
    · exact ⟨2, rfl⟩
    · exact ⟨3, rfl⟩
  sorted := by
    refine .cons ?_ (.cons ?_ (.cons (by simp) .nil))
    · intro t ht a b ha hb
      simp only [List.mem_cons, List.not_mem_nil, or_false] at ht
      rcases ht with rfl | rfl
      · cases ha
        cases hb
        decide
      · cases ha
        cases hb
        decide
    · intro t ht a b ha hb
      obtain rfl := List.mem_singleton.mp ht
      cases ha
      cases hb
      decide
  complete key ref href := by
    rcases lookup_threeKeys href with ⟨-, rfl⟩ | ⟨-, rfl⟩ | ⟨-, rfl⟩ <;> decide
  fits := by decide

/-- The neighbours of the key in the middle. -/
theorem around_iff_threeKeys :
    Around threeKeys 2 2 (threeKeys.getKeysAround defaultUtil (some 2) 2) :=
  (@around_iff _ _ _ _ _ 2 1 1 _ wellFormed_threeKeys rfl rfl 2 (by decide)).mpr (by decide)

/-- The last of three keys has one neighbour before it, and is shown no other. -/
theorem not_around : ¬Around threeKeys 3 2 (threeKeys.getKeysAround defaultUtil (some 3) 2) := by
  intro h
  have hret := @WellFormed.getKeysAround_eq _ _ _ _ _ 3 2 2 _ wellFormed_threeKeys rfl rfl 2
    (by decide)
  have hlength := h.length_eq
  rw [hret] at hlength
  exact absurd hlength (by decide)

end Around

/-! ## From one rank to another -/

/-- **The objects that should be shown**: those from one rank to another, exclusive, where the
second rank is no bound if it is negative, and no more than the greatest number. -/
def shown (board : RankBoard κ) (maxRankNum start end' : ℤ) : List (RankObj κ) :=
  (board.sortedObjs.zipIdx.filter fun p => decide (max 0 start ≤ p.2 ∧ (0 ≤ end' → p.2 < end') ∧
    p.2 < min (board.sortedVal.length : ℤ) maxRankNum)).map Prod.fst

section RankInfo

variable [DecidableEq κ] {utils : RankObjUtil T κ} {board : RankBoard κ} {M : Type}

/-- **What is shown is right just if the bounded ranks are in order.** -/
theorem getRankInfo_iff (h : WellFormed utils board) (viewFunction : List (RankObj κ) → M)
    (maxRankNum start end' : Int32) :
    board.getRankInfo viewFunction maxRankNum start end' =
        .ok (viewFunction (shown board maxRankNum.toInt start.toInt end'.toInt)) ↔
      max 0 start.toInt ≤ min (min (board.sortedVal.length : ℤ) maxRankNum.toInt)
        (if end'.toInt < 0 then min (board.sortedVal.length : ℤ) maxRankNum.toInt
          else end'.toInt) := by
  have hfits := h.fits
  have hsize : (Int32.ofNat board.sortedVal.length).toInt = board.sortedVal.length :=
    Int32.toInt_ofNat_of_lt (by omega)
  set maxNum := min (Int32.ofNat board.sortedVal.length) maxRankNum with hmaxNum
  have hmax : maxNum.toInt = min (board.sortedVal.length : ℤ) maxRankNum.toInt := by
    rw [hmaxNum, Int32.toInt_min, hsize]
  set toIndex := min maxNum (if end' < 0 then maxNum else end') with htoIndex
  have hto : toIndex.toInt = min (min (board.sortedVal.length : ℤ) maxRankNum.toInt)
      (if end'.toInt < 0 then min (board.sortedVal.length : ℤ) maxRankNum.toInt
        else end'.toInt) := by
    rw [htoIndex, Int32.toInt_min, hmax]
    split_ifs with hneg hneg' hneg'
    · rw [hmax]
    · exact absurd (Int32.lt_zero_iff.mp hneg) hneg'
    · exact absurd (Int32.lt_zero_iff.mpr hneg') hneg
    · rfl
  have hfrom : (max 0 start).toInt = max 0 start.toInt := by
    rw [Int32.toInt_max, Int32.toInt_zero]
  have hnonneg : ¬max 0 start < 0 := by
    rw [Int32.lt_zero_iff, hfrom]
    omega
  have hsmall : ¬Int32.ofNat board.sortedVal.length < toIndex := by
    rw [Int32.lt_iff_toInt_lt, hsize, hto]
    omega
  have hrun : board.getRankInfo viewFunction maxRankNum start end' =
      if toIndex < max 0 start then .error .illegalArgument
      else .ok (viewFunction (subList board.sortedObjs (max 0 start).toInt.toNat
        toIndex.toInt.toNat)) := by
    unfold RankBoard.getRankInfo
    simp only [← hmaxNum, ← htoIndex, if_neg hnonneg, if_neg hsmall]
  rw [hrun, ← hto, ← hfrom, ← Int32.le_iff_toInt_le, ← Int32.not_lt]
  split_ifs with hinverted
  · exact iff_of_false nofun (not_not_intro hinverted)
  · refine iff_of_true ?_ hinverted
    rw [Int32.not_lt, Int32.le_iff_toInt_le, hfrom, hto] at hinverted
    have hshown : shown board maxRankNum.toInt start.toInt end'.toInt =
        subList board.sortedObjs (max 0 start).toInt.toNat toIndex.toInt.toNat := by
      rw [shown, ← SubList.filter_zipIdx, hfrom, hto]
      congr 1
      refine List.filter_congr fun p _ => decide_eq_decide.mpr ?_
      split_ifs at hinverted ⊢ with hneg
      · omega
      · omega
    rw [hshown]

/-- The first two of three keys. -/
theorem getRankInfo_iff_threeKeys :
    threeKeys.getRankInfo (List.map RankObj.key) 100 (-1) 2 =
      .ok (List.map RankObj.key (shown threeKeys 100 (-1) 2)) :=
  (getRankInfo_iff wellFormed_threeKeys (List.map RankObj.key) 100 (-1) 2).mpr (by decide)

/-- A second page of a board that has no more than one. -/
theorem not_getRankInfo :
    threeKeys.getRankInfo (List.map RankObj.key) 100 10 20 ≠
      .ok (List.map RankObj.key (shown threeKeys 100 10 20)) := by
  decide

end RankInfo

end SrgpGame.Rank
