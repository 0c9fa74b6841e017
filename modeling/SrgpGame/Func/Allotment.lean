import Mathlib.Algebra.Order.BigOperators.Group.List
import SrgpGame.Func.Weight

set_option autoImplicit false

/-!
# Allotting many draws

For a hundred draws and more `randomWeightValue` does not draw item by item. Every item is given a
number near its share, as long as there is something left, and what is left in the end goes to one
item in the first half. Here the loop is taken apart: the random numbers do not depend on what is
left, so all of them are drawn first, and what the items take is a function of them.

## Main definitions

* `near` — a number near a share.
* `takes`, `left` — what the items take, and what is left.
* `settle` — what is left is given to one item.
* `allot` — the counts of all items.
* `totalValue` — the value of counts.
* `marked` — items of which one has a value.

## Main results

* `randomWeightValue_eq` — the amount is the value of the counts.
* `run_allot_of_draws`, `exists_draws` — the counts for given random numbers, and all counts there
  are.
* `takes_spec` — numbers that are not negative are taken as they are, up to what is left.
* `totalValue_marked` — a marked item shows its count.
-/

namespace SrgpGame.Func

/-! ## The loop in parts -/

/-- A number near a share: from four fifths of it on. -/
def near (num random : Int32) : Int32 := (num * 8 + random) / 10

/-- Draws a number near a share. -/
def drawNear (num : Int32) : EStateM Thrown Rng Int32 := do
  let random ← nextInt (num * 4)
  return near num random

/-- What the items take, one after another: a number of their own, or all that is left. -/
def takes : List Int32 → Int32 → List Int32
  | [], _ => []
  | n :: ns, execNum =>
    if execNum ≤ n then execNum :: takes ns 0 else n :: takes ns (execNum - n)

/-- What is left. -/
def left : List Int32 → Int32 → Int32
  | [], execNum => execNum
  | n :: ns, execNum => if execNum ≤ n then left ns 0 else left ns (execNum - n)

/-- What is left is given to one item in the first half. -/
def settle (nums : List Int32) (execNum : Int32) : EStateM Thrown Rng (List Int32) :=
  if 0 < execNum then do
    let index ← nextInt (Int32.ofNat nums.length / 2)
    return nums.modify index.toInt.toNat (· + execNum)
  else pure nums

/-- **The counts of all items**, from their shares. -/
def allot (nums : List Int32) (execNum : Int32) : EStateM Thrown Rng (List Int32) := do
  let ns ← nums.mapM drawNear
  settle (takes ns execNum) (left ns execNum)

/-- The value of counts. -/
def totalValue (counts : List Int32) (items : List WeightItem) : Int32 :=
  (counts.zip items).foldl (fun sum p => sum + p.2.value * p.1) 0

/-- The share of a weight. -/
def share (sumWeight execNum weight : Int32) : Int32 := weight * execNum / sumWeight

/-- The loop draws its numbers and then hands out what there is. -/
lemma foldlM_spread (nums acc : List Int32) (execNum : Int32) :
    nums.foldlM spread (acc, execNum) = do
      let ns ← nums.mapM drawNear
      return (acc ++ takes ns execNum, left ns execNum) := by
  induction nums generalizing acc execNum with
  | nil => simp [takes, left]
  | cons num nums ih =>
    rw [List.foldlM_cons, List.mapM_cons]
    simp only [spread, drawNear, bind_assoc, pure_bind]
    congr 1
    funext random
    by_cases hle : execNum ≤ near num random
    · have hle' : execNum ≤ (num * 8 + random) / 10 := hle
      simp only [if_pos hle', pure_bind, ih, takes, left, if_pos hle, List.append_assoc,
        List.singleton_append]
    · have hle' : ¬execNum ≤ (num * 8 + random) / 10 := hle
      simp only [if_neg hle', pure_bind, ih, takes, left, if_neg hle, List.append_assoc,
        List.singleton_append]
      rfl

/-- The shares of all items. -/
lemma mapM_itemNum {config : WeightConfig} {items : List WeightItem}
    (hsum : items ≠ [] → config.sumWeight ≠ 0) (execNum : Int32) :
    items.mapM (itemNum config execNum) =
      pure ((items.map WeightItem.weight).map (share config.sumWeight execNum)) := by
  induction items with
  | nil => rfl
  | cons item items ih =>
    have hne := hsum (List.cons_ne_nil item items)
    rw [List.mapM_cons, ih fun _ => hne, itemNum, if_neg hne]
    rfl

/-- **The amount** for a hundred draws and more is the value of the counts. -/
lemma randomWeightValue_eq {cfgs : Configs} {param : FuncParam} {config : WeightConfig}
    (hconfig : cfgs.weight param.param2 = some config) {execNum : Int32} (hlarge : 100 ≤ execNum)
    (hsum : config.items ≠ [] → config.sumWeight ≠ 0) :
    randomWeightValue cfgs param execNum = do
      let counts ← allot ((config.items.map WeightItem.weight).map
        (share config.sumWeight execNum)) execNum
      return totalValue counts config.items := by
  rw [randomWeightValue, hconfig]
  simp only [if_pos hlarge, mapM_itemNum hsum, pure_bind, foldlM_spread, List.nil_append, allot,
    bind_assoc, settle]
  refine bind_congr fun ns => ?_
  by_cases hleft : 0 < left ns execNum
  · simp only [if_pos hleft, bind_assoc, pure_bind]
    rfl
  · simp only [if_neg hleft, pure_bind]
    rfl

/-! ## Random numbers -/

/-- The bound of the random number for a share, as it comes out. -/
def width (num : Int32) : ℤ := (num * 4).toInt

/-- The numbers near the shares, for given random numbers. -/
def nears (nums : List Int32) (draws : List ℕ) : List Int32 :=
  List.zipWith (fun num draw => near num (Int32.ofNat draw)) nums draws

/-- Random numbers that a generator can draw for the shares. -/
def Drawn (nums : List Int32) (draws : List ℕ) : Prop :=
  List.Forall₂ (fun (num : Int32) (draw : ℕ) => (draw : ℤ) < width num) nums draws

/-- A generator that draws the given numbers. -/
def rngOf (draws : List ℕ) : Rng := ⟨fun n => draws.getD n 0⟩

lemma run_drawNear {num : Int32} (h : 0 < width num) (rng : Rng) :
    (drawNear num).run rng =
      .ok (near num (Int32.ofNat (rng.draw 0 % (width num).toNat)))
        ⟨fun n => rng.draw (n + 1)⟩ := by
  rw [drawNear, EStateM.run_bind, run_nextInt_of_pos h]
  rfl

/-- A share without a positive bound throws. -/
lemma run_mapM_drawNear_of_nonpos {nums : List Int32} {num : Int32} (hmem : num ∈ nums)
    (h : width num ≤ 0) (rng : Rng) :
    ∃ e rng', (nums.mapM drawNear).run rng = .error e rng' := by
  induction nums generalizing rng with
  | nil => cases hmem
  | cons first nums ih =>
    rw [List.mapM_cons, EStateM.run_bind]
    rcases List.mem_cons.mp hmem with rfl | hmem
    · rw [drawNear, EStateM.run_bind, run_nextInt_of_nonpos h]
      exact ⟨_, _, rfl⟩
    · cases hfirst : (drawNear first).run rng with
      | error e rng' => exact ⟨e, rng', rfl⟩
      | ok n rng' =>
        obtain ⟨e, rng'', hrest⟩ := ih hmem rng'
        simp only [EStateM.run_bind, hrest]
        exact ⟨e, rng'', rfl⟩

/-- **The given numbers are drawn.** -/
lemma run_mapM_drawNear {nums : List Int32} {draws : List ℕ} (h : Drawn nums draws)
    (rest : List ℕ) :
    (nums.mapM drawNear).run (rngOf (draws ++ rest)) = .ok (nears nums draws) (rngOf rest) := by
  induction h with
  | nil => rfl
  | @cons num draw nums draws hdraw hrest ih =>
    have hpos : 0 < width num := by omega
    have hmod : draw % (width num).toNat = draw := Nat.mod_eq_of_lt (by omega)
    rw [List.mapM_cons, EStateM.run_bind, run_drawNear hpos]
    have hzero : (rngOf (draw :: draws ++ rest)).draw 0 = draw := rfl
    have hnext : (⟨fun n => (rngOf (draw :: draws ++ rest)).draw (n + 1)⟩ : Rng) =
        rngOf (draws ++ rest) := rfl
    simp only [hzero, hmod, hnext, EStateM.run_bind, ih]
    rfl

/-- **All that can be drawn** is given by numbers below the bounds. -/
lemma exists_draws {nums : List Int32} (h : ∀ num ∈ nums, 0 < width num) (rng : Rng) :
    ∃ draws rng', Drawn nums draws ∧
      (nums.mapM drawNear).run rng = .ok (nears nums draws) rng' := by
  induction nums generalizing rng with
  | nil => exact ⟨[], rng, .nil, rfl⟩
  | cons num nums ih =>
    have hpos := h num List.mem_cons_self
    obtain ⟨draws, rng', hdraws, hrun⟩ := ih (fun num hnum => h num (List.mem_cons_of_mem _ hnum))
      ⟨fun n => rng.draw (n + 1)⟩
    have hlt := Nat.mod_lt (rng.draw 0) (show 0 < (width num).toNat by omega)
    refine ⟨rng.draw 0 % (width num).toNat :: draws, rng', .cons (by omega) hdraws, ?_⟩
    rw [List.mapM_cons, EStateM.run_bind, run_drawNear hpos]
    simp only [EStateM.run_bind, hrun]
    rfl

lemma length_nears {nums : List Int32} {draws : List ℕ} (h : Drawn nums draws) :
    (nears nums draws).length = nums.length := by
  rw [nears, List.length_zipWith, h.length_eq, Nat.min_self]

/-! ## What is taken -/

lemma length_takes (ns : List Int32) (execNum : Int32) :
    (takes ns execNum).length = ns.length := by
  induction ns generalizing execNum with
  | nil => rfl
  | cons n ns ih =>
    rw [takes]
    split
    · rw [List.length_cons, List.length_cons, ih]
    · rw [List.length_cons, List.length_cons, ih]

/-- **Numbers that are not negative** are taken up to what is left. -/
lemma takes_spec {ns : List Int32} (hns : ∀ n ∈ ns, 0 ≤ n.toInt) {execNum : Int32}
    (hexecNum : 0 ≤ execNum.toInt) :
    (∀ m ∈ takes ns execNum, 0 ≤ m.toInt) ∧ 0 ≤ (left ns execNum).toInt ∧
      ((takes ns execNum).map Int32.toInt).sum + (left ns execNum).toInt = execNum.toInt := by
  induction ns generalizing execNum with
  | nil => simp [takes, left, hexecNum]
  | cons n ns ih =>
    have hn := hns n List.mem_cons_self
    have hrest : ∀ n ∈ ns, 0 ≤ n.toInt := fun n hmem => hns n (List.mem_cons_of_mem _ hmem)
    rw [takes, left]
    by_cases hle : execNum ≤ n
    · obtain ⟨hnonneg, hleft, hsum⟩ := ih hrest (show 0 ≤ (0 : Int32).toInt from le_rfl)
      rw [Int32.toInt_zero] at hsum
      rw [if_pos hle, if_pos hle]
      refine ⟨List.forall_mem_cons.mpr ⟨hexecNum, hnonneg⟩, hleft, ?_⟩
      rw [List.map_cons, List.sum_cons]
      omega
    · have hlt : n.toInt < execNum.toInt := by
        rw [Int32.le_iff_toInt_le] at hle
        omega
      have hbound := execNum.toInt_lt
      have hsub : (execNum - n).toInt = execNum.toInt - n.toInt :=
        Int32.toInt_sub_of_fits (by omega) (by omega)
      obtain ⟨hnonneg, hleft, hsum⟩ := ih hrest (show 0 ≤ (execNum - n).toInt by omega)
      rw [if_neg hle, if_neg hle]
      refine ⟨List.forall_mem_cons.mpr ⟨hn, hnonneg⟩, hleft, ?_⟩
      rw [List.map_cons, List.sum_cons]
      omega

/-- No item takes more than its number. -/
lemma getElem?_takes {ns : List Int32} {execNum n : Int32} {i : ℕ} (h : ns[i]? = some n) :
    ∃ m, (takes ns execNum)[i]? = some m ∧ m.toInt ≤ n.toInt := by
  induction ns generalizing execNum i with
  | nil => cases h
  | cons first ns ih =>
    rw [takes]
    cases i with
    | zero =>
      obtain rfl : first = n := by simpa using h
      split
      · next hle => exact ⟨execNum, rfl, Int32.le_iff_toInt_le.mp hle⟩
      · exact ⟨first, rfl, le_rfl⟩
    | succ i =>
      rw [List.getElem?_cons_succ] at h
      split
      · exact ih h
      · exact ih h

/-- Nor do all items together. -/
lemma sum_takes_le (ns : List Int32) (execNum : Int32) :
    ((takes ns execNum).map Int32.toInt).sum ≤ (ns.map Int32.toInt).sum := by
  induction ns generalizing execNum with
  | nil => exact le_rfl
  | cons n ns ih =>
    rw [takes]
    split
    · next hle =>
      have hle' := Int32.le_iff_toInt_le.mp hle
      have hrest := ih 0
      rw [List.map_cons, List.map_cons, List.sum_cons, List.sum_cons]
      omega
    · have hrest := ih (execNum - n)
      rw [List.map_cons, List.map_cons, List.sum_cons, List.sum_cons]
      omega

/-! ## What is left -/

lemma run_settle_of_nonpos {execNum : Int32} (h : execNum.toInt ≤ 0) (nums : List Int32)
    (rng : Rng) : (settle nums execNum).run rng = .ok nums rng := by
  have hnot : ¬0 < execNum := by
    rw [Int32.lt_iff_toInt_lt, Int32.toInt_zero]
    omega
  rw [settle, if_neg hnot]
  rfl

/-- The half of a length, as an `int`. -/
lemma ofNat_half {n : ℕ} (h : n < 2 ^ 31) : Int32.ofNat n / 2 = Int32.ofNat (n / 2) := by
  rw [← Int32.toInt_inj, Int32.toInt_div_of_ne_right _ _ (by decide),
    Int32.toInt_ofNat_of_lt h, Int32.toInt_ofNat_of_lt (by omega)]
  exact Int.ofNat_tdiv n 2

/-- What is left of fewer than two items goes nowhere: the bound is zero. -/
lemma run_settle_of_short {execNum : Int32} (h : 0 < execNum.toInt) {nums : List Int32}
    (hlength : nums.length < 2) (rng : Rng) :
    (settle nums execNum).run rng = .error .illegalArgument rng := by
  have hpos : 0 < execNum := by
    rw [Int32.lt_iff_toInt_lt, Int32.toInt_zero]
    exact h
  have hhalf : Int32.ofNat nums.length / 2 = 0 := by
    rw [ofNat_half (by omega), Nat.div_eq_of_lt hlength]
    rfl
  rw [settle, if_pos hpos, hhalf, EStateM.run_bind, run_nextInt_of_nonpos (by decide)]

/-- What is left of two items and more goes to one in the first half. -/
lemma run_settle_of_pos {execNum : Int32} (h : 0 < execNum.toInt) {nums : List Int32}
    (hlength : 2 ≤ nums.length) (hsize : nums.length < 2 ^ 31) (rng : Rng) :
    (settle nums execNum).run rng =
      .ok (nums.modify (rng.draw 0 % (nums.length / 2)) (· + execNum))
        ⟨fun n => rng.draw (n + 1)⟩ := by
  have hpos : 0 < execNum := by
    rw [Int32.lt_iff_toInt_lt, Int32.toInt_zero]
    exact h
  obtain ⟨index, hdraw, hindex⟩ :=
    run_nextInt_length (show 0 < nums.length / 2 by omega) (by omega) rng
  rw [settle, if_pos hpos, ofNat_half hsize, EStateM.run_bind, hdraw]
  simp only [hindex]
  rfl

/-- What is given to one item is given to all together. -/
lemma modify_spec {nums : List Int32} (hnums : ∀ m ∈ nums, 0 ≤ m.toInt) {execNum : Int32}
    (hexecNum : 0 ≤ execNum.toInt)
    (hfits : (nums.map Int32.toInt).sum + execNum.toInt < 2 ^ 31) {i : ℕ} (hi : i < nums.length) :
    (∀ m ∈ nums.modify i (· + execNum), 0 ≤ m.toInt) ∧
      ((nums.modify i (· + execNum)).map Int32.toInt).sum =
        (nums.map Int32.toInt).sum + execNum.toInt := by
  induction nums generalizing i with
  | nil => cases hi
  | cons num nums ih =>
    have hnum := hnums num List.mem_cons_self
    have hrest : ∀ m ∈ nums, 0 ≤ m.toInt := fun m hm => hnums m (List.mem_cons_of_mem _ hm)
    rw [List.map_cons, List.sum_cons] at hfits
    cases i with
    | zero =>
      have hsum : 0 ≤ (nums.map Int32.toInt).sum := List.sum_nonneg (by simpa using hrest)
      have hadd : (num + execNum).toInt = num.toInt + execNum.toInt :=
        Int32.toInt_add_of_fits (by omega) (by omega)
      rw [List.modify_zero_cons, List.map_cons, List.sum_cons, List.map_cons, List.sum_cons, hadd]
      exact ⟨List.forall_mem_cons.mpr ⟨by omega, hrest⟩, by omega⟩
    | succ i =>
      obtain ⟨hnonneg, hsum⟩ := ih hrest (by omega) (Nat.lt_of_succ_lt_succ hi)
      rw [List.modify_succ_cons, List.map_cons, List.sum_cons, List.map_cons, List.sum_cons, hsum]
      exact ⟨List.forall_mem_cons.mpr ⟨hnum, hnonneg⟩, by omega⟩

lemma length_settle {nums counts : List Int32} {execNum : Int32} {rng rng' : Rng}
    (h : (settle nums execNum).run rng = .ok counts rng') : counts.length = nums.length := by
  unfold settle at h
  split at h
  · obtain ⟨index, rng₁, -, h⟩ := EStateM.run_bind_eq_ok.mp h
    cases h
    exact List.length_modify _ _ _
  · cases h
    rfl

/-- There is a count for every item. -/
lemma length_allot {nums counts : List Int32} {execNum : Int32} {rng rng' : Rng}
    (h : (allot nums execNum).run rng = .ok counts rng') : counts.length = nums.length := by
  have hpos : ∀ num ∈ nums, 0 < width num := by
    intro num hnum
    by_contra hnonpos
    obtain ⟨e, rng'', herror⟩ := run_mapM_drawNear_of_nonpos hnum (by omega) rng
    rw [allot, EStateM.run_bind, herror] at h
    cases h
  obtain ⟨draws, rng₁, hdraws, hrun⟩ := exists_draws hpos rng
  rw [allot, EStateM.run_bind, hrun] at h
  rw [length_settle h, length_takes, length_nears hdraws]

/-! ## Items of which one has a value -/

/-- Items with the given weights; the one at a place has the value 1, the others have none. -/
def marked : List Int32 → ℕ → List WeightItem
  | [], _ => []
  | weight :: weights, 0 => ⟨weight, 1⟩ :: weights.map fun weight => ⟨weight, 0⟩
  | weight :: weights, i + 1 => ⟨weight, 0⟩ :: marked weights i

lemma weight_marked (weights : List Int32) (i : ℕ) :
    (marked weights i).map WeightItem.weight = weights := by
  induction weights generalizing i with
  | nil => rfl
  | cons weight weights ih =>
    cases i with
    | zero =>
      rw [marked, List.map_cons, List.map_map]
      exact congrArg _ (List.map_id weights)
    | succ i => rw [marked, List.map_cons, ih]

/-- The values are added up from any number. -/
lemma foldl_value (l : List (Int32 × WeightItem)) (v : Int32) :
    l.foldl (fun sum p => sum + p.2.value * p.1) v =
      v + l.foldl (fun sum p => sum + p.2.value * p.1) 0 := by
  induction l generalizing v with
  | nil => exact (Int32.add_zero v).symm
  | cons p l ih =>
    rw [List.foldl_cons, List.foldl_cons, ih, ih (0 + _), Int32.zero_add, Int32.add_assoc]

/-- Items without a value have none together. -/
lemma totalValue_unmarked (counts weights : List Int32) :
    totalValue counts (weights.map fun weight => ⟨weight, 0⟩) = 0 := by
  induction counts generalizing weights with
  | nil => rfl
  | cons n counts ih =>
    cases weights with
    | nil => rfl
    | cons weight weights =>
      rw [totalValue, List.map_cons, List.zip_cons_cons, List.foldl_cons, foldl_value]
      show 0 + 0 * n + totalValue counts _ = 0
      rw [ih, Int32.zero_mul]
      rfl

/-- **A marked item** shows its count. -/
lemma totalValue_marked {counts weights : List Int32} (hlength : counts.length = weights.length)
    {i : ℕ} {n : Int32} (h : counts[i]? = some n) : totalValue counts (marked weights i) = n := by
  induction counts generalizing weights i with
  | nil => cases h
  | cons m counts ih =>
    cases weights with
    | nil => cases hlength
    | cons weight weights =>
      cases i with
      | zero =>
        obtain rfl : m = n := by simpa using h
        rw [totalValue, marked, List.zip_cons_cons, List.foldl_cons, foldl_value]
        show 0 + 1 * m + totalValue counts _ = m
        rw [totalValue_unmarked, Int32.add_zero, Int32.zero_add, Int32.one_mul]
      | succ i =>
        rw [List.getElem?_cons_succ] at h
        rw [totalValue, marked, List.zip_cons_cons, List.foldl_cons, foldl_value]
        show 0 + 0 * m + totalValue counts _ = n
        rw [ih (Nat.succ.inj hlength) h, Int32.zero_mul, Int32.add_zero, Int32.zero_add]

end SrgpGame.Func
