import SrgpGame.Func.Allotment

set_option autoImplicit false

/-!
# How many draws a random amount is

A random amount is to be the value of `execNum` draws. Below a hundred draws the code draws a
hundred times, whatever `execNum` is. From a hundred draws on it allots them by shares: a share of
zero has no random number, a single item leaves something that no item can get, and a large share
wraps around. This file says exactly when none of this happens.

## Main definitions

* `nearOf`, `lowest`, `highest` — the numbers near a share, as integers.
* `Safe` — a share whose numbers are never negative.
* `Spreads` — the condition on the shares.
* `Distributes` — what a random amount is to be.

## Main results

* `allot_of_spreads` — the counts come out right for shares that spread.
* `NeverNegative.spreads` — shares whose counts never come out negative spread.
* `distributes_iff` — the condition is exact.

## Implementation notes

The weights and `execNum` are the input; the values of the items are not looked at until the counts
are there, so a statement for all values is a statement about the counts. The items of `marked`
show one count each.
-/

namespace SrgpGame.Func

/-! ## Numbers near a share -/

/-- The number near a share, from the bound of the random number: the sum can wrap around. -/
def nearOf (w draw : ℤ) : ℤ :=
  if 2 * w + draw < 2 ^ 31 then (2 * w + draw) / 10
  else if 2 * w + draw < 2 ^ 32 then -((2 ^ 32 - (2 * w + draw)) / 10)
  else (2 * w + draw - 2 ^ 32) / 10

/-- The bound is a multiple of four. -/
lemma width_mod (num : Int32) : width num % 4 = 0 ∧ width num < 2 ^ 31 := by
  have hmul : width num = (num.toInt * 4).bmod (2 ^ 32) := by
    rw [width, Int32.toInt_mul]
    rfl
  have hlt := (num * 4).toInt_lt
  refine ⟨?_, hlt⟩
  rw [hmul, Int.bmod_def]
  split <;> omega

/-- **A number near a share** as an integer. -/
lemma toInt_near {num : Int32} {draw : ℕ} (h : (draw : ℤ) < width num) :
    (near num (Int32.ofNat draw)).toInt = nearOf (width num) draw := by
  have hlt := (width_mod num).2
  have height : num * 8 = num * 4 * 2 := by
    rw [Int32.mul_assoc]
    rfl
  have hdraw : (Int32.ofNat draw).toInt = draw := Int32.toInt_ofNat_of_lt (by omega)
  have hsum : (num * 8 + Int32.ofNat draw).toInt =
      if 2 * width num + draw < 2 ^ 31 then 2 * width num + draw
      else 2 * width num + draw - 2 ^ 32 := by
    rw [height, Int32.toInt_add, Int32.toInt_mul, hdraw, Int.bmod_add_bmod]
    show (width num * 2 + draw).bmod (2 ^ 32) = _
    rw [Int.bmod_def]
    split <;> split <;> omega
  rw [near, Int32.toInt_div_of_ne_right _ _ (by decide), hsum, nearOf]
  have hten : (10 : Int32).toInt = 10 := by decide
  rw [hten]
  split_ifs with hfits hwraps
  · exact Int.tdiv_eq_ediv_of_nonneg (by omega)
  · have hneg : 2 * width num + draw - 2 ^ 32 = -(2 ^ 32 - (2 * width num + draw)) := by omega
    rw [hneg, Int.neg_tdiv, Int.tdiv_eq_ediv_of_nonneg (by omega)]
  · exact Int.tdiv_eq_ediv_of_nonneg (by omega)

/-- A bound with which no number is negative: the sums do not wrap around, or they do and come out
next to zero. -/
def Safe (w : ℤ) : Prop := 0 < w ∧ (3 * w ≤ 2 ^ 31 ∨ w = 2 ^ 31 - 4)

/-- The random number that gives the lowest number for a bound that is not safe. -/
def lowestDraw (w : ℤ) : ℤ := if 2 ^ 31 ≤ 2 * w then 0 else 2 ^ 31 - 2 * w

/-- The lowest number for a bound that is not safe. -/
def lowest (w : ℤ) : ℤ := nearOf w (lowestDraw w)

/-- The highest number for a bound that is safe. -/
def highest (w : ℤ) : ℤ := nearOf w (w - 1)

lemma Safe.nonneg {w draw : ℤ} (h : Safe w) (hdraw : 0 ≤ draw) (hlt : draw < w) :
    0 ≤ nearOf w draw := by
  unfold Safe at h
  unfold nearOf
  split_ifs with hfits hwraps
  · omega
  · omega
  · omega

lemma Safe.le_highest {w draw : ℤ} (h : Safe w) (hdraw : 0 ≤ draw) (hlt : draw < w) :
    nearOf w draw ≤ highest w := by
  unfold Safe at h
  unfold highest nearOf
  split_ifs <;> omega

lemma lowestDraw_spec {w : ℤ} (hpos : 0 < w) (hsafe : ¬Safe w) (hlt : w < 2 ^ 31) :
    0 ≤ lowestDraw w ∧ lowestDraw w < w := by
  unfold Safe at hsafe
  unfold lowestDraw
  split <;> omega

/-- A bound that is not safe has a number that is negative. -/
lemma lowest_neg {w : ℤ} (hpos : 0 < w) (hsafe : ¬Safe w) (hlt : w < 2 ^ 31) (hmod : w % 4 = 0) :
    lowest w < 0 := by
  unfold Safe at hsafe
  unfold lowest lowestDraw nearOf
  split_ifs <;> omega

/-- And it is the lowest one. -/
lemma lowest_le {w draw : ℤ} (hlt : w < 2 ^ 31) (hmod : w % 4 = 0) (hdraw : 0 ≤ draw)
    (hdraw' : draw < w) : lowest w ≤ nearOf w draw := by
  unfold lowest lowestDraw nearOf
  split_ifs <;> omega

/-! ## The condition -/

/-- **The shares for which the counts come out right.** All bounds are positive, there are two items
or more, and the sums are safe. Only the first item may have a sum that is not, if there is no
other one in the first half: it gets everything back that it has given away, as long as the sum
fits and the other items together do not take more than there is. -/
def Spreads (nums : List Int32) (execNum : Int32) : Prop :=
  match nums with
  | first :: second :: rest =>
    0 < width first ∧ (∀ num ∈ second :: rest, Safe (width num)) ∧
      (Safe (width first) ∨
        rest.length ≤ 1 ∧ execNum.toInt - lowest (width first) < 2 ^ 31 ∧
          ((second :: rest).map fun num => highest (width num)).sum ≤ execNum.toInt)
  | _ => False

/-- The counts of all items. -/
structure Counts (execNum : Int32) (counts : List Int32) : Prop where
  nonneg : ∀ n ∈ counts, 0 ≤ n.toInt
  sum : (counts.map Int32.toInt).sum = execNum.toInt

/-- **What a random amount is to be**: for all values of the items and every generator it is the
value of `execNum` draws. -/
def Distributes (weights : List Int32) (sumWeight execNum : Int32) : Prop :=
  ∀ cfgs param config rng, cfgs.weight param.param2 = some config →
    config.items.map WeightItem.weight = weights → config.sumWeight = sumWeight →
      ∃ value rng' counts, (randomWeightValue cfgs param execNum).run rng = .ok value rng' ∧
        counts.length = config.items.length ∧ Counts execNum counts ∧
          value = totalValue counts config.items

/-! ## The counts come out right -/

section Right

variable {nums : List Int32} {draws : List ℕ} {execNum : Int32}

/-- A number near a share is one for a random number. -/
lemma mem_nears (h : Drawn nums draws) {n : Int32} (hn : n ∈ nears nums draws) :
    ∃ num ∈ nums, ∃ draw : ℕ, (draw : ℤ) < width num ∧ n.toInt = nearOf (width num) draw := by
  induction h with
  | nil => cases hn
  | @cons num draw nums draws hdraw hrest ih =>
    rcases List.mem_cons.mp hn with rfl | hn
    · exact ⟨num, List.mem_cons_self, draw, hdraw, toInt_near hdraw⟩
    · obtain ⟨num', hnum', hspec⟩ := ih hn
      exact ⟨num', List.mem_cons_of_mem _ hnum', hspec⟩

/-- Safe shares have numbers that are not negative. -/
lemma nears_nonneg (h : Drawn nums draws) (hsafe : ∀ num ∈ nums, Safe (width num)) :
    ∀ n ∈ nears nums draws, 0 ≤ n.toInt := by
  intro n hn
  obtain ⟨num, hnum, draw, hdraw, hn'⟩ := mem_nears h hn
  rw [hn']
  exact (hsafe num hnum).nonneg (Int.natCast_nonneg draw) hdraw

/-- And together they are at most the highest ones. -/
lemma sum_nears_le (h : Drawn nums draws) (hsafe : ∀ num ∈ nums, Safe (width num)) :
    ((nears nums draws).map Int32.toInt).sum ≤ (nums.map fun num => highest (width num)).sum := by
  induction h with
  | nil => exact le_rfl
  | @cons num draw nums draws hdraw hrest ih =>
    have hfirst := (hsafe num List.mem_cons_self).le_highest (Int.natCast_nonneg draw) hdraw
    have hrest := ih fun num hnum => hsafe num (List.mem_cons_of_mem _ hnum)
    rw [← toInt_near hdraw] at hfirst
    exact add_le_add hfirst hrest

/-- What is left is given to one item, and all is given away. -/
lemma settle_spec {ms : List Int32} {l : Int32} (hms : ∀ m ∈ ms, 0 ≤ m.toInt) (hl : 0 ≤ l.toInt)
    (hsum : (ms.map Int32.toInt).sum + l.toInt = execNum.toInt) (hlength : 2 ≤ ms.length)
    (hsize : ms.length < 2 ^ 31) (rng : Rng) :
    ∃ counts rng', (settle ms l).run rng = .ok counts rng' ∧ counts.length = ms.length ∧
      Counts execNum counts := by
  by_cases hpos : 0 < l.toInt
  · have hbound := execNum.toInt_lt
    obtain ⟨hnonneg, hsum'⟩ := modify_spec hms hl (by omega)
      (Nat.lt_of_lt_of_le (Nat.mod_lt (rng.draw 0) (show 0 < ms.length / 2 by omega))
        (Nat.div_le_self ms.length 2))
    exact ⟨_, _, run_settle_of_pos hpos hlength hsize rng, List.length_modify _ _ _, hnonneg,
      hsum'.trans hsum⟩
  · refine ⟨ms, rng, run_settle_of_nonpos (by omega) ms rng, rfl, hms, ?_⟩
    omega

/-- What comes out when the first number is negative. -/
lemma takes_of_neg {n : Int32} (hn : n.toInt < 0) (ns : List Int32) (hexecNum : 0 ≤ execNum.toInt) :
    takes (n :: ns) execNum = n :: takes ns (execNum - n) ∧
      left (n :: ns) execNum = left ns (execNum - n) := by
  have hnot : ¬execNum ≤ n := by
    rw [Int32.le_iff_toInt_le]
    omega
  exact ⟨if_neg hnot, if_neg hnot⟩

/-- **A first number that is negative** is made good, if there is no other item in the first half
and the others do not take more than there is. -/
lemma settle_of_neg {n : Int32} {ns : List Int32} (hn : n.toInt < 0)
    (hns : ∀ m ∈ ns, 0 ≤ m.toInt) (hexecNum : 0 ≤ execNum.toInt)
    (hfits : execNum.toInt - n.toInt < 2 ^ 31)
    (hsum : (ns.map Int32.toInt).sum ≤ execNum.toInt) (hlength : 1 ≤ ns.length)
    (hlength' : ns.length ≤ 2) (rng : Rng) :
    ∃ counts rng', (settle (takes (n :: ns) execNum) (left (n :: ns) execNum)).run rng =
        .ok counts rng' ∧ counts.length = ns.length + 1 ∧ Counts execNum counts := by
  obtain ⟨htakes, hleft⟩ := takes_of_neg hn ns hexecNum
  have hbound := execNum.toInt_lt
  have hsub : (execNum - n).toInt = execNum.toInt - n.toInt :=
    Int32.toInt_sub_of_fits (by omega) hfits
  obtain ⟨hnonneg, hleft', hspec⟩ := takes_spec hns (show 0 ≤ (execNum - n).toInt by omega)
  have hle := sum_takes_le ns (execNum - n)
  have hlengthTakes := length_takes ns (execNum - n)
  set ms := takes ns (execNum - n)
  set l := left ns (execNum - n)
  have hms : 0 ≤ (ms.map Int32.toInt).sum := List.sum_nonneg (by simpa using hnonneg)
  have hadd : (n + l).toInt = execNum.toInt - (ms.map Int32.toInt).sum := by
    rw [Int32.toInt_add_of_fits (by omega) (by omega)]
    omega
  have hhalf : (n :: ms).length / 2 = 1 := by
    rw [List.length_cons]
    omega
  have hrun : (settle (n :: ms) l).run rng = _ :=
    run_settle_of_pos (by omega) (by rw [List.length_cons]; omega)
      (by rw [List.length_cons]; omega) rng
  rw [hhalf, Nat.mod_one, List.modify_zero_cons] at hrun
  refine ⟨_, _, by rw [htakes, hleft]; exact hrun, by rw [List.length_cons, hlengthTakes], ?_, ?_⟩
  · exact List.forall_mem_cons.mpr ⟨by omega, hnonneg⟩
  · rw [List.map_cons, List.sum_cons, hadd]
    omega

/-- **The counts come out right** for such shares. -/
lemma allot_of_spreads (h : Spreads nums execNum) (hexecNum : 0 ≤ execNum.toInt)
    (hsize : nums.length < 2 ^ 31) (rng : Rng) :
    ∃ counts rng', (allot nums execNum).run rng = .ok counts rng' ∧
      counts.length = nums.length ∧ Counts execNum counts := by
  unfold Spreads at h
  split at h
  case h_2 => exact h.elim
  case h_1 first second rest =>
    obtain ⟨hfirst, hothers, hcases⟩ := h
    have hpos : ∀ num ∈ first :: second :: rest, 0 < width num := by
      intro num hnum
      rcases List.mem_cons.mp hnum with rfl | hnum
      · exact hfirst
      · exact (hothers num hnum).1
    obtain ⟨draws, rng', hdraws, hrun⟩ := exists_draws hpos rng
    have hlength := length_nears hdraws
    rw [allot, EStateM.run_bind, hrun]
    simp only
    cases hdraws with
    | @cons _ draw _ draws hdraw hdraws =>
    have hrest := nears_nonneg hdraws hothers
    have hns : nears (first :: second :: rest) (draw :: draws) =
        near first (Int32.ofNat draw) :: nears (second :: rest) draws := rfl
    rw [hns] at hlength ⊢
    have hnear := toInt_near hdraw
    set n := near first (Int32.ofNat draw)
    set ns := nears (second :: rest) draws
    by_cases hn : 0 ≤ n.toInt
    · -- no number is negative
      obtain ⟨hms, hleft, hsum⟩ := takes_spec (List.forall_mem_cons.mpr ⟨hn, hrest⟩) hexecNum
      have hlength' := length_takes (n :: ns) execNum
      rw [hlength] at hlength'
      rw [← hlength']
      rw [← hlength'] at hsize
      exact settle_spec hms hleft hsum (by rw [hlength']; exact Nat.le_add_left 2 _) hsize rng'
    · -- the first number is negative, and the item gets it back
      have hunsafe : ¬Safe (width first) := fun hsafe =>
        hn (hnear ▸ hsafe.nonneg (Int.natCast_nonneg draw) hdraw)
      obtain ⟨hfew, hfits, hhighest⟩ := hcases.resolve_left hunsafe
      obtain ⟨hmod, hlt⟩ := width_mod first
      have hlowest := lowest_le hlt hmod (Int.natCast_nonneg draw) hdraw
      have hle := (sum_nears_le hdraws hothers).trans hhighest
      have hlength' : ns.length = rest.length + 1 := by
        rw [List.length_cons, List.length_cons, List.length_cons] at hlength
        exact Nat.succ.inj hlength
      obtain ⟨counts, rng'', hsettle, hcounts, hright⟩ :=
        settle_of_neg (n := n) (by omega) hrest hexecNum (by omega) hle (by omega) (by omega) rng'
      refine ⟨counts, rng'', hsettle, ?_, hright⟩
      rw [hcounts, hlength']
      rfl

end Right

/-! ## The counts come out wrong -/

section Wrong

variable {nums : List Int32} {execNum : Int32}

/-- The counts never come out negative. -/
def NeverNegative (nums : List Int32) (execNum : Int32) : Prop :=
  ∀ rng, ∃ counts rng', (allot nums execNum).run rng = .ok counts rng' ∧
    ∀ n ∈ counts, 0 ≤ n.toInt

/-- All bounds are positive, as no generator makes the counts throw. -/
lemma NeverNegative.width_pos (h : NeverNegative nums execNum) : ∀ num ∈ nums, 0 < width num := by
  intro num hnum
  by_contra hnonpos
  obtain ⟨counts, rng', hrun, -⟩ := h (rngOf [])
  obtain ⟨e, rng'', herror⟩ := run_mapM_drawNear_of_nonpos hnum (by omega) (rngOf [])
  rw [allot, EStateM.run_bind, herror] at hrun
  cases hrun

/-- The counts for given random numbers, and a number for the place. -/
lemma NeverNegative.of_draws (h : NeverNegative nums execNum) {draws : List ℕ}
    (hdraws : Drawn nums draws) (k : ℕ) :
    ∃ counts rng', (settle (takes (nears nums draws) execNum)
        (left (nears nums draws) execNum)).run (rngOf [k]) = .ok counts rng' ∧
      ∀ n ∈ counts, 0 ≤ n.toInt := by
  obtain ⟨counts, rng', hrun, hnonneg⟩ := h (rngOf (draws ++ [k]))
  rw [allot, EStateM.run_bind, run_mapM_drawNear hdraws] at hrun
  exact ⟨counts, rng', hrun, hnonneg⟩

/-- What is taken at another place than the one that is drawn stays as it is. -/
lemma nonneg_of_settle {ms counts : List Int32} {l m : Int32} {i k : ℕ} {rng' : Rng}
    (hrun : (settle ms l).run (rngOf [k]) = .ok counts rng')
    (hnonneg : ∀ n ∈ counts, 0 ≤ n.toInt) (hlength : 2 ≤ ms.length) (hsize : ms.length < 2 ^ 31)
    (hi : ms[i]? = some m) (hne : k % (ms.length / 2) ≠ i) : 0 ≤ m.toInt := by
  by_cases hpos : 0 < l.toInt
  · have hdraw : (rngOf [k]).draw 0 = k := rfl
    rw [run_settle_of_pos hpos hlength hsize, hdraw] at hrun
    cases hrun
    refine hnonneg m (List.mem_of_getElem? (i := i) ?_)
    rw [List.getElem?_modify_ne _ _ hne, hi]
  · rw [run_settle_of_nonpos (by omega)] at hrun
    cases hrun
    exact hnonneg m (List.mem_of_getElem? hi)

/-- One random number can be any below its bound. -/
lemma exists_drawn_at (hpos : ∀ num ∈ nums, 0 < width num) {i : ℕ} {num : Int32}
    (hi : nums[i]? = some num) {draw : ℕ} (hdraw : (draw : ℤ) < width num) :
    ∃ draws, Drawn nums draws ∧ (nears nums draws)[i]? = some (near num (Int32.ofNat draw)) := by
  induction nums generalizing i with
  | nil => cases hi
  | cons first nums ih =>
    have hfirst := hpos first List.mem_cons_self
    have hrest : ∀ num ∈ nums, 0 < width num := fun num hnum =>
      hpos num (List.mem_cons_of_mem _ hnum)
    cases i with
    | zero =>
      obtain rfl : first = num := by simpa using hi
      refine ⟨draw :: nums.map fun _ => 0, .cons hdraw ?_, rfl⟩
      rw [List.forall₂_map_right_iff, List.forall₂_same]
      exact hrest
    | succ i =>
      rw [List.getElem?_cons_succ] at hi
      obtain ⟨draws, hdraws, hget⟩ := ih hrest hi
      exact ⟨0 :: draws, .cons hfirst hdraws, by rw [← hget]; rfl⟩

/-- The lowest number for a share that is not safe. -/
lemma exists_lowest {num : Int32} (hpos : 0 < width num) (hsafe : ¬Safe (width num)) :
    ∃ draw : ℕ, (draw : ℤ) < width num ∧
      (near num (Int32.ofNat draw)).toInt = lowest (width num) ∧ lowest (width num) < 0 := by
  obtain ⟨hmod, hlt⟩ := width_mod num
  obtain ⟨hnonneg, hbelow⟩ := lowestDraw_spec hpos hsafe hlt
  have hcast : ((lowestDraw (width num)).toNat : ℤ) = lowestDraw (width num) :=
    Int.toNat_of_nonneg hnonneg
  refine ⟨(lowestDraw (width num)).toNat, by omega, ?_, lowest_neg hpos hsafe hlt hmod⟩
  rw [toInt_near (by omega), hcast, lowest]

/-- **Only the first share may be unsafe**: an item in the second half gets nothing back. -/
lemma NeverNegative.safe (h : NeverNegative nums execNum) (hlength : 2 ≤ nums.length)
    (hsize : nums.length < 2 ^ 31) {i : ℕ} {num : Int32} (hi : nums[i]? = some num)
    (hplace : i ≠ 0 ∨ 4 ≤ nums.length) : Safe (width num) := by
  by_contra hsafe
  have hpos := h.width_pos
  obtain ⟨draw, hdraw, hnear, hneg⟩ :=
    exists_lowest (hpos num (List.mem_of_getElem? hi)) hsafe
  obtain ⟨draws, hdraws, hget⟩ := exists_drawn_at hpos hi hdraw
  obtain ⟨m, hm, hle⟩ : ∃ m, (takes (nears nums draws) execNum)[i]? = some m ∧ m.toInt ≤ _ :=
    getElem?_takes hget
  have hlength' : (takes (nears nums draws) execNum).length = nums.length := by
    rw [length_takes, length_nears hdraws]
  -- another place is drawn
  have hother : ∃ k : ℕ, k % (nums.length / 2) ≠ i := by
    by_cases hzero : i = 0
    · refine ⟨1, ?_⟩
      rw [Nat.mod_eq_of_lt (by omega), hzero]
      exact Nat.one_ne_zero
    · refine ⟨0, ?_⟩
      rw [Nat.zero_mod]
      exact Ne.symm hzero
  obtain ⟨k, hk⟩ := hother
  obtain ⟨counts, rng', hrun, hnonneg⟩ := h.of_draws hdraws k
  have hm' := nonneg_of_settle hrun hnonneg (by omega) (by omega) hm (by rwa [hlength'])
  omega

/-- If something is left, the items have taken their numbers. -/
lemma sum_takes_of_left {ns : List Int32} (hns : ∀ n ∈ ns, 0 ≤ n.toInt)
    (hleft : 0 < (left ns execNum).toInt) :
    ((takes ns execNum).map Int32.toInt).sum = (ns.map Int32.toInt).sum := by
  induction ns generalizing execNum with
  | nil => rfl
  | cons n ns ih =>
    have hrest : ∀ n ∈ ns, 0 ≤ n.toInt := fun n hmem => hns n (List.mem_cons_of_mem _ hmem)
    rw [left] at hleft
    by_cases hle : execNum ≤ n
    · rw [if_pos hle] at hleft
      obtain ⟨hnonneg, -, hsum⟩ := takes_spec hrest (show 0 ≤ (0 : Int32).toInt from le_rfl)
      have hms : 0 ≤ ((takes ns 0).map Int32.toInt).sum := List.sum_nonneg (by simpa using hnonneg)
      rw [Int32.toInt_zero] at hsum
      omega
    · rw [if_neg hle] at hleft
      rw [takes, if_neg hle, List.map_cons, List.sum_cons, ih hrest hleft, List.map_cons,
        List.sum_cons]

/-- The highest numbers for safe shares. -/
lemma exists_highest (hsafe : ∀ num ∈ nums, Safe (width num)) :
    ∃ draws, Drawn nums draws ∧ ((nears nums draws).map Int32.toInt).sum =
      (nums.map fun num => highest (width num)).sum := by
  induction nums with
  | nil => exact ⟨[], .nil, rfl⟩
  | cons num nums ih =>
    have hpos := (hsafe num List.mem_cons_self).1
    obtain ⟨draws, hdraws, hsum⟩ := ih fun num hnum => hsafe num (List.mem_cons_of_mem _ hnum)
    have hcast : ((width num - 1).toNat : ℤ) = width num - 1 := Int.toNat_of_nonneg (by omega)
    have hdraw : ((width num - 1).toNat : ℤ) < width num := by omega
    refine ⟨(width num - 1).toNat :: draws, .cons hdraw hdraws, ?_⟩
    have hhead : (near num (Int32.ofNat (width num - 1).toNat)).toInt = highest (width num) := by
      rw [toInt_near hdraw, hcast, highest]
    exact congrArg₂ (· + ·) hhead hsum

/-- **What an unsafe first share needs**: the sum fits, and the other items do not take more than
there is. -/
lemma NeverNegative.first {first second : Int32} {rest : List Int32}
    (h : NeverNegative (first :: second :: rest) execNum) (hexecNum : 0 < execNum.toInt)
    (hfirst : ¬Safe (width first)) (hothers : ∀ num ∈ second :: rest, Safe (width num))
    (hfew : rest.length ≤ 1) :
    execNum.toInt - lowest (width first) < 2 ^ 31 ∧
      ((second :: rest).map fun num => highest (width num)).sum ≤ execNum.toInt := by
  obtain ⟨draw, hdraw, hnear, hneg⟩ :=
    exists_lowest (h.width_pos first List.mem_cons_self) hfirst
  obtain ⟨draws, hdraws, hhighest⟩ := exists_highest hothers
  obtain ⟨counts, rng', hrun, hnonneg⟩ := h.of_draws (.cons hdraw hdraws) 0
  have hns : nears (first :: second :: rest) (draw :: draws) =
      near first (Int32.ofNat draw) :: nears (second :: rest) draws := rfl
  have hlengthNs := length_nears hdraws
  have hrest := nears_nonneg hdraws hothers
  rw [hns] at hrun
  set n := near first (Int32.ofNat draw)
  set ns := nears (second :: rest) draws
  obtain ⟨htakes, hleft⟩ := takes_of_neg (n := n) (by omega) ns (by omega : 0 ≤ execNum.toInt)
  have hlengthTakes := length_takes ns (execNum - n)
  have hlength : ns.length = rest.length + 1 := hlengthNs
  have hlower := n.le_toInt
  have hupper := execNum.toInt_lt
  rw [htakes, hleft] at hrun
  have hfits : execNum.toInt - n.toInt < 2 ^ 31 := by
    by_contra hwraps
    have hsub : (execNum - n).toInt < 0 := by
      rw [Int32.toInt_sub, Int.bmod_def]
      split <;> omega
    -- the second item takes what is left, and that is negative
    obtain ⟨n₁, ns', hns'⟩ := List.exists_cons_of_length_pos (show 0 < ns.length by omega)
    have hn₁ : 0 ≤ n₁.toInt := hrest n₁ (hns' ▸ List.mem_cons_self)
    have htake : (n :: takes ns (execNum - n))[1]? = some (execNum - n) := by
      have hle : execNum - n ≤ n₁ := by
        rw [Int32.le_iff_toInt_le]
        omega
      rw [hns', takes, if_pos hle]
      rfl
    have hm := nonneg_of_settle hrun hnonneg (by rw [List.length_cons]; omega)
      (by rw [List.length_cons]; omega) htake (by rw [Nat.zero_mod]; exact Nat.zero_ne_one)
    omega
  refine ⟨hnear ▸ hfits, ?_⟩
  by_contra hmany
  have hsub : (execNum - n).toInt = execNum.toInt - n.toInt :=
    Int32.toInt_sub_of_fits (by omega) hfits
  obtain ⟨hms, -, hsum⟩ := takes_spec hrest (show 0 ≤ (execNum - n).toInt by omega)
  by_cases hpos : 0 < (left ns (execNum - n)).toInt
  · -- what the first item gets back is not enough
    have hsum' := sum_takes_of_left hrest hpos
    have hnonneg' : 0 ≤ ((takes ns (execNum - n)).map Int32.toInt).sum :=
      List.sum_nonneg (by simpa using hms)
    rw [run_settle_of_pos hpos (by rw [List.length_cons]; omega)
      (by rw [List.length_cons]; omega)] at hrun
    have hplace : (rngOf [0]).draw 0 % ((n :: takes ns (execNum - n)).length / 2) = 0 :=
      Nat.zero_mod _
    rw [hplace, List.modify_zero_cons] at hrun
    cases hrun
    have hback := hnonneg _ List.mem_cons_self
    rw [Int32.toInt_add_of_fits (by omega) (by omega)] at hback
    omega
  · rw [run_settle_of_nonpos (by omega)] at hrun
    cases hrun
    have hback := hnonneg n List.mem_cons_self
    omega

/-- A single item does not take all, and what is left goes nowhere. -/
lemma not_neverNegative_single {num : Int32} (hexecNum : 0 < execNum.toInt)
    (hnear : 0 < width num → nearOf (width num) 0 < execNum.toInt) :
    ¬NeverNegative [num] execNum := by
  intro h
  have hpos := h.width_pos num List.mem_cons_self
  have hdraw : ((0 : ℕ) : ℤ) < width num := hpos
  obtain ⟨counts, rng', hrun, hnonneg⟩ := h.of_draws (.cons hdraw .nil) 0
  have hns : nears [num] [0] = [near num (Int32.ofNat 0)] := rfl
  have hn : (near num (Int32.ofNat 0)).toInt < execNum.toInt := by
    rw [toInt_near hdraw]
    exact hnear hpos
  rw [hns] at hrun
  set n := near num (Int32.ofNat 0)
  have hnot : ¬execNum ≤ n := by
    rw [Int32.le_iff_toInt_le]
    omega
  have htakes : takes [n] execNum = [n] := if_neg hnot
  have hleft : left [n] execNum = execNum - n := if_neg hnot
  rw [htakes, hleft] at hrun
  by_cases hpos' : 0 < (execNum - n).toInt
  · rw [run_settle_of_short hpos' (show [n].length < 2 from Nat.one_lt_two)] at hrun
    cases hrun
  · rw [run_settle_of_nonpos (by omega)] at hrun
    cases hrun
    have hn' := hnonneg n List.mem_cons_self
    have hupper := execNum.toInt_lt
    rw [Int32.toInt_sub_of_fits (by omega) (by omega)] at hpos'
    omega

/-- **Counts that never come out negative** are those of such shares. -/
lemma NeverNegative.spreads (h : NeverNegative nums execNum) (hexecNum : 0 < execNum.toInt)
    (hsize : nums.length < 2 ^ 31)
    (hsingle : ∀ num, nums = [num] → 0 < width num → nearOf (width num) 0 < execNum.toInt) :
    Spreads nums execNum := by
  cases nums with
  | nil =>
    -- what is left of no items goes nowhere
    obtain ⟨counts, rng', hrun, -⟩ := h.of_draws .nil 0
    rw [show takes (nears [] []) execNum = [] from rfl,
      show left (nears [] []) execNum = execNum from rfl,
      run_settle_of_short hexecNum (show ([] : List Int32).length < 2 from Nat.zero_lt_two)] at hrun
    cases hrun
  | cons first nums =>
    cases nums with
    | nil => exact absurd h (not_neverNegative_single hexecNum (hsingle first rfl))
    | cons second rest =>
      have hlength : 2 ≤ (first :: second :: rest).length := Nat.le_add_left 2 _
      have hothers : ∀ num ∈ second :: rest, Safe (width num) := by
        intro num hnum
        obtain ⟨i, hi⟩ := List.getElem?_of_mem hnum
        exact h.safe hlength hsize (i := i + 1) (by rwa [List.getElem?_cons_succ])
          (.inl (Nat.succ_ne_zero i))
      refine ⟨h.width_pos first List.mem_cons_self, hothers, ?_⟩
      by_cases hfirst : Safe (width first)
      · exact .inl hfirst
      · have hfew : rest.length ≤ 1 := by
          by_contra hmany
          refine hfirst (h.safe hlength hsize (i := 0) rfl (.inr ?_))
          rw [List.length_cons, List.length_cons]
          omega
        exact .inr ⟨hfew, h.first hexecNum hfirst hothers hfew⟩

end Wrong

/-! ## A single item -/

/-- **The share of a single item** is all there is, or the product has wrapped around and it is
less: the number near it is below what there is. -/
lemma nearOf_single {sumWeight execNum weight : Int32} (hpos : 0 < weight.toInt)
    (hweight : weight = sumWeight) (hexecNum : 0 < execNum.toInt)
    (hwidth : 0 < width (share sumWeight execNum weight)) :
    nearOf (width (share sumWeight execNum weight)) 0 < execNum.toInt := by
  subst hweight
  obtain ⟨-, hlt⟩ := width_mod (share weight execNum weight)
  by_cases hmany : 214748364 < execNum.toInt
  · -- no number is that high
    unfold nearOf
    split_ifs <;> omega
  have hne : weight ≠ -1 := by
    rintro rfl
    exact absurd hpos (by decide)
  have hshare : (share weight execNum weight).toInt =
      (weight * execNum).toInt.tdiv weight.toInt := Int32.toInt_div_of_ne_right _ _ hne
  have hmul : (weight * execNum).toInt = (weight.toInt * execNum.toInt).bmod (2 ^ 32) :=
    Int32.toInt_mul _ _
  have hwidth' : width (share weight execNum weight) =
      ((share weight execNum weight).toInt * 4).bmod (2 ^ 32) := Int32.toInt_mul _ _
  have hprod : 0 < weight.toInt * execNum.toInt := Int.mul_pos hpos hexecNum
  have hle : (weight * execNum).toInt ≤ weight.toInt * execNum.toInt := by
    rw [hmul, Int.bmod_def]
    split <;> omega
  have hbounds : -2 ^ 31 ≤ (weight * execNum).toInt ∧ (weight * execNum).toInt < 2 ^ 31 :=
    ⟨(weight * execNum).le_toInt, (weight * execNum).toInt_lt⟩
  set product := (weight * execNum).toInt
  -- the share is at most what there is, and four times the share fits
  have hspec : (share weight execNum weight).toInt ≤ execNum.toInt ∧
      -2 ^ 29 ≤ (share weight execNum weight).toInt := by
    by_cases hfits : weight.toInt * execNum.toInt < 2 ^ 31
    · have hexact : product = weight.toInt * execNum.toInt := by
        rw [hmul, Int.bmod_def]
        split <;> omega
      rw [hshare, hexact, Int.mul_tdiv_cancel_left _ (by omega)]
      omega
    · have hten : 10 ≤ weight.toInt := by
        by_contra hlow
        have hprod' : weight.toInt * execNum.toInt ≤ 9 * 214748364 :=
          Int.mul_le_mul (by omega) (by omega) (by omega) (by omega)
        omega
      rw [hshare]
      by_cases hneg : product < 0
      · have hflip : product.tdiv weight.toInt = -(-product / weight.toInt) := by
          rw [← Int.tdiv_eq_ediv_of_nonneg (show 0 ≤ -product by omega), Int.neg_tdiv, neg_neg]
        have hdiv : 0 ≤ -product / weight.toInt := Int.ediv_nonneg (by omega) (by omega)
        have hmul' : -product / weight.toInt * 10 ≤ -product :=
          (Int.mul_le_mul_of_nonneg_left hten hdiv).trans (Int.ediv_mul_le _ (by omega))
        omega
      · rw [Int.tdiv_eq_ediv_of_nonneg (by omega)]
        have hdiv : 0 ≤ product / weight.toInt := Int.ediv_nonneg (by omega) (by omega)
        refine ⟨?_, by omega⟩
        refine Int.le_of_mul_le_mul_right ?_ hpos
        rw [mul_comm execNum.toInt]
        exact (Int.ediv_mul_le _ (by omega)).trans hle
  have hfour : width (share weight execNum weight) = (share weight execNum weight).toInt * 4 := by
    rw [hwidth', Int.bmod_def]
    split <;> omega
  unfold nearOf
  split_ifs <;> omega

/-! ## Few draws -/

/-- Where every random number is zero, items without a value add nothing. -/
lemma addItems_unmarked {weights : List Int32} (hpos : ∀ weight ∈ weights, 0 < weight)
    (sumValue : Int32) :
    addItems (weights.map fun weight => ⟨weight, 0⟩) 0 sumValue = sumValue := by
  induction weights generalizing sumValue with
  | nil => rfl
  | cons weight weights ih =>
    have hnot : ¬weight < 0 := by
      have hweight := hpos weight List.mem_cons_self
      rw [Int32.lt_iff_toInt_lt, Int32.toInt_zero] at hweight ⊢
      omega
    rw [addItems, List.map_cons, List.foldl_cons]
    simp only [if_neg hnot, Int32.add_zero]
    exact ih (fun weight hmem => hpos weight (List.mem_cons_of_mem _ hmem)) sumValue

/-- And a first item of value 1 is counted. -/
lemma addItems_marked {weight : Int32} {weights : List Int32}
    (hpos : ∀ w ∈ weight :: weights, 0 < w) (sumValue : Int32) :
    addItems (marked (weight :: weights) 0) 0 sumValue = sumValue + 1 := by
  have hnot : ¬weight < 0 := by
    have hweight := hpos weight List.mem_cons_self
    rw [Int32.lt_iff_toInt_lt, Int32.toInt_zero] at hweight ⊢
    omega
  rw [addItems, marked, List.foldl_cons]
  simp only [if_neg hnot]
  exact addItems_unmarked (fun w hmem => hpos w (List.mem_cons_of_mem _ hmem)) _

/-- **A hundred times** the first item is counted, however many draws there are to be. -/
lemma run_drawItems_marked {weight sumWeight : Int32} {weights : List Int32}
    (hpos : ∀ w ∈ weight :: weights, 0 < w) (hsum : 0 < sumWeight.toInt) (k : ℕ)
    (sumValue : Int32) :
    (drawItems ⟨marked (weight :: weights) 0, sumWeight⟩ k sumValue).run (rngOf []) =
      .ok (sumValue + Int32.ofNat k) (rngOf []) := by
  induction k generalizing sumValue with
  | zero => rw [drawItems, show Int32.ofNat 0 = 0 from rfl, Int32.add_zero]; rfl
  | succ k ih =>
    have hzero : Int32.ofNat ((rngOf []).draw 0 % sumWeight.toInt.toNat) = 0 := by
      rw [show (rngOf []).draw 0 = 0 from rfl, Nat.zero_mod]
      rfl
    have hnext : (⟨fun n => (rngOf []).draw (n + 1)⟩ : Rng) = rngOf [] := rfl
    rw [drawItems, EStateM.run_bind, run_nextInt_of_pos hsum, hzero, hnext]
    simp only [addItems_marked hpos]
    have hone : (1 : Int32) + Int32.ofNat k = Int32.ofNat (k + 1) := by
      rw [Int32.ofNat_add, Int32.add_comm]
      rfl
    rw [ih, Int32.add_assoc, hone]

/-! ## The condition is exact -/

section Exact

variable {weights : List Int32} {sumWeight execNum : Int32}

/-- Tables with one weight configuration. -/
def onlyWeight (config : WeightConfig) : Configs :=
  ⟨.ofList [], fun _ => some config, fun _ => none⟩

/-- What an amount is to be, for items with given values. -/
lemma Distributes.of_items (h : Distributes weights sumWeight execNum) {items : List WeightItem}
    (hitems : items.map WeightItem.weight = weights) (rng : Rng) :
    ∃ value rng' counts, (randomWeightValue (onlyWeight ⟨items, sumWeight⟩)
        ⟨0, 0, true, 0, 0, false⟩ execNum).run rng = .ok value rng' ∧ counts.length = items.length ∧
      Counts execNum counts ∧ value = totalValue counts items :=
  h (onlyWeight ⟨items, sumWeight⟩) ⟨0, 0, true, 0, 0, false⟩ ⟨items, sumWeight⟩ rng rfl hitems rfl

/-- A count is at most the sum of all. -/
lemma Counts.le {counts : List Int32} (h : Counts execNum counts) {n : Int32} (hn : n ∈ counts) :
    n.toInt ≤ execNum.toInt := by
  rw [← h.sum]
  exact List.single_le_sum (by simpa using h.nonneg) _ (List.mem_map_of_mem hn)

/-- **Fewer than a hundred draws** do not come out right. -/
lemma Distributes.large (h : Distributes weights sumWeight execNum)
    (hpos : ∀ weight ∈ weights, 0 < weight)
    (hsum : sumWeight.toInt = (weights.map Int32.toInt).sum) : 100 ≤ execNum := by
  by_contra hsmall
  cases weights with
  | nil =>
    -- the bound of the random numbers is zero
    obtain ⟨value, rng', counts, hrun, -⟩ :=
      h.of_items (List.map_nil (f := WeightItem.weight)) (rngOf [])
    have hzero : sumWeight.toInt ≤ 0 := by
      rw [hsum]
      exact le_rfl
    rw [randomWeightValue, onlyWeight] at hrun
    simp only [if_neg hsmall] at hrun
    rw [drawItems, EStateM.run_bind, run_nextInt_of_nonpos hzero] at hrun
    cases hrun
  | cons weight weights =>
    obtain ⟨value, rng', counts, hrun, hlength, hcounts, hvalue⟩ :=
      h.of_items (weight_marked (weight :: weights) 0) (rngOf [])
    have hsumPos : 0 < sumWeight.toInt := by
      have hfirst := hpos weight List.mem_cons_self
      have hrest : 0 ≤ (weights.map Int32.toInt).sum := by
        refine List.sum_nonneg fun w hw => ?_
        obtain ⟨w', hw', rfl⟩ := List.mem_map.mp hw
        have hw'' := hpos w' (List.mem_cons_of_mem _ hw')
        rw [Int32.lt_iff_toInt_lt, Int32.toInt_zero] at hw''
        omega
      rw [Int32.lt_iff_toInt_lt, Int32.toInt_zero] at hfirst
      rw [hsum, List.map_cons, List.sum_cons]
      omega
    rw [randomWeightValue, onlyWeight] at hrun
    simp only [if_neg hsmall] at hrun
    rw [run_drawItems_marked hpos hsumPos] at hrun
    have hhundred : value = 100 := by
      cases hrun
      rfl
    have hlength' : counts.length = (weight :: weights).length := by
      rw [hlength, ← List.length_map WeightItem.weight, weight_marked]
    obtain ⟨n, counts', rfl⟩ := List.exists_cons_of_length_pos
      (show 0 < counts.length by rw [hlength']; exact Nat.succ_pos _)
    rw [totalValue_marked hlength' rfl, hhundred] at hvalue
    have hle := hcounts.le (n := n) List.mem_cons_self
    rw [← hvalue] at hle
    exact hsmall (Int32.le_iff_toInt_le.mpr hle)

/-- **Counts that come out right** are never negative: the marked items show them. -/
lemma Distributes.neverNegative (h : Distributes weights sumWeight execNum)
    (hlarge : 100 ≤ execNum) (hsum : weights ≠ [] → sumWeight ≠ 0) :
    NeverNegative (weights.map (share sumWeight execNum)) execNum := by
  have hitems : ∀ i, marked weights i ≠ [] → sumWeight ≠ 0 := by
    intro i hne
    refine hsum ?_
    rintro rfl
    exact hne rfl
  have hrun : ∀ i, randomWeightValue (onlyWeight ⟨marked weights i, sumWeight⟩)
      ⟨0, 0, true, 0, 0, false⟩ execNum = do
        let counts ← allot (weights.map (share sumWeight execNum)) execNum
        return totalValue counts (marked weights i) := by
    intro i
    have hconfig : (onlyWeight ⟨marked weights i, sumWeight⟩).weight
        (⟨0, 0, true, 0, 0, false⟩ : FuncParam).param2 = some ⟨marked weights i, sumWeight⟩ := rfl
    have heq := randomWeightValue_eq hconfig hlarge (hitems i)
    rwa [weight_marked] at heq
  intro rng
  obtain ⟨value₀, rng₀, -, hrun₀, -⟩ := h.of_items (weight_marked weights 0) rng
  rw [hrun] at hrun₀
  obtain ⟨counts, rng', hallot, -⟩ := EStateM.run_bind_eq_ok.mp hrun₀
  refine ⟨counts, rng', hallot, fun n hn => ?_⟩
  obtain ⟨i, hi⟩ := List.getElem?_of_mem hn
  obtain ⟨value, rng'', counts', hrun', hlength', hcounts', hvalue⟩ :=
    h.of_items (weight_marked weights i) rng
  rw [hrun, EStateM.run_bind, hallot] at hrun'
  have hlength : counts.length = weights.length := by
    rw [length_allot hallot, List.length_map]
  have hvalue' : value = n := by
    cases hrun'
    exact totalValue_marked hlength hi
  have hlength'' : counts'.length = weights.length := by
    rw [hlength', ← List.length_map WeightItem.weight, weight_marked]
  obtain ⟨m, hm⟩ : ∃ m, counts'[i]? = some m := by
    have hlt := (List.getElem?_eq_some_iff.mp hi).1
    exact ⟨_, List.getElem?_eq_getElem (by omega)⟩
  rw [totalValue_marked hlength'' hm, hvalue'] at hvalue
  rw [hvalue]
  exact hcounts'.nonneg m (List.mem_of_getElem? hm)

/-- Positive weights are at least as many as their sum. -/
lemma length_le_sum {weights : List Int32} (hpos : ∀ weight ∈ weights, 0 < weight) :
    (weights.length : ℤ) ≤ (weights.map Int32.toInt).sum := by
  induction weights with
  | nil => exact le_rfl
  | cons weight weights ih =>
    have hfirst := hpos weight List.mem_cons_self
    have hrest := ih fun w hw => hpos w (List.mem_cons_of_mem _ hw)
    rw [Int32.lt_iff_toInt_lt, Int32.toInt_zero] at hfirst
    rw [List.length_cons, List.map_cons, List.sum_cons]
    omega

/-- **A random amount is the value of `execNum` draws** exactly for a hundred draws and more whose
shares spread. -/
theorem distributes_iff (hpos : ∀ weight ∈ weights, 0 < weight)
    (hsum : sumWeight.toInt = (weights.map Int32.toInt).sum) (hexecNum : 1 ≤ execNum) :
    Distributes weights sumWeight execNum ↔
      100 ≤ execNum ∧ Spreads (weights.map (share sumWeight execNum)) execNum := by
  have hexecPos : 0 < execNum.toInt := by
    rw [Int32.le_iff_toInt_le] at hexecNum
    exact hexecNum
  have hcount := length_le_sum hpos
  have hupper := sumWeight.toInt_lt
  have hsize : (weights.map (share sumWeight execNum)).length < 2 ^ 31 := by
    rw [List.length_map]
    omega
  have hne : weights ≠ [] → sumWeight ≠ 0 := by
    rintro hne rfl
    have hlength := List.length_pos_iff.mpr hne
    rw [Int32.toInt_zero] at hsum
    omega
  constructor
  · intro h
    have hlarge := h.large hpos hsum
    refine ⟨hlarge, (h.neverNegative hlarge hne).spreads hexecPos hsize ?_⟩
    intro num hsingle hwidth
    obtain ⟨weight, rfl, rfl⟩ : ∃ weight, weights = [weight] ∧
        share sumWeight execNum weight = num := by
      cases weights with
      | nil => cases hsingle
      | cons weight weights =>
        cases weights with
        | nil => exact ⟨weight, rfl, List.singleton_injective hsingle⟩
        | cons => cases hsingle
    have hweight : weight = sumWeight := by
      rw [← Int32.toInt_inj, hsum]
      exact (add_zero weight.toInt).symm
    have hweightPos := hpos weight List.mem_cons_self
    rw [Int32.lt_iff_toInt_lt, Int32.toInt_zero] at hweightPos
    exact nearOf_single hweightPos hweight hexecPos hwidth
  · rintro ⟨hlarge, hspreads⟩ cfgs param config rng hconfig hitems hsumWeight
    obtain ⟨counts, rng', hallot, hlength, hcounts⟩ :=
      allot_of_spreads hspreads (by omega) hsize rng
    subst hitems hsumWeight
    rw [randomWeightValue_eq hconfig hlarge fun hitems => hne fun hmap => hitems
      (List.map_eq_nil_iff.mp hmap), EStateM.run_bind, hallot]
    exact ⟨_, rng', counts, rfl, by rw [hlength, List.length_map, List.length_map], hcounts, rfl⟩

end Exact

/-- Two weights of 1. -/
lemma pos_of_mem_ones : ∀ weight ∈ ([1, 1] : List Int32), 0 < weight := by
  simp

/-- Two items of one weight and a hundred draws. -/
theorem distributes_hundred : Distributes [1, 1] 2 100 := by
  refine (distributes_iff pos_of_mem_ones (by decide) (by decide)).mpr ⟨by decide, ?_⟩
  have hwidth : width (share 2 100 1) = 200 := by decide
  have hsafe : Safe 200 := ⟨by decide, .inl (by decide)⟩
  refine ⟨?_, ?_, .inl ?_⟩
  · rw [hwidth]
    decide
  · intro num hnum
    obtain rfl := List.mem_singleton.mp hnum
    rwa [hwidth]
  · rwa [hwidth]

/-- A single draw counts a hundred; and of a hundred draws an item gets no share at all. -/
theorem not_distributes : ¬Distributes [1, 1] 2 1 ∧ ¬Distributes [1, 999] 1000 100 := by
  refine ⟨fun h => ?_, fun h => ?_⟩
  · exact absurd (h.large pos_of_mem_ones (by decide)) (by decide)
  · have hnever := h.neverNegative (by decide) fun _ => by decide
    exact absurd (hnever.width_pos (share 1000 100 1) List.mem_cons_self) (by decide)

end SrgpGame.Func
