import Mathlib.Data.List.FinRange
import Mathlib.Data.List.InsertIdx
import SrgpGame.Func.Weight
import SrgpGame.Lib.Cumulative

set_option autoImplicit false

/-!
# Executors that choose

Two executors choose among the functions they have accepted. `RandomFuncsExecutor` chooses a number
of them: it removes functions at random until so many are left. `RouletteFuncsExecutor` chooses one
of them, by rate.

## Main definitions

* `RandomFuncsExecutor`, `RouletteFuncsExecutor` — the two executors, with `acceptFunc` and
  `getFuncs`.
* `ChoosesSome`, `ChoosesOne` — what their choices are to be.

## Main results

* `choosesSome_getFuncs` — the first executor can choose all functions but as many as are removed.
* `choosesOne_getFuncs_iff` — the second one chooses by rate just if the sum of the rates is an
  `int`.
* `chooses_iff` — both together.

## Design notes

The functions are of any type, with their rates; a choice is described by the places of the chosen
functions, as one function can be accepted twice.
-/

/-- A shorter sublist is a sublist without some element of the list. -/
lemma List.Sublist.exists_eraseIdx {α : Type*} {l₁ l₂ : List α} (h : l₁.Sublist l₂)
    (hlt : l₁.length < l₂.length) : ∃ i < l₂.length, l₁.Sublist (l₂.eraseIdx i) := by
  induction h with
  | slnil => exact absurd hlt (lt_irrefl 0)
  | @cons l₁ l₂ a h ih => exact ⟨0, Nat.succ_pos _, h⟩
  | @cons_cons l₁ l₂ a h ih =>
    rw [List.length_cons, List.length_cons] at hlt
    obtain ⟨i, hi, hsub⟩ := ih (by omega)
    refine ⟨i + 1, by rw [List.length_cons]; omega, ?_⟩
    rw [List.eraseIdx_cons_succ]
    exact hsub.cons_cons a

namespace SrgpGame.Func

open EStateM
open Cumulative (total pick)

variable {α β : Type} {funcs : List α}

/-! ## Some functions at random -/

/-- `RandomFuncsExecutor`: the functions accepted so far, and how many are to be chosen. -/
structure RandomFuncsExecutor (α : Type) where
  allFuncs : List α
  randomNum : Int32

namespace RandomFuncsExecutor

/-- `setExecutorParam`. -/
def setExecutorParam (exec : RandomFuncsExecutor α) (param : Int32) : RandomFuncsExecutor α :=
  { exec with randomNum := param }

/-- `acceptFunc`. -/
def acceptFunc (exec : RandomFuncsExecutor α) (func : α) : RandomFuncsExecutor α :=
  { exec with allFuncs := exec.allFuncs ++ [func] }

/-- An executor with a parameter that has accepted functions. -/
def accepted (param : Int32) (funcs : List α) : RandomFuncsExecutor α :=
  funcs.foldl acceptFunc (setExecutorParam ⟨[], 0⟩ param)

/-- The loop of `getFuncs`: removes a function at random, `rm` times. -/
def removeRandom : ℕ → List α → EStateM Thrown Rng (List α)
  | 0, ret => pure ret
  | rm + 1, ret => do
    let index ← nextInt (Int32.ofNat ret.length)
    removeRandom rm (ret.eraseIdx index.toInt.toNat)

/-- **`getFuncs`**: what is left of the functions after the removals. -/
def getFuncs (exec : RandomFuncsExecutor α) : EStateM Thrown Rng (List α) :=
  let funcSize := Int32.ofNat exec.allFuncs.length
  let selectNum := min exec.randomNum funcSize
  if selectNum < funcSize then
    let rm := funcSize - selectNum
    removeRandom rm.toInt.toNat exec.allFuncs
  else pure exec.allFuncs

lemma foldl_acceptFunc (exec : RandomFuncsExecutor α) (funcs : List α) :
    funcs.foldl acceptFunc exec = ⟨exec.allFuncs ++ funcs, exec.randomNum⟩ := by
  induction funcs generalizing exec with
  | nil => rw [List.foldl_nil, List.append_nil]
  | cons func funcs ih =>
    rw [List.foldl_cons, ih, acceptFunc, List.append_assoc]
    rfl

lemma accepted_eq (param : Int32) (funcs : List α) : accepted param funcs = ⟨funcs, param⟩ :=
  foldl_acceptFunc _ funcs

/-- **What the removals leave** are the functions at some of the places, in the order of the
places. -/
lemma removeRandom_run (f : β → α) {rm : ℕ} {places : List β} (hle : rm ≤ places.length)
    (hsize : places.length < 2 ^ 31) (rng : Rng) :
    ∃ (places' : List β) (rng' : Rng),
      (removeRandom rm (places.map f)).run rng = .ok (places'.map f) rng' ∧
        places'.Sublist places ∧ places'.length = places.length - rm := by
  induction rm generalizing places rng with
  | zero => exact ⟨places, rng, rfl, List.Sublist.refl places, rfl⟩
  | succ rm ih =>
    obtain ⟨index, hdraw, hindex⟩ := run_nextInt_length (by omega) hsize rng
    have hlt : index.toInt.toNat < places.length := by
      rw [hindex]
      exact Nat.mod_lt _ (by omega)
    have hlength := List.length_eraseIdx_of_lt hlt
    have hle' : rm ≤ (places.eraseIdx index.toInt.toNat).length := by omega
    obtain ⟨places', rng', hrun, hsub, hlength'⟩ :=
      ih hle' (by omega) ⟨fun k => rng.draw (k + 1)⟩
    refine ⟨places', rng', ?_, hsub.trans (List.eraseIdx_sublist _ _), by omega⟩
    simp only [removeRandom, List.length_map, run_bind, hdraw, List.eraseIdx_map]
    exact hrun

/-- **Whatever places are to be left**, some numbers leave them. -/
lemma removeRandom_reaches (f : β → α) {rm : ℕ} {places places' : List β}
    (hsub : places'.Sublist places) (hlength : places'.length + rm = places.length)
    (hsize : places.length < 2 ^ 31) :
    ∃ rng rng', (removeRandom rm (places.map f)).run rng = .ok (places'.map f) rng' := by
  induction rm generalizing places with
  | zero =>
    obtain rfl := hsub.eq_of_length hlength
    exact ⟨⟨fun _ => 0⟩, _, rfl⟩
  | succ rm ih =>
    obtain ⟨i, hi, hsub'⟩ := hsub.exists_eraseIdx (by omega)
    have hlength' := List.length_eraseIdx_of_lt hi
    obtain ⟨rng, rng', hrun⟩ := ih hsub' (by omega) (by omega)
    -- the place to be removed is drawn first
    let rng₀ : Rng := ⟨fun | 0 => i | k + 1 => rng.draw k⟩
    obtain ⟨index, hdraw, hindex⟩ := run_nextInt_length (by omega) hsize rng₀
    have hi' : index.toInt.toNat = i := hindex.trans (Nat.mod_eq_of_lt hi)
    refine ⟨rng₀, rng', ?_⟩
    simp only [removeRandom, List.length_map, run_bind, hdraw, List.eraseIdx_map, hi']
    exact hrun

end RandomFuncsExecutor

/-- **What a choice of `n` functions is to be.** -/
structure ChoosesSome (n : ℕ) (funcs : List α) (getFuncs : EStateM Thrown Rng (List α)) : Prop where
  /-- The functions at `n` places are chosen, or all if there are fewer, in their order. -/
  chooses : ∀ rng, ∃ (places : List (Fin funcs.length)) (rng' : Rng),
    getFuncs.run rng = .ok (places.map funcs.get) rng' ∧
      places.Sublist (List.finRange funcs.length) ∧ places.length = min n funcs.length
  /-- Any such places can be chosen. -/
  reaches : ∀ places : List (Fin funcs.length), places.Sublist (List.finRange funcs.length) →
    places.length = min n funcs.length →
      ∃ rng rng', getFuncs.run rng = .ok (places.map funcs.get) rng'

/-- **`RandomFuncsExecutor` chooses as many functions as it is to choose.** -/
lemma choosesSome_getFuncs (hsize : funcs.length < 2 ^ 31) {randomNum : Int32}
    (hn : 0 ≤ randomNum) :
    ChoosesSome randomNum.toInt.toNat funcs
      (RandomFuncsExecutor.accepted randomNum funcs).getFuncs := by
  have hn' := Int32.le_iff_toInt_le.mp hn
  rw [Int32.toInt_zero] at hn'
  have hint : (Int32.ofNat funcs.length).toInt = funcs.length := Int32.toInt_ofNat_of_lt hsize
  have hmin := Int32.toInt_min randomNum (Int32.ofNat funcs.length)
  have hget : (RandomFuncsExecutor.accepted randomNum funcs).getFuncs =
      RandomFuncsExecutor.removeRandom (funcs.length - randomNum.toInt.toNat)
        ((List.finRange funcs.length).map funcs.get) := by
    rw [RandomFuncsExecutor.accepted_eq, RandomFuncsExecutor.getFuncs, List.map_get_finRange]
    simp only
    split_ifs with hlt
    · have hlt' := Int32.lt_iff_toInt_lt.mp hlt
      have hsub : (Int32.ofNat funcs.length - min randomNum (Int32.ofNat funcs.length)).toInt =
          (Int32.ofNat funcs.length).toInt - (min randomNum (Int32.ofNat funcs.length)).toInt :=
        Int32.toInt_sub_of_fits (by omega) (by omega)
      congr 1
      omega
    · have hle := Int32.le_iff_toInt_le.mp (Int32.not_lt.mp hlt)
      have hzero : funcs.length - randomNum.toInt.toNat = 0 := by omega
      rw [hzero, RandomFuncsExecutor.removeRandom]
  rw [hget]
  have hplaces : (List.finRange funcs.length).length = funcs.length := List.length_finRange
  constructor
  · intro rng
    have hle : funcs.length - randomNum.toInt.toNat ≤ (List.finRange funcs.length).length := by
      omega
    obtain ⟨places, rng', hrun, hsub, hlength⟩ :=
      RandomFuncsExecutor.removeRandom_run funcs.get hle (by omega) rng
    exact ⟨places, rng', hrun, hsub, by omega⟩
  · intro places hsub hlength
    exact RandomFuncsExecutor.removeRandom_reaches funcs.get hsub (by omega) (by omega)

/-! ## One function by rate -/

/-- `RouletteFuncsExecutor`: the functions accepted so far, and the sum of their rates. -/
structure RouletteFuncsExecutor (α : Type) where
  allFuncs : List α
  maxRate : Int32

namespace RouletteFuncsExecutor

variable (getRate : α → Int32)

/-- `acceptFunc`, with `whenAcceptFunc`. -/
def acceptFunc (exec : RouletteFuncsExecutor α) (func : α) : RouletteFuncsExecutor α :=
  { allFuncs := exec.allFuncs ++ [func], maxRate := exec.maxRate + getRate func }

/-- An executor that has accepted functions. -/
def accepted (funcs : List α) : RouletteFuncsExecutor α := funcs.foldl (acceptFunc getRate) ⟨[], 0⟩

/-- The loop of `getFuncs`: the first function with which the sum of the rates reaches the number
that was drawn. -/
def firstReaching (random : Int32) : List α → Int32 → List α
  | [], _ => []
  | func :: funcs, count =>
    let count := count + getRate func
    if random ≤ count then [func] else firstReaching random funcs count

/-- **`getFuncs`.** -/
def getFuncs (exec : RouletteFuncsExecutor α) : EStateM Thrown Rng (List α) := do
  let random ← nextInt exec.maxRate
  return firstReaching getRate (random + 1) exec.allFuncs 0

end RouletteFuncsExecutor

/-- The functions with their rates as natural numbers. -/
def rates (getRate : α → Int32) (funcs : List α) : List (α × ℕ) :=
  funcs.map fun func => (func, (getRate func).toInt.toNat)

lemma rates_cons (getRate : α → Int32) (func : α) (funcs : List α) :
    rates getRate (func :: funcs) = (func, (getRate func).toInt.toNat) :: rates getRate funcs := rfl

/-- **What a choice of one function is to be**: the number that is drawn chooses a place, and every
place has as many numbers as the rate of its function says. -/
def ChoosesOne (getRate : α → Int32) (funcs : List α) (exec : RouletteFuncsExecutor α) : Prop :=
  ∃ place : ℕ → Fin funcs.length,
    (∀ rng, ∃ rng', (exec.getFuncs getRate).run rng =
      .ok [funcs.get (place (rng.draw 0 % exec.maxRate.toInt.toNat))] rng') ∧
    ∀ i, (Nat.count (fun d => place d = i) exec.maxRate.toInt.toNat : ℤ) =
      (getRate (funcs.get i)).toInt

section Roulette

variable {getRate : α → Int32} (hnonneg : ∀ func ∈ funcs, 0 ≤ getRate func)
include hnonneg

/-- The executor has accepted the functions, and has added up their rates. -/
lemma RouletteFuncsExecutor.accepted_eq :
    accepted getRate funcs = ⟨funcs, Int32.ofNat (total (rates getRate funcs))⟩ := by
  have hloop : ∀ exec : RouletteFuncsExecutor α, funcs.foldl (acceptFunc getRate) exec =
      ⟨exec.allFuncs ++ funcs, exec.maxRate + Int32.ofNat (total (rates getRate funcs))⟩ := by
    induction funcs with
    | nil =>
      intro exec
      rw [List.foldl_nil, List.append_nil]
      exact congrArg (mk exec.allFuncs) (Int32.add_zero _).symm
    | cons func funcs ih =>
      intro exec
      have heq := Int32.ofNat_toNat_of_nonneg (hnonneg func List.mem_cons_self)
      rw [List.foldl_cons, ih fun f hf => hnonneg f (List.mem_cons_of_mem _ hf), acceptFunc,
        rates_cons, Cumulative.total_cons, Int32.ofNat_add, heq, Int32.add_assoc]
      simp only [List.append_assoc, List.singleton_append]
  rw [accepted, hloop, List.nil_append, Int32.zero_add]

/-- **The loop chooses by rate.** -/
lemma RouletteFuncsExecutor.firstReaching_eq {random count : Int32} (hcount : 0 ≤ count.toInt)
    (hlt : count.toInt < random.toInt)
    (hfits : count.toInt + total (rates getRate funcs) < 2 ^ 31) :
    firstReaching getRate random funcs count =
      (pick (rates getRate funcs) (random.toInt - count.toInt - 1).toNat).toList := by
  induction funcs generalizing count with
  | nil => rfl
  | cons func funcs ih =>
    have hrate := Int32.le_iff_toInt_le.mp (hnonneg func List.mem_cons_self)
    rw [Int32.toInt_zero] at hrate
    rw [rates_cons, Cumulative.total_cons] at hfits
    rw [rates_cons, pick, firstReaching]
    have hadd : (count + getRate func).toInt = count.toInt + (getRate func).toInt :=
      Int32.toInt_add_of_fits (by omega) (by omega)
    simp only [Int32.le_iff_toInt_le, hadd]
    split_ifs with hreach hpick hpick
    · rfl
    · omega
    · omega
    · have hcount' : 0 ≤ (count + getRate func).toInt := by omega
      have hrest := ih (fun f hf => hnonneg f (List.mem_cons_of_mem _ hf)) hcount' (by omega)
        (by omega)
      rw [hrest, hadd]
      congr 2
      omega

omit hnonneg in
/-- The places, with the rates of the functions there. -/
lemma rates_eq_map (getRate : α → Int32) (funcs : List α) :
    rates getRate funcs = ((List.finRange funcs.length).map fun i =>
      (i, (getRate (funcs.get i)).toInt.toNat)).map fun e => (funcs.get e.1, e.2) := by
  rw [List.map_map]
  conv_lhs => rw [rates, ← List.map_get_finRange funcs, List.map_map]
  rfl

/-- **By rate, as far as the sum of the rates is an `int`.** -/
lemma choosesOne_of_fits (hpos : 0 < total (rates getRate funcs))
    (hfits : total (rates getRate funcs) < 2 ^ 31) :
    ChoosesOne getRate funcs (RouletteFuncsExecutor.accepted getRate funcs) := by
  set places := (List.finRange funcs.length).map fun i =>
    (i, (getRate (funcs.get i)).toInt.toNat) with hplaces
  have hrates : rates getRate funcs = places.map fun e => (funcs.get e.1, e.2) :=
    rates_eq_map getRate funcs
  have htotal : total (rates getRate funcs) = total places := by
    rw [hrates, Cumulative.total_map]
  have hint : (Int32.ofNat (total places)).toInt = total places :=
    Int32.toInt_ofNat_of_lt (htotal ▸ hfits)
  -- every number below the sum has a place
  have hsome : ∀ d < total places, ∃ i, pick places d = some i := by
    intro d hd
    refine Option.ne_none_iff_exists'.mp fun hnone => ?_
    exact absurd ((Cumulative.pick_eq_none_iff d).mp hnone) (by omega)
  obtain ⟨i₀, -⟩ := hsome 0 (by omega)
  have hplace : ∀ d < total places, some ((pick places d).getD i₀) = pick places d := by
    intro d hd
    obtain ⟨i, hi⟩ := hsome d hd
    rw [hi, Option.getD_some]
  rw [RouletteFuncsExecutor.accepted_eq hnonneg, htotal]
  refine ⟨fun d => (pick places d).getD i₀, fun rng => ⟨⟨fun k => rng.draw (k + 1)⟩, ?_⟩,
    fun i => ?_⟩
  · simp only [hint, Int.toNat_natCast]
    have hmod := Nat.mod_lt (rng.draw 0) (show 0 < total places by omega)
    obtain ⟨i, hi⟩ := hsome _ hmod
    have hdraw : (Int32.ofNat (rng.draw 0 % total places)).toInt =
        (rng.draw 0 % total places : ℕ) :=
      Int32.toInt_ofNat_of_lt (by omega)
    have hadd : (Int32.ofNat (rng.draw 0 % total places) + 1).toInt =
        (rng.draw 0 % total places : ℕ) + 1 := by
      rw [Int32.toInt_succ_of_fits (by omega), hdraw]
    have hzero : (0 : Int32).toInt = 0 := Int32.toInt_zero
    have hreach : RouletteFuncsExecutor.firstReaching getRate
        (Int32.ofNat (rng.draw 0 % total places) + 1) funcs 0 = [funcs.get i] := by
      rw [RouletteFuncsExecutor.firstReaching_eq hnonneg (by omega) (by omega) (by omega), hadd,
        hzero, Int.sub_zero, Int.add_sub_cancel, Int.toNat_natCast, hrates, Cumulative.pick_map, hi]
      rfl
    rw [RouletteFuncsExecutor.getFuncs, run_bind, run_nextInt_of_pos (by simp only [hint]; omega)]
    simp only [hint, Int.toNat_natCast, hreach, hi, Option.getD_some, run_pure]
  · simp only [hint, Int.toNat_natCast]
    have hcount := Cumulative.count_of_eq_pick hplace i
    have hrate := Int32.le_iff_toInt_le.mp (hnonneg _ (List.get_mem funcs i))
    rw [Int32.toInt_zero] at hrate
    simp only [Option.some.injEq] at hcount
    rw [hcount, hplaces, Cumulative.mass_map_of_mem (List.nodup_finRange _) _ (List.mem_finRange i),
      Int.toNat_of_nonneg hrate]

/-- Whoever chooses by rate draws as many numbers as the rates sum up to. -/
lemma fits_of_choosesOne
    (h : ChoosesOne getRate funcs (RouletteFuncsExecutor.accepted getRate funcs)) :
    total (rates getRate funcs) < 2 ^ 31 := by
  obtain ⟨place, -, hcount⟩ := h
  set n := (RouletteFuncsExecutor.accepted getRate funcs).maxRate.toInt.toNat with hn
  have hshare : ∀ i, Nat.count (fun d => some (place d) = some i) n =
      Cumulative.mass (fun j => j = i) ((List.finRange funcs.length).map fun i =>
        (i, (getRate (funcs.get i)).toInt.toNat)) := by
    intro i
    have hrate := Int32.le_iff_toInt_le.mp (hnonneg _ (List.get_mem funcs i))
    rw [Int32.toInt_zero] at hrate
    have hi := hcount i
    rw [Cumulative.mass_map_of_mem (List.nodup_finRange _) _ (List.mem_finRange i)]
    simp only [Option.some.injEq]
    omega
  have htotal := Cumulative.total_eq_of_count (fun d _ => Option.some_ne_none _) hshare
  have hlt := (RouletteFuncsExecutor.accepted getRate funcs).maxRate.toInt_lt
  rw [rates_eq_map, Cumulative.total_map, htotal]
  omega

end Roulette

/-- **What the choices of both executors are to be**, for the functions they have accepted. -/
structure Chooses (getRate : α → Int32) (funcs : List α) : Prop where
  random : ∀ randomNum : Int32, 0 ≤ randomNum → ChoosesSome randomNum.toInt.toNat funcs
    (RandomFuncsExecutor.accepted randomNum funcs).getFuncs
  roulette : (∀ func ∈ funcs, 0 ≤ getRate func) → 0 < total (rates getRate funcs) →
    ChoosesOne getRate funcs (RouletteFuncsExecutor.accepted getRate funcs)

/-- **When both executors choose as they are to**: just when rates that are not negative have a sum
that is an `int`. -/
theorem chooses_iff (getRate : α → Int32) (hsize : funcs.length < 2 ^ 31) :
    Chooses getRate funcs ↔
      ((∀ func ∈ funcs, 0 ≤ getRate func) → total (rates getRate funcs) < 2 ^ 31) := by
  constructor
  · rintro ⟨-, hroulette⟩ hnonneg
    rcases Nat.eq_zero_or_pos (total (rates getRate funcs)) with hzero | hpos
    · rw [hzero]
      exact Nat.two_pow_pos 31
    · exact fits_of_choosesOne hnonneg (hroulette hnonneg hpos)
  · intro hfits
    exact ⟨fun randomNum hn => choosesSome_getFuncs hsize hn, fun hnonneg hpos =>
      choosesOne_of_fits hnonneg hpos (hfits hnonneg)⟩

/-- Three functions, named by numbers, one of which has no rate. -/
theorem chooses_threeFuncs : Chooses (fun func : ℕ => [3, 0, 2].getD func 0) [0, 1, 2] :=
  (chooses_iff _ (by decide)).mpr fun _ => by decide

/-- Two functions whose rates sum up to `2 ^ 31`: the sum is negative as an `int`, and no function
is chosen. -/
theorem not_chooses_overflow :
    ¬Chooses (fun func : Bool => if func then 2147483647 else 1) [true, false] := by
  rintro ⟨-, hroulette⟩
  obtain ⟨place, hrun, -⟩ := hroulette (by decide) (by decide)
  obtain ⟨rng', hrun⟩ := hrun ⟨fun _ => 0⟩
  cases hrun


end SrgpGame.Func
