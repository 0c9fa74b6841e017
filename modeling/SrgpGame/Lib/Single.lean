import Mathlib.Data.Nat.Log
import Mathlib.Data.Int.Lemmas
import Mathlib.Tactic.Common

set_option autoImplicit false

/-!
# Single-precision numbers

A number of type `float` has 24 significant bits. This file has the numbers that are multiples of
one half, counted in halves: a number `x` stands for `x / 2`. Each result is rounded to the nearest
number that there is, and of two equally near ones to the even one.

## Main definitions

* `Single.round` — the nearest number.
* `Single.ofInt`, `Single.toInt` — the conversions from and to `int`.
* `Single.add`, `Single.sub` — the arithmetic.

## Main results

* `Single.round_eq`, `Single.round_two_mul` — a number with few enough bits is its own nearest.
-/

namespace Single

/-- **The nearest number**, of a number without sign. -/
def roundNat (n : ℕ) : ℕ :=
  let unit := 2 ^ (Nat.log2 n - 23)
  let q := n / unit
  let r := n % unit
  (if 2 * r < unit ∨ 2 * r = unit ∧ q % 2 = 0 then q else q + 1) * unit

/-- The nearest number. -/
def round (x : ℤ) : ℤ := x.sign * roundNat x.natAbs

/-- `(float) i`. -/
def ofInt (i : ℤ) : ℤ := round (2 * i)

/-- `(int) x`: cuts the fraction off and keeps to the range of an `int`. -/
def toInt (x : ℤ) : ℤ := max (-2 ^ 31) (min (2 ^ 31 - 1) (x.tdiv 2))

/-- A sum is rounded. -/
def add (x y : ℤ) : ℤ := round (x + y)

/-- So is a difference. -/
def sub (x y : ℤ) : ℤ := round (x - y)

/-! ## Exact numbers -/

/-- A multiple of `2 ^ k` is exact below `2 ^ (24 + k)`. -/
lemma roundNat_eq {n k : ℕ} (hdvd : 2 ^ k ∣ n) (hlt : n < 2 ^ (24 + k)) : roundNat n = n := by
  have hlog : Nat.log2 n - 23 ≤ k := by
    rcases Nat.eq_zero_or_pos n with rfl | hpos
    · exact Nat.zero_le k
    · have := (Nat.log2_lt (Nat.pos_iff_ne_zero.mp hpos)).mpr hlt
      omega
  have hunit : 2 ^ (Nat.log2 n - 23) ∣ n := (Nat.pow_dvd_pow 2 hlog).trans hdvd
  have hpos : 0 < 2 ^ (Nat.log2 n - 23) := Nat.two_pow_pos _
  have hmod : n % 2 ^ (Nat.log2 n - 23) = 0 := Nat.mod_eq_zero_of_dvd hunit
  unfold roundNat
  simp only [hmod]
  rw [if_pos (.inl (by omega)), Nat.div_mul_cancel hunit]

lemma round_eq_of_roundNat {x : ℤ} (h : roundNat x.natAbs = x.natAbs) : round x = x := by
  rw [round, h, Int.sign_mul_natAbs]

/-- Numbers below `2 ^ 24` halves are exact. -/
lemma round_eq {x : ℤ} (hlt : x.natAbs < 2 ^ 24) : round x = x :=
  round_eq_of_roundNat (@roundNat_eq _ 0 (one_dvd _) hlt)

/-- Whole numbers below `2 ^ 24` are exact. -/
lemma round_two_mul {x : ℤ} (hlt : x.natAbs < 2 ^ 24) : round (2 * x) = 2 * x := by
  have habs : (2 * x).natAbs = 2 * x.natAbs := by omega
  refine round_eq_of_roundNat (@roundNat_eq _ 1 ?_ ?_)
  · rw [habs]
    exact Nat.dvd_mul_right 2 _
  · omega

/-- An `int` that is small enough is not changed by the conversions. -/
lemma toInt_ofInt {i : ℤ} (hlt : i.natAbs < 2 ^ 24) : toInt (ofInt i) = i := by
  rw [ofInt, round_two_mul hlt, toInt, Int.mul_tdiv_cancel_left i (by decide)]
  omega

/-- The half that is added is cut off again. -/
lemma toInt_add_one {i : ℤ} (hpos : 0 ≤ i) (hlt : i < 2 ^ 23) : toInt (add (ofInt i) 1) = i := by
  rw [ofInt, round_two_mul (by omega), add, round_eq (by omega), toInt,
    Int.tdiv_eq_ediv_of_nonneg (by omega)]
  omega

end Single
