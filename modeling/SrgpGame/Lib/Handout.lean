import Mathlib.Data.Int.Init
import Mathlib.Tactic.Common
import Mathlib.Tactic.Ring

set_option autoImplicit false

/-!
# Handing out an amount in random parts

An amount `d` is to be handed out in `n` parts, one for each of `n` draws. A draw from the `t`
numbers below the number of draws that are left gives a part unless it is as great as what is left
of the amount; the part is the quotient `d / n`, and one more for draws below the remainder `d % n`.

Were the remainder counted down, every part would fit. It is not, and so the last parts can be too
large.

## Main definitions

* `Handout.rest` — what is left of the amount after some draws.
* `Handout.Drawn` — draws, each below the number of draws that are left.
* `Handout.Fair` — no draws hand out too much, and all draws hand out everything.
* `Handout.Even` — the amount is less than the number of draws, or a multiple of it, or enough for
  the draws to all give the greater part.

## Main results

* `Handout.fair_of_even` — handing out is fair in these cases.
* `Handout.exists_rest_lt` — in all others some draws hand out too much.
-/

namespace Handout

variable {q m r t d n : ℤ} {v : ℤ} {vs : List ℤ}

/-- **What is left of an amount** `r` after some draws. -/
def rest (q m : ℤ) : ℤ → List ℤ → ℤ
  | r, [] => r
  | r, v :: vs => rest q m (if v < r then r - (q + if v < m then 1 else 0) else r) vs

/-- **Draws**, the first of them below `t`. -/
def Drawn : ℤ → List ℤ → Prop
  | _, [] => True
  | t, v :: vs => (0 ≤ v ∧ v < t) ∧ Drawn (t - 1) vs

/-- **Handing out is fair**: no `u` draws hand out more than the amount, and all draws hand out
everything. -/
def Fair (n d : ℤ) (u : ℕ) : Prop :=
  ∀ vs : List ℤ, vs.length = u → Drawn n vs →
    0 ≤ rest (d / n) (d % n) d vs ∧ rest (d / n) (d % n) d vs ≤ d ∧
      (u = n → rest (d / n) (d % n) d vs = 0)

/-- The amount is less than the number of draws, or a multiple of it, or enough for `u` draws to all
give the greater part. -/
def Even (n d : ℤ) (u : ℕ) : Prop := d < n ∨ n ∣ d ∨ (d / n + 1) * u ≤ d

/-! ## Draws that are fair -/

/-- Nothing is ever taken back. -/
lemma rest_le (hq : 0 ≤ q) : rest q m r vs ≤ r := by
  induction vs generalizing r with
  | nil => exact Int.le_refl r
  | cons v vs ih =>
    rw [rest]
    refine Int.le_trans ih ?_
    split_ifs <;> omega

/-- No draw gives more than the greater part. -/
lemma le_rest (hq : 0 ≤ q) : r - (q + 1) * vs.length ≤ rest q m r vs := by
  induction vs generalizing r with
  | nil => simp [rest]
  | cons v vs ih =>
    rw [rest]
    refine Int.le_trans ?_ ih
    have hlength : (q + 1) * (v :: vs).length = (q + 1) * vs.length + (q + 1) := by
      rw [List.length_cons]
      push_cast
      ring
    rw [hlength]
    split_ifs <;> omega

/-- **A multiple of the number of draws** is handed out in equal parts. -/
lemma rest_mul (hq : 0 ≤ q) (hvs : Drawn t vs) :
    rest q 0 (q * t) vs = q * (t - vs.length) := by
  induction vs generalizing t with
  | nil => simp [rest]
  | cons v vs ih =>
    obtain ⟨⟨hv, hvt⟩, hvs⟩ := hvs
    have hpart : (if v < q * t then q * t - (q + if v < 0 then 1 else 0) else q * t) =
        q * (t - 1) := by
      rw [if_neg (Int.not_lt.mpr hv), Int.mul_sub, Int.mul_one]
      rcases Int.le_iff_lt_or_eq.mp hq with hq | rfl
      · have hle : 1 * t ≤ q * t := Int.mul_le_mul_of_nonneg_right hq (by omega)
        rw [if_pos (by omega)]
        omega
      · rw [Int.zero_mul, if_neg (by omega)]
        rfl
    rw [rest, hpart, ih hvs, List.length_cons]
    push_cast
    ring

/-- **An amount that is less than the number of draws** is handed out one by one: there are always
draws enough for what is left. -/
lemma rest_small (hr : 0 ≤ r) (hm : r ≤ m) (ht : r ≤ t) (hvs : Drawn t vs) :
    0 ≤ rest 0 m r vs ∧ rest 0 m r vs ≤ t - vs.length := by
  induction vs generalizing r t with
  | nil => simpa [rest] using ⟨hr, ht⟩
  | cons v vs ih =>
    obtain ⟨⟨hv, hvt⟩, hvs⟩ := hvs
    rw [rest, List.length_cons]
    push_cast
    by_cases hgive : v < r
    · rw [if_pos hgive, if_pos (by omega : v < m)]
      have hrest := @ih (r - (0 + 1)) (t - 1) (by omega) (by omega) (by omega) hvs
      omega
    · rw [if_neg hgive]
      have hrest := @ih r (t - 1) hr hm (by omega) hvs
      omega

/-- There are not more draws than there can be. -/
lemma Drawn.length_le (hvs : Drawn t vs) (ht : 0 ≤ t) : vs.length ≤ t := by
  induction vs generalizing t with
  | nil => exact ht
  | cons v vs ih =>
    obtain ⟨⟨hv, hvt⟩, hvs⟩ := hvs
    have hle := ih hvs (by omega)
    rw [List.length_cons]
    push_cast
    omega

lemma Drawn.nonneg (hvs : Drawn t vs) : ∀ v ∈ vs, 0 ≤ v := by
  induction vs generalizing t with
  | nil => exact fun v hv => absurd hv List.not_mem_nil
  | cons v vs ih => exact List.forall_mem_cons.mpr ⟨hvs.1.1, ih hvs.2⟩

/-- **In these cases handing out is fair.** -/
lemma fair_of_even {u : ℕ} (hn : 0 < n) (hd : 0 ≤ d) (h : Even n d u) : Fair n d u := by
  intro vs hlength hvs
  have hq : 0 ≤ d / n := Int.ediv_nonneg hd hn.le
  have hdivmod : n * (d / n) + d % n = d := Int.mul_ediv_add_emod d n
  have hmod := Int.emod_lt_of_pos d hn
  have hlen := hvs.length_le hn.le
  rw [hlength] at hlen
  rcases h with hsmall | hdvd | henough
  · have hrest := rest_small hd (Int.le_refl d) hsmall.le hvs
    rw [hlength] at hrest
    rw [Int.ediv_eq_zero_of_lt hd hsmall, Int.emod_eq_of_lt hd hsmall]
    exact ⟨hrest.1, rest_le (Int.le_refl 0), fun hall => by omega⟩
  · have hrest := rest_mul hq hvs
    have hmod0 : d % n = 0 := Int.emod_eq_zero_of_dvd hdvd
    have hd' : d / n * n = d := Int.ediv_mul_cancel hdvd
    rw [hd', hlength] at hrest
    rw [hmod0]
    refine ⟨?_, rest_le hq, fun hall => ?_⟩
    · rw [hrest]
      exact Int.mul_nonneg hq (by omega)
    · rw [hrest, hall, Int.sub_self, Int.mul_zero]
  · have hle := @le_rest (d / n) (d % n) d vs hq
    rw [hlength] at hle
    refine ⟨by omega, rest_le hq, fun hall => ?_⟩
    -- the greater part is too much for all draws
    rw [hall, Int.add_mul, Int.one_mul, Int.mul_comm] at henough
    omega

/-- An amount that is less than the number of draws or a multiple of it **stays so** for what is
left of both. -/
lemma rest_smooth (hn : 0 < n) (hd : 0 ≤ d) (h : d < n ∨ n ∣ d) (hvs : Drawn n vs) :
    rest (d / n) (d % n) d vs < n - vs.length ∨ n - vs.length ∣ rest (d / n) (d % n) d vs := by
  rcases h with hsmall | hdvd
  · have hrest := rest_small hd (Int.le_refl d) hsmall.le hvs
    rw [Int.ediv_eq_zero_of_lt hd hsmall, Int.emod_eq_of_lt hd hsmall]
    rcases Int.lt_or_eq_of_le hrest.2 with hlt | heq
    · exact .inl hlt
    · exact .inr (heq ▸ Int.dvd_refl _)
  · have hrest := rest_mul (Int.ediv_nonneg hd hn.le) hvs
    rw [Int.ediv_mul_cancel hdvd] at hrest
    rw [Int.emod_eq_zero_of_dvd hdvd, hrest]
    exact .inr (Int.dvd_mul_left _ _)

/-- For all draws the greater part is too much. -/
lemma even_all_iff {u : ℕ} (hn : 0 < n) (hu : u = n) : Even n d u ↔ d < n ∨ n ∣ d := by
  have hdivmod : n * (d / n) + d % n = d := Int.mul_ediv_add_emod d n
  have hmod := Int.emod_lt_of_pos d hn
  unfold Even
  rw [hu, Int.add_mul, Int.one_mul, Int.mul_comm (d / n)]
  constructor
  · rintro (hsmall | hdvd | henough)
    · exact .inl hsmall
    · exact .inr hdvd
    · omega
  · exact fun h => h.imp id .inl

/-! ## Draws that are not -/

/-- Nothing is given when nothing is left. -/
lemma rest_of_nonpos (hr : r ≤ 0) (hvs : ∀ v ∈ vs, 0 ≤ v) : rest q m r vs = r := by
  induction vs with
  | nil => rfl
  | cons v vs ih =>
    rw [List.forall_mem_cons] at hvs
    rw [rest, if_neg (by omega), ih hvs.2]

/-- **Draws of zero** give the greater part, and too much at the end if that does not divide the
amount. -/
lemma rest_replicate_lt (hm : 0 < m) (hr : 0 < r) (hdvd : ¬q + 1 ∣ r) {k : ℕ}
    (hk : r < (q + 1) * k) : rest q m r (List.replicate k 0) < 0 := by
  induction k generalizing r with
  | zero =>
    rw [Int.natCast_zero, Int.mul_zero] at hk
    omega
  | succ k ih =>
    have hsucc : (q + 1) * ((k + 1 : ℕ) : ℤ) = (q + 1) * k + (q + 1) := by
      push_cast
      ring
    have hdvd' : ¬q + 1 ∣ r - (q + 1) := fun h =>
      hdvd (by simpa using Int.dvd_add h (Int.dvd_refl (q + 1)))
    rw [hsucc] at hk
    rw [List.replicate_succ, rest, if_pos hr, if_pos hm]
    rcases Int.lt_trichotomy (r - (q + 1)) 0 with hneg | hzero | hpos
    · rw [rest_of_nonpos hneg.le (fun v hv => (List.eq_of_mem_replicate hv).ge)]
      exact hneg
    · exact absurd (hzero ▸ Int.dvd_zero _) hdvd'
    · exact ih hpos hdvd' (by omega)

lemma drawn_replicate {k : ℕ} (hk : (k : ℤ) ≤ t) : Drawn t (List.replicate k 0) := by
  induction k generalizing t with
  | zero => trivial
  | succ k ih =>
    push_cast at hk
    exact ⟨⟨Int.le_refl 0, by omega⟩, ih (by omega)⟩

/-- **Otherwise some draws hand out too much.** -/
lemma exists_rest_lt {u : ℕ} (hn : 0 < n) (hun : (u : ℤ) ≤ n) (h : ¬Even n d u) :
    ∃ vs, vs.length = u ∧ Drawn n vs ∧ rest (d / n) (d % n) d vs < 0 := by
  obtain ⟨hlarge, hdvd, hlack⟩ : n ≤ d ∧ ¬n ∣ d ∧ d < (d / n + 1) * u := by
    unfold Even at h
    push Not at h
    exact h
  have hq : 1 ≤ d / n := Int.le_ediv_of_mul_le hn (by omega)
  have hdivmod : n * (d / n) + d % n = d := Int.mul_ediv_add_emod d n
  have hmod := Int.emod_lt_of_pos d hn
  have hm : 0 < d % n := by
    have hne : d % n ≠ 0 := fun h => hdvd (Int.dvd_of_emod_eq_zero h)
    have hnonneg := Int.emod_nonneg d hn.ne'
    omega
  by_cases hpart : d / n + 1 ∣ d
  · -- the first draw gives the lesser part
    obtain ⟨k, rfl⟩ : ∃ k, u = k + 1 := by
      refine Nat.exists_eq_succ_of_ne_zero ?_
      rintro rfl
      rw [Int.natCast_zero, Int.mul_zero] at hlack
      omega
    have hmore : d / n + 1 ≤ (d / n + 1) * ((k + 1 : ℕ) : ℤ) - d :=
      Int.le_of_dvd (by omega) (Int.dvd_sub (Int.dvd_mul_right _ _) hpart)
    have hsucc : (d / n + 1) * ((k + 1 : ℕ) : ℤ) = (d / n + 1) * k + (d / n + 1) := by
      push_cast
      ring
    have hself : 1 * (d / n) ≤ n * (d / n) := Int.mul_le_mul_of_nonneg_right hn (by omega)
    have hdvd' : ¬d / n + 1 ∣ d - (d / n + 0) := by
      intro h
      have hone : d / n + 1 ∣ 1 := by
        have hsub := Int.dvd_sub h (Int.dvd_sub hpart (Int.dvd_refl (d / n + 1)))
        rwa [show d - (d / n + 0) - (d - (d / n + 1)) = 1 by omega] at hsub
      have hle := Int.le_of_dvd (by omega) hone
      omega
    refine ⟨d % n :: List.replicate k 0, by simp, ⟨⟨hm.le, hmod⟩, drawn_replicate ?_⟩, ?_⟩
    · push_cast at hun
      omega
    · rw [rest, if_pos (by omega), if_neg (Int.lt_irrefl _)]
      exact rest_replicate_lt hm (by omega) hdvd' (by omega)
  · exact ⟨List.replicate u 0, List.length_replicate, drawn_replicate hun,
      rest_replicate_lt hm (by omega) hpart hlack⟩

end Handout
