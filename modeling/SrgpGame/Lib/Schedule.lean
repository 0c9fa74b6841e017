import Mathlib.Algebra.Order.Ring.Int
import Mathlib.Data.List.Pairwise
import Mathlib.Tactic.Linarith

set_option autoImplicit false

/-!
# Daily schedules

Time is counted in units from some instant on, a day has `day` units, and something is scheduled
every day at some points, which are times within a day. This file has what it takes to decide
whether a scheduled instant lies between two instants by the dates and the times of the day of both.

## Main definitions

* `Schedule.date`, `Schedule.clock` — the day of an instant, and its time within the day.
* `Schedule.Due` — something was scheduled after one instant, and not after another one.

## Main results

* `Schedule.due_sameDay_iff`, `Schedule.due_nextDay_iff`, `Schedule.due_later` — the instants are on
  one day, on two days in a row, or on days further apart.
-/

namespace Schedule

/-- The day of an instant. -/
def date (day t : ℤ) : ℤ := t / day

/-- The time within the day. -/
def clock (day t : ℤ) : ℤ := t % day

/-- **Something is due**: one of the points of some day is after the last instant, and not after the
present one. -/
def Due (day : ℤ) (points : List ℤ) (last now : ℤ) : Prop :=
  ∃ d, ∃ p ∈ points, last < d * day + p ∧ d * day + p ≤ now

variable {day : ℤ} {points : List ℤ} {last now : ℤ}

lemma eq_date_mul_add_clock (day t : ℤ) : t = date day t * day + clock day t :=
  (Int.ediv_mul_add_emod t day).symm

lemma clock_nonneg (hday : 0 < day) (t : ℤ) : 0 ≤ clock day t := Int.emod_nonneg t (by omega)

lemma clock_lt (hday : 0 < day) (t : ℤ) : clock day t < day := Int.emod_lt_of_pos t hday

/-- An instant of a day with a smaller date is before one with a greater date. -/
lemma lt_of_date_lt (hday : 0 < day) {d p t : ℤ} (hp : p < day) (h : d < date day t) :
    d * day + p < t := by
  have ht := eq_date_mul_add_clock day t
  have hclock := clock_nonneg hday t
  have hmul : (d + 1) * day ≤ date day t * day :=
    mul_le_mul_of_nonneg_right (by omega) (by omega)
  linarith [add_mul d 1 day]

/-- An instant of a day with a greater date is after one with a smaller date. -/
lemma lt_of_lt_date (hday : 0 < day) {d p t : ℤ} (hp : 0 ≤ p) (h : date day t < d) :
    t < d * day + p := by
  have ht := eq_date_mul_add_clock day t
  have hclock := clock_lt hday t
  have hmul : (date day t + 1) * day ≤ d * day := mul_le_mul_of_nonneg_right (by omega) (by omega)
  linarith [add_mul (date day t) 1 day]

/-- A point of a day is after an instant if its day is, or on the same day its time. -/
lemma lt_point_iff (hday : 0 < day) {d p t : ℤ} (hp : 0 ≤ p) (hp' : p < day) :
    t < d * day + p ↔ date day t < d ∨ (date day t = d ∧ clock day t < p) := by
  have ht := eq_date_mul_add_clock day t
  rcases lt_trichotomy (date day t) d with hlt | heq | hgt
  · exact iff_of_true (lt_of_lt_date hday hp hlt) (.inl hlt)
  · subst heq
    constructor
    · intro h
      exact .inr ⟨rfl, by linarith⟩
    · rintro (h | ⟨-, h⟩)
      · omega
      · linarith
  · have hlt := lt_of_date_lt hday hp' hgt
    exact iff_of_false (by omega) (by omega)

/-- A point of a day is not after an instant if its day is before, or on the same day its time. -/
lemma point_le_iff (hday : 0 < day) {d p t : ℤ} (hp : 0 ≤ p) (hp' : p < day) :
    d * day + p ≤ t ↔ d < date day t ∨ (date day t = d ∧ p ≤ clock day t) := by
  rw [← not_lt, lt_point_iff hday hp hp']
  omega

variable (hday : 0 < day) (hpoints : ∀ p ∈ points, 0 ≤ p ∧ p < day)

include hday in
lemma date_mono (h : last ≤ now) : date day last ≤ date day now := Int.ediv_le_ediv hday h

include hday hpoints in
/-- Two instants of one day. -/
theorem due_sameDay_iff (h : date day last = date day now) :
    Due day points last now ↔ ∃ p ∈ points, clock day last < p ∧ p ≤ clock day now := by
  constructor
  · rintro ⟨d, p, hp, hlast, hnow⟩
    obtain ⟨hp₀, hp₁⟩ := hpoints p hp
    rw [lt_point_iff hday hp₀ hp₁] at hlast
    rw [point_le_iff hday hp₀ hp₁] at hnow
    exact ⟨p, hp, by omega, by omega⟩
  · rintro ⟨p, hp, hlast, hnow⟩
    obtain ⟨hp₀, hp₁⟩ := hpoints p hp
    exact ⟨date day now, p, hp, (lt_point_iff hday hp₀ hp₁).mpr (.inr ⟨h, hlast⟩),
      (point_le_iff hday hp₀ hp₁).mpr (.inr ⟨rfl, hnow⟩)⟩

include hday hpoints in
/-- Instants of two days in a row. -/
theorem due_nextDay_iff (h : date day now = date day last + 1) :
    Due day points last now ↔
      (∃ p ∈ points, clock day last < p) ∨ ∃ p ∈ points, p ≤ clock day now := by
  constructor
  · rintro ⟨d, p, hp, hlast, hnow⟩
    obtain ⟨hp₀, hp₁⟩ := hpoints p hp
    rw [lt_point_iff hday hp₀ hp₁] at hlast
    rw [point_le_iff hday hp₀ hp₁] at hnow
    rcases hlast with hlater | ⟨-, hclock⟩
    · exact .inr ⟨p, hp, by omega⟩
    · exact .inl ⟨p, hp, hclock⟩
  · rintro (⟨p, hp, hlast⟩ | ⟨p, hp, hnow⟩)
    · obtain ⟨hp₀, hp₁⟩ := hpoints p hp
      exact ⟨date day last, p, hp, (lt_point_iff hday hp₀ hp₁).mpr (.inr ⟨rfl, hlast⟩),
        (point_le_iff hday hp₀ hp₁).mpr (.inl (by omega))⟩
    · obtain ⟨hp₀, hp₁⟩ := hpoints p hp
      exact ⟨date day now, p, hp, (lt_point_iff hday hp₀ hp₁).mpr (.inl (by omega)),
        (point_le_iff hday hp₀ hp₁).mpr (.inr ⟨rfl, hnow⟩)⟩

include hday hpoints in
/-- There is a whole day in between. -/
theorem due_later (hne : points ≠ []) (h : date day last + 1 < date day now) :
    Due day points last now := by
  obtain ⟨p, hp⟩ := List.exists_mem_of_ne_nil points hne
  obtain ⟨hp₀, hp₁⟩ := hpoints p hp
  exact ⟨date day last + 1, p, hp, (lt_point_iff hday hp₀ hp₁).mpr (.inl (by omega)),
    (point_le_iff hday hp₀ hp₁).mpr (.inl h)⟩

/-! ## Sorted points -/

section Sorted

variable {first t : ℤ} {rest : List ℤ}

/-- A point is not after a time just if the first one is not. -/
lemma exists_le_iff (hsorted : (first :: rest).Pairwise (· ≤ ·)) :
    (∃ p ∈ first :: rest, p ≤ t) ↔ first ≤ t := by
  constructor
  · rintro ⟨p, hp, hle⟩
    rcases List.mem_cons.mp hp with rfl | hrest
    · exact hle
    · exact (List.rel_of_pairwise_cons hsorted hrest).trans hle
  · exact fun h => ⟨first, List.mem_cons_self, h⟩

/-- A point is after a time just if the last one is. -/
lemma exists_lt_iff (hsorted : (first :: rest).Pairwise (· ≤ ·)) :
    (∃ p ∈ first :: rest, t < p) ↔ t < (first :: rest).getLast (List.cons_ne_nil _ _) := by
  constructor
  · rintro ⟨p, hp, hlt⟩
    exact hlt.trans_le (hsorted.rel_getLast hp)
  · exact fun h => ⟨_, List.getLast_mem _, h⟩

end Sorted

end Schedule
