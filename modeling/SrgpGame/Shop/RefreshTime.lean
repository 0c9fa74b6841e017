import SrgpGame.Time.LocalDateTime

set_option autoImplicit false

/-!
# When shops are refreshed

A shop is refreshed every day at some hours. `checkRefreshTime` decides from the dates and the hours
of the last refresh and of the present time whether one of these instants has passed since.

## Main definitions

* `RefreshHours` — hours of the day, in order.
* `checkRefreshTime` — the decision.

## Main results

* `checkRefreshTime_iff` — the decision is right.
-/

namespace SrgpGame.Shop

open Schedule (Due clock date)
open Time

/-- The hours at which a shop is refreshed. -/
structure RefreshHours where
  hours : List ℤ
  ne_nil : hours ≠ []
  sorted : hours.Pairwise (· ≤ ·)
  hour_mem : ∀ hour ∈ hours, 0 ≤ hour ∧ hour ≤ 23

/-- The search for the next hour: `nextRefreshTime`, -1 if there is none. -/
def nextRefreshTime (last : LocalDateTime) (refreshTime : List ℤ) : ℤ :=
  (refreshTime.find? fun time => last.toLocalTime < ofHour time).getD (-1)

/-- **`checkRefreshTime`**, at a time `now`. -/
def checkRefreshTime (offset now lastRefreshTime : ℤ) (refreshTime : List ℤ) : Bool :=
  match refreshTime with
  | [] => false
  | first :: rest =>
    if now < lastRefreshTime then false
    else
      let current := LocalDateTime.ofEpochMilli offset now
      let last := LocalDateTime.ofEpochMilli offset lastRefreshTime
      if last.toLocalDate < current.toLocalDate then
        -- the first hour has passed, or a day lies in between, or the last hour of yesterday was
        -- still to come
        first ≤ current.getHour || last.toLocalDate < (current.minusDays 1).toLocalDate ||
          last.getHour < (first :: rest).getLast (List.cons_ne_nil _ _)
      else if current.toLocalDate = last.toLocalDate then
        let next := nextRefreshTime last (first :: rest)
        (-1 < next && next ≤ current.getHour)
      else false

/-- An hour after the last refresh has come just if the next one has. -/
lemma nextRefreshTime_iff {last : LocalDateTime} {hours : List ℤ} {hour : ℤ}
    (hsorted : hours.Pairwise (· ≤ ·)) (hmem : ∀ h ∈ hours, 0 ≤ h) :
    (-1 < nextRefreshTime last hours ∧ nextRefreshTime last hours ≤ hour) ↔
      ∃ h ∈ hours, last.toLocalTime < ofHour h ∧ h ≤ hour := by
  induction hours with
  | nil =>
    refine iff_of_false ?_ ?_
    · rintro ⟨h, -⟩
      exact lt_irrefl _ h
    · rintro ⟨h, hh, -⟩
      cases hh
  | cons first rest ih =>
    have hrest := ih hsorted.of_cons fun h hh => hmem h (List.mem_cons_of_mem first hh)
    have hfirst := hmem first List.mem_cons_self
    rw [nextRefreshTime, List.find?_cons]
    by_cases hlt : last.toLocalTime < ofHour first
    · simp only [hlt, decide_true, Option.getD_some]
      constructor
      · rintro ⟨-, hle⟩
        exact ⟨first, List.mem_cons_self, hlt, hle⟩
      · rintro ⟨h, hh, -, hle⟩
        have hge : first ≤ h := by
          rcases List.mem_cons.mp hh with rfl | hh
          · exact le_rfl
          · exact List.rel_of_pairwise_cons hsorted hh
        omega
    · simp only [hlt, decide_false]
      rw [nextRefreshTime] at hrest
      rw [hrest]
      constructor
      · rintro ⟨h, hh, hh'⟩
        exact ⟨h, List.mem_cons_of_mem first hh, hh'⟩
      · rintro ⟨h, hh, hlast, hle⟩
        rcases List.mem_cons.mp hh with rfl | hh
        · exact absurd hlast hlt
        · exact ⟨h, hh, hlast, hle⟩

/-- What `checkRefreshTime` tells of hours of the day that are in order. -/
lemma checkRefreshTime_eq_true {offset now lastRefreshTime : ℤ} {hours : List ℤ} (hne : hours ≠ [])
    (hsorted : hours.Pairwise (· ≤ ·)) (hmem : ∀ hour ∈ hours, 0 ≤ hour ∧ hour ≤ 23)
    (hle : lastRefreshTime ≤ now) :
    checkRefreshTime offset now lastRefreshTime hours = true ↔
      Due millisOfDay (hours.map ofHour) (lastRefreshTime + offset) (now + offset) := by
  cases hours with
  | nil => exact absurd rfl hne
  | cons first rest =>
    have hpoints : ∀ p ∈ (first :: rest).map ofHour, 0 ≤ p ∧ p < millisOfDay := by
      intro p hp
      obtain ⟨hour, hhour, rfl⟩ := List.mem_map.mp hp
      exact ofHour_mem (hmem hour hhour).1 (hmem hour hhour).2
    have hdates := Schedule.date_mono millisOfDay_pos (add_le_add_left hle offset)
    set current := LocalDateTime.ofEpochMilli offset now with hcurrent
    set last := LocalDateTime.ofEpochMilli offset lastRefreshTime with hlast
    have hnow : ∀ hour, ofHour hour ≤ clock millisOfDay (now + offset) ↔
        hour ≤ current.getHour := by
      intro hour
      rw [← not_lt, ← not_lt]
      exact not_congr (@lt_hour_iff current hour)
    have hlate : ∀ hour, clock millisOfDay (lastRefreshTime + offset) < ofHour hour ↔
        last.getHour < hour := @lt_hour_iff last
    simp only [checkRefreshTime, if_neg (not_lt.mpr hle), ← hcurrent, ← hlast]
    rcases hdates.lt_or_eq with hlt | heq
    · have hlt' : last.toLocalDate < current.toLocalDate := hlt
      rw [if_pos hlt']
      simp only [Bool.or_eq_true, decide_eq_true_eq]
      by_cases hnext : date millisOfDay (now + offset) =
          date millisOfDay (lastRefreshTime + offset) + 1
      · -- the two days are in a row
        have hrow : ¬last.toLocalDate < (current.minusDays 1).toLocalDate := by
          show ¬date millisOfDay (lastRefreshTime + offset) < date millisOfDay (now + offset) - 1
          omega
        rw [Schedule.due_nextDay_iff millisOfDay_pos hpoints hnext, or_iff_left hrow]
        simp only [List.mem_map, exists_exists_and_eq_and, hnow, hlate]
        rw [Schedule.exists_lt_iff hsorted, Schedule.exists_le_iff hsorted]
        exact or_comm
      · refine iff_of_true (.inl (.inr ?_)) (Schedule.due_later millisOfDay_pos hpoints ?_ ?_)
        · show date millisOfDay (lastRefreshTime + offset) < date millisOfDay (now + offset) - 1
          omega
        · exact List.cons_ne_nil _ _
        · omega
    · have heq' : current.toLocalDate = last.toLocalDate := heq.symm
      rw [if_neg (by rw [heq']; exact lt_irrefl _), if_pos heq']
      simp only [Bool.and_eq_true, decide_eq_true_eq]
      rw [nextRefreshTime_iff hsorted fun h hh => (hmem h hh).1,
        Schedule.due_sameDay_iff millisOfDay_pos hpoints heq]
      simp only [List.mem_map, exists_exists_and_eq_and, hnow]
      rfl

/-- **`checkRefreshTime` is right**: it tells whether one of the hours of some day, sharp, lies
after the last refresh and not after the present time. -/
theorem checkRefreshTime_iff (offset : ℤ) (refreshTime : RefreshHours) {now lastRefreshTime : ℤ}
    (hle : lastRefreshTime ≤ now) :
    checkRefreshTime offset now lastRefreshTime refreshTime.hours = true ↔
      Due millisOfDay (refreshTime.hours.map ofHour) (lastRefreshTime + offset) (now + offset) :=
  checkRefreshTime_eq_true refreshTime.ne_nil refreshTime.sorted refreshTime.hour_mem hle

/-- Five in the morning has come since yesterday evening. -/
theorem checkRefreshTime_overnight :
    checkRefreshTime 0 (30 * millisOfHour) (20 * millisOfHour) [5, 12] = true ↔
      Due millisOfDay ([5, 12].map ofHour) (20 * millisOfHour + 0) (30 * millisOfHour + 0) :=
  checkRefreshTime_iff 0 ⟨[5, 12], by decide, by decide, by decide⟩ (by decide)

end SrgpGame.Shop
