import SrgpGame.Time.LocalDateTime

set_option autoImplicit false

/-!
# Refresh points

`isReachRefreshTime` decides whether a refresh point has come since the last refresh. The points are
hours, or hours and minutes, and the present time and the last refresh are cut down to the same.
When the last refresh was yesterday, only the points of today are looked at: those of yesterday that
were still to come are missed.

## Main definitions

* `isReachRefreshTime` — the decision, with the index of a point.
* `RefreshTimePoints` — points of the day, in order.
* `Missed` — a point of yesterday was still to come, and none of today has come.

## Main results

* `isReachRefreshTime_iff` — the decision is right just if no point is missed.
-/

namespace SrgpGame.Time

open Schedule (Due clock date)

/-- A time, cut down to its hour and minute or to its hour. -/
def brief (includeMinute : Bool) (t : LocalDateTime) : ℤ :=
  if includeMinute then t.getHour * 100 + t.getMinute else t.getHour

/-- The loop over the points from the last one on: the index of the first point that it finds
reached. -/
def lastReached (briefLast : ℤ) (refreshTimePoints : List ℤ) : ℕ → Option ℕ
  | 0 => none
  | i + 1 =>
    if refreshTimePoints[i]?.any (· ≤ briefLast) then some i
    else lastReached briefLast refreshTimePoints i

/-- **`isReachRefreshTime`**, at a time `now`. -/
def isReachRefreshTime (offset now time : ℤ) (refreshTimePoints : List ℤ) (includeMinute : Bool) :
    Bool × ℤ :=
  if time ≤ 0 then (true, 0)
  else
    match refreshTimePoints with
    | [] => (false, -1)
    | first :: rest =>
      let current := LocalDateTime.ofEpochMilli offset now
      let last := LocalDateTime.ofEpochMilli offset time
      let briefNow := brief includeMinute current
      let briefLast := brief includeMinute last
      let reached := if current.toLocalDate = last.toLocalDate then
        lastReached briefLast (first :: rest) (rest.length + 1) else none
      match reached with
      | some i => ((first :: rest)[i + 1]?.any (· ≤ briefNow), i + 1)
      | none =>
        if last.toLocalDate < (current.minusDays 1).toLocalDate then (true, 0)
        else (first ≤ briefNow, 0)

/-! ## When it is right -/

/-- A refresh point, in milliseconds since midnight. -/
def ofPoint (includeMinute : Bool) (point : ℤ) : ℤ :=
  if includeMinute then ofBrief point else ofHour point

/-- The points of the day at which something is refreshed: hours, or hours and minutes as
`hour * 100 + minute`. -/
structure RefreshTimePoints (includeMinute : Bool) where
  points : List ℤ
  ne_nil : points ≠ []
  sorted : points.Pairwise (· ≤ ·)
  point_mem : ∀ point ∈ points, 0 ≤ point ∧
    if includeMinute then point / 100 ≤ 23 ∧ point % 100 ≤ 59 else point ≤ 23

namespace RefreshTimePoints

variable {includeMinute : Bool} (refreshTimePoints : RefreshTimePoints includeMinute)

/-- The first point. -/
def first : ℤ := refreshTimePoints.points.head refreshTimePoints.ne_nil

/-- The last point. -/
def last : ℤ := refreshTimePoints.points.getLast refreshTimePoints.ne_nil

end RefreshTimePoints

/-- **A point is missed**: the last refresh was yesterday, before the last point, and the first
point of today has not come. -/
def Missed {includeMinute : Bool} (offset now time : ℤ)
    (refreshTimePoints : RefreshTimePoints includeMinute) : Prop :=
  let current := LocalDateTime.ofEpochMilli offset now
  let last := LocalDateTime.ofEpochMilli offset time
  current.toLocalDate = last.toLocalDate + 1 ∧ brief includeMinute last < refreshTimePoints.last ∧
    brief includeMinute current < refreshTimePoints.first

variable {includeMinute : Bool} {t : LocalDateTime}

/-- A point is a time within the day. -/
lemma ofPoint_mem {point : ℤ} (h₀ : 0 ≤ point)
    (h : if includeMinute then point / 100 ≤ 23 ∧ point % 100 ≤ 59 else point ≤ 23) :
    0 ≤ ofPoint includeMinute point ∧ ofPoint includeMinute point < millisOfDay := by
  cases includeMinute with
  | true => exact ofBrief_mem h₀ h.1 h.2
  | false => exact ofHour_mem h₀ h

/-- A time is before a point just if it is when it is cut down. -/
lemma lt_point_iff {point : ℤ}
    (h : if includeMinute then point / 100 ≤ 23 ∧ point % 100 ≤ 59 else point ≤ 23) :
    t.toLocalTime < ofPoint includeMinute point ↔ brief includeMinute t < point := by
  cases includeMinute with
  | true => exact lt_brief_iff h.2
  | false => exact lt_hour_iff point

/-- **What the loop finds**: the points up to it are reached, those after it are not. -/
lemma lastReached_spec {points : List ℤ} {briefLast : ℤ} (hsorted : points.Pairwise (· ≤ ·))
    {n : ℕ} (hn : n ≤ points.length)
    (hlater : ∀ i (hi : i < points.length), n ≤ i → briefLast < points[i]) :
    match lastReached briefLast points n with
    | none => ∀ point ∈ points, briefLast < point
    | some i => i < points.length ∧
        (∀ j (hj : j < points.length), briefLast < points[j] ↔ i < j) := by
  induction n with
  | zero =>
    intro point hpoint
    obtain ⟨i, hi, rfl⟩ := List.mem_iff_getElem.mp hpoint
    exact hlater i hi (Nat.zero_le i)
  | succ n ih =>
    have hlt : n < points.length := hn
    rw [lastReached, List.getElem?_eq_getElem hlt, Option.any_some]
    by_cases hreached : points[n] ≤ briefLast
    · rw [if_pos (decide_eq_true hreached)]
      refine ⟨hlt, fun j hj => ⟨fun h => ?_, fun h => hlater j hj h⟩⟩
      by_contra hle
      have hmono : points[j] ≤ points[n] := by
        rcases (Nat.le_of_not_lt hle).lt_or_eq with hjn | rfl
        · exact List.pairwise_iff_getElem.mp hsorted j n hj hlt hjn
        · exact le_rfl
      omega
    · rw [if_neg (by simpa using hreached)]
      refine ih (by omega) fun i hi hni => ?_
      rcases hni.lt_or_eq with hlt' | rfl
      · exact hlater i hi hlt'
      · omega

/-- The decision for one day: the next point after the last refresh has come. -/
lemma exists_point_iff {points : List ℤ} {briefLast briefNow : ℤ}
    (hsorted : points.Pairwise (· ≤ ·)) {i : ℕ} (hi : i < points.length)
    (hreached : ∀ j (hj : j < points.length), briefLast < points[j] ↔ i < j) :
    points[i + 1]?.any (· ≤ briefNow) = true ↔
      ∃ point ∈ points, briefLast < point ∧ point ≤ briefNow := by
  constructor
  · intro h
    by_cases hlt : i + 1 < points.length
    · rw [List.getElem?_eq_getElem hlt, Option.any_some] at h
      exact ⟨_, List.getElem_mem hlt, (hreached _ hlt).mpr (Nat.lt_succ_self i),
        of_decide_eq_true h⟩
    · rw [List.getElem?_eq_none (by omega)] at h
      cases h
  · rintro ⟨point, hpoint, hlast, hnow⟩
    obtain ⟨j, hj, rfl⟩ := List.mem_iff_getElem.mp hpoint
    have hij := (hreached j hj).mp hlast
    have hlt : i + 1 < points.length := by omega
    have hmono : points[i + 1] ≤ points[j] := by
      rcases (Nat.succ_le_of_lt hij).lt_or_eq with h | h
      · exact List.pairwise_iff_getElem.mp hsorted _ _ hlt hj h
      · simp only [← h, Nat.succ_eq_add_one, le_refl]
    rw [List.getElem?_eq_getElem hlt, Option.any_some, decide_eq_true_eq]
    omega

/-- A point has come just if it has for the time that is cut down. -/
lemma point_le_iff {point : ℤ}
    (h : if includeMinute then point / 100 ≤ 23 ∧ point % 100 ≤ 59 else point ≤ 23) :
    ofPoint includeMinute point ≤ t.toLocalTime ↔ point ≤ brief includeMinute t := by
  rw [← not_lt, ← not_lt, lt_point_iff h]

namespace RefreshTimePoints

variable (refreshTimePoints : RefreshTimePoints includeMinute)

lemma ofPoint_mem_of_mem : ∀ p ∈ refreshTimePoints.points.map (ofPoint includeMinute),
    0 ≤ p ∧ p < millisOfDay := by
  intro p hp
  obtain ⟨point, hpoint, rfl⟩ := List.mem_map.mp hp
  obtain ⟨hnonneg, hle⟩ := refreshTimePoints.point_mem point hpoint
  exact ofPoint_mem hnonneg hle

/-- Some point has come just if the first one has. -/
lemma exists_point_le_iff :
    (∃ p ∈ refreshTimePoints.points.map (ofPoint includeMinute), p ≤ t.toLocalTime) ↔
      refreshTimePoints.first ≤ brief includeMinute t := by
  obtain ⟨points, hne, hsorted, hmem⟩ := refreshTimePoints
  cases points with
  | nil => exact absurd rfl hne
  | cons first rest =>
    simp only [List.mem_map, exists_exists_and_eq_and]
    exact (exists_congr fun point => and_congr_right fun hpoint =>
      point_le_iff (hmem point hpoint).2).trans (Schedule.exists_le_iff hsorted)

/-- Some point is to come just if the last one is. -/
lemma exists_lt_point_iff :
    (∃ p ∈ refreshTimePoints.points.map (ofPoint includeMinute), t.toLocalTime < p) ↔
      brief includeMinute t < refreshTimePoints.last := by
  obtain ⟨points, hne, hsorted, hmem⟩ := refreshTimePoints
  cases points with
  | nil => exact absurd rfl hne
  | cons first rest =>
    simp only [List.mem_map, exists_exists_and_eq_and]
    exact (exists_congr fun point => and_congr_right fun hpoint =>
      lt_point_iff (hmem point hpoint).2).trans (Schedule.exists_lt_iff hsorted)

variable {offset now time : ℤ}

/-- **What is due on the day of the last refresh**: a point between the two times. -/
lemma due_sameDay_iff (h : date millisOfDay (time + offset) = date millisOfDay (now + offset)) :
    Due millisOfDay (refreshTimePoints.points.map (ofPoint includeMinute)) (time + offset)
        (now + offset) ↔
      ∃ point ∈ refreshTimePoints.points,
        brief includeMinute (.ofEpochMilli offset time) < point ∧
          point ≤ brief includeMinute (.ofEpochMilli offset now) := by
  rw [Schedule.due_sameDay_iff millisOfDay_pos refreshTimePoints.ofPoint_mem_of_mem h]
  simp only [List.mem_map, exists_exists_and_eq_and]
  refine exists_congr fun point => and_congr_right fun hpoint => ?_
  obtain ⟨-, hle⟩ := refreshTimePoints.point_mem point hpoint
  exact and_congr (@lt_point_iff _ (.ofEpochMilli offset time) _ hle)
    (@point_le_iff _ (.ofEpochMilli offset now) _ hle)

/-- **What is due on the day after**: the last point of yesterday, or the first one of today. -/
lemma due_nextDay_iff (h : date millisOfDay (now + offset) = date millisOfDay (time + offset) + 1) :
    Due millisOfDay (refreshTimePoints.points.map (ofPoint includeMinute)) (time + offset)
        (now + offset) ↔
      brief includeMinute (.ofEpochMilli offset time) < refreshTimePoints.last ∨
        refreshTimePoints.first ≤ brief includeMinute (.ofEpochMilli offset now) := by
  rw [Schedule.due_nextDay_iff millisOfDay_pos refreshTimePoints.ofPoint_mem_of_mem h]
  exact or_congr (@exists_lt_point_iff _ (.ofEpochMilli offset time) refreshTimePoints)
    (@exists_point_le_iff _ (.ofEpochMilli offset now) refreshTimePoints)

/-- **What is decided on the day of the last refresh**: a point has come since. -/
lemma isReachRefreshTime_sameDay (htime : 0 < time)
    (h : date millisOfDay (time + offset) = date millisOfDay (now + offset)) :
    (isReachRefreshTime offset now time refreshTimePoints.points includeMinute).1 = true ↔
      ∃ point ∈ refreshTimePoints.points,
        brief includeMinute (.ofEpochMilli offset time) < point ∧
          point ≤ brief includeMinute (.ofEpochMilli offset now) := by
  obtain ⟨points, hne, hsorted, hmem⟩ := refreshTimePoints
  cases points with
  | nil => exact absurd rfl hne
  | cons first rest =>
    set current := LocalDateTime.ofEpochMilli offset now with hcurrent
    set last := LocalDateTime.ofEpochMilli offset time with hlast
    have hdate : current.toLocalDate = last.toLocalDate := h.symm
    simp only [isReachRefreshTime, if_neg (not_le.mpr htime), ← hcurrent, ← hlast, if_pos hdate]
    have hspec := @lastReached_spec (first :: rest) (brief includeMinute last) hsorted
      (rest.length + 1) le_rfl fun i hi hge => by
        rw [List.length_cons] at hi
        omega
    cases hreached : lastReached (brief includeMinute last) (first :: rest) (rest.length + 1) with
    | some i =>
      rw [hreached] at hspec
      exact exists_point_iff hsorted hspec.1 hspec.2
    | none =>
      rw [hreached] at hspec
      have hrow : ¬last.toLocalDate < (current.minusDays 1).toLocalDate := by
        show ¬last.toLocalDate < current.toLocalDate - 1
        omega
      simp only [if_neg hrow, decide_eq_true_eq]
      rw [← Schedule.exists_le_iff hsorted]
      exact exists_congr fun point => and_congr_right fun hpoint =>
        (and_iff_right (hspec point hpoint)).symm

/-- **What is decided on a later day**: a whole day has passed, or the first point of today. -/
lemma isReachRefreshTime_laterDay (htime : 0 < time)
    (h : date millisOfDay (time + offset) ≠ date millisOfDay (now + offset)) :
    (isReachRefreshTime offset now time refreshTimePoints.points includeMinute).1 = true ↔
      date millisOfDay (time + offset) < date millisOfDay (now + offset) - 1 ∨
        refreshTimePoints.first ≤ brief includeMinute (.ofEpochMilli offset now) := by
  obtain ⟨points, hne, hsorted, hmem⟩ := refreshTimePoints
  cases points with
  | nil => exact absurd rfl hne
  | cons first rest =>
    have hdate : (LocalDateTime.ofEpochMilli offset now).toLocalDate ≠
        (LocalDateTime.ofEpochMilli offset time).toLocalDate := h.symm
    have hrow : (LocalDateTime.ofEpochMilli offset time).toLocalDate <
        ((LocalDateTime.ofEpochMilli offset now).minusDays 1).toLocalDate ↔
          date millisOfDay (time + offset) < date millisOfDay (now + offset) - 1 := Iff.rfl
    simp only [isReachRefreshTime, if_neg (not_le.mpr htime), if_neg hdate, hrow]
    split_ifs with hlater
    · exact iff_of_true rfl (.inl hlater)
    · exact decide_eq_true_iff.trans (or_iff_right hlater).symm

end RefreshTimePoints

/-- **`isReachRefreshTime` is right** — it tells whether a point of some day lies after the last
refresh and not after the present time — just if no point is missed. -/
theorem isReachRefreshTime_iff (offset : ℤ) {now time : ℤ} (htime : 0 < time) (hle : time ≤ now)
    (refreshTimePoints : RefreshTimePoints includeMinute) :
    ((isReachRefreshTime offset now time refreshTimePoints.points includeMinute).1 = true ↔
      Due millisOfDay (refreshTimePoints.points.map (ofPoint includeMinute)) (time + offset)
        (now + offset)) ↔
      ¬Missed offset now time refreshTimePoints := by
  have hmissed : Missed offset now time refreshTimePoints ↔
      date millisOfDay (now + offset) = date millisOfDay (time + offset) + 1 ∧
        brief includeMinute (.ofEpochMilli offset time) < refreshTimePoints.last ∧
          brief includeMinute (.ofEpochMilli offset now) < refreshTimePoints.first := Iff.rfl
  rw [hmissed]
  rcases (Schedule.date_mono millisOfDay_pos (add_le_add_left hle offset)).lt_or_eq with hlt | heq
  · rw [refreshTimePoints.isReachRefreshTime_laterDay htime hlt.ne]
    by_cases hnext : date millisOfDay (now + offset) = date millisOfDay (time + offset) + 1
    · -- the last refresh was yesterday: only the points of today are looked at
      rw [refreshTimePoints.due_nextDay_iff hnext, or_iff_right (by omega)]
      constructor
      · rintro h ⟨-, hlate, hcome⟩
        exact absurd (h.mpr (.inl hlate)) (not_le.mpr hcome)
      · intro h
        refine ⟨.inr, ?_⟩
        rintro (hlate | hcome)
        · by_contra hcome
          exact h ⟨hnext, hlate, not_le.mp hcome⟩
        · exact hcome
    · refine iff_of_true (iff_of_true (.inl (by omega)) ?_) fun h => hnext h.1
      exact Schedule.due_later millisOfDay_pos refreshTimePoints.ofPoint_mem_of_mem
        (mt List.map_eq_nil_iff.mp refreshTimePoints.ne_nil) (by omega)
  · rw [refreshTimePoints.isReachRefreshTime_sameDay htime heq,
      refreshTimePoints.due_sameDay_iff heq]
    exact iff_of_true Iff.rfl fun h => absurd h.1 (by omega)

/-- The points five and twelve, the last refresh at eight, and one in the morning. -/
theorem isReachRefreshTime_overnight :
    ((isReachRefreshTime 0 (25 * millisOfHour) (8 * millisOfHour) [5, 12] false).1 = true ↔
      Due millisOfDay ([5, 12].map (ofPoint false)) (8 * millisOfHour + 0)
        (25 * millisOfHour + 0)) ↔
      ¬Missed 0 (25 * millisOfHour) (8 * millisOfHour)
        (⟨[5, 12], List.cons_ne_nil _ _, List.pairwise_pair.mpr (by decide),
          List.forall_mem_cons.mpr ⟨by decide, List.forall_mem_singleton.mpr (by decide)⟩⟩ :
            RefreshTimePoints false) :=
  isReachRefreshTime_iff 0 (by decide) (by decide)
    ⟨[5, 12], List.cons_ne_nil _ _, List.pairwise_pair.mpr (by decide),
      List.forall_mem_cons.mpr ⟨by decide, List.forall_mem_singleton.mpr (by decide)⟩⟩

/-- At one in the morning, twelve o'clock of yesterday has passed since eight. -/
theorem not_isReachRefreshTime :
    ¬((isReachRefreshTime 0 (25 * millisOfHour) (8 * millisOfHour) [5, 12] false).1 = true ↔
      Due millisOfDay ([5, 12].map (ofPoint false)) (8 * millisOfHour + 0)
        (25 * millisOfHour + 0)) := by
  intro h
  have hdue : Due millisOfDay ([5, 12].map (ofPoint false)) (8 * millisOfHour + 0)
      (25 * millisOfHour + 0) := ⟨0, ofPoint false 12, by simp, by decide, by decide⟩
  exact absurd (h.mpr hdue) (by decide)

end SrgpGame.Time
