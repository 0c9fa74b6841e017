import SrgpGame.Lib.Schedule

set_option autoImplicit false

/-!
# Dates and times

Instants are milliseconds since the epoch. In a time zone whose offset does not change, the local
date and the local time of an instant are the day and the time within the day of the instant plus
the offset.

## Main definitions

* `LocalDateTime`, `LocalDateTime.ofEpochMilli` — a date with a time, and that of an instant.
* `getHour`, `getMinute`, `minusDays` — the methods that are used.

## Main results

* `lt_hour_iff`, `lt_minute_iff` — sharp times compare as hours, or as hours and minutes, do.
-/

namespace SrgpGame.Time

open Schedule (clock date)

/-- The milliseconds of a day. -/
def millisOfDay : ℤ := 86400000

/-- The milliseconds of an hour. -/
def millisOfHour : ℤ := 3600000

/-- The milliseconds of a minute. -/
def millisOfMinute : ℤ := 60000

/-- `LocalDateTime`: the day since the epoch, and the milliseconds since midnight. -/
structure LocalDateTime where
  toLocalDate : ℤ
  toLocalTime : ℤ
  deriving DecidableEq, Repr

namespace LocalDateTime

/-- `LocalDateTime.ofInstant`, in a time zone with an offset. -/
def ofEpochMilli (offset t : ℤ) : LocalDateTime :=
  ⟨date millisOfDay (t + offset), clock millisOfDay (t + offset)⟩

/-- `getHour`. -/
def getHour (t : LocalDateTime) : ℤ := t.toLocalTime / millisOfHour

/-- `getMinute`. -/
def getMinute (t : LocalDateTime) : ℤ := t.toLocalTime % millisOfHour / millisOfMinute

/-- `minusDays`. -/
def minusDays (t : LocalDateTime) (days : ℤ) : LocalDateTime :=
  { t with toLocalDate := t.toLocalDate - days }

end LocalDateTime

/-- An hour, sharp, in milliseconds since midnight. -/
def ofHour (hour : ℤ) : ℤ := hour * millisOfHour

/-- A time with hours and minutes, as `hour * 100 + minute`, in milliseconds since midnight. -/
def ofBrief (brief : ℤ) : ℤ := brief / 100 * millisOfHour + brief % 100 * millisOfMinute

variable {t : LocalDateTime}

lemma millisOfDay_pos : 0 < millisOfDay := by decide

/-- An hour is a time within the day. -/
lemma ofHour_mem {hour : ℤ} (h₀ : 0 ≤ hour) (h₁ : hour ≤ 23) :
    0 ≤ ofHour hour ∧ ofHour hour < millisOfDay := by
  unfold ofHour millisOfHour millisOfDay
  omega

/-- Hours and minutes are a time within the day. -/
lemma ofBrief_mem {brief : ℤ} (h₀ : 0 ≤ brief) (h₁ : brief / 100 ≤ 23) (h₂ : brief % 100 ≤ 59) :
    0 ≤ ofBrief brief ∧ ofBrief brief < millisOfDay := by
  unfold ofBrief millisOfHour millisOfMinute millisOfDay
  omega

/-- A time is before an hour, sharp, just if its hour is. -/
lemma lt_hour_iff (hour : ℤ) : t.toLocalTime < ofHour hour ↔ t.getHour < hour := by
  unfold ofHour LocalDateTime.getHour millisOfHour
  omega

/-- A time is before a time with hours and minutes just if its hour and minute are. -/
lemma lt_brief_iff {brief : ℤ} (h₂ : brief % 100 ≤ 59) :
    t.toLocalTime < ofBrief brief ↔ t.getHour * 100 + t.getMinute < brief := by
  unfold ofBrief LocalDateTime.getHour LocalDateTime.getMinute millisOfHour millisOfMinute
  omega

end SrgpGame.Time
