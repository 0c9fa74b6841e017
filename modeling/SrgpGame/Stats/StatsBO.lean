import SrgpGame.Lib.Machine

set_option autoImplicit false

/-!
# The statistics of a player

What a player has done is counted under numbers. A number is made of the kind of the statistic and a
parameter, which is the kind of business or the goods. Each change raises an event that tells the
number, and the count before and after.

## Main definitions

* `EvtTypeStats` — the kinds of statistics.
* `StatsVO` — what is counted.
* `dealChange` — a change, and the event that it raises.
* `EvtTypeStats.unwrapStatsType` — the parameter from the number.

## Main results

* `EvtTypeStats.unwrapStatsType_statsType_add` — when the parameter is what the number was made of.
-/

namespace SrgpGame.Stats

/-- `COMPLEX_TYPE_START`: from here on a number has a parameter. -/
def complexTypeStart : Int32 := 1000

/-- `EvtTypeStats`: the kinds of statistics. -/
inductive EvtTypeStats where
  | specBizCount
  | specIdGoodsCollc
  | specIdGoodsUse
  deriving DecidableEq, Repr

/-- What a `GameEvent` about statistics has of parameters; `EnterGame` has none of them. -/
structure GameEvent where
  type : Option Int32 := none
  before : Option Int64 := none
  after : Option Int64 := none
  deriving DecidableEq, Repr

namespace EvtTypeStats

/-- `getStatsType`. -/
def statsType : EvtTypeStats → Int32
  | specBizCount => 1000
  | specIdGoodsCollc => 100000000
  | specIdGoodsUse => 200000000

/-- `unwrapStatsType`. -/
def unwrapStatsType (stats : EvtTypeStats) (specStatsType : Option Int32) : Option Int32 :=
  specStatsType.map fun specStatsType =>
    if complexTypeStart ≤ specStatsType then specStatsType % stats.statsType else specStatsType

lemma toInt_statsType (stats : EvtTypeStats) :
    stats.statsType.toInt = 1000 ∨ stats.statsType.toInt = 100000000 ∨
      stats.statsType.toInt = 200000000 := by
  cases stats
  · exact .inl rfl
  · exact .inr (.inl rfl)
  · exact .inr (.inr rfl)

/-- A number that is out of range is negative. -/
lemma toInt_statsType_add (stats : EvtTypeStats) (param : Int32) :
    (stats.statsType + param).toInt = stats.statsType.toInt + param.toInt ∨
      (stats.statsType + param).toInt < 0 ∧ stats.statsType ≤ param := by
  have hmax := Int32.toInt_lt param
  have hmin := Int32.le_toInt param
  have hpos : 0 < stats.statsType.toInt ∧ stats.statsType.toInt ≤ 200000000 := by
    rcases toInt_statsType stats with h | h | h <;> omega
  by_cases hfits : stats.statsType.toInt + param.toInt < 2 ^ 31
  · exact .inl (Int32.toInt_add_of_fits (by omega) hfits)
  · refine .inr ⟨?_, Int32.le_iff_toInt_le.mpr (by omega)⟩
    rw [Int32.toInt_add, Int.bmod_def]
    norm_num at hfits hmax ⊢
    split_ifs <;> omega

/-- **The parameter comes back** just if it is not negative and less than the number of the kind. -/
theorem unwrapStatsType_statsType_add (stats : EvtTypeStats) (param : Int32) :
    stats.unwrapStatsType (some (stats.statsType + param)) = some param ↔
      0 ≤ param ∧ param < stats.statsType := by
  have hstart : complexTypeStart.toInt = 1000 := rfl
  have hadd := toInt_statsType_add stats param
  unfold unwrapStatsType
  rw [Option.map_some, Option.some_inj]
  split_ifs with hle
  · -- the number has a parameter, and the remainder is not negative
    rw [Int32.le_iff_toInt_le, hstart] at hle
    rw [← Int32.toInt_inj, Int32.toInt_mod, Int.tmod_eq_emod_of_nonneg (by omega),
      Int32.le_iff_toInt_le, Int32.lt_iff_toInt_lt, Int32.toInt_zero]
    rcases toInt_statsType stats with h | h | h
    all_goals
      rw [h] at hadd ⊢
      omega
  · -- the number is taken for the parameter
    rw [Int32.le_iff_toInt_le, hstart] at hle
    rw [← Int32.toInt_inj, Int32.le_iff_toInt_le, Int32.lt_iff_toInt_lt, Int32.toInt_zero]
    rw [Int32.le_iff_toInt_le] at hadd
    rcases toInt_statsType stats with h | h | h
    all_goals
      rw [h] at hadd ⊢
      omega

end EvtTypeStats

/-! ## Changes -/

/-- `StatsVO`: what is counted. -/
structure StatsVO where
  data : AList fun _ : Int32 => Int64

namespace StatsVO

/-- `getData`. -/
def getData (svo : StatsVO) (type : Int32) : Int64 := svo.data.getOrDefault type 0

/-- `add`. -/
def add (svo : StatsVO) (type : Int32) (change : Int64) : StatsVO :=
  match svo.data.lookup type with
  | none => ⟨svo.data.insert type change⟩
  | some now => ⟨svo.data.insert type (now + change)⟩

/-- `update`. -/
def update (svo : StatsVO) (type : Int32) (update : Int64) : StatsVO :=
  ⟨svo.data.insert type update⟩

@[simp] lemma getData_update (svo : StatsVO) (type : Int32) (update : Int64) :
    (svo.update type update).getData type = update := by
  unfold getData StatsVO.update
  rw [AList.getOrDefault_insert, if_pos rfl]

end StatsVO

/-- `exchangParameterizedType`. -/
def exchangParameterizedType (type param : Int32) : Int32 :=
  if complexTypeStart ≤ type then type + param else type

/-- **`dealChange`**: adds to a count or sets it. The event is what it raises. -/
def dealChange (svo : StatsVO) (type : Int32) (change : Int64) (addOrUpd : Bool) :
    StatsVO × GameEvent :=
  let before := svo.getData type
  let svo := if addOrUpd then svo.add type change else svo.update type change
  (svo, { type := some type, before := some before, after := some (svo.getData type) })

lemma exchangParameterizedType_statsType (stats : EvtTypeStats) (param : Int32) :
    exchangParameterizedType stats.statsType param = stats.statsType + param := by
  have hle : complexTypeStart ≤ stats.statsType := by
    cases stats <;> decide
  exact if_pos hle

end SrgpGame.Stats
