import SrgpGame.Lib.Runs
import SrgpGame.Shop.RefreshTime
import Mathlib.Data.List.Nodup

set_option autoImplicit false

/-!
# The version of a store

What players have bought in a store counts for the present version of the store only. The version is
increased when a refresh hour has come: when the server starts, as `refStore` decides by the stored
time of the last refresh, and every hour, when `systemRef` finds the hour in the list. No method
writes the stored time.

## Main definitions

* `StoreVO`, `refStore`, `systemRef` — a store and the methods on it.
* `StoreState`, `step` — a store with the last time at which one of the methods ran.
* `Exact` — the version increases by one just if a refresh hour has come since.
* `Regular` — the stored time and the listed hour tell whether one has come since.

## Main results

* `exact_iff` — a step is exact just if it is regular.
* `exact_of_regular` — the versions of a regular run are exact.

## Design notes

The hour that `systemRef` gets from `DateUtil.getCurrentHour` is a function of the time, any one.
What `init` does to the items of a store is left out.
-/

namespace SrgpGame.Store

open Schedule (Due)
open Shop (checkRefreshTime)
open Time (millisOfDay millisOfHour ofHour)

/-! ## Stores -/

/-- `StoreVO`, as far as the version depends on it. -/
structure StoreVO where
  refreshHours : List ℤ
  /-- The time of the last refresh. -/
  refreshTime : ℤ
  version : Int32
  deriving DecidableEq, Repr

/-- `addStoreVersion`. -/
def addStoreVersion (storeVO : StoreVO) : StoreVO :=
  { storeVO with version := storeVO.version + 1 }

/-- **`refStore`**, at a time `now`: it decides as `checkRefreshTime` does. -/
def refStore (offset now : ℤ) (storeVO : StoreVO) : StoreVO :=
  if checkRefreshTime offset now storeVO.refreshTime storeVO.refreshHours then
    addStoreVersion storeVO
  else storeVO

/-- **`systemRef`**, at an hour: the version increases for every hour of the list that it is. -/
def systemRef (hour : ℤ) (storeVO : StoreVO) : StoreVO :=
  storeVO.refreshHours.foldl (fun storeVO refHour =>
    if hour = refHour then addStoreVersion storeVO else storeVO) storeVO

/-! ## Runs -/

/-- What happens: the server starts, or the hourly job runs, at a time. -/
inductive Event where
  | init (now : ℤ)
  | systemRef (now : ℤ)
  deriving DecidableEq, Repr

/-- When it happens. -/
def Event.now : Event → ℤ
  | .init now => now
  | .systemRef now => now

/-- A store, and up to when it has been brought up to date. -/
structure StoreState where
  storeVO : StoreVO
  /-- The last time at which something happened, at first the stored time of the last refresh. For
  the statements only. -/
  seen : ℤ
  deriving DecidableEq, Repr

/-- A store at first. -/
def StoreState.start (storeVO : StoreVO) : StoreState := ⟨storeVO, storeVO.refreshTime⟩

variable (offset : ℤ) (getCurrentHour : ℤ → ℤ)

/-- **What happens** to a store. -/
def step (s : StoreState) (event : Event) : StoreState where
  storeVO :=
    match event with
    | .init now => refStore offset now s.storeVO
    | .systemRef now => Store.systemRef (getCurrentHour now) s.storeVO
  seen := max s.seen event.now

/-- A refresh hour has come since a time. -/
def DueSince (storeVO : StoreVO) (last now : ℤ) : Prop :=
  Due millisOfDay (storeVO.refreshHours.map ofHour) (last + offset) (now + offset)

/-- **A step is exact**: the version increases once if refresh hours have come since the last step,
and stays if none has. -/
def Exact (s : StoreState) (event : Event) : Prop :=
  (DueSince offset s.storeVO s.seen event.now →
    (step offset getCurrentHour s event).storeVO.version = s.storeVO.version + 1) ∧
  (¬DueSince offset s.storeVO s.seen event.now →
    (step offset getCurrentHour s event).storeVO.version = s.storeVO.version)

/-- The refresh hours are hours of the day, in order. -/
structure InOrder (refreshHours : List ℤ) : Prop where
  sorted : refreshHours.Pairwise (· < ·)
  hour_mem : ∀ hour ∈ refreshHours, 0 ≤ hour ∧ hour ≤ 23

/-- **A step is regular**: the hours are in order; at a start, if one has come since the stored
time, which stays what it is, then one has come since the last step; and the hourly job finds its
hour in the list just if one has come since the last step. -/
def Regular (s : StoreState) (event : Event) : Prop :=
  InOrder s.storeVO.refreshHours ∧
    match event with
    | .init now =>
      DueSince offset s.storeVO s.storeVO.refreshTime now → DueSince offset s.storeVO s.seen now
    | .systemRef now =>
      getCurrentHour now ∈ s.storeVO.refreshHours ↔ DueSince offset s.storeVO s.seen now

variable {offset getCurrentHour}

/-! ## What the methods do -/

/-- `refStore` finds out whether an hour has come since the stored time. -/
lemma isDue_iff {storeVO : StoreVO} (h : InOrder storeVO.refreshHours) (now : ℤ) :
    checkRefreshTime offset now storeVO.refreshTime storeVO.refreshHours = true ↔
      DueSince offset storeVO storeVO.refreshTime now := by
  unfold DueSince
  by_cases hnil : storeVO.refreshHours = []
  · rw [hnil]
    refine iff_of_false (by simp [checkRefreshTime]) ?_
    rintro ⟨d, p, hp, -⟩
    cases hp
  by_cases hle : storeVO.refreshTime ≤ now
  · have hsorted : storeVO.refreshHours.Pairwise (· ≤ ·) := h.sorted.imp le_of_lt
    exact Shop.checkRefreshTime_eq_true hnil hsorted h.hour_mem hle
  · refine iff_of_false ?_ ?_
    · cases hhours : storeVO.refreshHours with
      | nil => exact absurd hhours hnil
      | cons first rest => simp [checkRefreshTime, not_le.mp hle]
    · rintro ⟨d, p, -, hlast, hnow⟩
      omega

/-- The job adds the number of times that the hour is listed. -/
lemma version_systemRef (hour : ℤ) (storeVO : StoreVO) :
    (systemRef hour storeVO).version =
      storeVO.version + Int32.ofNat (storeVO.refreshHours.count hour) := by
  obtain ⟨hours, refreshTime, version⟩ := storeVO
  have hloop : ∀ (hours rest : List ℤ) (version : Int32),
      (rest.foldl (fun storeVO refHour =>
        if hour = refHour then addStoreVersion storeVO else storeVO)
        (⟨hours, refreshTime, version⟩ : StoreVO)).version =
          version + Int32.ofNat (rest.count hour) := by
    intro hours rest
    induction rest with
    | nil => simp
    | cons refHour rest ih =>
      intro version
      rw [List.foldl_cons]
      by_cases hhour : hour = refHour
      · rw [if_pos hhour, addStoreVersion, ih, hhour, List.count_cons_self, Int32.ofNat_add,
          Int32.add_comm (Int32.ofNat _), ← Int32.add_assoc]
        rfl
      · rw [if_neg hhour, ih, List.count_cons_of_ne (Ne.symm hhour)]
  exact hloop hours hours version

/-- The job adds one if the hour is listed, as no hour is listed twice. -/
lemma version_systemRef_of_inOrder {storeVO : StoreVO} (h : InOrder storeVO.refreshHours)
    (hour : ℤ) :
    (systemRef hour storeVO).version =
      if hour ∈ storeVO.refreshHours then storeVO.version + 1 else storeVO.version := by
  have hnodup : storeVO.refreshHours.Nodup := h.sorted.imp fun hlt => hlt.ne
  rw [version_systemRef]
  split_ifs with hmem
  · rw [List.count_eq_one_of_mem hnodup hmem]
    rfl
  · rw [List.count_eq_zero_of_not_mem hmem]
    exact Int32.add_zero _

/-- What is due since a later time is due since an earlier one. -/
lemma DueSince.mono {storeVO : StoreVO} {last last' now : ℤ} (hle : last ≤ last')
    (h : DueSince offset storeVO last' now) : DueSince offset storeVO last now := by
  obtain ⟨d, p, hp, hlast, hnow⟩ := h
  exact ⟨d, p, hp, by omega, hnow⟩

/-- A version that increases just if a condition holds. -/
lemma exact_of_ite {v : Int32} {c due : Prop} [Decidable c] :
    ((due → (if c then v + 1 else v) = v + 1) ∧ (¬due → (if c then v + 1 else v) = v)) ↔
      (c ↔ due) := by
  have hne : v ≠ v + 1 := by
    intro h
    have hzero : v + 0 = v + 1 := by rwa [Int32.add_zero]
    exact absurd (Int32.add_right_inj v |>.mp hzero) (by decide)
  by_cases hc : c
  · simp [hc, hne.symm]
  · simp [hc, hne]

/-! ## The main results -/

/-- **A step is exact** just if it is regular. -/
theorem exact_iff {s : StoreState} (h : InOrder s.storeVO.refreshHours)
    (hseen : s.storeVO.refreshTime ≤ s.seen) (event : Event) :
    Exact offset getCurrentHour s event ↔ Regular offset getCurrentHour s event := by
  refine Iff.trans ?_ (and_iff_right h).symm
  cases event with
  | init now =>
    have hversion : (step offset getCurrentHour s (.init now)).storeVO.version =
        if checkRefreshTime offset now s.storeVO.refreshTime s.storeVO.refreshHours then
          s.storeVO.version + 1 else s.storeVO.version := by
      show (refStore offset now s.storeVO).version = _
      rw [refStore]
      split <;> rfl
    rw [Exact, hversion, exact_of_ite, isDue_iff h]
    exact ⟨fun hiff => hiff.mp, fun himp => ⟨himp, DueSince.mono hseen⟩⟩
  | systemRef now =>
    have hversion : (step offset getCurrentHour s (.systemRef now)).storeVO.version =
        if getCurrentHour now ∈ s.storeVO.refreshHours then
          s.storeVO.version + 1 else s.storeVO.version := version_systemRef_of_inOrder h _
    rw [Exact, hversion, exact_of_ite]
    rfl

/-- No step moves the stored time, or changes the hours. -/
lemma refreshTime_step (s : StoreState) (event : Event) :
    (step offset getCurrentHour s event).storeVO.refreshTime = s.storeVO.refreshTime ∧
      (step offset getCurrentHour s event).storeVO.refreshHours = s.storeVO.refreshHours := by
  cases event with
  | init now =>
    show (refStore offset now s.storeVO).refreshTime = _ ∧
      (refStore offset now s.storeVO).refreshHours = _
    rw [refStore]
    split <;> exact ⟨rfl, rfl⟩
  | systemRef now =>
    have hloop : ∀ (rest : List ℤ) (storeVO : StoreVO),
        (rest.foldl (fun storeVO refHour =>
          if getCurrentHour now = refHour then addStoreVersion storeVO else storeVO)
          storeVO).refreshTime = storeVO.refreshTime ∧
        (rest.foldl (fun storeVO refHour =>
          if getCurrentHour now = refHour then addStoreVersion storeVO else storeVO)
          storeVO).refreshHours = storeVO.refreshHours := by
      intro rest
      induction rest with
      | nil => exact fun _ => ⟨rfl, rfl⟩
      | cons refHour rest ih =>
        intro storeVO
        rw [List.foldl_cons]
        split
        · exact ih _
        · exact ih _
    exact hloop _ _

/-- **The versions of a regular run are exact**: they increase once for the refresh hours that have
come between two steps, and not if none has. -/
theorem exact_of_regular (storeVO : StoreVO) (events : List Event)
    (h : Runs.EveryStep (step offset getCurrentHour) (Regular offset getCurrentHour)
      (StoreState.start storeVO) events) :
    Runs.EveryStep (step offset getCurrentHour) (Exact offset getCurrentHour)
      (StoreState.start storeVO) events := by
  refine Runs.everyStep_of_inv (fun s _ => s.storeVO.refreshTime ≤ s.seen) ?_ ?_ le_rfl h
  · intro s event _ hseen _
    rw [(refreshTime_step s event).1]
    exact hseen.trans (le_max_left _ _)
  · intro s event _ hseen hregular
    exact (exact_iff hregular.1 hseen event).mpr hregular

/-! ## A store that is refreshed at five -/

section AtFive

/-- A store that is refreshed at five every day. -/
def atFive : StoreVO := ⟨[5], 0, 0⟩

/-- The hour of a time. -/
def hourOf (now : ℤ) : ℤ := (Time.LocalDateTime.ofEpochMilli 0 now).getHour

/-- Five o'clock has come since midnight. -/
lemma dueSince_atFive : DueSince 0 atFive 0 (5 * millisOfHour) :=
  ⟨0, ofHour 5, List.mem_singleton_self _, by decide, by decide⟩

/-- After five, nothing comes on the same day. -/
lemma not_dueSince_atFive (version : Int32) {last now : ℤ} (hlast : 5 * millisOfHour ≤ last)
    (hdate : last / millisOfDay = now / millisOfDay)
    (hclock : last % millisOfDay = last) :
    ¬DueSince 0 { atFive with version := version } last now := by
  have hpoints : ∀ p ∈ [5].map ofHour, 0 ≤ p ∧ p < millisOfDay := by
    intro p hp
    rw [List.map_singleton, List.mem_singleton] at hp
    rw [hp]
    decide
  have hdate' : Schedule.date millisOfDay (last + 0) = Schedule.date millisOfDay (now + 0) := by
    rw [Int.add_zero, Int.add_zero]
    exact hdate
  have hclock' : Schedule.clock millisOfDay (last + 0) = last := by
    rw [Int.add_zero]
    exact hclock
  show ¬Due millisOfDay ([5].map ofHour) (last + 0) (now + 0)
  rw [Schedule.due_sameDay_iff Time.millisOfDay_pos hpoints hdate', hclock']
  rintro ⟨p, hp, hlt, -⟩
  rw [List.map_singleton, List.mem_singleton] at hp
  rw [hp, ofHour] at hlt
  omega

/-- The job runs at five and at six. -/
theorem exact_of_regular_atFive :
    Runs.EveryStep (step 0 hourOf) (Exact 0 hourOf) (StoreState.start atFive)
      [.systemRef (5 * millisOfHour), .systemRef (6 * millisOfHour)] := by
  have horder : InOrder [5] := ⟨by decide, by simp⟩
  refine exact_of_regular _ _ ⟨⟨horder, ?_⟩, ⟨horder, ?_⟩, trivial⟩
  · exact iff_of_true (by decide) dueSince_atFive
  · refine iff_of_false (by decide) ?_
    exact not_dueSince_atFive 1 (by decide) (by decide) (by decide)

/-- The server starts at six and again at seven: both starts increase the version. -/
theorem not_exact :
    ¬Runs.EveryStep (step 0 hourOf) (Exact 0 hourOf) (StoreState.start atFive)
      [.init (6 * millisOfHour), .init (7 * millisOfHour)] := by
  rintro ⟨-, ⟨-, hstays⟩, -⟩
  have hnot : ¬DueSince 0 { atFive with version := 1 } (6 * millisOfHour) (7 * millisOfHour) :=
    not_dueSince_atFive 1 (by decide) (by decide) (by decide)
  exact absurd (hstays hnot) (by decide)

end AtFive

end SrgpGame.Store
