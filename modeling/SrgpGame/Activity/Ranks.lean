import Mathlib.Data.Finset.Max
import SrgpGame.Activity.CondProcess
import SrgpGame.Lib.Comparator
import SrgpGame.Lib.Runs

set_option autoImplicit false

/-!
# Are the ranks of an activity sorted?

The players or guilds that are ranked have an entry each, with a value and the time of its last
change. They are sorted by value, the highest first, and those of the same value by time, the
earliest first. The comparator narrows the difference of two times to 32 bits.

## Main definitions

* `ActivityGroupDataVO` — the entries and the list of ranks.
* `comparable` — the comparator.
* `RankBevProcess`, `listener` — the processes that rank, and what they do at an event.
* `RanksRight` — what is wanted of the list.
* `Windowed`, `StaysClose` — the conditions for the comparator and for a call.

## Main results

* `totalPreorderOn_iff` — when the comparator is a total preorder on some entries.
* `perm_ranks_run` — each entry is in the list once, in all runs.
* `ranks_right` — the comparator, and the list in all runs.

## Design notes

The list refers to the entries of the map by their keys. What a process adds to an entry besides its
value and time does not depend on other entries. The method of the list that sorts is any one that
sorts where the comparator is a total preorder; where it is none, the method may throw, and then the
call of the listener ends there.
-/

namespace SrgpGame.Activity.Ranks

open Runs Comparator

/-! ## Entries and their order -/

/-- `RankDataVO`: the entry of a player or a guild. -/
structure RankDataVO where
  rankItemKey : Int32
  rankItemName : Option String
  value : Int64 := 0
  updateTime : Int64 := 0
  detailValues : AList (fun _ : Int32 => Int64) := ∅
  recordPlayer : List Int32 := []

instance : Inhabited RankDataVO := ⟨{ rankItemKey := 0, rankItemName := none }⟩

/-- `ActivityGroupDataVO`: the entries of a group, and their keys in the order of the ranks. -/
structure ActivityGroupDataVO where
  rankDataVOMap : AList fun _ : Int32 => RankDataVO
  ranks : List Int32

/-- **The comparator** of the entries. -/
def comparable (o1 o2 : RankDataVO) : Int32 :=
  if o2.value ≠ o1.value then
    if o2.value < o1.value then -1 else 1
  else (o1.updateTime - o2.updateTime).toInt32

namespace ActivityGroupDataVO

/-- The entry that the list refers to. -/
def entry (data : ActivityGroupDataVO) (key : Int32) : RankDataVO :=
  (data.rankDataVOMap.lookup key).getD default

/-- The comparator, for the entries that the list refers to. -/
def compareKeys (data : ActivityGroupDataVO) (k k' : Int32) : Int32 :=
  comparable (data.entry k) (data.entry k')

/-- What `sortRanks` leaves. -/
def sortRanks (sorting : Sorting Int32) (data : ActivityGroupDataVO) : ActivityGroupDataVO :=
  { data with ranks := sorting.sort data.compareKeys data.ranks }

/-- What `initRanks` leaves, for entries that were loaded. -/
def initRanks (sorting : Sorting Int32) (rankDataVOMap : AList fun _ : Int32 => RankDataVO) :
    ActivityGroupDataVO :=
  let data : ActivityGroupDataVO := ⟨rankDataVOMap, rankDataVOMap.keys⟩
  data.sortRanks sorting

/-- Changes an entry. -/
def put (data : ActivityGroupDataVO) (key : Int32) (rankDataVO : RankDataVO) :
    ActivityGroupDataVO :=
  { data with rankDataVOMap := data.rankDataVOMap.insert key rankDataVO }

end ActivityGroupDataVO

/-! ## The processes -/

/-- `PlayerVO`: a player, with the guild of the player by id and name. -/
structure PlayerVO where
  id : Int32
  name : String
  guild : Option (Int32 × String)

/-- `RankBevProcess`: a process that ranks, by the methods that its classes override. A new entry is
recorded. -/
structure RankBevProcess where
  getRankItemKey : PlayerVO → Int32
  getRankItemName : PlayerVO → Option String
  getRankValue : GameEvent → Int64
  isRecordRank : RankDataVO → PlayerVO → Bool
  /-- `recordDetailDate`: the detail values after it. -/
  recordDetailDate : RankDataVO → PlayerVO → Int64 → AList fun _ : Int32 => Int64
  /-- `recordPlayer`: the recorded players after it. -/
  recordPlayer : RankDataVO → PlayerVO → List Int32
  isRecordRank_new : ∀ rankDataVO player, rankDataVO.recordPlayer = [] →
    isRecordRank rankDataVO player = true

/-- `PlayerRankBevProcess`, with the values of a class. -/
def playerRank (getRankValue : GameEvent → Int64) : RankBevProcess where
  getRankItemKey player := player.id
  getRankItemName player := some player.name
  getRankValue := getRankValue
  isRecordRank _ _ := true
  recordDetailDate rankDataVO _ _ := rankDataVO.detailValues
  recordPlayer rankDataVO _ := rankDataVO.recordPlayer
  isRecordRank_new _ _ _ := rfl

/-- `GuildRankBevProcess`, with the values of a class. -/
def guildRank (getRankValue : GameEvent → Int64) : RankBevProcess where
  getRankItemKey player := player.guild.elim 0 Prod.fst
  getRankItemName player := player.guild.map Prod.snd
  getRankValue := getRankValue
  isRecordRank _ _ := true
  recordDetailDate rankDataVO player changeVal :=
    let oldValue := rankDataVO.detailValues.getOrDefault player.id 0
    rankDataVO.detailValues.insert player.id (oldValue + changeVal)
  recordPlayer rankDataVO _ := rankDataVO.recordPlayer
  isRecordRank_new _ _ _ := rfl

/-- The gain of `FightForcePlayerRankBevProcess` and `FightForceGuildRankBevProcess`. -/
def fightForceGain (event : GameEvent) : Int64 :=
  let change := event.after - event.before
  if change < 0 then 0 else change

def fightForcePlayerRank : RankBevProcess := playerRank fightForceGain

def fightForceGuildRank : RankBevProcess := guildRank fightForceGain

/-- `GuildExpRankBevProcess`. -/
def guildExpRank : RankBevProcess := guildRank fun event => event.num.toInt64

/-- `GuildPayMoneyRankBevProcess`. -/
def guildPayMoneyRank : RankBevProcess := guildRank fun event =>
  event.orderMoney.elim 0 Int32.toInt64

/-- `ChangeCurrencyRankBevProcess`, for the parameters `cType` and `op` of the behaviour. -/
def changeCurrencyRank (tCurrencyType op : Int32) : RankBevProcess := playerRank fun event =>
  let change := event.after - event.before
  if tCurrencyType ≠ event.currencyType then 0
  else if opFits op change then change.abs
  else 0

/-- `GuildPayMemberBevRankProcess`: every player counts once. -/
def guildPayMemberRank : RankBevProcess :=
  { guildRank fun _ => 1 with
    isRecordRank := fun rankDataVO player => player.id ∉ rankDataVO.recordPlayer
    recordPlayer := fun rankDataVO player => player.id :: rankDataVO.recordPlayer
    isRecordRank_new := fun rankDataVO player h => by simp [h] }

/-! ## The listener -/

/-- A call of a listener for the data of a group. -/
structure RankCall where
  process : RankBevProcess
  player : PlayerVO
  event : GameEvent

namespace RankCall

variable (sorting : Sorting Int32) (call : RankCall) (data : ActivityGroupDataVO)

/-- The key of the entry that the call is about. -/
def itemKey : Int32 := call.process.getRankItemKey call.player

/-- What an event adds. -/
def changeVal : Int64 := call.process.getRankValue call.event

/-- The entry that is made for a player or a guild that has none. -/
def newRankDataVO : RankDataVO where
  rankItemKey := call.itemKey
  rankItemName := call.process.getRankItemName call.player
  updateTime := call.event.now

/-- The data with an entry that the call is about. -/
def withEntry : ActivityGroupDataVO :=
  if (data.rankDataVOMap.lookup call.itemKey).isNone then
    { rankDataVOMap := data.rankDataVOMap.insert call.itemKey call.newRankDataVO
      ranks := data.ranks ++ [call.itemKey] }
  else data

/-- The entry with its new value. -/
def valued (rankDataVO : RankDataVO) : RankDataVO :=
  { rankDataVO with value := rankDataVO.value + call.changeVal }

/-- What is recorded besides the value, at the end. -/
def detailed (rankDataVO : RankDataVO) : RankDataVO :=
  let detailValues := call.process.recordDetailDate rankDataVO call.player call.changeVal
  let rankDataVO := { rankDataVO with detailValues := detailValues }
  { rankDataVO with recordPlayer := call.process.recordPlayer rankDataVO call.player }

/-- What is recorded in an entry that is there. The list is sorted if the value changes; if sorting
throws, no more is recorded. -/
def recordRank : ActivityGroupDataVO :=
  let rankDataVO := data.entry call.itemKey
  let changed := call.valued rankDataVO
  if changed.value ≠ rankDataVO.value then
    let data := data.put call.itemKey { changed with updateTime := call.event.now }
    if sorting.throws data.compareKeys data.ranks then data.sortRanks sorting
    else (data.sortRanks sorting).put call.itemKey (call.detailed (data.entry call.itemKey))
  else
    let data := data.put call.itemKey changed
    data.put call.itemKey (call.detailed (data.entry call.itemKey))

end RankCall

/-- What **`listener`** of the process leaves. -/
def listener (sorting : Sorting Int32) (data : ActivityGroupDataVO) (call : RankCall) :
    ActivityGroupDataVO :=
  if call.changeVal = 0 then data
  else if call.itemKey ≤ 0 then data
  else
    let data := call.withEntry data
    if !call.process.isRecordRank (data.entry call.itemKey) call.player then data
    else call.recordRank sorting data

/-- `getRank`: the place of the player or guild, zero if there is none. -/
def getRank (process : RankBevProcess) (player : PlayerVO) (data : ActivityGroupDataVO) : ℕ :=
  let itemKey := process.getRankItemKey player
  if (data.rankDataVOMap.lookup itemKey).isNone then 0
  else data.ranks.idxOf itemKey + 1

/-! ## What is wanted, and when it holds -/

/-- The order that is meant: the higher value first, and of one value the earlier time. -/
def Before (a b : RankDataVO) : Prop :=
  b.value < a.value ∨ a.value = b.value ∧ a.updateTime ≤ b.updateTime

instance : DecidableRel Before := fun _ _ => inferInstanceAs (Decidable (_ ∨ _))

/-- **The ranks are right**: the list has each entry once, in order. -/
structure RanksRight (data : ActivityGroupDataVO) : Prop where
  perm : data.ranks.Perm data.rankDataVOMap.keys
  sorted : data.ranks.Pairwise fun k k' => Before (data.entry k) (data.entry k')

/-- **The entries of each value are in a window**: modulo 2^32, their times are less than 2^31
milliseconds after that of one of them. -/
def Windowed (entries : List RankDataVO) : Prop :=
  ∀ a ∈ entries, ∃ b ∈ entries, b.value = a.value ∧
    ∀ c ∈ entries, c.value = a.value →
      (c.updateTime.toInt - b.updateTime.toInt) % 2 ^ 32 < 2 ^ 31

/-- The times of two entries differ by less than 2^31 milliseconds if their values are the same. -/
def Close (a b : RankDataVO) : Prop :=
  a.value = b.value → |a.updateTime.toInt - b.updateTime.toInt| < 2 ^ 31

/-- All entries are close. -/
def AllClose (data : ActivityGroupDataVO) : Prop :=
  ∀ k ∈ data.rankDataVOMap, ∀ k' ∈ data.rankDataVOMap, Close (data.entry k) (data.entry k')

/-- The call records something. -/
def Records (data : ActivityGroupDataVO) (call : RankCall) : Prop :=
  call.changeVal ≠ 0 ∧ 0 < call.itemKey ∧
    call.process.isRecordRank ((call.withEntry data).entry call.itemKey) call.player = true

/-- **The call keeps the entries close**: if it records something, the entry with its new value and
the time of the event is close to the others. -/
def StaysClose (data : ActivityGroupDataVO) (call : RankCall) : Prop :=
  Records data call → ∀ key ∈ data.rankDataVOMap, key ≠ call.itemKey →
    Close { call.valued ((call.withEntry data).entry call.itemKey) with
      updateTime := call.event.now } (data.entry key)

/-! ## The comparator -/

section Comparator

variable {a b c : RankDataVO} {entries : List RankDataVO}

lemma value_cases (a b : RankDataVO) :
    a.value < b.value ∨ a.value = b.value ∨ b.value < a.value := by
  rw [Int64.lt_iff_toInt_lt, Int64.lt_iff_toInt_lt, ← Int64.toInt_inj]
  exact lt_trichotomy _ _

lemma not_lex_of_lt {p : Prop} (h : a.value < b.value) :
    ¬(b.value < a.value ∨ a.value = b.value ∧ p) := by
  rintro (hgt | ⟨heq, -⟩)
  · exact Int64.lt_asymm h hgt
  · exact Int64.ne_of_lt h heq

/-- By value, and then by something that is transitive where the values are the same. -/
lemma lex_trans {p q r : Prop} (hab : b.value < a.value ∨ a.value = b.value ∧ p)
    (hbc : c.value < b.value ∨ b.value = c.value ∧ q)
    (htrans : a.value = b.value → b.value = c.value → p → q → r) :
    c.value < a.value ∨ a.value = c.value ∧ r := by
  rcases hab with hab | ⟨hab, hab'⟩
  · rcases hbc with hbc | ⟨hbc, -⟩
    · exact .inl (Int64.lt_trans hbc hab)
    · exact .inl (hbc ▸ hab)
  · rcases hbc with hbc | ⟨hbc, hbc'⟩
    · exact .inl (hab ▸ hbc)
    · exact .inr ⟨hab.trans hbc, htrans hab hbc hab' hbc'⟩

lemma comparable_of_lt (h : a.value < b.value) : comparable a b = 1 := by
  have hne : b.value ≠ a.value := (Int64.ne_of_lt h).symm
  unfold comparable
  rw [if_pos hne, if_neg (Int64.not_lt.mpr (Int64.le_of_lt h))]

lemma comparable_of_gt (h : b.value < a.value) : comparable a b = -1 := by
  unfold comparable
  rw [if_pos (Int64.ne_of_lt h), if_pos h]

/-- Of one value, the difference of the times is narrowed. -/
lemma toInt_comparable_of_eq (h : a.value = b.value) :
    (comparable a b).toInt = (a.updateTime.toInt - b.updateTime.toInt).bmod (2 ^ 32) := by
  unfold comparable
  rw [if_neg (not_not.mpr h.symm), Int64.toInt_toInt32, Int64.toInt_sub]
  exact Int.bmod_bmod_of_dvd ⟨2 ^ 32, by norm_num⟩

lemma comparable_nonpos_iff :
    comparable a b ≤ 0 ↔ b.value < a.value ∨ a.value = b.value ∧
      (a.updateTime.toInt - b.updateTime.toInt).bmod (2 ^ 32) ≤ 0 := by
  rcases value_cases a b with hlt | heq | hgt
  · rw [comparable_of_lt hlt]
    exact iff_of_false (by decide) (not_lex_of_lt hlt)
  · rw [Int32.le_iff_toInt_le, Int32.toInt_zero, toInt_comparable_of_eq heq, heq]
    simp
  · rw [comparable_of_gt hgt]
    exact iff_of_true (by decide) (.inl hgt)

/-- In a window the narrowed difference is the difference of the offsets in the window. -/
lemma bmod_eq_of_window {s t base : ℤ} (hs : (s - base) % 2 ^ 32 < 2 ^ 31)
    (ht : (t - base) % 2 ^ 32 < 2 ^ 31) :
    (s - t).bmod (2 ^ 32) = (s - base) % 2 ^ 32 - (t - base) % 2 ^ 32 := by
  rw [Int.bmod_def]
  norm_num at hs ht ⊢
  split_ifs <;> omega

/-- The first of the entries of a value begins their window. -/
lemma windowed_of_totalPreorderOn (h : TotalPreorderOn comparable entries) :
    Windowed entries := by
  intro a ha
  have hmem : a ∈ entries.filter fun c => c.value = a.value := by simp [ha]
  obtain ⟨b, hb, hfirst⟩ := (h.mono (List.filter_subset_self entries)).exists_least
    (List.ne_nil_of_mem hmem)
  rw [List.mem_filter, decide_eq_true_iff] at hb
  refine ⟨b, hb.1, hb.2, fun c hc hvalue => ?_⟩
  have hbc : b.value = c.value := hb.2.trans hvalue.symm
  have hle := hfirst c (by simp [hc, hvalue])
  have hsign := h.antisymm c hc b hb.1
  rw [Int32.le_iff_toInt_le, Int32.toInt_zero] at hle
  have hge : 0 ≤ (comparable c b).toInt := by
    by_contra hneg
    rw [Int.sign_eq_neg_one_of_neg (by omega)] at hsign
    have hone := Int.sign_eq_one_iff_pos.mp (show (comparable b c).toInt.sign = 1 by omega)
    omega
  rw [toInt_comparable_of_eq hbc.symm, Int.bmod_def] at hge
  norm_num at hge ⊢
  split_ifs at hge <;> omega

lemma totalPreorderOn_of_windowed (h : Windowed entries) : TotalPreorderOn comparable entries := by
  refine ⟨fun a ha b hb => ?_, fun a ha b hb c hc hab hbc => ?_⟩
  · rcases value_cases a b with hlt | heq | hgt
    · rw [comparable_of_lt hlt, comparable_of_gt hlt]
      rfl
    · obtain ⟨base, -, -, hwindow⟩ := h a ha
      rw [toInt_comparable_of_eq heq, toInt_comparable_of_eq heq.symm,
        bmod_eq_of_window (hwindow a ha rfl) (hwindow b hb heq.symm),
        bmod_eq_of_window (hwindow b hb heq.symm) (hwindow a ha rfl), ← Int.sign_neg, neg_sub]
    · rw [comparable_of_gt hgt, comparable_of_lt hgt]
      rfl
  · rw [comparable_nonpos_iff] at hab hbc ⊢
    refine lex_trans hab hbc fun hab hbc hab' hbc' => ?_
    obtain ⟨base, -, -, hwindow⟩ := h a ha
    have hwa := hwindow a ha rfl
    have hwb := hwindow b hb hab.symm
    have hwc := hwindow c hc (hab.trans hbc).symm
    rw [bmod_eq_of_window hwa hwb] at hab'
    rw [bmod_eq_of_window hwb hwc] at hbc'
    rw [bmod_eq_of_window hwa hwc]
    omega

/-- **When the comparator is a total preorder**: just if the entries of each value are in a
window. -/
theorem totalPreorderOn_iff : TotalPreorderOn comparable entries ↔ Windowed entries :=
  ⟨windowed_of_totalPreorderOn, totalPreorderOn_of_windowed⟩

instance : Std.Total Before where
  total a b := by
    rcases value_cases a b with hlt | heq | hgt
    · exact .inr (.inl hlt)
    · rcases le_total a.updateTime.toInt b.updateTime.toInt with hle | hle
      · exact .inl (.inr ⟨heq, Int64.le_iff_toInt_le.mpr hle⟩)
      · exact .inr (.inr ⟨heq.symm, Int64.le_iff_toInt_le.mpr hle⟩)
    · exact .inl (.inl hgt)

instance : IsTrans RankDataVO Before where
  trans _ _ _ hab hbc := lex_trans hab hbc fun _ _ => Int64.le_trans

/-- **Close entries** are compared as it is meant. -/
lemma Close.before_iff (h : Close a b) : 0 ≤ comparable b a ↔ Before a b := by
  rcases value_cases a b with hlt | heq | hgt
  · rw [comparable_of_gt hlt]
    exact iff_of_false (by decide) (not_lex_of_lt hlt)
  · have hclose := abs_lt.mp (h heq)
    unfold Before
    rw [Int32.le_iff_toInt_le, Int32.toInt_zero, toInt_comparable_of_eq heq.symm,
      Int.bmod_eq_of_le_mul_two (by norm_num; omega) (by norm_num; omega), heq,
      Int64.le_iff_toInt_le]
    simp
  · rw [comparable_of_lt hgt]
    exact iff_of_true (by decide) (.inl hgt)

lemma Close.symm (h : Close a b) : Close b a := by
  intro hvalue
  rw [abs_sub_comm]
  exact h hvalue.symm

/-- Close entries are in windows, so the comparator is a total preorder on them.

**Proof sketch.** The window of a value begins with its earliest entry. -/
lemma windowed_of_close (h : ∀ a ∈ entries, ∀ b ∈ entries, Close a b) : Windowed entries := by
  classical
  intro a ha
  have hmem : a ∈ entries.filter fun c => c.value = a.value := by simp [ha]
  obtain ⟨b, hb, hleast⟩ := Finset.exists_min_image
    (entries.filter fun c => c.value = a.value).toFinset (fun c => c.updateTime.toInt)
    ⟨a, List.mem_toFinset.mpr hmem⟩
  simp only [List.mem_toFinset, List.mem_filter, decide_eq_true_eq] at hb hleast
  refine ⟨b, hb.1, hb.2, fun c hc hvalue => ?_⟩
  have hle := hleast c ⟨hc, hvalue⟩
  have hlt := abs_lt.mp (h c hc b hb.1 (hvalue.trans hb.2.symm))
  rw [Int.emod_eq_of_lt (by omega) (by omega)]
  exact hlt.2

end Comparator

/-! ## Changes of the data -/

section Data

variable {sorting : Sorting Int32} {data : ActivityGroupDataVO} {key : Int32}
  {rankDataVO : RankDataVO}

lemma Close.rfl : Close rankDataVO rankDataVO := by
  intro _
  simp

namespace ActivityGroupDataVO

lemma entry_put (k : Int32) :
    (data.put key rankDataVO).entry k = if k = key then rankDataVO else data.entry k := by
  unfold entry put
  by_cases h : k = key
  · subst h
    rw [if_pos rfl, AList.lookup_insert, Option.getD_some]
  · rw [if_neg h, AList.lookup_insert_ne h]

@[simp] lemma entry_put_self : (data.put key rankDataVO).entry key = rankDataVO := by
  rw [entry_put, if_pos rfl]

lemma entry_put_ne {k : Int32} (h : k ≠ key) :
    (data.put key rankDataVO).entry k = data.entry k := by
  rw [entry_put, if_neg h]

lemma mem_put (hkey : key ∈ data.rankDataVOMap) {k : Int32} :
    k ∈ (data.put key rankDataVO).rankDataVOMap ↔ k ∈ data.rankDataVOMap := by
  show k ∈ data.rankDataVOMap.insert key rankDataVO ↔ _
  rw [AList.mem_insert]
  exact ⟨fun h => h.elim (fun h => h ▸ hkey) id, .inr⟩

lemma perm_put (rankDataVO : RankDataVO) (hkey : key ∈ data.rankDataVOMap)
    (hperm : data.ranks.Perm data.rankDataVOMap.keys) :
    (data.put key rankDataVO).ranks.Perm (data.put key rankDataVO).rankDataVOMap.keys := by
  show data.ranks.Perm (data.rankDataVOMap.insert key rankDataVO).keys
  rw [AList.keys_insert]
  exact hperm.trans (List.perm_cons_erase (AList.mem_keys.mp hkey))

@[simp] lemma entry_sortRanks (k : Int32) : (data.sortRanks sorting).entry k = data.entry k := rfl

/-- Sorting leaves the keys in the list. -/
lemma perm_sortRanks (sorting : Sorting Int32) :
    (data.sortRanks sorting).ranks.Perm data.ranks := sorting.perm _ _

/-- On entries that are close the list is sorted, and sorting does not throw. -/
lemma sort_of_allClose (sorting : Sorting Int32) (hperm : data.ranks.Perm data.rankDataVOMap.keys)
    (hclose : AllClose data) :
    sorting.sort data.compareKeys data.ranks = Comparator.sort data.compareKeys data.ranks ∧
      sorting.throws data.compareKeys data.ranks = false := by
  have hwindowed : Windowed (data.ranks.map data.entry) := windowed_of_close fun a ha b hb => by
    obtain ⟨k, hk, rfl⟩ := List.mem_map.mp ha
    obtain ⟨k', hk', rfl⟩ := List.mem_map.mp hb
    exact hclose k (AList.mem_keys.mpr (hperm.mem_iff.mp hk)) k'
      (AList.mem_keys.mpr (hperm.mem_iff.mp hk'))
  have horder := totalPreorderOn_of_windowed hwindowed
  refine sorting.sorted _ _ ⟨fun k hk k' hk' => ?_, fun k hk k' hk' k'' hk'' => ?_⟩
  · exact horder.antisymm _ (List.mem_map_of_mem hk) _ (List.mem_map_of_mem hk')
  · exact horder.trans _ (List.mem_map_of_mem hk) _ (List.mem_map_of_mem hk') _
      (List.mem_map_of_mem hk'')

end ActivityGroupDataVO

/-- **The list after sorting**, if the entries are close. -/
theorem ranksRight_sortRanks (sorting : Sorting Int32)
    (hperm : data.ranks.Perm data.rankDataVOMap.keys) (hclose : AllClose data) :
    RanksRight (data.sortRanks sorting) where
  perm := (ActivityGroupDataVO.perm_sortRanks sorting).trans hperm
  sorted := by
    rw [ActivityGroupDataVO.sortRanks, (data.sort_of_allClose sorting hperm hclose).1]
    have : Std.Total fun k k' => Before (data.entry k) (data.entry k') :=
      ⟨fun k k' => Std.Total.total (data.entry k) (data.entry k')⟩
    have : IsTrans Int32 fun k k' => Before (data.entry k) (data.entry k') :=
      ⟨fun k k' k'' h h' => IsTrans.trans _ (data.entry k') _ h h'⟩
    have hmem (k : Int32) (hk : k ∈ data.ranks) : k ∈ data.rankDataVOMap :=
      AList.mem_keys.mpr (hperm.mem_iff.mp hk)
    exact pairwise_sort (fun k k' => Before (data.entry k) (data.entry k'))
      fun k hk k' hk' => (hclose k (hmem k hk) k' (hmem k' hk')).before_iff

/-- An entry is changed, but not its value and time. -/
lemma RanksRight.put (h : RanksRight data) (hkey : key ∈ data.rankDataVOMap)
    (hvalue : rankDataVO.value = (data.entry key).value)
    (htime : rankDataVO.updateTime = (data.entry key).updateTime) :
    RanksRight (data.put key rankDataVO) where
  perm := ActivityGroupDataVO.perm_put _ hkey h.perm
  sorted := by
    have hsame (k : Int32) : ((data.put key rankDataVO).entry k).value = (data.entry k).value ∧
        ((data.put key rankDataVO).entry k).updateTime = (data.entry k).updateTime := by
      by_cases hk : k = key
      · subst hk
        rw [ActivityGroupDataVO.entry_put_self]
        exact ⟨hvalue, htime⟩
      · rw [ActivityGroupDataVO.entry_put_ne hk]
        exact ⟨rfl, rfl⟩
    refine h.sorted.imp fun {k k'} hbefore => ?_
    unfold Before at hbefore ⊢
    rw [(hsame k).1, (hsame k').1, (hsame k).2, (hsame k').2]
    exact hbefore

/-- An entry is changed, and is close to the others then. -/
lemma allClose_put (hkey : key ∈ data.rankDataVOMap)
    (hothers : ∀ k ∈ data.rankDataVOMap, k ≠ key → ∀ k' ∈ data.rankDataVOMap, k' ≠ key →
      Close (data.entry k) (data.entry k'))
    (hother : ∀ k ∈ data.rankDataVOMap, k ≠ key → Close rankDataVO (data.entry k)) :
    AllClose (data.put key rankDataVO) := by
  intro k hk k' hk'
  rw [ActivityGroupDataVO.mem_put hkey] at hk hk'
  rw [ActivityGroupDataVO.entry_put, ActivityGroupDataVO.entry_put]
  split_ifs with hkk hkk'
  · exact .rfl
  · exact hother k' hk' hkk'
  · exact (hother k hk hkk).symm
  · exact hothers k hk hkk k' hk' ‹_›

end Data

/-! ## A call -/

section Call

variable {sorting : Sorting Int32} {data : ActivityGroupDataVO} {call : RankCall}

namespace RankCall

/-- A new entry is added at the end. -/
lemma withEntry_of_not_mem (h : call.itemKey ∉ data.rankDataVOMap) :
    call.withEntry data =
      { data.put call.itemKey call.newRankDataVO with ranks := data.ranks ++ [call.itemKey] } := by
  have hnone : (data.rankDataVOMap.lookup call.itemKey).isNone := by
    rw [AList.lookup_eq_none.mpr h]
    rfl
  unfold withEntry ActivityGroupDataVO.put
  rw [if_pos hnone]

lemma withEntry_of_mem (h : call.itemKey ∈ data.rankDataVOMap) : call.withEntry data = data := by
  have hsome := AList.lookup_isSome.mpr h
  unfold withEntry
  rw [if_neg (by rw [Option.isNone_iff_eq_none]; exact Option.isSome_iff_ne_none.mp hsome)]

lemma mem_withEntry {k : Int32} :
    k ∈ (call.withEntry data).rankDataVOMap ↔ k = call.itemKey ∨ k ∈ data.rankDataVOMap := by
  by_cases h : call.itemKey ∈ data.rankDataVOMap
  · rw [withEntry_of_mem h]
    exact ⟨.inr, fun hk => hk.elim (fun hk => hk ▸ h) id⟩
  · rw [withEntry_of_not_mem h]
    exact AList.mem_insert _

lemma entry_withEntry_ne {k : Int32} (h : k ≠ call.itemKey) :
    (call.withEntry data).entry k = data.entry k := by
  by_cases hmem : call.itemKey ∈ data.rankDataVOMap
  · rw [withEntry_of_mem hmem]
  · rw [withEntry_of_not_mem hmem]
    exact ActivityGroupDataVO.entry_put_ne h

lemma perm_withEntry (h : data.ranks.Perm data.rankDataVOMap.keys) :
    (call.withEntry data).ranks.Perm (call.withEntry data).rankDataVOMap.keys := by
  by_cases hmem : call.itemKey ∈ data.rankDataVOMap
  · rw [withEntry_of_mem hmem]
    exact h
  · rw [withEntry_of_not_mem hmem]
    show (data.ranks ++ [call.itemKey]).Perm (data.rankDataVOMap.insert _ _).keys
    rw [AList.keys_insert, List.erase_of_not_mem (by rwa [← AList.mem_keys])]
    exact (List.perm_append_singleton _ _).trans (h.cons _)

/-- If nothing is recorded, there was an entry. -/
lemma mem_of_not_isRecordRank
    (h : call.process.isRecordRank ((call.withEntry data).entry call.itemKey) call.player = false) :
    call.itemKey ∈ data.rankDataVOMap := by
  by_contra hmem
  rw [withEntry_of_not_mem hmem] at h
  have hentry : ActivityGroupDataVO.entry { data.put call.itemKey call.newRankDataVO with
      ranks := data.ranks ++ [call.itemKey] } call.itemKey = call.newRankDataVO :=
    ActivityGroupDataVO.entry_put_self
  rw [hentry, call.process.isRecordRank_new _ _ rfl] at h
  exact Bool.noConfusion h

/-- The value changes. -/
lemma valued_ne (h : call.changeVal ≠ 0) (rankDataVO : RankDataVO) :
    (call.valued rankDataVO).value ≠ rankDataVO.value := by
  intro heq
  have hadd : rankDataVO.value + call.changeVal = rankDataVO.value + 0 := by
    rw [Int64.add_zero]
    exact heq
  exact h (Int64.add_right_inj _ |>.mp hadd)

end RankCall

/-- What a call is about besides values and times does not matter. -/
lemma listener_cases (sorting : Sorting Int32) (data : ActivityGroupDataVO) (call : RankCall) :
    (¬Records data call ∧ listener sorting data call = data) ∨
      (Records data call ∧
        listener sorting data call = call.recordRank sorting (call.withEntry data)) := by
  unfold Records listener
  by_cases hzero : call.changeVal = 0
  · rw [if_pos hzero]
    exact .inl ⟨fun h => h.1 hzero, rfl⟩
  rw [if_neg hzero]
  by_cases hkey : call.itemKey ≤ 0
  · rw [if_pos hkey]
    exact .inl ⟨fun h => absurd hkey (Int32.not_le.mpr h.2.1), rfl⟩
  rw [if_neg hkey]
  cases hrec : call.process.isRecordRank ((call.withEntry data).entry call.itemKey) call.player with
  | false =>
    refine .inl ⟨fun h => Bool.false_ne_true h.2.2, ?_⟩
    have hmem := RankCall.mem_of_not_isRecordRank hrec
    show (if (!_) = true then call.withEntry data else _) = data
    rw [hrec, RankCall.withEntry_of_mem hmem]
    rfl
  | true =>
    refine .inr ⟨⟨hzero, Int32.not_le.mp hkey, rfl⟩, ?_⟩
    show (if (!_) = true then _ else call.recordRank sorting (call.withEntry data)) = _
    rw [hrec]
    rfl

/-- The list is sorted after the value, and the rest is recorded then, unless sorting throws. -/
lemma recordRank_eq (h : call.changeVal ≠ 0) (data : ActivityGroupDataVO) :
    call.recordRank sorting data =
      let changed : RankDataVO :=
        { call.valued (data.entry call.itemKey) with updateTime := call.event.now }
      let valued := data.put call.itemKey changed
      if sorting.throws valued.compareKeys valued.ranks then valued.sortRanks sorting
      else (valued.sortRanks sorting).put call.itemKey (call.detailed changed) := by
  have hne := RankCall.valued_ne h (data.entry call.itemKey)
  unfold RankCall.recordRank
  simp only [if_pos hne, ActivityGroupDataVO.entry_put_self]

/-- A call keeps each entry in the list once, whatever the times are and wherever it ends. -/
lemma perm_listener (h : data.ranks.Perm data.rankDataVOMap.keys) :
    (listener sorting data call).ranks.Perm (listener sorting data call).rankDataVOMap.keys := by
  rcases listener_cases sorting data call with ⟨-, hsame⟩ | ⟨hrecords, hrec⟩
  · rw [hsame]
    exact h
  · have hkey : call.itemKey ∈ (call.withEntry data).rankDataVOMap :=
      RankCall.mem_withEntry.mpr (.inl rfl)
    have hsorted := (ActivityGroupDataVO.perm_sortRanks sorting).trans
      (ActivityGroupDataVO.perm_put { call.valued ((call.withEntry data).entry call.itemKey) with
        updateTime := call.event.now } hkey (RankCall.perm_withEntry h))
    rw [hrec, recordRank_eq hrecords.1]
    simp only
    split_ifs
    · exact hsorted
    · exact ActivityGroupDataVO.perm_put _ ((ActivityGroupDataVO.mem_put hkey).mpr hkey) hsorted

/-- **A call** keeps the list right and the entries close. -/
theorem right_listener (hright : RanksRight data) (hclose : AllClose data)
    (hstays : StaysClose data call) :
    RanksRight (listener sorting data call) ∧ AllClose (listener sorting data call) := by
  rcases listener_cases sorting data call with ⟨-, hsame⟩ | ⟨hrecords, hrec⟩
  · rw [hsame]
    exact ⟨hright, hclose⟩
  rw [hrec, recordRank_eq hrecords.1]
  simp only
  set before := call.withEntry data with hbefore
  set changed : RankDataVO :=
    { call.valued (before.entry call.itemKey) with updateTime := call.event.now } with hchanged
  have hkey : call.itemKey ∈ before.rankDataVOMap := RankCall.mem_withEntry.mpr (.inl rfl)
  -- the other entries are those from before
  have hdata {k : Int32} (hk : k ∈ before.rankDataVOMap) (hne : k ≠ call.itemKey) :
      k ∈ data.rankDataVOMap ∧ before.entry k = data.entry k :=
    ⟨(RankCall.mem_withEntry.mp hk).resolve_left hne, RankCall.entry_withEntry_ne hne⟩
  have hothers (k) (hk : k ∈ before.rankDataVOMap) (hne : k ≠ call.itemKey)
      (k') (hk' : k' ∈ before.rankDataVOMap) (hne' : k' ≠ call.itemKey) :
      Close (before.entry k) (before.entry k') := by
    rw [(hdata hk hne).2, (hdata hk' hne').2]
    exact hclose k (hdata hk hne).1 k' (hdata hk' hne').1
  have hother (k) (hk : k ∈ before.rankDataVOMap) (hne : k ≠ call.itemKey) :
      Close changed (before.entry k) := by
    rw [(hdata hk hne).2]
    exact hstays hrecords k (hdata hk hne).1 hne
  have hclose' := allClose_put hkey hothers hother
  have hperm := ActivityGroupDataVO.perm_put changed hkey
    (RankCall.perm_withEntry hright.perm)
  have hsorted := ranksRight_sortRanks sorting hperm hclose'
  have hreturns := (ActivityGroupDataVO.sort_of_allClose sorting hperm hclose').2
  rw [if_neg (by rw [hreturns]; exact Bool.false_ne_true)]
  have hkey' : call.itemKey ∈ (before.put call.itemKey changed).rankDataVOMap :=
    (ActivityGroupDataVO.mem_put hkey).mpr hkey
  have hentry :
      ((before.put call.itemKey changed).sortRanks sorting).entry call.itemKey = changed :=
    ActivityGroupDataVO.entry_put_self
  constructor
  · apply hsorted.put hkey'
    · rw [hentry]
      rfl
    · rw [hentry]
      rfl
  · refine allClose_put hkey' (fun k hk _ k' hk' _ => hclose' k hk k' hk') fun k hk hne => ?_
    have hchanged' := hclose' _ hkey' k hk
    rw [ActivityGroupDataVO.entry_put_self] at hchanged'
    exact hchanged'

end Call

/-- **Each entry is in the list once**, in all runs, also where the comparator is no order and
sorting throws. -/
theorem perm_ranks_run (sorting : Sorting Int32) (rankDataVOMap : AList fun _ : Int32 => RankDataVO)
    (calls : List RankCall) :
    (run (listener sorting) (.initRanks sorting rankDataVOMap) calls).ranks.Perm
      (run (listener sorting) (.initRanks sorting rankDataVOMap) calls).rankDataVOMap.keys := by
  suffices h : ∀ data : ActivityGroupDataVO, data.ranks.Perm data.rankDataVOMap.keys →
      (run (listener sorting) data calls).ranks.Perm
        (run (listener sorting) data calls).rankDataVOMap.keys from
    h (.initRanks sorting rankDataVOMap) (ActivityGroupDataVO.perm_sortRanks sorting)
  induction calls with
  | nil => exact fun _ h => h
  | cons call calls ih => exact fun data h => ih (listener sorting data call) (perm_listener h)

/-- **The comparator and the ranks.** The comparator is a total preorder just if the entries of each
value are in a window. The list is right in all runs from entries that are close and by calls that
keep them close. -/
theorem ranks_right (sorting : Sorting Int32) (entries : List RankDataVO)
    (rankDataVOMap : AList fun _ : Int32 => RankDataVO) (calls : List RankCall) :
    (TotalPreorderOn comparable entries ↔ Windowed entries) ∧
      (AllClose (.initRanks sorting rankDataVOMap) →
        EveryStep (listener sorting) StaysClose (.initRanks sorting rankDataVOMap) calls →
          ∀ pre, pre <+: calls →
            RanksRight (run (listener sorting) (.initRanks sorting rankDataVOMap) pre)) := by
  refine ⟨totalPreorderOn_iff, fun hclose hstays pre hpre => ?_⟩
  obtain ⟨post, rfl⟩ := hpre
  have hinit : RanksRight (.initRanks sorting rankDataVOMap) :=
    @ranksRight_sortRanks ⟨rankDataVOMap, rankDataVOMap.keys⟩ sorting (.refl _) hclose
  have hrun := state_inv_run (fun data => RanksRight data ∧ AllClose data)
    (fun _ _ h hstays => right_listener h.1 h.2 hstays) ⟨hinit, hclose⟩
    (everyStep_append _ _ _ |>.mp hstays).1
  exact hrun.1

/-- Short lists are sorted by insertion. -/
def shortSort : Sorting Int32 := .insertion Int32

/-- A call for the currency of type 1, at a time after the first. -/
def gain (id : Int32) (gained later : Int64) : RankCall where
  process := changeCurrencyRank 1 1
  player := { id := id, name := "", guild := none }
  event := { type := .currency, now := 1700000000000 + later, playerId := id, currencyType := 1,
             after := gained }

/-- Two players gain as much within a minute. -/
theorem ranks_right_minute :
    RanksRight
      (run (listener shortSort) (.initRanks shortSort ∅) [gain 1 10 0, gain 2 10 60000]) := by
  refine (ranks_right shortSort [] ∅ [gain 1 10 0, gain 2 10 60000]).2 ?_ ?_ _ (List.prefix_refl _)
  · intro k hk
    exact absurd hk (AList.notMem_empty k)
  · refine ⟨fun _ key hkey => absurd hkey (AList.notMem_empty key), fun _ key hkey _ => ?_, trivial⟩
    have hkeys :
        (listener shortSort (.initRanks shortSort ∅) (gain 1 10 0)).rankDataVOMap.keys = [1] := by
      decide
    rw [AList.mem_keys, hkeys, List.mem_singleton] at hkey
    subst hkey
    unfold Close
    decide

/-- **Times far apart.** The second of two players gains as much as the first 2^31 milliseconds
later, and is ranked before the first. -/
theorem not_ranksRight :
    ¬TotalPreorderOn comparable
        [{ rankItemKey := 1, rankItemName := none, value := 10, updateTime := 1700000000000 },
          { rankItemKey := 2, rankItemName := none, value := 10, updateTime := 1702147483648 }] ∧
      ¬RanksRight (run (listener shortSort) (.initRanks shortSort ∅)
        [gain 1 10 0, gain 2 10 2147483648]) := by
  constructor
  · intro h
    have hsign := h.antisymm _ List.mem_cons_self _ (List.mem_cons_of_mem _ List.mem_cons_self)
    exact absurd hsign (by decide)
  · intro h
    exact absurd h.sorted (by decide)

end SrgpGame.Activity.Ranks
