import SrgpGame.Lib.Runs
import SrgpGame.Lib.SortedMultimap
import SrgpGame.Stats.StatsBO

set_option autoImplicit false

/-!
# Does the index find every quest that an event may start?

The quests that have a condition on a statistic to be accepted are kept by the parameter of the
condition, and for each parameter in a tree by the value that is required, the highest first. At an
event that changes the statistic, those are tried that the tail of one of the trees has.

## Main definitions

* `descLong` — the comparator of the trees.
* `CategorizedSortedMultimapCache` — the index.
* `getQuestCfgByEvt` — the lookup.
* `Found` — what it is to find, by a scan of all that was added.
* `AcceptedBecause` — a full scan accepts a quest because of a condition.

## Main results

* `perm_getQuestCfgByEvt` — the lookup is the scan, in every run.
* `offered_iff` — the parameters for which each quest that is accepted is offered.

## Design notes

The lookup adds an empty tree for a category that has none. A quest is added once for each condition
and may be found more than once.
-/

namespace SrgpGame.Quest

open Comparator Runs Stats

/-- `Comparators.DESC_LONG`. -/
def descLong (o1 o2 : Int64) : Int32 :=
  if o2 < o1 then -1
  else if o1 < o2 then 1
  else 0

lemma descLong_neg_iff {a b : Int64} : descLong a b < 0 ↔ b < a := by
  unfold descLong
  split_ifs with hgt hlt
  · exact iff_of_true (by decide) hgt
  · exact iff_of_false (by decide) hgt
  · exact iff_of_false (by decide) hgt

lemma descLong_pos_iff {a b : Int64} : 0 < descLong a b ↔ a < b := by
  unfold descLong
  split_ifs with hgt hlt
  · exact iff_of_false (by decide) fun hlt => Int64.lt_asymm hgt hlt
  · exact iff_of_true (by decide) hlt
  · exact iff_of_false (by decide) hlt

instance : Lawful descLong where
  neg_iff _ _ := descLong_neg_iff.trans descLong_pos_iff.symm
  zero_iff a b := by
    constructor
    · intro h
      have hgt : ¬b < a := fun hgt => absurd (descLong_neg_iff.mpr hgt) (by rw [h]; decide)
      have hlt : ¬a < b := fun hlt => absurd (descLong_pos_iff.mpr hlt) (by rw [h]; decide)
      exact Int64.le_antisymm (Int64.not_lt.mp hgt) (Int64.not_lt.mp hlt)
    · rintro rfl
      unfold descLong
      rw [if_neg (Int64.lt_irrefl), if_neg (Int64.lt_irrefl)]
  trans a b c hab hbc := by
    rw [descLong_neg_iff] at hab hbc ⊢
    exact Int64.lt_trans hbc hab

/-! ## Conditions and quests -/

/-- `CditCfg`: a condition on a statistic. -/
structure CditCfg where
  param : Int32
  val : Int64
  deriving DecidableEq, Repr

/-- `AQuestCfg`: a quest. -/
structure AQuestCfg where
  id : Int32
  deriving DecidableEq, Repr

/-- `getStatisticType` of `CProcBiParamStats`. -/
def getStatisticType (stats : EvtTypeStats) (cdit : CditCfg) : Int32 :=
  stats.statsType + cdit.param

/-- `satisfiedAsAcceptCdit` of `CProcStats`. -/
def satisfiedAsAcceptCdit (stats : EvtTypeStats) (cdit : CditCfg) (svo : StatsVO) : Bool :=
  cdit.val ≤ svo.getData (getStatisticType stats cdit)

/-- `getCacheCategory`. -/
def getCacheCategory (item : CditCfg) : Int32 := item.param

/-- `getCacheKey`. -/
def getCacheKey (item : CditCfg) : Int64 := item.val

/-- `getSearchCategory`. -/
def getSearchCategory (stats : EvtTypeStats) (evt : GameEvent) : Option Int32 :=
  stats.unwrapStatsType evt.type

/-- `getSearchKey`. -/
def getSearchKey (evt : GameEvent) : Option Int64 := evt.after

/-! ## The index -/

/-- **`CategorizedSortedMultimapCache`**, for conditions on statistics. -/
structure CategorizedSortedMultimapCache where
  cache : AList fun _ : Int32 => SortedMultimap descLong AQuestCfg

namespace CategorizedSortedMultimapCache

/-- `getOrCreMultimap`: the tree of a category, and the index with it. -/
def getOrCreMultimap (category : Int32) (index : CategorizedSortedMultimapCache) :
    SortedMultimap descLong AQuestCfg × CategorizedSortedMultimapCache :=
  match index.cache.lookup category with
  | none => (∅, ⟨index.cache.insert category ∅⟩)
  | some multimap => (multimap, index)

/-- `add`. -/
def add (item : CditCfg) (cfg : AQuestCfg) (index : CategorizedSortedMultimapCache) :
    CategorizedSortedMultimapCache :=
  let (multimap, index) := index.getOrCreMultimap (getCacheCategory item)
  ⟨index.cache.insert (getCacheCategory item) (multimap.put (getCacheKey item) cfg)⟩

/-- **`getQuestCfgByEvt`**: what is found, and the index afterwards. -/
def getQuestCfgByEvt (stats : EvtTypeStats) (evt : GameEvent)
    (index : CategorizedSortedMultimapCache) : List AQuestCfg × CategorizedSortedMultimapCache :=
  match getSearchCategory stats evt with
  | none => (index.cache.values.flatMap SortedMultimap.values, index)
  | some category =>
    let (multimap, index) := index.getOrCreMultimap category
    match getSearchKey evt with
    | none => (multimap.values, index)
    | some searchKey => ((multimap.tailMap searchKey).values, index)

end CategorizedSortedMultimapCache

/-- What is done with the index. -/
inductive Call where
  | add (item : CditCfg) (cfg : AQuestCfg)
  | getQuestCfgByEvt (evt : GameEvent)

/-- The index after a call. -/
def step (stats : EvtTypeStats) (index : CategorizedSortedMultimapCache) :
    Call → CategorizedSortedMultimapCache
  | .add item cfg => index.add item cfg
  | .getQuestCfgByEvt evt => (index.getQuestCfgByEvt stats evt).2

/-- The index after calls, at first empty. -/
def after (stats : EvtTypeStats) (calls : List Call) : CategorizedSortedMultimapCache :=
  run (step stats) ⟨∅⟩ calls

/-- What was added by calls. -/
def added : List Call → List (CditCfg × AQuestCfg)
  | [] => []
  | .add item cfg :: calls => (item, cfg) :: added calls
  | .getQuestCfgByEvt _ :: calls => added calls

/-! ## What is wanted -/

/-- **What is to be found**: the conditions of the category of the event whose value is at most that
of the event; all of the category, or all, where the event does not tell. -/
def Found (stats : EvtTypeStats) (evt : GameEvent) (item : CditCfg) : Prop :=
  ∀ category ∈ stats.unwrapStatsType evt.type,
    item.param = category ∧ ∀ val ∈ evt.after, item.val ≤ val

instance (stats : EvtTypeStats) (evt : GameEvent) (item : CditCfg) :
    Decidable (Found stats evt item) :=
  inferInstanceAs (Decidable (∀ category ∈ stats.unwrapStatsType evt.type,
    item.param = category ∧ ∀ val ∈ evt.after, item.val ≤ val))

/-- **A full scan accepts a quest because of the condition**: the condition is satisfied, and an
event about a statistic is about that of the condition and tells no less than what is counted. -/
structure AcceptedBecause (stats : EvtTypeStats) (cdit : CditCfg) (svo : StatsVO)
    (evt : GameEvent) : Prop where
  type : ∀ type ∈ evt.type, type = getStatisticType stats cdit
  after : ∀ val ∈ evt.after, svo.getData (getStatisticType stats cdit) ≤ val
  satisfied : satisfiedAsAcceptCdit stats cdit svo = true

/-! ## The contents of the index -/

namespace CategorizedSortedMultimapCache

variable {index : CategorizedSortedMultimapCache} {category : Int32}

/-- What is in the index: categories, keys and quests. -/
def contents (index : CategorizedSortedMultimapCache) : List (Int32 × Int64 × AQuestCfg) :=
  index.cache.contents SortedMultimap.pairs

/-- The tree of a category, empty if there is none. -/
def multimap (index : CategorizedSortedMultimapCache) (category : Int32) :
    SortedMultimap descLong AQuestCfg :=
  (index.cache.lookup category).getD ∅

lemma elim_lookup_pairs :
    (index.cache.lookup category).elim [] SortedMultimap.pairs =
      (index.multimap category).pairs := by
  unfold multimap
  cases index.cache.lookup category <;> rfl

lemma getOrCreMultimap_fst : (index.getOrCreMultimap category).1 = index.multimap category := by
  unfold getOrCreMultimap multimap
  cases index.cache.lookup category <;> rfl

/-- A tree that is put in place of that of a category. -/
lemma contents_insert (m : SortedMultimap descLong AQuestCfg) :
    contents ⟨index.cache.insert category m⟩ =
      m.pairs.map (Prod.mk category) ++
        (index.cache.erase category).contents SortedMultimap.pairs :=
  AList.contents_insert _ _

lemma perm_contents (index : CategorizedSortedMultimapCache) (category : Int32) :
    index.contents.Perm ((index.multimap category).pairs.map (Prod.mk category) ++
      (index.cache.erase category).contents SortedMultimap.pairs) := by
  rw [← elim_lookup_pairs]
  exact AList.perm_contents category

/-- The index has the same contents with an empty tree. -/
lemma perm_contents_getOrCreMultimap :
    (index.getOrCreMultimap category).2.contents.Perm index.contents := by
  unfold getOrCreMultimap
  cases h : index.cache.lookup category with
  | none =>
    have hempty : index.multimap category = ∅ := by
      rw [multimap, h]
      rfl
    refine .trans (.of_eq ?_) (perm_contents index category).symm
    rw [hempty]
    exact contents_insert ∅
  | some m => exact .refl _

/-- **What is added** is in the index. -/
lemma perm_contents_add (item : CditCfg) (cfg : AQuestCfg) :
    (index.add item cfg).contents.Perm ((item.param, item.val, cfg) :: index.contents) := by
  have hsame : (index.getOrCreMultimap item.param).2.cache.insert item.param
      ((index.multimap item.param).put item.val cfg) =
        index.cache.insert item.param ((index.multimap item.param).put item.val cfg) := by
    unfold getOrCreMultimap
    cases index.cache.lookup item.param with
    | none => exact AList.insert_insert _
    | some m => rfl
  have hadd : index.add item cfg =
      ⟨index.cache.insert item.param ((index.multimap item.param).put item.val cfg)⟩ := by
    rw [← hsame, ← getOrCreMultimap_fst]
    rfl
  rw [hadd, contents_insert]
  have hput := (SortedMultimap.perm_pairs_put item.val cfg (index.multimap item.param)).map
    (Prod.mk item.param)
  exact (hput.append_right _).trans ((perm_contents index item.param).symm.cons _)

/-- **The lookup** finds what is in the index and is to be found. -/
theorem perm_found (stats : EvtTypeStats) (evt : GameEvent) :
    (index.getQuestCfgByEvt stats evt).1.Perm
      ((index.contents.filter fun t => Found stats evt ⟨t.1, t.2.1⟩).map fun t => t.2.2) := by
  have hpairs (category : Int32) (p : Int64 × AQuestCfg → Bool) :
      (((index.multimap category).pairs.filter p).map Prod.snd).Perm
        ((index.contents.filter fun t => t.1 = category ∧ p t.2).map fun t => t.2.2) := by
    have h := (AList.perm_filter_contents (f := SortedMultimap.pairs) (m := index.cache)
      category p).map fun t => t.2.2
    rw [elim_lookup_pairs, List.map_map] at h
    exact h.symm
  rcases hcategory : stats.unwrapStatsType evt.type with _ | category
  · have hlookup : (index.getQuestCfgByEvt stats evt).1 =
        index.cache.values.flatMap SortedMultimap.values := by
      unfold getQuestCfgByEvt getSearchCategory
      rw [hcategory]
    have hall : (index.contents.filter fun t => Found stats evt ⟨t.1, t.2.1⟩) = index.contents := by
      rw [List.filter_eq_self]
      intro t _
      simp [Found, hcategory]
    rw [hlookup, hall]
    refine .of_eq ?_
    unfold contents AList.contents AList.values
    simp only [List.map_flatMap, List.flatMap_map, List.map_map, Function.comp_def,
      SortedMultimap.map_snd_pairs]
  · have hlookup : (index.getQuestCfgByEvt stats evt).1 =
        (evt.after.elim (index.multimap category)
          fun searchKey => (index.multimap category).tailMap searchKey).values := by
      unfold getQuestCfgByEvt getSearchCategory getSearchKey
      rw [hcategory, ← getOrCreMultimap_fst]
      cases evt.after <;> rfl
    rw [hlookup]
    rcases hkey : evt.after with _ | searchKey
    · have h := hpairs category fun _ => true
      rw [List.filter_true, SortedMultimap.map_snd_pairs] at h
      simpa [Found, hcategory, hkey] using h
    · have h := hpairs category fun p => ¬descLong p.1 searchKey < 0
      rw [← SortedMultimap.pairs_tailMap, SortedMultimap.map_snd_pairs] at h
      simpa [Found, hcategory, hkey, descLong_neg_iff] using h

/-- A lookup leaves the contents. -/
lemma perm_contents_getQuestCfgByEvt (stats : EvtTypeStats) (evt : GameEvent) :
    (index.getQuestCfgByEvt stats evt).2.contents.Perm index.contents := by
  unfold getQuestCfgByEvt
  cases getSearchCategory stats evt with
  | none => exact .refl _
  | some category => cases getSearchKey evt <;> exact perm_contents_getOrCreMultimap

end CategorizedSortedMultimapCache

/-! ## Runs -/

section Runs

variable {stats : EvtTypeStats}

variable (stats) in
/-- The contents are what was added. -/
lemma perm_contents_run (calls : List Call) (index : CategorizedSortedMultimapCache) :
    (run (step stats) index calls).contents.Perm
      (((added calls).map fun p => (p.1.param, p.1.val, p.2)) ++ index.contents) := by
  induction calls generalizing index with
  | nil => exact .refl _
  | cons call calls ih =>
    rw [run_cons]
    refine (ih _).trans ?_
    cases call with
    | add item cfg =>
      exact ((CategorizedSortedMultimapCache.perm_contents_add item cfg).append_left _).trans
        List.perm_middle
    | getQuestCfgByEvt evt =>
      exact (CategorizedSortedMultimapCache.perm_contents_getQuestCfgByEvt stats evt).append_left _

/-- **The lookup is the scan** of all that was added. -/
theorem perm_getQuestCfgByEvt (calls : List Call) (evt : GameEvent) :
    ((after stats calls).getQuestCfgByEvt stats evt).1.Perm
      (((added calls).filter fun p => Found stats evt p.1).map Prod.snd) := by
  have hcontents := perm_contents_run stats calls ⟨∅⟩
  have hempty : CategorizedSortedMultimapCache.contents ⟨∅⟩ = [] := rfl
  rw [hempty, List.append_nil] at hcontents
  refine (CategorizedSortedMultimapCache.perm_found stats evt).trans ?_
  refine ((hcontents.filter _).map _).trans (.of_eq ?_)
  rw [List.filter_map, List.map_map]
  simp only [Function.comp_def]

/-- Each quest that is to be found is found. -/
lemma mem_getQuestCfgByEvt {calls : List Call} {item : CditCfg} {cfg : AQuestCfg} {evt : GameEvent}
    (hadded : (item, cfg) ∈ added calls) (hfound : Found stats evt item) :
    cfg ∈ ((after stats calls).getQuestCfgByEvt stats evt).1 := by
  rw [(perm_getQuestCfgByEvt calls evt).mem_iff]
  have hmem : (item, cfg) ∈ (added calls).filter fun p => Found stats evt p.1 := by
    simp [hadded, hfound]
  exact List.mem_map.mpr ⟨(item, cfg), hmem, rfl⟩

/-- **The event of a change** of the statistic of a condition: if the condition is satisfied after
it, a full scan accepts a quest because of it. -/
lemma acceptedBecause_dealChange {cdit : CditCfg} (svo : StatsVO) (change : Int64) (addOrUpd : Bool)
    (hsatisfied : satisfiedAsAcceptCdit stats cdit
      (dealChange svo (exchangParameterizedType stats.statsType cdit.param) change addOrUpd).1) :
    AcceptedBecause stats cdit
      (dealChange svo (exchangParameterizedType stats.statsType cdit.param) change addOrUpd).1
      (dealChange svo (exchangParameterizedType stats.statsType cdit.param) change addOrUpd).2 := by
  rw [exchangParameterizedType_statsType] at hsatisfied ⊢
  refine ⟨fun type htype => ?_, fun val hval => ?_, hsatisfied⟩
  · exact (Option.some_inj.mp htype).symm
  · exact Int64.le_of_eq (Option.some_inj.mp hval)

/-- A condition whose parameter comes back is found when a quest is accepted because of it. -/
lemma AcceptedBecause.found {cdit : CditCfg} {svo : StatsVO} {evt : GameEvent}
    (h : AcceptedBecause stats cdit svo evt)
    (hparam : stats.unwrapStatsType (some (getStatisticType stats cdit)) = some cdit.param) :
    Found stats evt cdit := by
  intro category hcategory
  cases htype : evt.type with
  | none =>
    rw [htype] at hcategory
    cases hcategory
  | some type =>
    rw [htype, h.type type htype, hparam] at hcategory
    refine ⟨Option.some_inj.mp hcategory, fun val hval => ?_⟩
    exact Int64.le_trans (of_decide_eq_true h.satisfied) (h.after val hval)

/-- **The parameters for which every quest is offered** that a full scan accepts because of the
condition. -/
theorem offered_iff (param : Int32) :
    (∀ calls item cfg svo evt, item.param = param → (item, cfg) ∈ added calls →
      AcceptedBecause stats item svo evt →
        cfg ∈ ((after stats calls).getQuestCfgByEvt stats evt).1) ↔
      0 ≤ param ∧ param < stats.statsType := by
  rw [← stats.unwrapStatsType_statsType_add]
  constructor
  · intro h
    -- a quest that needs nothing, and a change of the statistic
    have hsatisfied : satisfiedAsAcceptCdit stats ⟨param, 0⟩
        (dealChange ⟨∅⟩ (exchangParameterizedType stats.statsType param) 0 false).1 := by
      unfold satisfiedAsAcceptCdit getStatisticType
      rw [exchangParameterizedType_statsType]
      simp [dealChange]
    have hmem := h [.add ⟨param, 0⟩ ⟨0⟩] ⟨param, 0⟩ ⟨0⟩ _ _ rfl List.mem_cons_self
      (acceptedBecause_dealChange ⟨∅⟩ 0 false hsatisfied)
    rw [(perm_getQuestCfgByEvt _ _).mem_iff, List.mem_map] at hmem
    obtain ⟨p, hp, -⟩ := hmem
    obtain ⟨hp, hfound⟩ := List.mem_filter.mp hp
    obtain rfl := List.mem_singleton.mp hp
    have hfound := of_decide_eq_true hfound
    rw [exchangParameterizedType_statsType] at hfound
    obtain ⟨category, hcategory⟩ : ∃ category,
        stats.unwrapStatsType (some (stats.statsType + param)) = some category := ⟨_, rfl⟩
    rw [hcategory]
    exact congrArg some (hfound category hcategory).1.symm
  · rintro hparam calls item cfg svo evt rfl hadded haccepted
    exact mem_getQuestCfgByEvt hadded (haccepted.found hparam)

end Runs

/-- **The index.** The lookup finds what is to be found, in every run, and offers every quest that a
full scan accepts because of a condition, for the parameters that come back. -/
theorem questCfgCache_right (stats : EvtTypeStats) :
    (∀ calls evt, ((after stats calls).getQuestCfgByEvt stats evt).1.Perm
      (((added calls).filter fun p => Found stats evt p.1).map Prod.snd)) ∧
    ∀ param, (∀ calls item cfg svo evt, item.param = param → (item, cfg) ∈ added calls →
      AcceptedBecause stats item svo evt →
        cfg ∈ ((after stats calls).getQuestCfgByEvt stats evt).1) ↔
      0 ≤ param ∧ param < stats.statsType :=
  ⟨perm_getQuestCfgByEvt, offered_iff⟩

/-- A quest for a force of 1000 is offered when the force is set to it. -/
theorem offered_force :
    ⟨35000001⟩ ∈ ((after .specBizCount [.add ⟨6, 1000⟩ ⟨35000001⟩]).getQuestCfgByEvt .specBizCount
      (dealChange ⟨∅⟩ (exchangParameterizedType EvtTypeStats.specBizCount.statsType 6)
        1000 false).2).1 :=
  ((questCfgCache_right .specBizCount).2 6).mpr (by decide) _ ⟨6, 1000⟩ _ _ _ rfl
    List.mem_cons_self (acceptedBecause_dealChange ⟨∅⟩ 1000 false (by decide))

/-- The goods 100000005 are collected. -/
def collected : StatsVO × GameEvent :=
  dealChange ⟨∅⟩ (exchangParameterizedType EvtTypeStats.specIdGoodsCollc.statsType 100000005) 1 true

/-- **A quest that is not offered**: the parameter is larger than the number of the kind. -/
theorem not_offered :
    AcceptedBecause .specIdGoodsCollc ⟨100000005, 1⟩ collected.1 collected.2 ∧
      ⟨35000001⟩ ∉ ((after .specIdGoodsCollc [.add ⟨100000005, 1⟩ ⟨35000001⟩]).getQuestCfgByEvt
        .specIdGoodsCollc collected.2).1 := by
  constructor
  · exact acceptedBecause_dealChange ⟨∅⟩ 1 true (by decide)
  · decide

end SrgpGame.Quest
