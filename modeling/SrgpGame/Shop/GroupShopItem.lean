import Mathlib.Data.List.TakeWhile
import SrgpGame.Lib.Runs
import SrgpGame.Lib.SortedSet
import SrgpGame.Util.WeightedPool

set_option autoImplicit false

/-!
# Groups of shop items

A shop is refreshed with items of a group. The items that a guild of some level can get are looked
up when they are first asked for, together with the sum of their weights, and kept from then on. An
item that is added later is not among them.

## Main definitions

* `ShopItemConfig`, `GroupShopItem` — items and groups.
* `GroupShopItem.addShopItem`, `matchByGuildLevel` — the methods of a group.
* `Eligible`, `ShortRange` — the items that a guild can get, and those whose range has no end.
* `built`, `seen` — a group after any calls, and the items in it when a level was first asked for.

## Main results

* `matchItems_of_short`, `matchItems_of_not_short` — what is looked up.
* `run_matchByGuildLevel_built` — what is returned, after any calls.

## Design notes

A group is a sorted set of items. The comparator subtracts weights, which are positive in a group,
and ids, which are not negative in a table; so it does not wrap around and the set is the list in
its order. No proof uses the order. The levels of `refreshRequireLv` are only recorded.
-/

namespace SrgpGame.ShopRefresh

open Cumulative (total)
open Util (weighed)

/-! ## Items -/

/-- `ShopItemConfig`, as far as a refresh reads it. -/
structure ShopItemConfig where
  id : Int32
  /-- The weight within the group. -/
  weight : Int32
  refreshRequireLv : Option (List Int32)
  /-- The first and the last level of a guild that can get the item. -/
  refreshRequireGuildLv : Option (List Int32)
  deriving DecidableEq, Repr

namespace ShopItemConfig

/-- `compareTo`: heavy items first, and of equal weight those with a large id. -/
def compareTo (self o : ShopItemConfig) : Int32 :=
  let diff := o.weight - self.weight
  if diff = 0 then o.id - self.id else diff

/-- The order of a sorted set. -/
def cmp (self o : ShopItemConfig) : Ordering := compare (self.compareTo o) 0

lemma cmp_eq_eq_iff {a b : ShopItemConfig} : cmp a b = .eq ↔ a.weight = b.weight ∧ a.id = b.id := by
  have hzero : ∀ x : Int32, compare x 0 = .eq ↔ x = 0 := fun x => Std.compare_eq_iff_eq
  rw [cmp, hzero]
  unfold compareTo
  simp only
  by_cases hweight : b.weight - a.weight = 0
  · rw [if_pos hweight]
    constructor
    · intro hid
      exact ⟨by grind, by grind⟩
    · rintro ⟨-, hid⟩
      grind
  · rw [if_neg hweight]
    refine iff_of_false hweight ?_
    rintro ⟨heq, -⟩
    grind

lemma cmp_symm {a b : ShopItemConfig} (h : cmp a b = .eq) : cmp b a = .eq := by
  obtain ⟨hweight, hid⟩ := cmp_eq_eq_iff.mp h
  exact cmp_eq_eq_iff.mpr ⟨hweight.symm, hid.symm⟩

lemma cmp_self (a : ShopItemConfig) : cmp a a = .eq := cmp_eq_eq_iff.mpr ⟨rfl, rfl⟩

end ShopItemConfig

/-- A level between the first and the last of a range, or any level where there are none. -/
def InRange (level : Int32) : List Int32 → Prop
  | [] => True
  | [_] => False
  | first :: last :: _ => first ≤ level ∧ level ≤ last

instance (level : Int32) : ∀ range, Decidable (InRange level range)
  | [] => isTrue trivial
  | [_] => isFalse id
  | first :: last :: _ => inferInstanceAs (Decidable (first ≤ level ∧ level ≤ last))

/-- A first level that is reached, and no last one. -/
def Endless (level : Int32) : List Int32 → Prop
  | [first] => first ≤ level
  | _ => False

/-- Whether a guild of this level is to get an item. -/
def Eligible (level : Int32) (item : ShopItemConfig) : Prop :=
  InRange level (item.refreshRequireGuildLv.getD [])

instance (level : Int32) : DecidablePred (Eligible level) :=
  fun item => inferInstanceAs (Decidable (InRange level (item.refreshRequireGuildLv.getD [])))

/-- Whether the range of an item has no end where one is needed. -/
def ShortRange (level : Int32) (item : ShopItemConfig) : Prop :=
  Endless level (item.refreshRequireGuildLv.getD [])

/-- The items that a guild of this level is to get. -/
def eligible (level : Int32) (items : List ShopItemConfig) : List ShopItemConfig :=
  items.filter fun item => Eligible level item

/-! ## Groups -/

/-- `GroupShopItem`. -/
structure GroupShopItem where
  group : Int32
  weight : Int32
  items : List ShopItemConfig
  moreRangeRestrict : Bool
  lastRangeRestrict : Option (List Int32)
  /-- `GuildLevelRelateCache`. -/
  guildLevelRelateCache : AList fun _ : Int32 => Int32 × List ShopItemConfig

namespace GroupShopItem

/-- A new group. -/
def init (group : Int32) : GroupShopItem := ⟨group, 0, [], false, none, ∅⟩

/-- **`addShopItem`**: an item without weight is left out. -/
def addShopItem (group : GroupShopItem) : Option ShopItemConfig → GroupShopItem
  | none => group
  | some shopItemConfig =>
    if shopItemConfig.weight ≤ 0 then group
    else
      let lastRangeRestrict := group.lastRangeRestrict.or shopItemConfig.refreshRequireLv
      { group with
        weight := group.weight + shopItemConfig.weight
        items := SortedSet.add ShopItemConfig.cmp shopItemConfig group.items
        moreRangeRestrict :=
          group.moreRangeRestrict || lastRangeRestrict ≠ shopItemConfig.refreshRequireLv
        lastRangeRestrict := shopItemConfig.refreshRequireLv }

end GroupShopItem

/-- The comparison of a level with a range. -/
def compareRange (level : Int32) : List Int32 → Except Thrown Bool
  | [] => .ok true
  | [first] => if first ≤ level then .error .indexOutOfBounds else .ok false
  | first :: last :: _ => .ok (first ≤ level ∧ level ≤ last)

/-- The condition of `matchByGuildLevel` on an item. -/
def meetsGuildLevel (level : Int32) (item : ShopItemConfig) : Except Thrown Bool :=
  compareRange level (item.refreshRequireGuildLv.getD [])

/-- One round of the loop of `matchByGuildLevel`. -/
def matchItem (level : Int32) (acc : Int32 × List ShopItemConfig) (item : ShopItemConfig) :
    Except Thrown (Int32 × List ShopItemConfig) := do
  if ← meetsGuildLevel level item then
    return (acc.1 + item.weight, SortedSet.add ShopItemConfig.cmp item acc.2)
  else return acc

/-- The loop of `matchByGuildLevel`. -/
def matchItems (level : Int32) (items : List ShopItemConfig) :
    Except Thrown (Int32 × List ShopItemConfig) :=
  items.foldlM (matchItem level) (0, [])

/-- **`matchByGuildLevel`**: the items for a level and the sum of their weights, from the cache if
they are there. -/
def matchByGuildLevel (level : Int32) :
    EStateM Thrown GroupShopItem (Int32 × List ShopItemConfig) := do
  let group ← get
  match group.guildLevelRelateCache.lookup level with
  | some result => return result
  | none =>
    let result ← EStateM.ofExcept fun group => matchItems level group.items
    modify fun group =>
      { group with guildLevelRelateCache := group.guildLevelRelateCache.insert level result }
    return result

/-- A call of a method of a group. -/
inductive GroupCall where
  | addShopItem (shopItemConfig : Option ShopItemConfig)
  | matchByGuildLevel (level : Int32)
  deriving DecidableEq, Repr

/-- A group after a call, whether it returned or threw. -/
def GroupShopItem.step (group : GroupShopItem) : GroupCall → GroupShopItem
  | .addShopItem shopItemConfig => group.addShopItem shopItemConfig
  | .matchByGuildLevel level => (ShopRefresh.matchByGuildLevel level).finalState group

/-- **A group after any calls.** -/
def built (group : Int32) (calls : List GroupCall) : GroupShopItem :=
  Runs.run GroupShopItem.step (.init group) calls

/-- The items in a group when a level was first asked for. -/
def seen (group level : Int32) (calls : List GroupCall) : List ShopItemConfig :=
  (built group (calls.takeWhile fun call => call ≠ .matchByGuildLevel level)).items

/-! ## What is looked up -/

lemma meetsGuildLevel_of_short {level : Int32} {item : ShopItemConfig}
    (h : ShortRange level item) : meetsGuildLevel level item = .error .indexOutOfBounds := by
  have hrange : ∀ range, Endless level range →
      compareRange level range = .error .indexOutOfBounds := by
    intro range hshort
    rcases range with _ | ⟨first, _ | ⟨last, rest⟩⟩
    · exact hshort.elim
    · exact if_pos hshort
    · exact hshort.elim
  exact hrange _ h

lemma meetsGuildLevel_of_not_short {level : Int32} {item : ShopItemConfig}
    (h : ¬ShortRange level item) :
    meetsGuildLevel level item = .ok (decide (Eligible level item)) := by
  have hrange : ∀ range, ¬Endless level range →
      compareRange level range = .ok (decide (InRange level range)) := by
    intro range hshort
    rcases range with _ | ⟨first, _ | ⟨last, rest⟩⟩
    · rfl
    · exact if_neg hshort
    · rfl
  exact hrange _ h

/-- A round with an item that a guild of this level can get, or not. -/
lemma matchItem_of_not_short {level : Int32} {item : ShopItemConfig} (h : ¬ShortRange level item)
    (acc : Int32 × List ShopItemConfig) :
    matchItem level acc item = .ok (if Eligible level item then
      (acc.1 + item.weight, SortedSet.add ShopItemConfig.cmp item acc.2) else acc) := by
  rw [matchItem, meetsGuildLevel_of_not_short h]
  by_cases heligible : Eligible level item
  · simp [heligible, bind, Except.bind, pure, Except.pure]
  · simp [heligible, bind, Except.bind, pure, Except.pure]

/-- **Where a range has no end** nothing is looked up. -/
lemma matchItems_of_short {level : Int32} {items : List ShopItemConfig}
    (h : ∃ item ∈ items, ShortRange level item) :
    matchItems level items = .error .indexOutOfBounds := by
  unfold matchItems
  generalize ((0, []) : Int32 × List ShopItemConfig) = acc
  induction items generalizing acc with
  | nil =>
    obtain ⟨item, hmem, -⟩ := h
    cases hmem
  | cons item items ih =>
    rw [List.foldlM_cons]
    by_cases hshort : ShortRange level item
    · rw [matchItem, meetsGuildLevel_of_short hshort]
      rfl
    · have hrest : ∃ item ∈ items, ShortRange level item := by
        obtain ⟨item', hmem, hshort'⟩ := h
        rcases List.mem_cons.mp hmem with rfl | hmem
        · exact absurd hshort' hshort
        · exact ⟨item', hmem, hshort'⟩
      rw [matchItem_of_not_short hshort]
      exact ih hrest _

/-- A group holds distinct items of positive weight. -/
structure Sound (items : List ShopItemConfig) : Prop where
  distinct : SortedSet.Distinct ShopItemConfig.cmp items
  weight_pos : ∀ item ∈ items, 0 < item.weight

/-- The weight of an item that was not there comes to the sum. -/
lemma ofNat_total_add {item : ShopItemConfig} {data : List ShopItemConfig}
    (hnew : ∀ b ∈ data, ShopItemConfig.cmp item b ≠ .eq) (hpos : 0 < item.weight) :
    Int32.ofNat (total (weighed ShopItemConfig.weight data)) + item.weight =
      Int32.ofNat (total (weighed ShopItemConfig.weight
        (SortedSet.add ShopItemConfig.cmp item data))) := by
  have hweight := Int32.ofNat_toNat_of_nonneg (Int32.le_of_lt hpos)
  rw [Util.total_weighed_perm (SortedSet.perm_add hnew)]
  change _ = Int32.ofNat (item.weight.toInt.toNat + total (weighed _ data))
  rw [Int32.ofNat_add, hweight, Int32.add_comm]

/-- The loop, from any data on. -/
lemma foldlM_matchItem {level : Int32} {items : List ShopItemConfig}
    (hpos : ∀ item ∈ items, 0 < item.weight) (hshort : ∀ item ∈ items, ¬ShortRange level item)
    (data : List ShopItemConfig)
    (hdistinct : SortedSet.Distinct ShopItemConfig.cmp (data ++ items)) :
    ∃ data', items.foldlM (matchItem level)
      (Int32.ofNat (total (weighed ShopItemConfig.weight data)), data) =
        .ok (Int32.ofNat (total (weighed ShopItemConfig.weight data')), data') ∧
          data'.Perm (data ++ eligible level items) := by
  induction items generalizing data with
  | nil => exact ⟨data, rfl, by rw [eligible, List.filter_nil, List.append_nil]⟩
  | cons item items ih =>
    have hpos' := fun item' hmem => hpos item' (List.mem_cons_of_mem item hmem)
    have hshort' := fun item' hmem => hshort item' (List.mem_cons_of_mem item hmem)
    rw [List.foldlM_cons, matchItem_of_not_short (hshort item List.mem_cons_self)]
    by_cases heligible : Eligible level item
    · have hmiddle : (data ++ item :: items).Perm (item :: data ++ items) := List.perm_middle
      have hnew : ∀ b ∈ data, ShopItemConfig.cmp item b ≠ .eq := by
        have hfirst := (List.pairwise_cons.mp
          (SortedSet.Distinct.perm ShopItemConfig.cmp_symm hdistinct hmiddle)).1
        exact fun b hb => hfirst b (List.mem_append_left items hb)
      have hperm := SortedSet.perm_add hnew
      have hdistinct' := SortedSet.Distinct.perm ShopItemConfig.cmp_symm hdistinct
        (hmiddle.trans (hperm.symm.append_right items))
      obtain ⟨data', hrun, hdata⟩ := ih hpos' hshort' _ hdistinct'
      refine ⟨data', ?_, ?_⟩
      · rw [if_pos heligible]
        simp only [ofNat_total_add hnew (hpos item List.mem_cons_self)]
        exact hrun
      · rw [eligible, List.filter_cons_of_pos (by simpa using heligible)]
        exact hdata.trans ((hperm.append_right _).trans List.perm_middle.symm)
    · have hdistinct' : SortedSet.Distinct ShopItemConfig.cmp (data ++ items) :=
        hdistinct.sublist ((List.sublist_cons_self item items).append_left data)
      obtain ⟨data', hrun, hdata⟩ := ih hpos' hshort' data hdistinct'
      refine ⟨data', ?_, ?_⟩
      · rw [if_neg heligible]
        exact hrun
      · rw [eligible, List.filter_cons_of_neg (by simpa using heligible)]
        exact hdata

/-- **Otherwise** the items that a guild of this level can get are looked up, with the sum of their
weights as an `int`. -/
lemma matchItems_of_not_short {level : Int32} {items : List ShopItemConfig} (hsound : Sound items)
    (h : ∀ item ∈ items, ¬ShortRange level item) :
    ∃ data, matchItems level items =
      .ok (Int32.ofNat (total (weighed ShopItemConfig.weight data)), data) ∧
        data.Perm (eligible level items) :=
  foldlM_matchItem hsound.weight_pos h [] hsound.distinct

/-! ## A group after any calls -/

lemma built_append (group : Int32) (calls : List GroupCall) (call : GroupCall) :
    built group (calls ++ [call]) = (built group calls).step call :=
  Runs.run_append _ calls [call]

/-- A call on a level gives what is looked up, if it is not there, to the cache. -/
lemma step_matchByGuildLevel (group : GroupShopItem) (level : Int32) :
    group.step (.matchByGuildLevel level) =
      match group.guildLevelRelateCache.lookup level, matchItems level group.items with
      | none, .ok result =>
        { group with guildLevelRelateCache := group.guildLevelRelateCache.insert level result }
      | _, _ => group := by
  change (matchByGuildLevel level).finalState group = _
  unfold matchByGuildLevel
  rw [EStateM.finalState_get_bind]
  cases group.guildLevelRelateCache.lookup level with
  | some result => rfl
  | none =>
    cases hmatch : matchItems level group.items with
    | error e => rw [EStateM.finalState_ofExcept_bind_of_error group hmatch]
    | ok result =>
      rw [EStateM.finalState_ofExcept_bind_of_ok group hmatch]
      rfl

lemma items_step_matchByGuildLevel (group : GroupShopItem) (level : Int32) :
    (group.step (.matchByGuildLevel level)).items = group.items := by
  rw [step_matchByGuildLevel]
  split <;> rfl

/-- An item that is added has a weight. -/
lemma addShopItem_cases (group : GroupShopItem) (shopItemConfig : Option ShopItemConfig) :
    group.addShopItem shopItemConfig = group ∨ ∃ item, 0 < item.weight ∧
      (group.addShopItem shopItemConfig).items =
        SortedSet.add ShopItemConfig.cmp item group.items ∧
      (group.addShopItem shopItemConfig).guildLevelRelateCache = group.guildLevelRelateCache := by
  unfold GroupShopItem.addShopItem
  cases shopItemConfig with
  | none => exact .inl rfl
  | some item =>
    simp only
    split_ifs with hweight
    · exact .inl rfl
    · exact .inr ⟨item, Int32.not_le.mp hweight, rfl, rfl⟩

lemma guildLevelRelateCache_step_addShopItem (group : GroupShopItem)
    (shopItemConfig : Option ShopItemConfig) :
    (group.step (.addShopItem shopItemConfig)).guildLevelRelateCache =
      group.guildLevelRelateCache := by
  rcases addShopItem_cases group shopItemConfig with heq | ⟨-, -, -, hcache⟩
  · exact congrArg GroupShopItem.guildLevelRelateCache heq
  · exact hcache

/-- What is in a group stays there. -/
lemma items_subset_step (group : GroupShopItem) (call : GroupCall) :
    group.items ⊆ (group.step call).items := by
  cases call with
  | addShopItem shopItemConfig =>
    rcases addShopItem_cases group shopItemConfig with heq | ⟨item, -, hitems, -⟩
    · change group.items ⊆ (group.addShopItem shopItemConfig).items
      rw [heq]
      exact List.Subset.refl group.items
    · change group.items ⊆ (group.addShopItem shopItemConfig).items
      rw [hitems]
      exact SortedSet.subset_add
  | matchByGuildLevel level =>
    rw [items_step_matchByGuildLevel]
    exact List.Subset.refl group.items

lemma Sound.step {group : GroupShopItem} (h : Sound group.items) (call : GroupCall) :
    Sound (group.step call).items := by
  cases call with
  | addShopItem shopItemConfig =>
    rcases addShopItem_cases group shopItemConfig with heq | ⟨item, hpos, hitems, -⟩
    · change Sound (group.addShopItem shopItemConfig).items
      rw [heq]
      exact h
    · change Sound (group.addShopItem shopItemConfig).items
      rw [hitems]
      refine ⟨h.distinct.add ShopItemConfig.cmp_symm item, ?_⟩
      intro item' hmem
      rcases SortedSet.mem_of_mem_add hmem with rfl | hmem
      · exact hpos
      · exact h.weight_pos item' hmem
  | matchByGuildLevel level =>
    rw [items_step_matchByGuildLevel]
    exact h

lemma sound_init {group : Int32} : Sound (GroupShopItem.init group).items where
  distinct := List.Pairwise.nil
  weight_pos := by
    intro item hmem
    cases hmem

/-- **A group is sound** after any calls. -/
lemma sound_built (group : Int32) (calls : List GroupCall) : Sound (built group calls).items :=
  Runs.forall_inv_run (s := GroupShopItem.init group) (fun group => Sound group.items)
    (fun _ call h => Sound.step h call) sound_init calls

section Seen

variable {group level : Int32} {calls : List GroupCall}

/-- Once a level is asked for, calls do not change what was seen. -/
lemma seen_append {call : GroupCall} (h : .matchByGuildLevel level ∈ calls ++ [call]) :
    seen group level (calls ++ [call]) = seen group level calls := by
  unfold seen
  rw [List.takeWhile_append]
  split_ifs with hlength
  · have hself := (List.takeWhile_prefix _).eq_of_length hlength
    have hnot : .matchByGuildLevel level ∉ calls := by
      intro hmem
      simpa using List.takeWhile_eq_self_iff.mp hself _ hmem
    obtain rfl : .matchByGuildLevel level = call := by simpa [hnot] using h
    rw [hself, List.takeWhile_cons_of_neg (by simp), List.append_nil]
  · rfl

/-- Until then it is what is in the group. -/
lemma seen_of_not_mem (h : .matchByGuildLevel level ∉ calls) :
    seen group level calls = (built group calls).items := by
  have hself : calls.takeWhile (fun call => call ≠ .matchByGuildLevel level) = calls := by
    refine List.takeWhile_eq_self_iff.mpr fun call hmem => decide_eq_true ?_
    rintro rfl
    exact h hmem
  rw [seen, hself]

/-- What was seen is in the group. -/
lemma seen_subset : seen group level calls ⊆ (built group calls).items := by
  induction calls using List.reverseRecOn with
  | nil => exact List.Subset.refl _
  | append_singleton calls call ih =>
    by_cases h : .matchByGuildLevel level ∈ calls ++ [call]
    · rw [seen_append h, built_append]
      exact List.Subset.trans ih (items_subset_step _ call)
    · rw [seen_of_not_mem h]
      exact List.Subset.refl _

lemma sound_seen : Sound (seen group level calls) := sound_built group _

/-- Where nothing was looked up at first, nothing ever is. -/
lemma matchItems_built_of_error {e : Thrown}
    (h : matchItems level (seen group level calls) = .error e) :
    matchItems level (built group calls).items = .error .indexOutOfBounds := by
  refine matchItems_of_short ?_
  by_contra hnone
  push Not at hnone
  have hsound : Sound (seen group level calls) := sound_seen
  obtain ⟨data, hrun, -⟩ := matchItems_of_not_short hsound
    fun item hmem => hnone item (seen_subset hmem)
  rw [h] at hrun
  cases hrun

/-- Only a call on a level changes what the cache holds for it. -/
lemma lookup_step_of_ne (group : GroupShopItem) {call : GroupCall}
    (h : call ≠ .matchByGuildLevel level) :
    (group.step call).guildLevelRelateCache.lookup level =
      group.guildLevelRelateCache.lookup level := by
  cases call with
  | addShopItem shopItemConfig => rw [guildLevelRelateCache_step_addShopItem]
  | matchByGuildLevel level' =>
    have hne : level ≠ level' := by
      rintro rfl
      exact h rfl
    rw [step_matchByGuildLevel]
    split
    · exact AList.lookup_insert_ne hne
    · rfl

/-- **What the cache holds** after any calls: what was looked up when the level was first asked
for. -/
lemma lookup_built : (built group calls).guildLevelRelateCache.lookup level =
    if .matchByGuildLevel level ∈ calls then (matchItems level (seen group level calls)).toOption
    else none := by
  induction calls using List.reverseRecOn with
  | nil => rfl
  | append_singleton calls call ih =>
    rw [built_append]
    by_cases hcall : call = .matchByGuildLevel level
    · subst hcall
      have hlast : .matchByGuildLevel level ∈ calls ++ [.matchByGuildLevel level] := by simp
      rw [if_pos hlast, seen_append hlast, step_matchByGuildLevel, ih]
      by_cases h : .matchByGuildLevel level ∈ calls
      · rw [if_pos h]
        cases hrun : matchItems level (seen group level calls) with
        | ok result =>
          change (built group calls).guildLevelRelateCache.lookup level = some result
          rw [ih, if_pos h, hrun]
          rfl
        | error e =>
          rw [matchItems_built_of_error hrun]
          change (built group calls).guildLevelRelateCache.lookup level = none
          rw [ih, if_pos h, hrun]
          rfl
      · rw [if_neg h, seen_of_not_mem h]
        cases hrun : matchItems level (built group calls).items with
        | ok result => exact AList.lookup_insert _
        | error e =>
          change (built group calls).guildLevelRelateCache.lookup level = none
          rw [ih, if_neg h]
    · have hmem : .matchByGuildLevel level ∈ calls ++ [call] ↔
          .matchByGuildLevel level ∈ calls := by
        simp [Ne.symm hcall]
      rw [lookup_step_of_ne _ hcall, ih]
      by_cases h : .matchByGuildLevel level ∈ calls
      · rw [if_pos h, if_pos (hmem.mpr h), seen_append (hmem.mpr h)]
      · rw [if_neg h, if_neg (hmem.not.mpr h)]

/-- **What is returned** for a level, after any calls: what was looked up when it was first asked
for. -/
theorem run_matchByGuildLevel_built :
    (∀ e, matchItems level (seen group level calls) = .error e →
      ∃ group', (matchByGuildLevel level).run (built group calls) =
        .error .indexOutOfBounds group') ∧
    ∀ result, matchItems level (seen group level calls) = .ok result →
      ∃ group', (matchByGuildLevel level).run (built group calls) = .ok result group' := by
  have hlookup : (built group calls).guildLevelRelateCache.lookup level =
      if .matchByGuildLevel level ∈ calls then (matchItems level (seen group level calls)).toOption
      else none := lookup_built
  unfold matchByGuildLevel
  rw [EStateM.run_bind, EStateM.run_get]
  simp only
  constructor
  · intro e hrun
    have hnone : (built group calls).guildLevelRelateCache.lookup level = none := by
      rw [hlookup, hrun]
      split_ifs <;> rfl
    rw [hnone]
    simp only [EStateM.run_bind, EStateM.run_ofExcept, matchItems_built_of_error hrun]
    exact ⟨_, rfl⟩
  · intro result hrun
    by_cases h : .matchByGuildLevel level ∈ calls
    · rw [if_pos h, hrun] at hlookup
      rw [hlookup]
      exact ⟨_, rfl⟩
    · rw [if_neg h] at hlookup
      rw [seen_of_not_mem h] at hrun
      rw [hlookup]
      simp only [EStateM.run_bind, EStateM.run_ofExcept, hrun]
      exact ⟨_, rfl⟩

end Seen

end SrgpGame.ShopRefresh
