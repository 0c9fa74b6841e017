import SrgpGame.Shop.ShopRefreshRule
import SrgpGame.Util.Decimal
import SrgpGame.Util.Proportional

set_option autoImplicit false

/-!
# Items for a guild level

The rule for guild levels draws items from a group without putting them back. As long as the sum it
keeps is the sum of the weights that are left, every draw comes to an item. The sum is an `int`: if
the weights make up more than one, a draw throws or the loop stops early before all items are drawn.

## Main definitions

* `Drawn` — the items that are to be returned.
* `Samples` — what is required of a group and a level.
* `Drawable` — when it is met.

## Main results

* `refreshLoop_of_fits` — the loop draws as many items as it is asked for and there are.
* `refreshLoop_of_overflow` — the loop never draws all items of a larger weight.
* `samples_iff` — a group meets what is required just if it is drawable.
-/

namespace SrgpGame.ShopRefresh

open Cumulative (total)
open Func (Rng)
open Util (Converter.toInteger randomByWeight randomString weighed)

/-! ## What is required -/

/-- **The items to be returned**: different ones of those there are, as many as asked for or all,
with indexes in order. -/
def Drawn (quantity : Int32) (items : List ShopItemConfig) (results : List ShopItemVO) : Prop :=
  ∃ picked : List ShopItemConfig, picked.Nodup ∧ picked ⊆ items ∧
    picked.length = min quantity.toInt.toNat items.length ∧
      results = picked.mapIdx fun i config => create (Int32.ofNat i) config

/-- **What is required** of a group and a level: whoever refreshes a shop with this group gets items
that his guild can get. -/
def Samples (texts : Texts) (group : GroupShopItem) (level : Int32) : Prop :=
  ∀ (s : RefreshState) (groupRule quantity : String) (destGroup : Int32)
    (random : Util.RandomState),
      (randomString texts.digit groupRule).run s.random = .ok destGroup random →
        s.shopItemGroup.lookup destGroup = some group →
          0 ≤ Converter.toInteger texts.digit quantity.toList →
            ∃ results s', (refreshGuildLevel texts ⟨some level, [groupRule, quantity]⟩).run s =
              .ok results s' ∧ Drawn (Converter.toInteger texts.digit quantity.toList)
                (eligible level group.items) results

/-- The items for a level can be drawn, after any calls. -/
structure Drawable (group level : Int32) (calls : List GroupCall) : Prop where
  /-- When the level was first asked for, no range was without an end. -/
  bounded : ∀ item ∈ seen group level calls, ¬ShortRange level item
  /-- No item for the level came later. -/
  complete : ∀ item ∈ (built group calls).items, Eligible level item → item ∈ seen group level calls
  /-- The weights make up an `int`. -/
  fits : total (weighed ShopItemConfig.weight (eligible level (built group calls).items)) < 2 ^ 31

/-! ## The loop -/

/-- The sum of the weights that are left. -/
def sumOf (copy : List ShopItemConfig) : ℕ := total (weighed ShopItemConfig.weight copy)

@[simp] lemma sumOf_nil : sumOf [] = 0 := rfl

@[simp] lemma sumOf_cons (item : ShopItemConfig) (copy : List ShopItemConfig) :
    sumOf (item :: copy) = item.weight.toInt.toNat + sumOf copy := rfl

lemma sumOf_perm {copy copy' : List ShopItemConfig} (h : copy.Perm copy') :
    sumOf copy = sumOf copy' := Util.total_weighed_perm h

lemma Sound.perm {items items' : List ShopItemConfig} (h : Sound items)
    (hperm : items.Perm items') : Sound items' where
  distinct := h.distinct.perm ShopItemConfig.cmp_symm hperm
  weight_pos := fun item hmem => h.weight_pos item (hperm.mem_iff.mpr hmem)

lemma Sound.nonneg {items : List ShopItemConfig} (h : Sound items) :
    ∀ item ∈ items, 0 ≤ item.weight := fun item hmem => Int32.le_of_lt (h.weight_pos item hmem)

section Loop

variable {copy : List ShopItemConfig} {item : ShopItemConfig}

/-- What is left after an item was drawn. -/
lemma Sound.perm_remove (h : Sound copy) (hmem : item ∈ copy) :
    copy.Perm (item :: SortedSet.remove ShopItemConfig.cmp item copy) :=
  SortedSet.perm_cons_remove ShopItemConfig.cmp_symm ShopItemConfig.cmp_self h.distinct hmem

lemma Sound.remove (h : Sound copy) (item : ShopItemConfig) :
    Sound (SortedSet.remove ShopItemConfig.cmp item copy) where
  distinct := h.distinct.remove item
  weight_pos := fun item' hmem => h.weight_pos item' (List.mem_of_mem_eraseP hmem)

lemma Sound.nodup (h : Sound copy) : copy.Nodup :=
  SortedSet.Distinct.nodup ShopItemConfig.cmp_self h.distinct

/-- Items weigh something. -/
lemma Sound.sumOf_pos (h : Sound copy) (hne : copy ≠ []) : 0 < sumOf copy := by
  obtain ⟨item, copy, rfl⟩ := List.exists_cons_of_ne_nil hne
  have hpos := Int32.lt_iff_toInt_lt.mp (h.weight_pos item List.mem_cons_self)
  rw [Int32.toInt_zero] at hpos
  rw [sumOf_cons]
  omega

/-- The weight of an item that is drawn goes from the sum. -/
lemma Sound.ofNat_sumOf_sub (h : Sound copy) (hmem : item ∈ copy) :
    Int32.ofNat (sumOf copy) - item.weight =
      Int32.ofNat (sumOf (SortedSet.remove ShopItemConfig.cmp item copy)) := by
  have hweight := Int32.ofNat_toNat_of_nonneg (h.nonneg item hmem)
  rw [sumOf_perm (h.perm_remove hmem), sumOf_cons, Int32.ofNat_add, hweight]
  grind

/-- A round in which an item is drawn. -/
lemma run_refreshLoop_succ {copyWeight : Int32} {rng rng' : Rng}
    (hdraw : (randomByWeight ShopItemConfig.weight copyWeight copy).run rng =
      .ok (some item) rng') (rounds : ℕ) (i : Int32) (results : List ShopItemVO) :
    (refreshLoop (rounds + 1) i copyWeight copy results).run rng =
      (if SortedSet.remove ShopItemConfig.cmp item copy = [] ∨ copyWeight - item.weight ≤ 0 then
        pure (results ++ [create i item])
      else refreshLoop rounds (i + 1) (copyWeight - item.weight)
        (SortedSet.remove ShopItemConfig.cmp item copy)
          (results ++ [create i item]) : EStateM Thrown Rng (List ShopItemVO)).run rng' := by
  rw [refreshLoop, EStateM.run_bind, hdraw]
  simp only [List.isEmpty_iff]
  by_cases hempty : SortedSet.remove ShopItemConfig.cmp item copy = []
  · rw [if_pos hempty, if_pos (.inl hempty)]
  · by_cases hweight : copyWeight - item.weight ≤ 0
    · rw [if_neg hempty, if_pos hweight, if_pos (.inr hweight)]
    · rw [if_neg hempty, if_neg hweight, if_neg (not_or.mpr ⟨hempty, hweight⟩)]

/-- Items with indexes from `i` on. -/
def numbered (i : Int32) (picked : List ShopItemConfig) : List ShopItemVO :=
  picked.mapIdx fun k config => create (i + Int32.ofNat k) config

lemma numbered_cons (i : Int32) (item : ShopItemConfig) (picked : List ShopItemConfig) :
    numbered i (item :: picked) = create i item :: numbered (i + 1) picked := by
  have hindex : ∀ k, i + Int32.ofNat (k + 1) = i + 1 + Int32.ofNat k := by
    intro k
    rw [Int32.ofNat_add, Int32.add_comm (Int32.ofNat k), ← Int32.add_assoc]
    rfl
  have hzero : i + Int32.ofNat 0 = i := Int32.add_zero i
  simp only [numbered, List.mapIdx_cons, hindex, hzero]

/-- **The loop draws** as many items as it is asked for and there are, as long as the sum of the
weights is an `int`. -/
lemma refreshLoop_of_fits (rounds : ℕ) (hsound : Sound copy) (hne : copy ≠ [])
    (hfits : sumOf copy < 2 ^ 31) (i : Int32) (results : List ShopItemVO) (rng : Rng) :
    ∃ picked rest rng', (picked ++ rest).Perm copy ∧ picked.length = min rounds copy.length ∧
      (refreshLoop rounds i (Int32.ofNat (sumOf copy)) copy results).run rng =
        .ok (results ++ numbered i picked) rng' := by
  induction rounds generalizing copy i results rng with
  | zero => exact ⟨[], copy, rng, List.Perm.refl _, by simp, by simp [refreshLoop, numbered]⟩
  | succ rounds ih =>
    have hint : (Int32.ofNat (sumOf copy)).toInt = sumOf copy := Int32.toInt_ofNat_of_lt hfits
    have hpos := hsound.sumOf_pos hne
    obtain ⟨item, hmem, rng', hdraw⟩ := Util.run_randomByWeight_of_pos hsound.nonneg
      (by omega) (le_of_eq hint) rng
    have hperm := hsound.perm_remove hmem
    have hlength := hperm.length_eq
    rw [List.length_cons] at hlength
    have hsound' := hsound.remove item
    rw [run_refreshLoop_succ hdraw, hsound.ofNat_sumOf_sub hmem]
    generalize SortedSet.remove ShopItemConfig.cmp item copy = left at *
    by_cases hempty : left = []
    · rw [hempty] at hperm hlength
      refine ⟨[item], [], rng', hperm.symm, ?_, ?_⟩
      · rw [hlength, List.length_singleton, List.length_nil]
        omega
      · rw [if_pos (.inl hempty), numbered_cons]
        rfl
    · have hsum := sumOf_perm hperm
      rw [sumOf_cons] at hsum
      have hleftpos := hsound'.sumOf_pos hempty
      have hleftint : (Int32.ofNat (sumOf left)).toInt = sumOf left :=
        Int32.toInt_ofNat_of_lt (by omega)
      have hgoon : ¬(left = [] ∨ Int32.ofNat (sumOf left) ≤ 0) := by
        rintro (h | h)
        · exact hempty h
        · rw [Int32.le_iff_toInt_le, Int32.toInt_zero] at h
          omega
      obtain ⟨picked, rest, rng'', hpicked, hcount, hrun⟩ := ih hsound' hempty (by omega)
        (i + 1) (results ++ [create i item]) rng'
      refine ⟨item :: picked, rest, rng'', ?_, ?_, ?_⟩
      · exact (hpicked.cons item).trans hperm.symm
      · rw [List.length_cons, hcount, hlength]
        omega
      · rw [if_neg hgoon, hrun, numbered_cons, List.append_assoc]
        rfl

/-- The loop never draws more items than there are. -/
lemma length_refreshLoop_le (rounds : ℕ) (hsound : Sound copy) {i copyWeight : Int32}
    {results r : List ShopItemVO} {rng rng' : Rng}
    (h : (refreshLoop rounds i copyWeight copy results).run rng = .ok r rng') :
    r.length ≤ results.length + copy.length := by
  induction rounds generalizing copy i copyWeight results rng with
  | zero =>
    obtain ⟨rfl, -⟩ := EStateM.Result.ok.inj h
    omega
  | succ rounds ih =>
    cases hdraw : (randomByWeight ShopItemConfig.weight copyWeight copy).run rng with
    | error e rng₁ =>
      rw [refreshLoop, EStateM.run_bind, hdraw] at h
      cases h
    | ok drawn rng₁ =>
      cases drawn with
      | none =>
        rw [refreshLoop, EStateM.run_bind, hdraw] at h
        exact ih hsound h
      | some item =>
        have hmem := Util.mem_of_run_randomByWeight hdraw
        have hlength := (hsound.perm_remove hmem).length_eq
        rw [List.length_cons] at hlength
        rw [run_refreshLoop_succ hdraw] at h
        split_ifs at h
        · obtain ⟨rfl, -⟩ := EStateM.Result.ok.inj h
          rw [List.length_append, List.length_singleton]
          omega
        · have hrest := ih (hsound.remove item) h
          rw [List.length_append, List.length_singleton] at hrest
          omega

/-- A sum that is positive as an `int` is not below it. -/
lemma toInt_ofNat_le {n : ℕ} (hpos : 0 < (Int32.ofNat n).toInt) :
    (Int32.ofNat n).toInt ≤ n ∧ (n < 2 ^ 31 ∨ 2 ^ 32 ≤ n) := by
  have hsize : (Int32.size : ℤ) = 2 ^ 32 := rfl
  rw [Int32.toInt_ofNat', Int.bmod_def, hsize] at hpos
  rw [Int32.toInt_ofNat', Int.bmod_def, hsize]
  omega

/-- **The loop never draws all items** whose weights make up more than an `int`: on the way the sum
comes to a number that is negative as an `int`. -/
lemma refreshLoop_of_overflow (n : ℕ) (hlength : copy.length = n) (hsound : Sound copy)
    (hover : 2 ^ 31 ≤ sumOf copy) {i : Int32} {results r : List ShopItemVO} {rng rng' : Rng}
    (h : (refreshLoop n i (Int32.ofNat (sumOf copy)) copy results).run rng = .ok r rng') :
    r.length < results.length + n := by
  induction n generalizing copy i results rng with
  | zero =>
    rw [List.length_eq_zero_iff.mp hlength, sumOf_nil] at hover
    omega
  | succ n ih =>
    have hne : copy ≠ [] := by
      rintro rfl
      cases hlength
    by_cases hpos : 0 < (Int32.ofNat (sumOf copy)).toInt
    · obtain ⟨hle, hlarge⟩ := toInt_ofNat_le hpos
      obtain ⟨item, hmem, rng₁, hdraw⟩ := Util.run_randomByWeight_of_pos hsound.nonneg hpos hle rng
      have hperm := hsound.perm_remove hmem
      have hcount := hperm.length_eq
      have hsum := sumOf_perm hperm
      have hweight := item.weight.toInt_lt
      rw [List.length_cons] at hcount
      rw [sumOf_cons] at hsum
      rw [run_refreshLoop_succ hdraw, hsound.ofNat_sumOf_sub hmem] at h
      have hleft : SortedSet.remove ShopItemConfig.cmp item copy ≠ [] := by
        intro hempty
        rw [hempty, sumOf_nil] at hsum
        omega
      have hleftlength := List.length_pos_of_ne_nil hleft
      split_ifs at h
      · obtain ⟨rfl, -⟩ := EStateM.Result.ok.inj h
        rw [List.length_append, List.length_singleton]
        omega
      · have hrest := ih (by omega) (hsound.remove item) (by omega) h
        rw [List.length_append, List.length_singleton] at hrest
        omega
    · rw [refreshLoop, EStateM.run_bind,
        Util.run_randomByWeight_of_nonpos hne (not_lt.mp hpos)] at h
      cases h

end Loop

/-! ## The rule -/

section Rule

variable {texts : Texts} {s : RefreshState} {group : GroupShopItem} {destGroup level : Int32}

/-- The rule goes on with the group that is drawn. -/
lemma run_refreshGuildLevel {groupRule : String} {random : Util.RandomState}
    (hdraw : (randomString texts.digit groupRule).run s.random = .ok destGroup random)
    (quantity : String) :
    (refreshGuildLevel texts ⟨some level, [groupRule, quantity]⟩).run s =
      (refreshGroup destGroup level (Converter.toInteger texts.digit quantity.toList)).run
        { s with random := random } := by
  have hzoom : (onRandom (randomString texts.digit groupRule)).run s =
      .ok destGroup { s with random := random } := by
    rw [onRandom, EStateM.run_zoom, hdraw]
  simp only [refreshGuildLevel, twoParams]
  rw [EStateM.run_bind, EStateM.run_ofExcept]
  simp only [EStateM.run_bind, hzoom]

/-- Where nothing can be looked up the rule throws. -/
lemma run_refreshGroup_of_error {group' : GroupShopItem} {e : Thrown}
    (hlookup : s.shopItemGroup.lookup destGroup = some group)
    (hmatch : (matchByGuildLevel level).run group = .error e group') (quantity : Int32) :
    ∃ s', (refreshGroup destGroup level quantity).run s = .error e s' := by
  unfold refreshGroup
  rw [EStateM.run_bind, EStateM.run_get]
  simp only [hlookup]
  rw [EStateM.run_bind, onGroup, EStateM.run_zoom, hmatch]
  exact ⟨_, rfl⟩

/-- Otherwise it does what the loop does, unless there are no items. -/
lemma run_refreshGroup_eq_ok {group' : GroupShopItem} {copyWeight : Int32}
    {copy : List ShopItemConfig} (hlookup : s.shopItemGroup.lookup destGroup = some group)
    (hmatch : (matchByGuildLevel level).run group = .ok (copyWeight, copy) group')
    {quantity : Int32} {results : List ShopItemVO} :
    (∃ s', (refreshGroup destGroup level quantity).run s = .ok results s') ↔
      copy ≠ [] ∧ ∃ rng', (refreshLoop quantity.toInt.toNat 0 copyWeight copy []).run s.random.rng =
        .ok results rng' := by
  unfold refreshGroup
  rw [EStateM.run_bind, EStateM.run_get]
  simp only [hlookup]
  rw [EStateM.run_bind, onGroup, EStateM.run_zoom, hmatch]
  simp only [EStateM.run_bind, EStateM.run_ofExcept]
  by_cases hempty : copy = []
  · rw [ICode.throwIfTrue, if_pos hempty]
    refine iff_of_false ?_ fun h => h.1 hempty
    rintro ⟨s', hrun⟩
    cases hrun
  · rw [ICode.throwIfTrue, if_neg hempty]
    simp only [onRandom, Util.onRng, EStateM.run_zoom]
    cases hloop : (refreshLoop quantity.toInt.toNat 0 copyWeight copy []).run s.random.rng with
    | ok r rng =>
      constructor
      · rintro ⟨s', hrun⟩
        obtain ⟨rfl, -⟩ := EStateM.Result.ok.inj hrun
        exact ⟨hempty, rng, rfl⟩
      · rintro ⟨-, rng', hrun⟩
        obtain ⟨rfl, rfl⟩ := EStateM.Result.ok.inj hrun
        exact ⟨_, rfl⟩
    | error e rng =>
      refine iff_of_false ?_ ?_
      · rintro ⟨s', hrun⟩
        cases hrun
      · rintro ⟨-, rng', hrun⟩
        cases hrun

end Rule

/-! ## When the rule does what is required -/

lemma mem_eligible {level : Int32} {items : List ShopItemConfig} {item : ShopItemConfig} :
    item ∈ eligible level items ↔ item ∈ items ∧ Eligible level item := by
  simp [eligible]

lemma Sound.eligible {items : List ShopItemConfig} (h : Sound items) (level : Int32) :
    Sound (eligible level items) where
  distinct := h.distinct.sublist List.filter_sublist
  weight_pos := fun item hmem => h.weight_pos item (mem_eligible.mp hmem).1

section Required

variable {texts : Texts} {group level : Int32} {calls : List GroupCall}

/-- What was seen for a level is among what is there for it. -/
lemma eligible_seen_subperm :
    (eligible level (seen group level calls)).Subperm
      (eligible level (built group calls).items) := by
  refine (sound_seen.eligible level).nodup.subperm ?_
  intro item hmem
  obtain ⟨hseen, heligible⟩ := mem_eligible.mp hmem
  exact mem_eligible.mpr ⟨seen_subset hseen, heligible⟩

/-- As long as no item came later it is the same. -/
lemma eligible_seen_perm
    (h : ∀ item ∈ (built group calls).items, Eligible level item → item ∈ seen group level calls) :
    (eligible level (seen group level calls)).Perm (eligible level (built group calls).items) := by
  refine eligible_seen_subperm.antisymm ?_
  refine ((sound_built group calls).eligible level).nodup.subperm ?_
  intro item hmem
  obtain ⟨hbuilt, heligible⟩ := mem_eligible.mp hmem
  exact mem_eligible.mpr ⟨h item hbuilt heligible, heligible⟩

/-- **A drawable group** gives the items that are required. -/
lemma Drawable.samples (h : Drawable group level calls)
    (hsome : eligible level (built group calls).items ≠ []) :
    Samples texts (built group calls) level := by
  intro s groupRule quantity destGroup random hdraw hlookup hnonneg
  obtain ⟨copy, hmatched, hcopy⟩ := matchItems_of_not_short sound_seen h.bounded
  obtain ⟨group', hmatch⟩ := run_matchByGuildLevel_built.2 _ hmatched
  have hperm := hcopy.trans (eligible_seen_perm h.complete)
  have hsound : Sound copy := (sound_seen.eligible level).perm hcopy.symm
  have hne : copy ≠ [] := by
    rintro rfl
    exact hsome hperm.nil_eq.symm
  have hfits : sumOf copy < 2 ^ 31 := by
    rw [sumOf_perm hperm]
    exact h.fits
  obtain ⟨picked, rest, rng', hpicked, hcount, hrun⟩ := refreshLoop_of_fits
    (Converter.toInteger texts.digit quantity.toList).toInt.toNat hsound hne hfits 0 [] random.rng
  rw [run_refreshGuildLevel hdraw]
  obtain ⟨s', hresult⟩ := (run_refreshGroup_eq_ok (s := { s with random := random }) hlookup
    hmatch).mpr ⟨hne, rng', hrun⟩
  refine ⟨_, s', hresult, picked, ?_, ?_, ?_, ?_⟩
  · exact (List.nodup_append.mp (hpicked.nodup_iff.mpr hsound.nodup)).1
  · intro item hmem
    exact hperm.mem_iff.mp (hpicked.mem_iff.mp (List.mem_append_left rest hmem))
  · rw [hcount, hperm.length_eq]
  · simp only [numbered, List.nil_append, Int32.zero_add]

/-- A state with one group. -/
def stateWith (group : GroupShopItem) : RefreshState where
  shopItemGroup := (∅ : AList _).insert 0 group
  random := ⟨.empty, ⟨fun _ => 0⟩⟩
  extraVO := .init

/-- **A group that gives the items that are required** is drawable. -/
lemma Drawable.of_samples (hdigit : ∀ d < 10, texts.digit (Nat.digitChar d) = some d)
    (hsize : (built group calls).items.length < 2 ^ 31)
    (h : Samples texts (built group calls) level) : Drawable group level calls := by
  set items := eligible level (built group calls).items with hitems
  have hlength : items.length < 2 ^ 31 := lt_of_le_of_lt (List.length_filter_le _ _) hsize
  have hdraw : (randomString texts.digit "").run (stateWith (built group calls)).random =
      .ok 0 (stateWith (built group calls)).random := rfl
  have hlookup : (stateWith (built group calls)).shopItemGroup.lookup 0 =
      some (built group calls) := AList.lookup_insert _
  have hquantity : Converter.toInteger texts.digit
      (String.ofList (Nat.toDigits 10 items.length)).toList = Int32.ofNat items.length := by
    rw [String.toList_ofList]
    exact Util.toInteger_toDigits hdigit hlength
  have hint : (Int32.ofNat items.length).toInt = items.length := Int32.toInt_ofNat_of_lt hlength
  -- whoever asks for all items gets all of them
  obtain ⟨results, s', hrun, picked, -, -, hcount, hresults⟩ := h _ ""
    (String.ofList (Nat.toDigits 10 items.length)) 0 _ hdraw hlookup (by
      rw [hquantity, Int32.le_iff_toInt_le, Int32.toInt_zero]
      omega)
  rw [hquantity, hint, Int.toNat_natCast, ← hitems, min_self] at hcount
  have hall : results.length = items.length := by rw [hresults, List.length_mapIdx, hcount]
  rw [run_refreshGuildLevel hdraw, hquantity] at hrun
  have hbounded : ∀ item ∈ seen group level calls, ¬ShortRange level item := by
    intro item hmem hshort
    have hmatched := matchItems_of_short ⟨item, hmem, hshort⟩
    obtain ⟨group', hmatch⟩ := run_matchByGuildLevel_built.1 _ hmatched
    obtain ⟨s'', herror⟩ := run_refreshGroup_of_error hlookup hmatch (Int32.ofNat items.length)
    cases hrun.symm.trans herror
  obtain ⟨copy, hmatched, hcopy⟩ := matchItems_of_not_short sound_seen hbounded
  obtain ⟨group', hmatch⟩ := run_matchByGuildLevel_built.2 _ hmatched
  obtain ⟨-, rng', hloop⟩ := (run_refreshGroup_eq_ok hlookup hmatch).mp ⟨s', hrun⟩
  rw [hint, Int.toNat_natCast] at hloop
  have hsound : Sound copy := (sound_seen.eligible level).perm hcopy.symm
  have hle := length_refreshLoop_le items.length hsound hloop
  rw [List.length_nil, hcopy.length_eq, hall] at hle
  have hperm := eligible_seen_subperm.perm_of_length_le (by omega : items.length ≤ _)
  refine ⟨hbounded, ?_, ?_⟩
  · intro item hmem heligible
    exact (mem_eligible.mp (hperm.mem_iff.mpr (mem_eligible.mpr ⟨hmem, heligible⟩))).1
  · by_contra hover
    have hlt := refreshLoop_of_overflow items.length ((hcopy.trans hperm).length_eq) hsound
      (by rw [sumOf_perm (hcopy.trans hperm)]; exact not_lt.mp hover) hloop
    rw [hall, List.length_nil] at hlt
    omega

end Required

/-- **When the rule does what is required**, for a level for which there are items in the group:
just when its weights make up an `int`, no range of an item was without an end when the level was
first asked for, and no item for it came later. -/
theorem samples_iff {texts : Texts} (hdigit : ∀ d < 10, texts.digit (Nat.digitChar d) = some d)
    {group level : Int32} {calls : List GroupCall}
    (hsize : (built group calls).items.length < 2 ^ 31)
    (hsome : eligible level (built group calls).items ≠ []) :
    Samples texts (built group calls) level ↔ Drawable group level calls :=
  ⟨fun h => .of_samples hdigit hsize h, fun h => h.samples hsome⟩

/-- An item for guilds of any level. -/
def plainItem (id weight : Int32) : ShopItemConfig := ⟨id, weight, none, none⟩

/-- Texts with the digits from zero to nine. -/
def asciiTexts : Texts := ⟨Util.asciiDigit, fun _ _ => false⟩

lemma digit_asciiTexts : ∀ d < 10, asciiTexts.digit (Nat.digitChar d) = some d := by decide

/-- A group to which an item is added again after a level was asked for. -/
def addedAgain : List GroupCall :=
  [.addShopItem (some (plainItem 1 3)), .addShopItem (some (plainItem 2 5)),
    .matchByGuildLevel 1, .addShopItem (some (plainItem 1 3))]

/-- The group gives the items that are required. -/
theorem samples_addedAgain : Samples asciiTexts (built 7 addedAgain) 1 := by
  have hitems : (built 7 addedAgain).items = [plainItem 2 5, plainItem 1 3] := by decide
  have hseen : seen 7 1 addedAgain = [plainItem 2 5, plainItem 1 3] := by decide
  have heligible : eligible 1 [plainItem 2 5, plainItem 1 3] = [plainItem 2 5, plainItem 1 3] := by
    decide
  refine (samples_iff digit_asciiTexts ?_ ?_).mpr ⟨?_, ?_, ?_⟩
  · rw [hitems]
    decide
  · rw [hitems, heligible]
    decide
  · rw [hseen]
    intro item hmem hshort
    simp only [List.mem_cons, List.not_mem_nil, or_false] at hmem
    rcases hmem with rfl | rfl
    · exact hshort
    · exact hshort
  · rw [hitems, hseen]
    exact fun item hmem _ => hmem
  · rw [hitems, heligible]
    decide

/-- Two items that weigh more than an `int` together. -/
def heavyItems : List GroupCall :=
  [.addShopItem (some (plainItem 1 0x40000000)), .addShopItem (some (plainItem 2 0x40000000))]

/-- The sum of the weights is negative, and nothing can be drawn. -/
theorem not_samples_heavyItems :
    eligible 1 (built 7 heavyItems).items ≠ [] ∧ ¬Samples asciiTexts (built 7 heavyItems) 1 := by
  have hitems : (built 7 heavyItems).items = [plainItem 2 0x40000000, plainItem 1 0x40000000] := by
    decide
  have heligible : eligible 1 [plainItem 2 0x40000000, plainItem 1 0x40000000] =
      [plainItem 2 0x40000000, plainItem 1 0x40000000] := by
    decide
  constructor
  · rw [hitems, heligible]
    decide
  · intro h
    have hfits := (Drawable.of_samples digit_asciiTexts (by rw [hitems]; decide) h).fits
    rw [hitems, heligible] at hfits
    exact absurd hfits (by decide)

end SrgpGame.ShopRefresh
