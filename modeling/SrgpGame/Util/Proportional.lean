import SrgpGame.Lib.Runs
import SrgpGame.Util.Decimal
import SrgpGame.Util.WeightedPool

set_option autoImplicit false

/-!
# Ids in proportion to their weights

A configuration of weights is given as a text or as a map. Both are walked through with a random
number from one to the sum of the weights, but for a text the number zero is drawn as well, and it
chooses the first id. So only a map gives every id as many numbers as it weighs, as long as the sum
of the weights is an `int`.

## Main definitions

* `Given` — a configuration, as a text or as a map.
* `natural` — the weights as natural numbers.
* `Proportional` — every id gets as many numbers as it weighs, and every number gives an id.

## Main results

* `Caches.Valid.draw_run` — the draw is the same whatever is in the caches.
* `walk_eq_pick` — the loop over the entries chooses by weight.
* `random_proportional_iff` — when the numbers are shared out in proportion.
-/

namespace SrgpGame.Util

open EStateM
open Cumulative (total mass pick)

variable {digit : Char → Option ℕ} {config : List (Int32 × Int32)}

/-! ## Configurations -/

/-- A configuration of weights, as it is given to `random`. -/
inductive Given where
  | string (str : String)
  | map (config : AList fun _ : Int32 => Int32) (useCache : Bool)

/-- `random` up to the random number. -/
def Given.draw (digit : Char → Option ℕ) : Given → EStateM Thrown Caches Draw
  | .string str => drawOfString digit str
  | .map config useCache => drawOfMap config useCache

/-- The entries that are given. A text has a separator. -/
def Given.Lists (digit : Char → Option ℕ) (config : List (Int32 × Int32)) : Given → Prop
  | .string str => (',' ∈ str.toList ∨ ':' ∈ str.toList) ∧
      ∃ allWeight, readConfig digit str = .ok (allWeight, config)
  | .map data _ => entriesOf data = config

/-- The caches after a call. -/
def callRandom (digit : Char → Option ℕ) (caches : Caches) (given : Given) : Caches :=
  (given.draw digit).finalState caches

/-- The weights as natural numbers. -/
def natural (config : List (Int32 × Int32)) : List (Int32 × ℕ) :=
  config.map fun e => (e.1, e.2.toInt.toNat)

/-- **The numbers are shared out in proportion**: every one gives an id, and every id gets as many
as it weighs in the configuration. -/
structure Proportional (draw : Draw) (config : List (Int32 × Int32)) : Prop where
  found : ∀ d < draw.bound.toInt.toNat, draw.result (Int32.ofNat d) ≠ none
  count : ∀ id, Nat.count (fun d => draw.result (Int32.ofNat d) = some id)
    draw.bound.toInt.toNat = mass (fun id' => id' = id) (natural config)

/-! ## The caches -/

/-- The sum of the weights, in an `int`. -/
def intSum (config : List (Int32 × Int32)) : Int32 := config.foldl (fun sum e => sum + e.2) 0

lemma sumWeights_eq (data : AList fun _ : Int32 => Int32) :
    sumWeights data = intSum (entriesOf data) := rfl

/-- Equal maps have the same sum. -/
lemma sumWeights_of_perm {data data' : AList fun _ : Int32 => Int32}
    (h : data.entries.Perm data'.entries) : sumWeights data = sumWeights data' := by
  unfold sumWeights entriesOf
  have hperm := h.map fun e => ((e.1, e.2) : Int32 × Int32)
  refine hperm.foldl_eq' ?_ 0
  intro e _ e' _ sum
  rw [Int32.add_assoc, Int32.add_comm e.2, ← Int32.add_assoc]

/-- The sum that is read is the sum of the weights that are read. -/
lemma fst_of_readInfo {acc acc' : Int32 × List (Int32 × Int32)} {idInfo : List Char}
    (hacc : acc.1 = intSum acc.2) (h : readInfo digit acc idInfo = .ok acc') :
    acc'.1 = intSum acc'.2 := by
  unfold readInfo at h
  split at h
  · obtain rfl := Except.ok.inj h
    unfold intSum at hacc ⊢
    rw [List.foldl_append, ← hacc]
    rfl
  · cases h

lemma fst_of_readConfig {str : String} {reference : Int32 × List (Int32 × Int32)}
    (h : readConfig digit str = .ok reference) : reference.1 = intSum reference.2 := by
  have hloop : ∀ (infos : List (List Char)) {acc acc' : Int32 × List (Int32 × Int32)},
      acc.1 = intSum acc.2 → infos.foldlM (readInfo digit) acc = .ok acc' →
        acc'.1 = intSum acc'.2 := by
    intro infos
    induction infos with
    | nil =>
      intro acc acc' hacc hrun
      obtain rfl := Except.ok.inj hrun
      exact hacc
    | cons info infos ih =>
      intro acc acc' hacc hrun
      rw [List.foldlM_cons] at hrun
      obtain ⟨acc₁, hfirst, hrest⟩ := Except.bind_eq_ok.mp hrun
      exact ih (fst_of_readInfo hacc hfirst) hrest
  exact hloop _ rfl h

/-- **The caches hold what would be computed.** -/
structure Caches.Valid (digit : Char → Option ℕ) (caches : Caches) : Prop where
  sums : ∀ e ∈ caches.cache, e.2 = sumWeights e.1
  configs : ∀ str reference, caches.randomCache.lookup str = some reference →
    readConfig digit str = .ok reference

lemma Caches.valid_empty : Caches.empty.Valid digit where
  sums := by
    intro e he
    cases he
  configs := by
    intro str reference h
    cases h

lemma Caches.Valid.get_eq {caches : Caches} (h : caches.Valid digit)
    {data : AList fun _ : Int32 => Int32} {totalWeight : Int32}
    (hget : caches.get data = some totalWeight) : totalWeight = sumWeights data := by
  obtain ⟨e, hfind, rfl⟩ := Option.map_eq_some_iff.mp hget
  have hmem := List.mem_of_find?_eq_some hfind
  have hperm : e.1.entries.Perm data.entries := by
    have hfound := List.find?_some hfind
    exact of_decide_eq_true hfound
  rw [h.sums e hmem, sumWeights_of_perm hperm]

lemma Caches.Valid.putIfAbsent {caches : Caches} (h : caches.Valid digit)
    (data : AList fun _ : Int32 => Int32) :
    (caches.putIfAbsent data (sumWeights data)).Valid digit := by
  unfold Caches.putIfAbsent
  split_ifs
  · exact h
  · refine ⟨?_, h.configs⟩
    intro e he
    rcases List.mem_cons.mp he with rfl | he
    · rfl
    · exact h.sums e he

/-- What is drawn for a text, whatever is in the caches. -/
lemma Caches.Valid.drawOfString_run {caches : Caches} (h : caches.Valid digit) (str : String) :
    (∃ e, readConfig digit str = .error e ∧
      (drawOfString digit str).run caches = .error e caches) ∨
    ∃ reference caches', readConfig digit str = .ok reference ∧ caches'.Valid digit ∧
      (drawOfString digit str).run caches =
        .ok ⟨reference.1 + 1, walk reference.2⟩ caches' := by
  unfold drawOfString
  rw [run_bind]
  simp only [EStateM.run_get]
  cases hlookup : caches.randomCache.lookup str with
  | some reference =>
    exact .inr ⟨reference, caches, h.configs str reference hlookup, h, rfl⟩
  | none =>
    simp only [run_bind, run_ofExcept]
    cases hread : readConfig digit str with
    | error e => exact .inl ⟨e, rfl, rfl⟩
    | ok reference =>
      refine .inr ⟨reference, _, rfl, ?_, rfl⟩
      refine ⟨h.sums, ?_⟩
      intro str' reference' hlookup'
      rw [AList.lookup_insert_ite] at hlookup'
      split_ifs at hlookup' with heq
      · obtain rfl := Option.some.inj hlookup'
        rw [heq]
        exact hread
      · exact h.configs str' reference' hlookup'

/-- What is drawn for a map, whatever is in the caches. -/
lemma Caches.Valid.drawOfMap_run {caches : Caches} (h : caches.Valid digit)
    (data : AList fun _ : Int32 => Int32) (useCache : Bool) :
    ∃ caches', caches'.Valid digit ∧ (drawOfMap data useCache).run caches =
      .ok ⟨sumWeights data, fun random => walk (entriesOf data) (random + 1)⟩ caches' := by
  unfold drawOfMap
  rw [run_bind]
  simp only [EStateM.run_get]
  cases useCache with
  | false => exact ⟨caches, h, rfl⟩
  | true =>
    simp only [if_true]
    cases hget : caches.get data with
    | some totalWeight =>
      refine ⟨caches, h, ?_⟩
      rw [h.get_eq hget]
      rfl
    | none => exact ⟨_, h.putIfAbsent data, rfl⟩

/-- Every call keeps the caches valid. -/
lemma Caches.Valid.callRandom {caches : Caches} (h : caches.Valid digit) (given : Given) :
    (callRandom digit caches given).Valid digit := by
  unfold Util.callRandom
  cases given with
  | string str =>
    rcases h.drawOfString_run str with ⟨e, -, hrun⟩ | ⟨reference, caches', -, hvalid, hrun⟩
    · exact (finalState_eq_of_error hrun).symm ▸ h
    · exact (finalState_eq_of_ok hrun).symm ▸ hvalid
  | map data useCache =>
    obtain ⟨caches', hvalid, hrun⟩ := h.drawOfMap_run data useCache
    exact (finalState_eq_of_ok hrun).symm ▸ hvalid

/-! ## The walk -/

/-- The sum of the weights, in an `int`, is their sum up to multiples of `2 ^ 32`. -/
lemma intSum_eq (hnonneg : ∀ e ∈ config, 0 ≤ e.2) :
    intSum config = Int32.ofNat (total (natural config)) := by
  have hloop : ∀ sum : Int32, config.foldl (fun sum e => sum + e.2) sum =
      sum + Int32.ofNat (total (natural config)) := by
    induction config with
    | nil =>
      intro sum
      exact (Int32.add_zero sum).symm
    | cons e config ih =>
      intro sum
      obtain ⟨id, weight⟩ := e
      have heq := Int32.ofNat_toNat_of_nonneg (hnonneg _ List.mem_cons_self)
      rw [List.foldl_cons, ih fun e he => hnonneg e (List.mem_cons_of_mem _ he)]
      change sum + weight + _ = sum + Int32.ofNat (weight.toInt.toNat + total (natural config))
      rw [Int32.ofNat_add, heq, Int32.add_assoc]
  exact (hloop 0).trans (Int32.zero_add _)

/-- The loop over the entries is the one over a pool, and takes the id in the end. -/
lemma walk_eq_map_walkPool (config : List (Int32 × Int32)) (random : Int32) :
    walk config random = (walkPool Prod.snd config random).map Prod.fst := by
  induction config generalizing random with
  | nil => rfl
  | cons e config ih =>
    obtain ⟨id, weight⟩ := e
    change (if random ≤ weight then some id else walk config (random - weight)) =
      (if random ≤ weight then some (id, weight)
        else walkPool Prod.snd config (random - weight)).map Prod.fst
    split_ifs
    · rfl
    · exact ih (random - weight)

lemma natural_eq (config : List (Int32 × Int32)) :
    natural config = (weighed Prod.snd config).map fun e => (e.1.1, e.2) := by
  rw [natural, weighed, List.map_map]
  rfl

/-- **The walk chooses by weight**: from a positive number on it comes to the entry in whose
interval the number before it lies. -/
lemma walk_eq_pick (hnonneg : ∀ e ∈ config, 0 ≤ e.2) {random : Int32} (hpos : 0 < random.toInt) :
    walk config random = pick (natural config) (random.toInt.toNat - 1) := by
  rw [walk_eq_map_walkPool, walkPool_eq_pick hnonneg hpos, natural_eq, Cumulative.pick_map]

/-! ## The shares -/

section Shares

variable (hnonneg : ∀ e ∈ config, 0 ≤ e.2)

include hnonneg

/-- **A map gives every id its share** as long as the sum of the weights is an `int`. -/
lemma proportional_walk (hfits : total (natural config) < 2 ^ 31) :
    Proportional ⟨intSum config, fun random => walk config (random + 1)⟩ config := by
  have hbound : (intSum config).toInt.toNat = total (natural config) := by
    rw [intSum_eq hnonneg, Int32.toInt_ofNat_of_lt hfits, Int.toNat_natCast]
  have hpick : ∀ d < total (natural config),
      walk config (Int32.ofNat d + 1) = pick (natural config) d := by
    intro d hd
    have hdraw : (Int32.ofNat d).toInt = d := Int32.toInt_ofNat_of_lt (by omega)
    have hadd : (Int32.ofNat d + 1).toInt = d + 1 := by
      rw [Int32.toInt_succ_of_fits (by omega), hdraw]
    rw [walk_eq_pick hnonneg (by omega), hadd]
    congr 1
  refine ⟨?_, ?_⟩
  · intro d hd hnone
    rw [hbound] at hd
    have hout := (Cumulative.pick_eq_none_iff d).mp ((hpick d hd).symm.trans hnone)
    omega
  · intro id
    rw [hbound]
    exact Cumulative.count_of_eq_pick hpick id

omit hnonneg in
/-- Whoever shares out the numbers in proportion draws as many numbers as the weights sum up to. -/
lemma Proportional.total_eq {draw : Draw} (h : Proportional draw config) :
    total (natural config) = draw.bound.toInt.toNat :=
  Cumulative.total_eq_of_count h.found h.count

/-- **A text never gives every id its share**: there is a number too many. -/
lemma not_proportional_walk (hpos : 0 < total (natural config)) {result : Int32 → Option Int32} :
    ¬Proportional ⟨intSum config + 1, result⟩ config := by
  intro h
  have htotal := h.total_eq
  have hbound : (intSum config + 1).toInt = total (natural config) := by
    have hnat : (total (natural config) : ℤ) = ((intSum config + 1).toInt.toNat : ℤ) :=
      congrArg Nat.cast htotal
    omega
  have heq : intSum config + 1 = intSum config := by
    rw [← Int32.ofInt_toInt (intSum config + 1), hbound, Int32.ofInt_eq_ofNat, intSum_eq hnonneg]
  exact absurd (Int32.add_eq_left.mp heq) (by decide)

end Shares

/-- Whether a configuration is given as a map. -/
def Given.IsMap : Given → Prop
  | .string _ => False
  | .map _ _ => True

/-- **When the numbers are shared out in proportion**, after any calls: just when the configuration
is given as a map and the sum of its weights is an `int`. -/
theorem random_proportional_iff (calls : List Given) {given : Given}
    (hlists : given.Lists digit config) (hnonneg : ∀ e ∈ config, 0 ≤ e.2)
    (hpos : 0 < total (natural config)) :
    (∃ draw caches, (given.draw digit).run (Runs.run (callRandom digit) .empty calls) =
      .ok draw caches ∧ Proportional draw config) ↔
        given.IsMap ∧ total (natural config) < 2 ^ 31 := by
  have hvalid : (Runs.run (callRandom digit) .empty calls).Valid digit :=
    Runs.forall_inv_run (Caches.Valid digit) (fun _ given h => h.callRandom given)
      Caches.valid_empty calls
  cases given with
  | string str =>
    obtain ⟨-, allWeight, hread⟩ := hlists
    refine iff_of_false ?_ fun h => h.1
    rintro ⟨draw, caches, hrun, hproportional⟩
    rcases hvalid.drawOfString_run str with ⟨e, hread', -⟩ | ⟨reference, caches', hread', -, hrun'⟩
    · cases hread.symm.trans hread'
    · obtain rfl := Except.ok.inj (hread'.symm.trans hread)
      have hdraw : (Given.string str).draw digit = drawOfString digit str := rfl
      rw [hdraw, hrun'] at hrun
      cases hrun
      have hsum : allWeight = intSum config := fst_of_readConfig hread
      rw [hsum] at hproportional
      exact not_proportional_walk hnonneg hpos hproportional
  | map data useCache =>
    obtain rfl : entriesOf data = config := hlists
    obtain ⟨caches', -, hrun'⟩ := hvalid.drawOfMap_run data useCache
    have hdraw : (Given.map data useCache).draw digit = drawOfMap data useCache := rfl
    rw [hdraw, hrun', sumWeights_eq]
    constructor
    · rintro ⟨draw, caches, hrun, hproportional⟩
      cases hrun
      refine ⟨trivial, ?_⟩
      have htotal := hproportional.total_eq
      have hlt := (intSum (entriesOf data)).toInt_lt
      simp only at htotal
      omega
    · rintro ⟨-, hfits⟩
      exact ⟨_, caches', rfl, proportional_walk hnonneg hfits⟩

/-- Three ids, one of which has no weight. -/
def threeIds : AList fun _ : Int32 => Int32 := ((∅ : AList _).insert 9 3).insert 5 0 |>.insert 1 2

/-- A map, after calls with a text and with the map itself. -/
theorem proportional_threeIds :
    ∃ draw caches, ((Given.map threeIds true).draw asciiDigit).run
      (Runs.run (callRandom asciiDigit) .empty [.string "1:1,2:1", .map threeIds true]) =
        .ok draw caches ∧ Proportional draw [(1, 2), (5, 0), (9, 3)] := by
  have hlists : (Given.map threeIds true).Lists asciiDigit [(1, 2), (5, 0), (9, 3)] := rfl
  exact (random_proportional_iff _ hlists (by simp) (by decide)).mpr ⟨trivial, by decide⟩

/-- Two ids of equal weight in a text: of three numbers, two give the first one. -/
theorem not_proportional_string :
    ((Given.string "1:1,2:1").Lists asciiDigit [(1, 1), (2, 1)]) ∧
      ¬∃ draw caches, ((Given.string "1:1,2:1").draw asciiDigit).run .empty = .ok draw caches ∧
        Proportional draw [(1, 1), (2, 1)] := by
  refine ⟨⟨.inl (by decide), 2, rfl⟩, ?_⟩
  rintro ⟨draw, caches, hrun, hproportional⟩
  have hdraw : ((Given.string "1:1,2:1").draw asciiDigit).run .empty =
      .ok ⟨3, walk [(1, 1), (2, 1)]⟩ ⟨[], (∅ : AList _).insert "1:1,2:1" (2, [(1, 1), (2, 1)])⟩ :=
    rfl
  rw [hdraw] at hrun
  cases hrun
  exact absurd (hproportional.count 1) (by decide)

end SrgpGame.Util
