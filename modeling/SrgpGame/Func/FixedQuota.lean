import SrgpGame.Func.FixedDrop
import SrgpGame.Lib.Quota

set_option autoImplicit false

/-!
# What guaranteed drops guarantee

Of every `total` functions that come up under a configuration `fix` keeps `fixed`, or all of them if
there are no more, whatever the random numbers are and however the functions come up, in one
selection or in many.

## Main definitions

* `ints` — the two counters as numbers.

## Main results

* `run_fix` — `fix` makes choices that follow the rules of `SrgpGame.Lib.Quota`.
* `fix_blocks` — what it keeps of every block, and that both counters are zero then.
-/

namespace SrgpGame.FixedDrop

open Func (Rng FixedExecConfig FixedDropVO nextInt)
open Quota (Allowed OnTrack)

variable {σ ρ : Type} {cfgs : Int32 → Option FixedExecConfig} {cfg : FixedExecConfig}

/-! ## One choice -/

/-- The two counters as numbers. -/
def ints (c : Int32 × Int32) : ℤ × ℤ := (c.1.toInt, c.2.toInt)

section Choice

variable {c : Int32 × Int32}

/-- Within a block nothing overflows. -/
lemma toInt_add_one {n : Int32} {bound : ℤ} (h0 : 0 ≤ n.toInt) (hlt : n.toInt < bound)
    (hbound : bound < 2 ^ 31) : (n + 1).toInt = n.toInt + 1 := by
  rw [Int32.toInt_add, show (1 : Int32).toInt = 1 from rfl]
  exact Int.bmod_eq_of_le (by omega) (by omega)

/-- A counter goes on as the abstract one does. -/
lemma ints_tick (h : OnTrack cfg.total.toInt cfg.fixed.toInt (ints c)) (selected : Bool) :
    ints (tick cfg selected c) = Quota.next cfg.total.toInt (ints c) selected := by
  have htotal := Int32.toInt_lt cfg.total
  have hnonneg : 0 ≤ c.2.toInt := h.nonneg
  have hcount : c.2.toInt ≤ c.1.toInt := h.le_count
  have hlt : c.1.toInt < cfg.total.toInt := h.lt_total
  have hfst := toInt_add_one (by omega) hlt htotal
  have hsnd := toInt_add_one hnonneg (by omega : c.2.toInt < cfg.total.toInt) htotal
  have hfull : cfg.total ≤ c.1 + 1 ↔ cfg.total.toInt ≤ c.1.toInt + 1 := by
    rw [Int32.le_iff_toInt_le, hfst]
  unfold tick Quota.next
  by_cases hend : cfg.total.toInt ≤ (ints c).1 + 1
  · rw [if_pos (hfull.mpr hend), if_pos hend]
    rfl
  · rw [if_neg fun hle => hend (hfull.mp hle), if_neg hend]
    cases selected with
    | false => exact Prod.ext hfst rfl
    | true => exact Prod.ext hfst hsnd

/-- **The choice follows the rules**, whatever the random numbers are. -/
lemma run_checkFix (h : OnTrack cfg.total.toInt cfg.fixed.toInt (ints c)) (rng : Rng) :
    ∃ selected rng', (checkFix cfg.total cfg.fixed c.1 c.2).run rng = .ok selected rng' ∧
      Allowed cfg.total.toInt cfg.fixed.toInt (ints c) selected := by
  have hnonneg : 0 ≤ c.2.toInt := h.nonneg
  have hcount : c.2.toInt ≤ c.1.toInt := h.le_count
  have hlt : c.1.toInt < cfg.total.toInt := h.lt_total
  have hquota : c.2.toInt ≤ cfg.fixed.toInt := h.le_quota
  rw [checkFix]
  split
  · next hdue =>
    rw [Int32.lt_iff_toInt_lt] at hdue
    split
    · exact ⟨true, rng, rfl, fun _ => hdue, fun _ _ => rfl⟩
    · next hfree =>
      have htotal := Int32.toInt_lt cfg.total
      have hfixed := Int32.toInt_lt cfg.fixed
      rw [Int32.le_iff_toInt_le, Int32.toInt_sub_of_fits (by omega) (by omega),
        Int32.toInt_sub_of_fits (by omega) (by omega)] at hfree
      have hne : cfg.total ≠ 0 := by
        rintro hzero
        rw [hzero] at hlt
        change c.1.toInt < 0 at hlt
        omega
      rw [if_neg hne]
      refine ⟨_, _, rfl, fun _ => hdue, fun _ howed => ?_⟩
      exact absurd howed hfree
  · next hdone =>
    rw [Int32.lt_iff_toInt_lt] at hdone
    exact ⟨false, rng, rfl, fun hselected => Bool.noConfusion hselected,
      fun hdue => absurd hdue hdone⟩

variable {fixedId : Int32}

/-- **One round of `fix`** makes one choice, and advances the counters. -/
lemma run_fixOne (hcfg : cfgs fixedId = some cfg) {func : AbstractFunc σ ρ}
    (hid : func.steadyExecId = fixedId) {fdvo : FixedDropVO}
    (h : OnTrack cfg.total.toInt cfg.fixed.toInt (ints (counters fdvo fixedId))) (rng : Rng) :
    ∃ selected s', (fixOne cfgs func).run (fdvo, rng) = .ok selected s' ∧
      Allowed cfg.total.toInt cfg.fixed.toInt (ints (counters fdvo fixedId)) selected ∧
      ints (counters s'.1 fixedId) =
        Quota.next cfg.total.toInt (ints (counters fdvo fixedId)) selected := by
  subst hid
  obtain ⟨selected, rng', hchoice, hallowed⟩ := run_checkFix h rng
  have hadvance : (advanceOne cfgs func).run (counters fdvo, rng) = .ok selected
      (Function.update (Function.update (counters fdvo) func.steadyExecId
        ((counters fdvo func.steadyExecId).1 + 1, (counters fdvo func.steadyExecId).2))
          func.steadyExecId (tick cfg selected (counters fdvo func.steadyExecId)), rng') := by
    unfold advanceOne
    rw [hcfg]
    show EStateM.run (drawn (checkFix cfg.total cfg.fixed (counters fdvo func.steadyExecId).1
      (counters fdvo func.steadyExecId).2) >>= _) _ = _
    rw [EStateM.run_bind, run_drawn]
    dsimp only
    rw [hchoice]
    rfl
  have hfollows : EStateM.Follows view id (fixOne cfgs func) (advanceOne cfgs func) (fdvo, rng) :=
    follows_fixOne func (fdvo, rng)
  unfold EStateM.Follows view at hfollows
  rw [hadvance] at hfollows
  cases hrun : (fixOne cfgs func).run (fdvo, rng) with
  | error e s' =>
    rw [hrun] at hfollows
    cases hfollows
  | ok selected' s' =>
    rw [hrun] at hfollows
    dsimp only at hfollows
    injection hfollows with hselected hcounters
    obtain rfl : selected = selected' := hselected
    refine ⟨selected, s', rfl, hallowed, ?_⟩
    have hfst : _ = counters s'.1 := congrArg Prod.fst hcounters
    rw [← hfst]
    dsimp only
    rw [Function.update_self, ints_tick h]

end Choice

/-! ## Selections -/

section Selections

variable {fixedId : Int32}

/-- **A selection** makes a choice for every function, and keeps as many as it chose. -/
theorem run_fix (hcfg : cfgs fixedId = some cfg) (hfixed : 0 ≤ cfg.fixed.toInt)
    {funcs : List (AbstractFunc σ ρ)} (hid : ∀ func ∈ funcs, func.steadyExecId = fixedId)
    {s : FixedDropVO × Rng}
    (h : OnTrack cfg.total.toInt cfg.fixed.toInt (ints (counters s.1 fixedId))) :
    ∃ kept s' choices, (fix cfgs funcs).run s = .ok kept s' ∧
      choices.length = funcs.length ∧ choices.count true = kept.length ∧
      Runs.EveryStep (Quota.next cfg.total.toInt) (Allowed cfg.total.toInt cfg.fixed.toInt)
        (ints (counters s.1 fixedId)) choices ∧
      ints (counters s'.1 fixedId) =
        Runs.run (Quota.next cfg.total.toInt) (ints (counters s.1 fixedId)) choices := by
  induction funcs generalizing s with
  | nil => exact ⟨[], s, [], rfl, rfl, rfl, trivial, rfl⟩
  | cons func funcs ih =>
    obtain ⟨hfunc, hfuncs⟩ := List.forall_mem_cons.mp hid
    obtain ⟨selected, s₁, hone, hallowed, hnext⟩ := run_fixOne hcfg hfunc h s.2
    have h₁ : OnTrack cfg.total.toInt cfg.fixed.toInt (ints (counters s₁.1 fixedId)) := by
      rw [hnext]
      exact h.step hfixed hallowed
    obtain ⟨kept, s', choices, hrun, hlength, hcount, hevery, hend⟩ := ih hfuncs h₁
    refine ⟨if selected then func :: kept else kept, s', selected :: choices, ?_, ?_, ?_, ?_, ?_⟩
    · rw [fix, EStateM.run_bind, hone]
      dsimp only
      rw [EStateM.run_bind, hrun]
      rfl
    · rw [List.length_cons, List.length_cons, hlength]
    · cases selected <;> simp [hcount]
    · exact ⟨hallowed, hnext ▸ hevery⟩
    · rw [hend, hnext, Runs.run_cons]

/-- A selection of more functions goes on where one of fewer ended. -/
lemma run_fix_append {funcs funcs' kept kept' : List (AbstractFunc σ ρ)}
    {s s₁ s₂ : FixedDropVO × Rng} (h : (fix cfgs funcs).run s = .ok kept s₁)
    (h' : (fix cfgs funcs').run s₁ = .ok kept' s₂) :
    (fix cfgs (funcs ++ funcs')).run s = .ok (kept ++ kept') s₂ := by
  induction funcs generalizing s kept with
  | nil =>
    cases h
    exact h'
  | cons func funcs ih =>
    obtain ⟨selected, s₃, hone, h⟩ := EStateM.run_bind_eq_ok.mp h
    obtain ⟨ret, s₄, hrest, h⟩ := EStateM.run_bind_eq_ok.mp h
    cases h
    rw [List.cons_append, fix, EStateM.run_bind, hone]
    dsimp only
    rw [EStateM.run_bind, ih hrest]
    cases selected <;> rfl

/-- Selections one after another keep what one selection of all functions keeps. -/
lemma run_fix_flatten {selections kept : List (List (AbstractFunc σ ρ))} {s s' : FixedDropVO × Rng}
    (h : (selections.mapM (fix cfgs)).run s = .ok kept s') :
    (fix cfgs selections.flatten).run s = .ok kept.flatten s' := by
  induction selections generalizing s kept with
  | nil =>
    cases h
    rfl
  | cons funcs selections ih =>
    rw [List.mapM_cons] at h
    obtain ⟨kept₁, s₁, hfirst, h⟩ := EStateM.run_bind_eq_ok.mp h
    obtain ⟨kept₂, s₂, hrest, h⟩ := EStateM.run_bind_eq_ok.mp h
    cases h
    exact run_fix_append hfirst (ih hrest)

/-- Selections do not throw. -/
lemma run_mapM_fix (hcfg : cfgs fixedId = some cfg) (hfixed : 0 ≤ cfg.fixed.toInt)
    {selections : List (List (AbstractFunc σ ρ))}
    (hid : ∀ funcs ∈ selections, ∀ func ∈ funcs, func.steadyExecId = fixedId)
    {s : FixedDropVO × Rng}
    (h : OnTrack cfg.total.toInt cfg.fixed.toInt (ints (counters s.1 fixedId))) :
    ∃ kept s', (selections.mapM (fix cfgs)).run s = .ok kept s' := by
  induction selections generalizing s with
  | nil => exact ⟨[], s, rfl⟩
  | cons funcs selections ih =>
    obtain ⟨hfuncs, hrest⟩ := List.forall_mem_cons.mp hid
    obtain ⟨kept, s₁, choices, hrun, -, -, hevery, hend⟩ := run_fix hcfg hfixed hfuncs h
    have h₁ : OnTrack cfg.total.toInt cfg.fixed.toInt (ints (counters s₁.1 fixedId)) := by
      rw [hend]
      exact Runs.state_inv_run (OnTrack cfg.total.toInt cfg.fixed.toInt)
        (fun c _ hc hallowed => hc.step hfixed hallowed) h hevery
    obtain ⟨keptRest, s', hruns⟩ := ih hrest h₁
    refine ⟨kept :: keptRest, s', ?_⟩
    rw [List.mapM_cons, EStateM.run_bind, hrun]
    dsimp only
    rw [EStateM.run_bind, hruns]
    rfl

lemma ints_eq_zero {c : Int32 × Int32} (h : ints c = (0, 0)) : c = (0, 0) := by
  have hfst : c.1.toInt = (0 : Int32).toInt := congrArg Prod.fst h
  have hsnd : c.2.toInt = (0 : Int32).toInt := congrArg Prod.snd h
  exact Prod.ext (Int32.toInt_inj.mp hfst) (Int32.toInt_inj.mp hsnd)

/-- **What guaranteed drops guarantee.** Functions under one configuration come up in any number of
selections, and both counters are zero at first. Then no selection throws, and of every `total`
functions that make up a block, exactly `fixed` are kept, or all of them if there are no more;
before and after a block both counters are zero. -/
theorem fix_blocks (hcfg : cfgs fixedId = some cfg) (htotal : 1 ≤ cfg.total)
    (hfixed : 0 ≤ cfg.fixed) {selections : List (List (AbstractFunc σ ρ))}
    (hid : ∀ funcs ∈ selections, ∀ func ∈ funcs, func.steadyExecId = fixedId)
    {fdvo : FixedDropVO} (hzero : counters fdvo fixedId = (0, 0)) (rng : Rng) :
    ∃ kept s', (selections.mapM (fix cfgs)).run (fdvo, rng) = .ok kept s' ∧
      ∀ before block rest, selections.flatten = before ++ block ++ rest →
        cfg.total.toInt ∣ before.length → (block.length : ℤ) = cfg.total.toInt →
        ∃ kept₀ s₀ kept₁ s₁ kept₂,
          (fix cfgs before).run (fdvo, rng) = .ok kept₀ s₀ ∧
          (fix cfgs block).run s₀ = .ok kept₁ s₁ ∧
          (fix cfgs rest).run s₁ = .ok kept₂ s' ∧
          kept.flatten = kept₀ ++ kept₁ ++ kept₂ ∧
          (kept₁.length : ℤ) = min cfg.fixed.toInt cfg.total.toInt ∧
          counters s₀.1 fixedId = (0, 0) ∧ counters s₁.1 fixedId = (0, 0) := by
  have htotal' : 0 < cfg.total.toInt := Int32.le_iff_toInt_le.mp htotal
  have hfixed' : 0 ≤ cfg.fixed.toInt := Int32.le_iff_toInt_le.mp hfixed
  have hstart : ∀ c : Int32 × Int32, c = (0, 0) →
      OnTrack cfg.total.toInt cfg.fixed.toInt (ints c) := by
    rintro c rfl
    exact Quota.onTrack_zero htotal' hfixed'
  have hbegin : OnTrack cfg.total.toInt cfg.fixed.toInt
      (ints (counters (fdvo, rng).1 fixedId)) := hstart _ hzero
  obtain ⟨kept, s', hrun⟩ := run_mapM_fix hcfg hfixed' hid hbegin
  refine ⟨kept, s', hrun, fun before block rest hstream hdvd hlength => ?_⟩
  have hflat := run_fix_flatten hrun
  have hall : ∀ func ∈ before ++ block ++ rest, func.steadyExecId = fixedId := by
    intro func hmem
    rw [← hstream] at hmem
    obtain ⟨funcs, hfuncs, hfunc⟩ := List.mem_flatten.mp hmem
    exact hid funcs hfuncs func hfunc
  obtain ⟨hinit, hrest⟩ := List.forall_mem_append.mp hall
  obtain ⟨hbefore, hblock⟩ := List.forall_mem_append.mp hinit
  -- the blocks before
  obtain ⟨kept₀, s₀, choices₀, hrun₀, hlength₀, -, hevery₀, hend₀⟩ :=
    run_fix hcfg hfixed' hbefore hbegin
  have hzero₀ : counters s₀.1 fixedId = (0, 0) := by
    apply ints_eq_zero
    change Runs.EveryStep _ _ (ints (counters fdvo fixedId)) _ at hevery₀
    change _ = Runs.run _ (ints (counters fdvo fixedId)) _ at hend₀
    rw [hzero] at hevery₀ hend₀
    rw [hend₀]
    exact Quota.run_blocks htotal' hfixed' hevery₀ (hlength₀ ▸ hdvd)
  -- the block
  obtain ⟨kept₁, s₁, choices₁, hrun₁, hlength₁, hcount₁, hevery₁, hend₁⟩ :=
    run_fix hcfg hfixed' hblock (hstart _ hzero₀)
  rw [hzero₀] at hevery₁ hend₁
  obtain ⟨hcount, hempty⟩ := Quota.count_block htotal' hfixed' hevery₁ (hlength₁ ▸ hlength)
  have hzero₁ : counters s₁.1 fixedId = (0, 0) := ints_eq_zero (hend₁.trans hempty)
  -- the rest
  obtain ⟨kept₂, s₂, choices₂, hrun₂, -⟩ := run_fix hcfg hfixed' hrest (hstart _ hzero₁)
  have hjoined := run_fix_append (run_fix_append hrun₀ hrun₁) hrun₂
  rw [← hstream, hflat] at hjoined
  injection hjoined with hkept hstate
  subst hstate
  exact ⟨kept₀, s₀, kept₁, s₁, kept₂, hrun₀, hrun₁, hrun₂, hkept, by rw [← hcount₁, hcount],
    hzero₀, hzero₁⟩

/-- A function under the configuration with the id 1, which does nothing. -/
def idleFunc : AbstractFunc Unit Unit where
  steadyExecId := 1
  checkDepotCapacity _ := .ok ()
  checkParam _ := .ok ()
  record _ checkRec := .ok checkRec
  exec _ := pure ()

/-- Of every two functions one is to be kept. -/
def oneOfTwo (fixedId : Int32) : Option FixedExecConfig := if fixedId = 1 then some ⟨2, 1⟩ else none

/-- The second block of four functions that come up in two selections. -/
theorem fix_blocks_oneOfTwo :
    ∃ kept₀ s₀ kept₁ s₁,
      (fix oneOfTwo [idleFunc, idleFunc]).run (⟨∅, ∅⟩, ⟨fun _ => 70⟩) = .ok kept₀ s₀ ∧
      (fix oneOfTwo [idleFunc, idleFunc]).run s₀ = .ok kept₁ s₁ ∧
      (kept₁.length : ℤ) = 1 ∧ counters s₁.1 1 = (0, 0) := by
  have hid : ∀ funcs ∈ [[idleFunc, idleFunc, idleFunc], [idleFunc]], ∀ func ∈ funcs,
      func.steadyExecId = 1 := by
    simp [idleFunc]
  obtain ⟨kept, s', -, hblocks⟩ := @fix_blocks Unit Unit oneOfTwo ⟨2, 1⟩ 1 rfl (by decide)
    (by decide) _ hid ⟨∅, ∅⟩ rfl ⟨fun _ => 70⟩
  obtain ⟨kept₀, s₀, kept₁, s₁, kept₂, hrun₀, hrun₁, -, -, hkept, -, hzero⟩ :=
    hblocks [idleFunc, idleFunc] [idleFunc, idleFunc] [] rfl (by decide) rfl
  exact ⟨kept₀, s₀, kept₁, s₁, hrun₀, hrun₁, hkept, hzero⟩

end Selections

end SrgpGame.FixedDrop
