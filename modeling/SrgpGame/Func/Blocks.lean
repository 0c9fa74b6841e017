import SrgpGame.Func.FixedQuota

set_option autoImplicit false

/-!
# Blocks of guaranteed drops

The trigger counter of a configuration does not depend on the random choices: it counts the
functions that come up and starts anew after every `total` of them. This file says which
selections can bring it back to where it was.

## Main definitions

* `tickCount`, `blockLength` — the trigger counter after one more function, and its period.

## Main results

* `iterate_tickCount_eq_iff` — a number of functions leads back to the same count exactly when it
  makes up whole blocks, from a count within a block.
* `trigger_fix_eq_iff` — the same for a selection of `fix`.
-/

namespace SrgpGame.FixedDrop

open Func (Rng FixedExecConfig FixedDropVO)

/-! ## Blocks -/

/-- How many functions came up in the present block, after one more. -/
def tickCount (total count : Int32) : Int32 := if total ≤ count + 1 then 0 else count + 1

/-- The length of a block: one where `total` says less. -/
def blockLength (total : Int32) : ℤ := max total.toInt 1

section Blocks

variable {total count : Int32}

lemma toInt_succ (count : Int32) : (count + 1).toInt = count.toInt + 1 ∨
    (count.toInt = 2 ^ 31 - 1 ∧ (count + 1).toInt = -2 ^ 31) := by
  have hlo := Int32.le_toInt count
  have hhi := Int32.toInt_lt count
  rw [Int32.toInt_add, show (1 : Int32).toInt = 1 from rfl, Int.bmod_eq_emod]
  split <;> omega

/-- Within a block one more function counts modulo the length. -/
lemma toInt_tickCount (h0 : 0 ≤ count.toInt) (hlt : count.toInt < blockLength total) :
    (tickCount total count).toInt = (count.toInt + 1) % blockLength total := by
  have htotal := Int32.toInt_lt total
  unfold blockLength at hlt ⊢
  have hsucc : (count + 1).toInt = count.toInt + 1 := by
    rcases toInt_succ count with h | h
    · exact h
    · omega
  unfold tickCount
  split
  · next hle =>
    rw [Int32.le_iff_toInt_le, hsucc] at hle
    have hfull : count.toInt + 1 = max total.toInt 1 := by omega
    rw [hfull, Int.emod_self]
    rfl
  · next hle =>
    rw [Int32.le_iff_toInt_le, hsucc] at hle
    rw [hsucc, Int.emod_eq_of_lt (by omega) (by omega)]

/-- Within a block functions count modulo the length. -/
lemma toInt_iterate_tickCount (h0 : 0 ≤ count.toInt) (hlt : count.toInt < blockLength total)
    (n : ℕ) : ((tickCount total)^[n] count).toInt = (count.toInt + n) % blockLength total := by
  have hpos : 0 < blockLength total := by
    unfold blockLength
    omega
  induction n with
  | zero =>
    rw [Function.iterate_zero, id, Nat.cast_zero, Int.add_zero, Int.emod_eq_of_lt h0 hlt]
  | succ n ih =>
    rw [Function.iterate_succ_apply', toInt_tickCount, ih, Int.emod_add_emod, Nat.cast_succ,
      Int.add_assoc]
    · rw [ih]
      exact Int.emod_nonneg _ hpos.ne'
    · rw [ih]
      exact Int.emod_lt_of_pos _ hpos

/-- One more function ends the block, counts, or overflows. -/
lemma tickCount_cases (total count : Int32) :
    (tickCount total count).toInt = 0 ∨
      ((tickCount total count).toInt = count.toInt + 1 ∧ count.toInt + 1 < total.toInt) ∨
      ((tickCount total count).toInt = -2 ^ 31 ∧ count.toInt = 2 ^ 31 - 1) := by
  unfold tickCount
  split
  · exact .inl rfl
  · next hle =>
    rw [Int32.le_iff_toInt_le] at hle
    rcases toInt_succ count with h | h
    · exact .inr (.inl (by omega))
    · exact .inr (.inr ⟨h.2, h.1⟩)

/-- From outside a block the count enters a block, or stays below zero and has left its start. -/
lemma iterate_tickCount_outside (h : ¬(0 ≤ count.toInt ∧ count.toInt < blockLength total))
    (n : ℕ) :
    (0 ≤ ((tickCount total)^[n + 1] count).toInt ∧
        ((tickCount total)^[n + 1] count).toInt < blockLength total) ∨
      (((tickCount total)^[n + 1] count).toInt < 0 ∧
        (count.toInt < ((tickCount total)^[n + 1] count).toInt ∨ 0 ≤ count.toInt)) := by
  have htotal := Int32.toInt_lt total
  unfold blockLength
  induction n with
  | zero =>
    rw [Function.iterate_one]
    have hout := h
    unfold blockLength at hout
    rcases tickCount_cases total count with hone | hone | hone <;> omega
  | succ n ih =>
    rw [Function.iterate_succ_apply']
    have hstep := tickCount_cases total ((tickCount total)^[n + 1] count)
    omega

/-- From outside a block no number of functions leads back. -/
lemma iterate_tickCount_ne (h : ¬(0 ≤ count.toInt ∧ count.toInt < blockLength total)) (n : ℕ) :
    (tickCount total)^[n + 1] count ≠ count := by
  intro heq
  have hout := iterate_tickCount_outside h n
  rw [heq] at hout
  omega

/-- **Functions lead back to the same count** exactly when they make up whole blocks. -/
theorem iterate_tickCount_eq_iff {n : ℕ} (hn : 0 < n) :
    (tickCount total)^[n] count = count ↔
      0 ≤ count.toInt ∧ count.toInt < blockLength total ∧ blockLength total ∣ n := by
  by_cases h : 0 ≤ count.toInt ∧ count.toInt < blockLength total
  · have hself : count.toInt % blockLength total = count.toInt := Int.emod_eq_of_lt h.1 h.2
    have hmod : (count.toInt + n) % blockLength total = count.toInt ↔ blockLength total ∣ n := by
      rw [Int.dvd_iff_emod_eq_zero]
      constructor
      · intro heq
        rw [← hself, Int.emod_add_emod, Int.emod_eq_emod_iff_emod_sub_eq_zero,
          add_sub_cancel_left] at heq
        exact heq
      · intro hzero
        rw [Int.add_emod, hzero, Int.add_zero, hself, hself]
    rw [← Int32.toInt_inj, toInt_iterate_tickCount h.1 h.2, hmod]
    exact ⟨fun hdvd => ⟨h.1, h.2, hdvd⟩, fun hall => hall.2.2⟩
  · constructor
    · intro heq
      obtain ⟨m, rfl⟩ : ∃ m, n = m + 1 := ⟨n - 1, by omega⟩
      exact absurd heq (iterate_tickCount_ne h m)
    · rintro ⟨h0, hlt, -⟩
      exact absurd ⟨h0, hlt⟩ h

end Blocks

section Trigger

variable {σ ρ : Type} {cfgs : Int32 → Option FixedExecConfig}

lemma fst_tick {cfg : FixedExecConfig} {c : Int32 × Int32} (selected : Bool) :
    (tick cfg selected c).1 = tickCount cfg.total c.1 := by
  unfold tick tickCount
  split <;> rfl

/-- What one choice comes to. -/
lemma run_advanceOne {func : AbstractFunc σ ρ} {cfg : FixedExecConfig}
    (hfunc : cfgs func.steadyExecId = some cfg) (c : Counters) (rng : Rng) :
    (advanceOne cfgs func).run (c, rng) =
      match (checkFix cfg.total cfg.fixed (c func.steadyExecId).1
        (c func.steadyExecId).2).run rng with
      | .ok selected rng' =>
        .ok selected
          (Function.update c func.steadyExecId (tick cfg selected (c func.steadyExecId)), rng')
      | .error e rng' =>
        .error e (Function.update c func.steadyExecId
          ((c func.steadyExecId).1 + 1, (c func.steadyExecId).2), rng') := by
  unfold advanceOne
  rw [hfunc]
  dsimp only
  rw [EStateM.run_bind, EStateM.run_get]
  dsimp only
  rw [EStateM.run_bind, setCounters, EStateM.run_modify]
  dsimp only
  rw [EStateM.run_bind, run_drawn]
  dsimp only
  cases (checkFix cfg.total cfg.fixed (c func.steadyExecId).1 (c func.steadyExecId).2).run rng with
  | error e rng' => rfl
  | ok selected rng' =>
    dsimp only
    rw [EStateM.run_bind, setCounters, EStateM.run_modify]
    dsimp only
    rw [Function.update_idem]
    rfl

/-- One function counts under its own configuration, if there is one. -/
lemma trigger_advanceOne {func : AbstractFunc σ ρ} {selected : Bool} {c c' : Counters}
    {rng rng' : Rng} (h : (advanceOne cfgs func).run (c, rng) = .ok selected (c', rng'))
    {fixedId : Int32} {cfg : FixedExecConfig} (hcfg : cfgs fixedId = some cfg) :
    (c' fixedId).1 = if func.steadyExecId = fixedId then tickCount cfg.total (c fixedId).1
      else (c fixedId).1 := by
  cases hfunc : cfgs func.steadyExecId with
  | none =>
    unfold advanceOne at h
    rw [hfunc] at h
    cases h
    rw [if_neg]
    rintro rfl
    rw [hcfg] at hfunc
    cases hfunc
  | some cfg' =>
    rw [run_advanceOne hfunc] at h
    split at h
    · cases h
      by_cases hid : func.steadyExecId = fixedId
      · subst hid
        obtain rfl : cfg = cfg' := Option.some.inj (hcfg.symm.trans hfunc)
        rw [if_pos rfl, Function.update_self]
        exact fst_tick _
      · rw [if_neg hid, Function.update_of_ne (Ne.symm hid)]
    · cases h

/-- **A selection counts every function** under its configuration. -/
lemma trigger_advance {funcs selected : List (AbstractFunc σ ρ)} {c c' : Counters}
    {rng rng' : Rng} (h : (advance cfgs funcs).run (c, rng) = .ok selected (c', rng'))
    {fixedId : Int32} {cfg : FixedExecConfig} (hcfg : cfgs fixedId = some cfg) :
    (c' fixedId).1 = (tickCount cfg.total)^[funcs.countP (·.steadyExecId = fixedId)]
      (c fixedId).1 := by
  induction funcs generalizing c rng selected with
  | nil =>
    cases h
    rfl
  | cons func funcs ih =>
    obtain ⟨flag, ⟨c₁, rng₁⟩, hone, h⟩ := EStateM.run_bind_eq_ok.mp h
    obtain ⟨ret, ⟨c₂, rng₂⟩, hrest, h⟩ := EStateM.run_bind_eq_ok.mp h
    cases h
    rw [ih hrest, trigger_advanceOne hone hcfg, List.countP_cons]
    by_cases hid : func.steadyExecId = fixedId
    · simp only [hid, if_true, decide_true, Function.iterate_succ_apply]
    · simp only [hid, if_false, decide_false, Bool.false_eq_true, Nat.add_zero]

/-- **A selection leads back to the same count** exactly when the functions under the configuration
make up whole blocks, whatever the random choices are. -/
theorem trigger_fix_eq_iff {funcs selected : List (AbstractFunc σ ρ)} {fdvo fdvo' : FixedDropVO}
    {rng rng' : Rng} (hrun : (fix cfgs funcs).run (fdvo, rng) = .ok selected (fdvo', rng'))
    {fixedId : Int32} {cfg : FixedExecConfig} (hcfg : cfgs fixedId = some cfg)
    (hpos : 0 < funcs.countP (·.steadyExecId = fixedId)) :
    fdvo'.triggerCountMap.getOrDefault fixedId 0 = fdvo.triggerCountMap.getOrDefault fixedId 0 ↔
      0 ≤ (fdvo.triggerCountMap.getOrDefault fixedId 0).toInt ∧
        (fdvo.triggerCountMap.getOrDefault fixedId 0).toInt < blockLength cfg.total ∧
        blockLength cfg.total ∣ funcs.countP (·.steadyExecId = fixedId) := by
  have hadvance : (advance cfgs funcs).run (counters fdvo, rng) =
      .ok selected (counters fdvo', rng') := by
    have hfollows := @follows_fix _ _ cfgs funcs (fdvo, rng)
    rw [EStateM.Follows, hrun] at hfollows
    exact hfollows
  rw [← iterate_tickCount_eq_iff hpos]
  have hcount := trigger_advance hadvance hcfg
  simp only [counters] at hcount
  rw [hcount]

/-- Two functions of which one is to be kept. -/
theorem trigger_fix_eq_iff_oneOfTwo :
    ∃ kept fdvo' rng', (fix oneOfTwo [idleFunc, idleFunc]).run (⟨∅, ∅⟩, ⟨fun _ => 70⟩) =
        .ok kept (fdvo', rng') ∧ fdvo'.triggerCountMap.getOrDefault 1 0 = 0 := by
  obtain ⟨kept, s', hrun⟩ : ∃ kept s',
      (fix oneOfTwo [idleFunc, idleFunc]).run (⟨∅, ∅⟩, ⟨fun _ => 70⟩) = .ok kept s' := ⟨_, _, rfl⟩
  exact ⟨kept, s'.1, s'.2, hrun, (@trigger_fix_eq_iff Unit Unit oneOfTwo [idleFunc, idleFunc] kept
    ⟨∅, ∅⟩ s'.1 _ s'.2 hrun 1 ⟨2, 1⟩ rfl (by decide)).mpr (by decide)⟩

end Trigger
end SrgpGame.FixedDrop
