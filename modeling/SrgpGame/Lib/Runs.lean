import Mathlib.Data.List.Basic
import Mathlib.Tactic.Common

set_option autoImplicit false

/-!
# Runs of a deterministic system

A deterministic system is a step function `step : σ → ι → σ`: from a state and an input it
computes the next state. This file has the vocabulary in which properties of whole runs are
stated, and the induction principles that prove them from facts about single steps.

## Main definitions

* `Runs.run` — the state after a list of inputs.
* `Runs.EveryStep` — a relation between state and input holds at every step of a run.

## Main results

* `Runs.inv_run`, `Runs.state_inv_run` — an invariant kept by every step of a run holds at its end.
* `Runs.everyStep_of_inv` — a step property that follows from another wherever an invariant holds
  follows over whole runs.
* `Runs.everyStep_congr` — two step properties that agree wherever an invariant holds agree
  over whole runs.
* `Runs.forall_prefix_iff` — a property of all states of a run as a property of its steps.
-/

namespace Runs

variable {σ ι : Type*}

/-- The state after the inputs `is`, started in `s`. -/
def run (step : σ → ι → σ) (s : σ) (is : List ι) : σ :=
  is.foldl step s

/-- **Every step**: `R` holds between state and input at each step of the run from `s`. -/
def EveryStep (step : σ → ι → σ) (R : σ → ι → Prop) : σ → List ι → Prop
  | _, [] => True
  | s, i :: is => R s i ∧ EveryStep step R (step s i) is

variable {step : σ → ι → σ} {R Q : σ → ι → Prop}

@[simp] lemma run_nil (s : σ) : run step s [] = s := rfl

@[simp] lemma run_cons (s : σ) (i : ι) (is : List ι) :
    run step s (i :: is) = run step (step s i) is := rfl

lemma run_append (s : σ) (is js : List ι) :
    run step s (is ++ js) = run step (run step s is) js :=
  List.foldl_append

@[simp] lemma everyStep_nil (s : σ) : EveryStep step R s [] := trivial

@[simp] lemma everyStep_cons (s : σ) (i : ι) (is : List ι) :
    EveryStep step R s (i :: is) ↔ R s i ∧ EveryStep step R (step s i) is := Iff.rfl

lemma everyStep_append (s : σ) (is js : List ι) :
    EveryStep step R s (is ++ js) ↔
      EveryStep step R s is ∧ EveryStep step R (run step s is) js := by
  induction is generalizing s with
  | nil => simp
  | cons i is ih => simp only [List.cons_append, everyStep_cons, run_cons, ih, and_assoc]

lemma EveryStep.mono (hRQ : ∀ s i, R s i → Q s i) {s : σ} {is : List ι}
    (h : EveryStep step R s is) : EveryStep step Q s is := by
  induction is generalizing s with
  | nil => trivial
  | cons i is ih => exact ⟨hRQ s i h.1, ih h.2⟩

instance decidableEveryStep [∀ s i, Decidable (R s i)] :
    ∀ (s : σ) (is : List ι), Decidable (EveryStep step R s is)
  | _, [] => isTrue trivial
  | s, i :: is =>
    have := decidableEveryStep (step s i) is
    inferInstanceAs (Decidable (R s i ∧ EveryStep step R (step s i) is))

/-! ## Invariants -/

section Invariants

variable (Inv : σ → List ι → Prop)

/-- **The invariant rule.** `Inv` relates the state to the inputs still to come. If it holds at
the start and every step that satisfies `R` keeps it, it holds at the end of every run whose
steps all satisfy `R`. -/
theorem inv_run (hstep : ∀ s i is, Inv s (i :: is) → R s i → Inv (step s i) is)
    {s : σ} {is js : List ι} (h0 : Inv s (is ++ js)) (hR : EveryStep step R s is) :
    Inv (run step s is) js := by
  induction is generalizing s with
  | nil => exact h0
  | cons i is ih => exact ih (hstep s i _ h0 hR.1) hR.2

/-- The invariant rule for what concerns the state only. -/
theorem state_inv_run (Inv : σ → Prop) (hstep : ∀ s i, Inv s → R s i → Inv (step s i))
    {s : σ} {is : List ι} (h0 : Inv s) (hR : EveryStep step R s is) : Inv (run step s is) := by
  induction is generalizing s with
  | nil => exact h0
  | cons i is ih => exact ih (hstep s i h0 hR.1) hR.2

/-- The invariant rule for what every step keeps. -/
theorem forall_inv_run (Inv : σ → Prop) (hstep : ∀ s i, Inv s → Inv (step s i))
    {s : σ} (h0 : Inv s) (is : List ι) : Inv (run step s is) := by
  induction is generalizing s with
  | nil => exact h0
  | cons i is ih => exact ih (hstep s i h0)

/-- **Consequence under an invariant.** If `Q` implies `R` at every state where `Inv` holds, and a
step that satisfies `Q` keeps `Inv`, then a run whose steps satisfy `Q` is one whose steps satisfy
`R`. -/
theorem everyStep_of_inv (hstep : ∀ s i is, Inv s (i :: is) → Q s i → Inv (step s i) is)
    (hQR : ∀ s i is, Inv s (i :: is) → Q s i → R s i)
    {s : σ} {is : List ι} (h0 : Inv s is) (hQ : EveryStep step Q s is) :
    EveryStep step R s is := by
  induction is generalizing s with
  | nil => trivial
  | cons i is ih =>
    obtain ⟨hi, his⟩ := hQ
    exact ⟨hQR s i is h0 hi, ih (hstep s i is h0 hi) his⟩

/-- **Congruence under an invariant.** If `R` and `Q` agree at every state where `Inv` holds, and
a step that satisfies them keeps `Inv`, then they agree over whole runs. -/
theorem everyStep_congr (hstep : ∀ s i is, Inv s (i :: is) → Q s i → Inv (step s i) is)
    (hRQ : ∀ s i is, Inv s (i :: is) → (R s i ↔ Q s i))
    {s : σ} {is : List ι} (h0 : Inv s is) :
    EveryStep step R s is ↔ EveryStep step Q s is := by
  induction is generalizing s with
  | nil => simp
  | cons i is ih =>
    rw [everyStep_cons, everyStep_cons, hRQ s i is h0]
    exact and_congr_right fun hQ => ih (hstep s i is h0 hQ)

end Invariants

/-- **A property of all states of a run**, in terms of its steps: if from a state where it holds a
step leads to one where it holds just if the step satisfies `R`, then it holds throughout a run
just if every step satisfies `R`. -/
theorem forall_prefix_iff (Inv P : σ → Prop)
    (hstep : ∀ s i, Inv s → P s → Inv (step s i) ∧ (P (step s i) ↔ R s i))
    {s : σ} (h0 : Inv s) (hP : P s) (is : List ι) :
    (∀ pre, pre <+: is → P (run step s pre)) ↔ EveryStep step R s is := by
  induction is generalizing s with
  | nil =>
    refine iff_of_true (fun pre hpre => ?_) trivial
    rw [List.prefix_nil.mp hpre]
    exact hP
  | cons i is ih =>
    obtain ⟨hinv, hiff⟩ := hstep s i h0 hP
    rw [everyStep_cons]
    constructor
    · intro hall
      have hnext : P (step s i) := hall [i] (List.prefix_append [i] is)
      refine ⟨hiff.mp hnext, (ih hinv hnext).mp fun pre hpre => ?_⟩
      exact hall (i :: pre) (List.cons_prefix_cons.mpr ⟨rfl, hpre⟩)
    · rintro ⟨hR, his⟩ pre hpre
      cases pre with
      | nil => exact hP
      | cons j pre =>
        obtain ⟨rfl, htail⟩ := List.cons_prefix_cons.mp hpre
        exact (ih hinv (hiff.mpr hR)).mpr his pre htail

end Runs
