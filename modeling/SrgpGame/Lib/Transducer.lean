import SrgpGame.Lib.Runs

set_option autoImplicit false

/-!
# Systems with outputs

A system with outputs is a step function `step : σ → ι → σ × List ο`: from a state and an input it
computes the next state and what it emits. This file has the runs of such systems, and the
induction principles for them.

## Main definitions

* `Transducer.run` — the state after a list of inputs, and all that was emitted.

## Main results

* `Transducer.run_of_inv` — what a run emits, when an invariant determines what each step emits.
* `Transducer.run_snd_eq_of_rel` — runs from related states emit the same.
* `Transducer.forall_mem_run` — what holds of all that steps emit holds of all that a run emits.
-/

namespace Transducer

variable {σ ι ο : Type*}

/-- The state after the inputs `is`, started in `s`, and what was emitted, oldest first. -/
def run (step : σ → ι → σ × List ο) : σ → List ι → σ × List ο
  | s, [] => (s, [])
  | s, i :: is => ((run step (step s i).1 is).1, (step s i).2 ++ (run step (step s i).1 is).2)

variable {step : σ → ι → σ × List ο}

@[simp] lemma run_nil (s : σ) : run step s [] = (s, []) := rfl

@[simp] lemma run_cons (s : σ) (i : ι) (is : List ι) :
    run step s (i :: is) =
      ((run step (step s i).1 is).1, (step s i).2 ++ (run step (step s i).1 is).2) := rfl

/-- **The invariant rule with outputs.** `Inv` relates the state to the inputs still to come. If
every step keeps it and emits what `emit` says, then it holds at the end of the run, and the run
emits what `emit` says of its inputs. -/
theorem run_of_inv (Inv : σ → List ι → Prop) (emit : ι → List ο)
    (hstep : ∀ s i is, Inv s (i :: is) → Inv (step s i).1 is ∧ (step s i).2 = emit i)
    {s : σ} {is : List ι} (h0 : Inv s is) :
    Inv (run step s is).1 [] ∧ (run step s is).2 = is.flatMap emit := by
  induction is generalizing s with
  | nil => exact ⟨h0, rfl⟩
  | cons i is ih =>
    obtain ⟨hinv, hemit⟩ := hstep s i is h0
    obtain ⟨hend, hrest⟩ := ih hinv
    refine ⟨hend, ?_⟩
    rw [run_cons, hemit, hrest, List.flatMap_cons]

/-- **The simulation rule.** `Rel` relates two states to the inputs still to come. If in related
states a step emits the same and leads to related states, then runs from related states emit the
same. -/
theorem run_snd_eq_of_rel (Rel : σ → σ → List ι → Prop)
    (hstep : ∀ s t i is, Rel s t (i :: is) →
      (step s i).2 = (step t i).2 ∧ Rel (step s i).1 (step t i).1 is)
    {s t : σ} {is : List ι} (h0 : Rel s t is) : (run step s is).2 = (run step t is).2 := by
  induction is generalizing s t with
  | nil => rfl
  | cons i is ih =>
    obtain ⟨hemit, hrel⟩ := hstep s t i is h0
    rw [run_cons, run_cons, hemit, ih hrel]

/-- What every step emits in every state, the run emits. -/
lemma forall_mem_run {P : ο → Prop} (hstep : ∀ s i, ∀ o ∈ (step s i).2, P o) (s : σ)
    (is : List ι) : ∀ o ∈ (run step s is).2, P o := by
  induction is generalizing s with
  | nil =>
    intro o ho
    exact absurd ho List.not_mem_nil
  | cons i is ih =>
    intro o ho
    rcases List.mem_append.mp ho with ho | ho
    · exact hstep s i o ho
    · exact ih _ o ho

end Transducer
