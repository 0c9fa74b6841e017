import SrgpGame.Lib.Method

set_option autoImplicit false

/-!
# What methods maintain

A property of the state can hold after a method whenever it held before, whether the method
returned or threw. This file has the rules for such properties, and what it is that methods, run one
after another, stop in a state with a property.

## Main definitions

* `EStateM.Maintains` — a method maintains a property of the state.
* `EStateM.Stops` — one of some methods throws, and leaves a state with a property.

## Main results

* `EStateM.Maintains.bind`, `EStateM.Maintains.each`, `EStateM.Maintains.zoom` — sequences, loops
  and methods on a part of the state.
* `EStateM.stops_iff` — methods stop just if the sequence of them throws.
-/

namespace EStateM

variable {ε σ τ α β : Type}

/-- A method after which `P` holds if it held before, whether the method returned or threw. -/
def Maintains (P : σ → Prop) (x : EStateM ε σ α) : Prop := ∀ ⦃s⦄, P s → P (x.finalState s)

namespace Maintains

variable {P : σ → Prop} {x : EStateM ε σ α} {s s' : σ}

lemma of_run_eq_ok (h : Maintains P x) (hs : P s) {a : α} (hrun : x.run s = .ok a s') : P s' := by
  have hfinal := h hs
  rwa [finalState_eq_of_ok hrun] at hfinal

lemma of_run_eq_error (h : Maintains P x) (hs : P s) {e : ε} (hrun : x.run s = .error e s') :
    P s' := by
  have hfinal := h hs
  rwa [finalState_eq_of_error hrun] at hfinal

lemma pure (a : α) : Maintains P (pure a : EStateM ε σ α) := fun _ hs => hs

lemma throw (e : ε) : Maintains P (throw e : EStateM ε σ α) := fun _ hs => hs

lemma get : Maintains P (get : EStateM ε σ σ) := fun _ hs => hs

lemma modify {f : σ → σ} (hf : ∀ s, P s → P (f s)) : Maintains P (modify f : EStateM ε σ PUnit) :=
  fun s hs => hf s hs

lemma ofExcept (f : σ → Except ε α) : Maintains P (ofExcept f) := by
  intro s hs
  rwa [finalState_ofExcept]

/-- **A sequence** maintains what both parts maintain. -/
lemma bind {f : α → EStateM ε σ β} (hx : Maintains P x) (hf : ∀ a, Maintains P (f a)) :
    Maintains P (x >>= f) :=
  fun _ hs => finalState_bind_of_keeps (hx hs) fun a _ hs' => hf a hs'

/-- A sequence whose second part maintains `P` for what the first part returns. -/
lemma bind_of {f : α → EStateM ε σ β} (hx : Maintains P x)
    (hf : ∀ s a s', x.run s = .ok a s' → Maintains P (f a)) : Maintains P (x >>= f) := by
  intro s hs
  have hfinal := hx hs
  rw [finalState] at hfinal
  rw [finalState_bind]
  cases hrun : x.run s with
  | ok a s' =>
    rw [hrun] at hfinal
    exact hf s a s' hrun hfinal
  | error e s' =>
    rw [hrun] at hfinal
    exact hfinal

/-- A sequence whose second part keeps `P` from the states where the first part computes. -/
lemma ofExcept_bind {f : σ → Except ε α} {g : α → EStateM ε σ β}
    (hg : ∀ s a, P s → f s = .ok a → P ((g a).finalState s)) :
    Maintains P (EStateM.ofExcept f >>= g) := by
  intro s hs
  cases hf : f s with
  | ok a =>
    rw [finalState_ofExcept_bind_of_ok s hf]
    exact hg s a hs hf
  | error e => rwa [finalState_ofExcept_bind_of_error s hf]

/-- A loop maintains what every round maintains. -/
lemma each {f : α → EStateM ε σ Unit} {as : List α} (hf : ∀ a ∈ as, Maintains P (f a)) :
    Maintains P (each f as) := by
  induction as with
  | nil => exact pure ()
  | cons a as ih =>
    exact bind (hf a List.mem_cons_self) fun _ => ih fun b hb => hf b (List.mem_cons_of_mem a hb)

/-- A branch maintains what both sides maintain. -/
lemma ite {c : Prop} [Decidable c] {y : EStateM ε σ α} (hx : Maintains P x) (hy : Maintains P y) :
    Maintains P (if c then x else y) := by
  split
  · exact hx
  · exact hy

/-- **A method on a part** of the state: what it maintains of the part has to carry over to the
whole. -/
lemma zoom {Q : τ → Prop} {view : σ → τ} {update : τ → σ → σ} {y : EStateM ε τ α}
    (hview : ∀ s, P s → Q (view s)) (hupdate : ∀ t s, P s → Q t → P (update t s))
    (hy : Maintains Q y) : Maintains P (zoom view update y) := by
  intro s hs
  have hfinal := hy (hview s hs)
  rw [finalState] at hfinal
  rw [finalState, run_zoom]
  cases hrun : y.run (view s) with
  | ok a t =>
    rw [hrun] at hfinal
    exact hupdate t s hs hfinal
  | error e t =>
    rw [hrun] at hfinal
    exact hupdate t s hs hfinal

end Maintains

/-! ## Where methods stop -/

/-- One of some methods, run one after another, throws, and what it leaves has a property. -/
def Stops (P : σ → Prop) : List (EStateM ε σ Unit) → σ → Prop
  | [], _ => False
  | x :: xs, s =>
    match x.run s with
    | .ok _ s' => Stops P xs s'
    | .error _ s' => P s'

section Stops

variable {P : σ → Prop}

/-- Methods stop just if the loop over them throws and leaves such a state. -/
lemma stops_iff_each (xs : List (EStateM ε σ Unit)) (s : σ) :
    Stops P xs s ↔ ∃ e s', (each id xs).run s = .error e s' ∧ P s' := by
  induction xs generalizing s with
  | nil =>
    refine iff_of_false id ?_
    rintro ⟨e, s', h, -⟩
    cases h
  | cons x xs ih =>
    rw [Stops, run_each_cons, id]
    cases hx : x.run s with
    | ok u s' => exact ih s'
    | error e s' =>
      constructor
      · exact fun h => ⟨e, s', rfl, h⟩
      · rintro ⟨e', s'', h, hP⟩
        cases h
        exact hP

/-- **Methods stop**, a loop and what comes after it, just if the sequence of both throws and
leaves such a state. -/
theorem stops_iff (f : α → EStateM ε σ Unit) (as : List α) (xs : List (EStateM ε σ Unit)) (s : σ) :
    Stops P (as.map f ++ xs) s ↔
      ∃ e s', (each f as >>= fun _ => each id xs).run s = .error e s' ∧ P s' := by
  induction as generalizing s with
  | nil => exact stops_iff_each xs s
  | cons a as ih =>
    rw [List.map_cons, List.cons_append, Stops, run_bind, run_each_cons]
    cases ha : (f a).run s with
    | ok u s' =>
      have hs' := ih s'
      rwa [run_bind] at hs'
    | error e s' =>
      constructor
      · exact fun h => ⟨e, s', rfl, h⟩
      · rintro ⟨e', s'', h, hP⟩
        cases h
        exact hP

end Stops

end EStateM
