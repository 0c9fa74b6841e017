import SrgpGame.Lib.Transducer
import Mathlib.Order.Basic
import Mathlib.Algebra.Order.Group.Nat

set_option autoImplicit false

/-!
# Incremental parsers

An incremental parser is fed chunks of a stream. It keeps what it cannot parse yet, and with each
chunk it parses as much as there is. This file proves that it does not matter how the stream is cut
into chunks, if the stream consists of units each of which the parser recognises when it has all of
it, and not before.

## Main definitions

* `Progress` — what a parser does with what it has: wait, take a step, or stop until it is fed.
* `Incremental.drain`, `Incremental.feed` — parsing as much as there is, after a chunk.
* `Incremental.IsUnit`, `Incremental.Units` — a unit of a stream, and a stream of units.

## Main results

* `Incremental.Units.run_feed` — fed a stream of units in any chunks, the parser emits what the
  units stand for, and keeps nothing.
-/

variable {σ α ο ω : Type*}

/-- What a parser in a state does with the elements that it has. -/
inductive Progress (σ α ο : Type*) where
  /-- It needs more. -/
  | wait
  /-- It goes to another state with the rest, and emits something. -/
  | step (state : σ) (rest : List α) (out : List ο)
  /-- The same, but it does not go on before it is fed again. -/
  | stop (state : σ) (rest : List α) (out : List ο)

namespace Incremental

/-- Parses as much as there is, in at most `fuel` steps. -/
def drain (parse : σ → List α → Progress σ α ο) : ℕ → σ → List α → (σ × List α) × List ο
  | 0, s, buffer => ((s, buffer), [])
  | fuel + 1, s, buffer =>
    match parse s buffer with
    | .wait => ((s, buffer), [])
    | .step s' rest out =>
      ((drain parse fuel s' rest).1, out ++ (drain parse fuel s' rest).2)
    | .stop s' rest out => ((s', rest), out)

/-- Takes a chunk, and parses as much as there is. -/
def feed (parse : σ → List α → Progress σ α ο) (s : σ × List α) (chunk : List α) :
    (σ × List α) × List ο :=
  drain parse (s.2 ++ chunk).length s.1 (s.2 ++ chunk)

variable {parse : σ → List α → Progress σ α ο}

/-- More fuel than elements makes no difference, if every step takes some. -/
lemma drain_of_le (hnil : ∀ s, parse s [] = .wait)
    (hshrinks : ∀ s buffer s' rest out,
      parse s buffer = .step s' rest out → rest.length < buffer.length)
    {fuel : ℕ} {s : σ} {buffer : List α} (hfuel : buffer.length ≤ fuel) :
    drain parse fuel s buffer = drain parse buffer.length s buffer := by
  induction fuel using Nat.strongRecOn generalizing s buffer with
  | _ fuel ih =>
    cases fuel with
    | zero => rw [Nat.le_zero.mp hfuel]
    | succ fuel =>
      cases buffer with
      | nil =>
        rw [drain, hnil]
        rfl
      | cons a buffer =>
        rw [List.length_cons, drain, drain]
        cases hparse : parse s (a :: buffer) with
        | wait => rfl
        | stop s' rest out => rfl
        | step s' rest out =>
          have hrest := hshrinks s _ s' rest out hparse
          rw [List.length_cons] at hrest hfuel
          have hleft : drain parse fuel s' rest = drain parse rest.length s' rest :=
            ih fuel (Nat.lt_succ_self _) (by omega)
          have hright : drain parse buffer.length s' rest = drain parse rest.length s' rest :=
            ih buffer.length (by omega) (by omega)
          dsimp only
          rw [hleft, hright]

/-! ## Streams of units -/

section Units

variable (parse) (view : ο → List ω)

/-- **A unit**: in the state `s` the parser waits on what is less than the unit, and steps to `s'`
once it has all of it, whatever follows; what it emits is seen as `out`. -/
structure IsUnit (s s' : σ) (u : List α) (out : List ω) : Prop where
  ne_nil : u ≠ []
  waits : ∀ p, p <+: u → p ≠ u → parse s p = .wait
  steps : ∀ rest, ∃ os, parse s (u ++ rest) = .step s' rest os ∧ os.flatMap view = out

/-- A list of units, one after another. -/
inductive Units : σ → List (List α) → List ω → Prop
  | nil (s : σ) : Units s [] []
  | cons {s s' : σ} {u : List α} {us : List (List α)} {out outs : List ω}
      (head : IsUnit parse view s s' u out) (tail : Units s' us outs) :
      Units s (u :: us) (out ++ outs)

end Units

variable {view : ο → List ω}

/-- What is left is less than the next unit. -/
def Waiting (us : List (List α)) (buffer : List α) : Prop :=
  match us with
  | [] => buffer = []
  | u :: _ => buffer <+: u ∧ buffer ≠ u

/-- What a parser makes of the beginning of a stream of units: it emits what the units stand for
that it has, and keeps the beginning of the next one. -/
lemma Units.drain (hnil : ∀ s, parse s [] = .wait) {s : σ} {us : List (List α)} {outs : List ω}
    (h : Units parse view s us outs) {fuel : ℕ} {buffer tail : List α}
    (hfuel : buffer.length ≤ fuel) (hstream : buffer ++ tail = us.flatten) :
    ∃ us' outs₁ outs₂, outs = outs₁ ++ outs₂ ∧
      (Incremental.drain parse fuel s buffer).2.flatMap view = outs₁ ∧
      Units parse view (Incremental.drain parse fuel s buffer).1.1 us' outs₂ ∧
      (Incremental.drain parse fuel s buffer).1.2 ++ tail = us'.flatten ∧
      Waiting us' (Incremental.drain parse fuel s buffer).1.2 := by
  induction h generalizing fuel buffer with
  | nil s =>
    obtain ⟨rfl, rfl⟩ := List.append_eq_nil_iff.mp hstream
    have hdrain : Incremental.drain parse fuel s [] = ((s, []), []) := by
      cases fuel with
      | zero => rfl
      | succ fuel => rw [Incremental.drain, hnil]
    rw [hdrain]
    exact ⟨[], [], [], rfl, rfl, .nil s, rfl, rfl⟩
  | @cons s s' u us out outs head tail' ih =>
    rw [List.flatten_cons] at hstream
    by_cases hlt : buffer.length < u.length
    · -- the first unit is not complete
      have hbegins : buffer <+: u :=
        List.prefix_of_prefix_length_le ⟨tail, hstream⟩ ⟨us.flatten, rfl⟩ hlt.le
      have hne : buffer ≠ u := by
        rintro rfl
        exact lt_irrefl _ hlt
      have hdrain : Incremental.drain parse fuel s buffer = ((s, buffer), []) := by
        cases fuel with
        | zero => rfl
        | succ fuel => rw [Incremental.drain, head.waits buffer hbegins hne]
      rw [hdrain]
      exact ⟨u :: us, [], out ++ outs, rfl, rfl, .cons head tail', hstream, hbegins, hne⟩
    · obtain ⟨rest, rfl⟩ : u <+: buffer :=
        List.prefix_of_prefix_length_le ⟨us.flatten, rfl⟩ ⟨tail, hstream⟩ (not_lt.mp hlt)
      have hpos : 0 < u.length := List.length_pos_iff.mpr head.ne_nil
      rw [List.length_append] at hfuel
      obtain ⟨fuel, rfl⟩ : ∃ n, fuel = n + 1 := ⟨fuel - 1, by omega⟩
      rw [List.append_assoc, List.append_cancel_left_eq] at hstream
      obtain ⟨os, hstep, hview⟩ := head.steps rest
      obtain ⟨us', outs₁, outs₂, rfl, houts, hunits, hrest, hwait⟩ :=
        ih (show rest.length ≤ fuel by omega) hstream
      have hdrain : Incremental.drain parse (fuel + 1) s (u ++ rest) =
          ((Incremental.drain parse fuel s' rest).1,
            os ++ (Incremental.drain parse fuel s' rest).2) := by
        rw [Incremental.drain, hstep]
      rw [hdrain]
      refine ⟨us', out ++ outs₁, outs₂, (List.append_assoc _ _ _).symm, ?_, hunits, hrest, hwait⟩
      rw [List.flatMap_append, hview, houts]

/-- **It does not matter how a stream of units is cut.** Fed its chunks, the parser emits what the
units stand for, and keeps nothing.

**Proof sketch.** Induction on the chunks. Between two of them the parser keeps the beginning of
the next unit, and with the next chunk it emits what the units stand for that are complete. -/
theorem Units.run_feed (hnil : ∀ s, parse s [] = .wait) {s : σ} {us : List (List α)}
    {outs : List ω} (h : Units parse view s us outs) {chunks : List (List α)}
    (hstream : chunks.flatten = us.flatten) :
    (Transducer.run (feed parse) (s, []) chunks).2.flatMap view = outs ∧
      (Transducer.run (feed parse) (s, []) chunks).1.2 = [] := by
  suffices hgeneral : ∀ (s : σ) (buffer : List α) (us : List (List α)) (outs : List ω),
      Units parse view s us outs → Waiting us buffer → buffer ++ chunks.flatten = us.flatten →
        (Transducer.run (feed parse) (s, buffer) chunks).2.flatMap view = outs ∧
          (Transducer.run (feed parse) (s, buffer) chunks).1.2 = [] by
    refine hgeneral s [] us outs h ?_ hstream
    cases h with
    | nil => rfl
    | cons head tail => exact ⟨List.nil_prefix, head.ne_nil.symm⟩
  clear hstream h
  induction chunks with
  | nil =>
    intro s buffer us outs h hwait hstream
    rw [List.flatten_nil, List.append_nil] at hstream
    cases h with
    | nil => exact ⟨rfl, hstream⟩
    | cons head tail =>
      obtain ⟨hbegins, hne⟩ := hwait
      have hlength := congrArg List.length hstream
      rw [List.flatten_cons, List.length_append] at hlength
      exact absurd (hbegins.eq_of_length (le_antisymm hbegins.length_le (by omega))) hne
  | cons chunk chunks ih =>
    intro s buffer us outs h hwait hstream
    rw [List.flatten_cons, ← List.append_assoc] at hstream
    obtain ⟨us', outs₁, outs₂, rfl, houts, hunits, hrest, hwait'⟩ :=
      h.drain hnil le_rfl hstream
    obtain ⟨hviews, hend⟩ := ih _ _ us' outs₂ hunits hwait' hrest
    rw [Transducer.run_cons, List.flatMap_append]
    exact ⟨congrArg₂ _ houts hviews, hend⟩

end Incremental
