import Mathlib.Tactic.Common

set_option autoImplicit false

/-!
# Methods: state that survives an exception

A Java method changes the heap and returns or throws; what it changed before it threw stays
changed. `EStateM ε σ` without backtracking is this monad. This file has the inversion lemmas by
which a proof takes a method apart, and the rule for a loop over a list.

## Main definitions

* `EStateM.ofExcept` — a computation that reads the state and may throw, but writes nothing.
* `EStateM.each` — a method run for every element of a list, in order.
* `EStateM.zoom` — a method run on a part of the state.
* `EStateM.rounds` — how many rounds of a loop return.
* `EStateM.finalState` — the state after a method, whether it returned or threw.
* `EStateM.Keeps` — a method that leaves a part of the state as it is when it returns.
* `EStateM.OnlyThrows` — a method all of whose exceptions satisfy a predicate.
* `EStateM.Returns`, `EStateM.Throws` — how a method ends.
* `EStateM.Atomic` — a method that changes nothing when it throws.
* `EStateM.Follows` — a method does on a state what another does on the image of the state.

## Main results

* `EStateM.run_bind_eq_ok` — a sequence returns exactly when both parts do.
* `EStateM.run_each_cons_eq_ok` — the same for a loop.
* `EStateM.finalState_each` — the invariant rule for a loop that may throw.
* `EStateM.Keeps.bind` — a sequence keeps what both parts keep.
* `EStateM.returns_bind`, `EStateM.throws_bind` — how a sequence ends.
* `EStateM.Follows.bind` — a sequence follows a sequence, part by part.
-/

/-- A sequence of `Except` computations returns exactly when both parts do. -/
lemma Except.bind_eq_ok {ε α β : Type} {x : Except ε α} {f : α → Except ε β} {b : β} :
    x >>= f = .ok b ↔ ∃ a, x = .ok a ∧ f a = .ok b := by
  cases x with
  | ok a => simp [bind, Except.bind]
  | error e => simp [bind, Except.bind]

lemma Except.map_eq_ok {ε α β : Type} {x : Except ε α} {f : α → β} {b : β} :
    x.map f = .ok b ↔ ∃ a, x = .ok a ∧ f a = b := by
  cases x with
  | ok a => simp [Except.map]
  | error e => simp [Except.map]

/-- What a loop of `Except` computations throws, one of them throws. -/
lemma Except.of_foldlM_eq_error {ε α β : Type} {P : ε → Prop} {f : β → α → Except ε β}
    (hf : ∀ b a e, f b a = .error e → P e) {as : List α} {b : β} {e : ε}
    (h : as.foldlM f b = .error e) : P e := by
  induction as generalizing b with
  | nil => cases h
  | cons a as ih =>
    rw [List.foldlM_cons] at h
    cases hfirst : f b a with
    | error e' =>
      rw [hfirst] at h
      obtain rfl := Except.error.inj h
      exact hf b a _ hfirst
    | ok b' =>
      rw [hfirst] at h
      exact ih h

namespace EStateM

variable {ε σ α β : Type}

/-- A computation on the state that may throw and writes nothing. -/
def ofExcept (f : σ → Except ε α) : EStateM ε σ α := fun s =>
  match f s with
  | .ok a => .ok a s
  | .error e => .error e s

/-- Runs `f` for every element of a list, in order. -/
def each (f : α → EStateM ε σ Unit) : List α → EStateM ε σ Unit
  | [] => pure ()
  | a :: as => do
    f a
    each f as

/-- How many rounds of the loop `each f as` return before one of them throws. -/
def rounds (f : α → EStateM ε σ Unit) : List α → σ → ℕ
  | [], _ => 0
  | a :: as, s =>
    match (f a).run s with
    | .ok _ s' => rounds f as s' + 1
    | .error _ _ => 0

/-- A method on a part of the state. -/
def zoom {τ : Type} (view : σ → τ) (update : τ → σ → σ) (x : EStateM ε τ α) : EStateM ε σ α :=
  fun s =>
    match x (view s) with
    | .ok a t => .ok a (update t s)
    | .error e t => .error e (update t s)

/-- The state that a method leaves behind, whether it returned or threw. -/
def finalState (x : EStateM ε σ α) (s : σ) : σ :=
  match x.run s with
  | .ok _ s' => s'
  | .error _ s' => s'

lemma run_bind_eq_ok {x : EStateM ε σ α} {f : α → EStateM ε σ β} {s s'' : σ} {b : β} :
    (x >>= f).run s = .ok b s'' ↔ ∃ a s', x.run s = .ok a s' ∧ (f a).run s' = .ok b s'' := by
  rw [run_bind]
  cases x.run s with
  | ok a s' => simp
  | error e s' => simp

lemma run_ofExcept (f : σ → Except ε α) (s : σ) :
    (ofExcept f).run s =
      match f s with
      | .ok a => .ok a s
      | .error e => .error e s := rfl

lemma run_zoom {τ : Type} (view : σ → τ) (update : τ → σ → σ) (x : EStateM ε τ α) (s : σ) :
    (zoom view update x).run s =
      match x.run (view s) with
      | .ok a t => .ok a (update t s)
      | .error e t => .error e (update t s) := rfl

@[simp] lemma run_ofExcept_eq_ok {f : σ → Except ε α} {s s' : σ} {a : α} :
    (ofExcept f).run s = .ok a s' ↔ f s = .ok a ∧ s' = s := by
  rw [run_ofExcept]
  cases f s with
  | ok b => simp [eq_comm]
  | error e => simp

@[simp] lemma run_each_nil (f : α → EStateM ε σ Unit) (s : σ) :
    (each f []).run s = .ok () s := rfl

lemma run_each_cons (f : α → EStateM ε σ Unit) (a : α) (as : List α) (s : σ) :
    (each f (a :: as)).run s =
      match (f a).run s with
      | .ok _ s' => (each f as).run s'
      | .error e s' => .error e s' := by
  rw [each, run_bind]
  cases (f a).run s <;> rfl

lemma run_each_cons_eq_ok {f : α → EStateM ε σ Unit} {a : α} {as : List α} {s s'' : σ} :
    (each f (a :: as)).run s = .ok () s'' ↔
      ∃ s', (f a).run s = .ok () s' ∧ (each f as).run s' = .ok () s'' := by
  rw [run_each_cons]
  cases (f a).run s with
  | ok u s' => simp
  | error e s' => simp

/-- A loop whose body only reads returns exactly when every round does, and changes nothing. -/
lemma run_each_ofExcept_eq_ok {g : α → σ → Except ε Unit} {as : List α} {s s' : σ} :
    (each (fun a => ofExcept (g a)) as).run s = .ok () s' ↔
      (∀ a ∈ as, g a s = .ok ()) ∧ s' = s := by
  induction as with
  | nil => simp [eq_comm]
  | cons a as ih =>
    rw [run_each_cons_eq_ok]
    constructor
    · rintro ⟨s₁, hhead, htail⟩
      obtain ⟨hg, rfl⟩ := run_ofExcept_eq_ok.mp hhead
      obtain ⟨has, rfl⟩ := ih.mp htail
      exact ⟨List.forall_mem_cons.mpr ⟨hg, has⟩, rfl⟩
    · rintro ⟨hall, rfl⟩
      obtain ⟨hg, has⟩ := List.forall_mem_cons.mp hall
      exact ⟨s', run_ofExcept_eq_ok.mpr ⟨hg, rfl⟩, ih.mpr ⟨has, rfl⟩⟩

/-! ## Final states -/

lemma finalState_eq_of_ok {x : EStateM ε σ α} {s s' : σ} {a : α} (h : x.run s = .ok a s') :
    x.finalState s = s' := by
  rw [finalState, h]

lemma finalState_eq_of_error {x : EStateM ε σ α} {s s' : σ} {e : ε} (h : x.run s = .error e s') :
    x.finalState s = s' := by
  rw [finalState, h]

/-- A method ends where its second part ends, or where its first part threw. -/
lemma finalState_bind (x : EStateM ε σ α) (f : α → EStateM ε σ β) (s : σ) :
    (x >>= f).finalState s =
      match x.run s with
      | .ok a s' => (f a).finalState s'
      | .error _ s' => s' := by
  rw [finalState, run_bind]
  cases x.run s with
  | ok a s' => rfl
  | error e s' => rfl

@[simp] lemma finalState_pure (a : α) (s : σ) : (pure a : EStateM ε σ α).finalState s = s := rfl

@[simp] lemma finalState_throw (e : ε) (s : σ) :
    (throw e : EStateM ε σ α).finalState s = s := rfl

@[simp] lemma finalState_modify (f : σ → σ) (s : σ) :
    (modify f : EStateM ε σ PUnit).finalState s = f s := rfl

@[simp] lemma finalState_ofExcept (f : σ → Except ε α) (s : σ) : (ofExcept f).finalState s = s := by
  rw [finalState, run_ofExcept]
  cases f s <;> rfl

lemma finalState_get_bind (f : σ → EStateM ε σ β) (s : σ) :
    (get >>= f).finalState s = (f s).finalState s := rfl

lemma finalState_modify_bind (f : σ → σ) (g : PUnit → EStateM ε σ β) (s : σ) :
    (modify f >>= g).finalState s = (g ⟨⟩).finalState (f s) := rfl

/-- After a check a method ends where it ends without, or where it began. -/
lemma finalState_ofExcept_bind (f : σ → Except ε α) (g : α → EStateM ε σ β) (s : σ) :
    (ofExcept f >>= g).finalState s =
      match f s with
      | .ok a => (g a).finalState s
      | .error _ => s := by
  rw [finalState_bind, run_ofExcept]
  cases f s <;> rfl

lemma finalState_ofExcept_bind_of_ok {f : σ → Except ε α} (s : σ) {a : α} (h : f s = .ok a)
    (g : α → EStateM ε σ β) : (ofExcept f >>= g).finalState s = (g a).finalState s := by
  rw [finalState_ofExcept_bind, h]

lemma finalState_ofExcept_bind_of_error {f : σ → Except ε α} (s : σ) {e : ε}
    (h : f s = .error e) (g : α → EStateM ε σ β) : (ofExcept f >>= g).finalState s = s := by
  rw [finalState_ofExcept_bind, h]

lemma finalState_bind_of_ok {x : EStateM ε σ α} {s s' : σ} {a : α} (h : x.run s = .ok a s')
    (f : α → EStateM ε σ β) : (x >>= f).finalState s = (f a).finalState s' := by
  rw [finalState_bind, h]

lemma finalState_bind_of_error {x : EStateM ε σ α} {s s' : σ} {e : ε} (h : x.run s = .error e s')
    (f : α → EStateM ε σ β) : (x >>= f).finalState s = s' := by
  rw [finalState_bind, h]

/-- A check at the end changes nothing. -/
lemma finalState_bind_ofExcept (x : EStateM ε σ α) (f : σ → Except ε β) (s : σ) :
    (x >>= fun _ => ofExcept f).finalState s = x.finalState s := by
  rw [finalState_bind, finalState]
  cases x.run s with
  | ok a s' => exact finalState_ofExcept f s'
  | error e s' => rfl

/-- A sequence leaves what its first part leaves, if its second part leaves it as it is. -/
lemma finalState_bind_eq_of_leaves {τ : Type} {part : σ → τ} (x : EStateM ε σ α)
    {f : α → EStateM ε σ β} (hf : ∀ a s, part ((f a).finalState s) = part s) (s : σ) :
    part ((x >>= f).finalState s) = part (x.finalState s) := by
  rw [finalState_bind, finalState]
  cases x.run s with
  | ok a s' => exact hf a s'
  | error e s' => rfl

/-- What both parts of a sequence leave, whether they return or throw, the sequence leaves. -/
lemma finalState_bind_of_leaves {τ : Type} {part : σ → τ} {x : EStateM ε σ α}
    {f : α → EStateM ε σ β} (hx : ∀ s, part (x.finalState s) = part s)
    (hf : ∀ a s, part ((f a).finalState s) = part s) (s : σ) :
    part ((x >>= f).finalState s) = part s :=
  (finalState_bind_eq_of_leaves x hf s).trans (hx s)

/-- **Sequence rule** for what both parts keep, however they end. -/
lemma finalState_bind_of_keeps {P : σ → Prop} {x : EStateM ε σ α} {f : α → EStateM ε σ β} {s : σ}
    (hx : P (x.finalState s)) (hf : ∀ a s, P s → P ((f a).finalState s)) :
    P ((x >>= f).finalState s) := by
  rw [finalState] at hx
  rw [finalState_bind]
  cases hrun : x.run s with
  | ok a s' =>
    rw [hrun] at hx
    exact hf a s' hx
  | error e s' =>
    rw [hrun] at hx
    exact hx

/-- **The rule for loops.** `I` relates the elements that are left to the state. If every round
that returns keeps it, and every round that throws ends well, then the loop ends well. -/
lemma finalState_each (I : List α → σ → Prop) {E : σ → Prop} {f : α → EStateM ε σ Unit}
    (hround : ∀ a as s, I (a :: as) s →
      match (f a).run s with
      | .ok _ s' => I as s'
      | .error _ s' => E s')
    (hend : ∀ s, I [] s → E s) {as : List α} {s : σ} (h : I as s) :
    E ((each f as).finalState s) := by
  induction as generalizing s with
  | nil => exact hend s h
  | cons a as ih =>
    have hround' := hround a as s h
    rw [each, finalState_bind]
    cases hrun : (f a).run s with
    | ok u s' =>
      rw [hrun] at hround'
      exact ih hround'
    | error e s' =>
      rw [hrun] at hround'
      exact hround'

/-- **Loop rule** for what every round keeps, however it ends. -/
lemma finalState_each_of_keeps {P : σ → Prop} {f : α → EStateM ε σ Unit}
    (hround : ∀ a s, P s → P ((f a).finalState s)) {as : List α} {s : σ} (h : P s) :
    P ((each f as).finalState s) := by
  refine finalState_each (fun _ => P) (fun a as s h => ?_) (fun _ => id) h
  have hround' := hround a s h
  rw [finalState] at hround'
  cases hrun : (f a).run s with
  | ok u s' => rwa [hrun] at hround'
  | error e s' => rwa [hrun] at hround'

/-! ## Frames -/

/-- A method that leaves the part `part` of the state as it is whenever it returns. -/
def Keeps {τ : Type} (part : σ → τ) (x : EStateM ε σ α) : Prop :=
  ∀ ⦃s a s'⦄, x.run s = .ok a s' → part s' = part s

namespace Keeps

variable {τ : Type} {part : σ → τ}

lemma pure (a : α) : Keeps part (pure a : EStateM ε σ α) := by
  rintro s b s' h
  cases h
  rfl

lemma get : Keeps part (get : EStateM ε σ σ) := by
  rintro s b s' h
  cases h
  rfl

lemma throw (e : ε) : Keeps part (throw e : EStateM ε σ α) := by
  intro s a s' h
  cases h

lemma modify {f : σ → σ} (hf : ∀ s, part (f s) = part s) :
    Keeps part (modify f : EStateM ε σ Unit) := by
  rintro s b s' h
  cases h
  exact hf s

/-- **A sequence** keeps what both parts keep. -/
lemma bind {x : EStateM ε σ α} {f : α → EStateM ε σ β} (hx : Keeps part x)
    (hf : ∀ a, Keeps part (f a)) : Keeps part (x >>= f) := by
  intro s b s'' h
  obtain ⟨a, s', hfirst, hrest⟩ := run_bind_eq_ok.mp h
  exact (hf a hrest).trans (hx hfirst)

/-- A loop keeps what every round keeps. -/
lemma each {f : α → EStateM ε σ Unit} (hf : ∀ a, Keeps part (f a)) (as : List α) :
    Keeps part (each f as) := by
  induction as with
  | nil => exact pure ()
  | cons a as ih => exact bind (hf a) fun _ => ih

/-- A branch keeps what both sides keep. -/
lemma ite {c : Prop} [Decidable c] {x y : EStateM ε σ α} (hx : Keeps part x)
    (hy : Keeps part y) : Keeps part (if c then x else y) := by
  split
  · exact hx
  · exact hy

end Keeps

/-! ## Exceptions -/

/-- A method all of whose exceptions satisfy `P`. -/
def OnlyThrows (P : ε → Prop) (x : EStateM ε σ α) : Prop :=
  ∀ ⦃s e s'⦄, x.run s = .error e s' → P e

namespace OnlyThrows

variable {P : ε → Prop}

lemma pure (a : α) : OnlyThrows P (pure a : EStateM ε σ α) := by
  intro s e s' h
  cases h

lemma get : OnlyThrows P (get : EStateM ε σ σ) := by
  intro s e s' h
  cases h

lemma modify (f : σ → σ) : OnlyThrows P (modify f : EStateM ε σ PUnit) := by
  intro s e s' h
  cases h

lemma throw {e : ε} (he : P e) : OnlyThrows P (throw e : EStateM ε σ α) := by
  intro s e' s' h
  cases h
  exact he

/-- **A sequence** throws what its parts throw. -/
lemma bind {x : EStateM ε σ α} {f : α → EStateM ε σ β} (hx : OnlyThrows P x)
    (hf : ∀ a, OnlyThrows P (f a)) : OnlyThrows P (x >>= f) := by
  intro s e s'' h
  rw [run_bind] at h
  cases hrun : x.run s with
  | ok a s' =>
    rw [hrun] at h
    exact hf a h
  | error e' s' =>
    rw [hrun] at h
    cases h
    exact hx hrun

lemma ite {c : Prop} [Decidable c] {x y : EStateM ε σ α} (hx : OnlyThrows P x)
    (hy : OnlyThrows P y) : OnlyThrows P (if c then x else y) := by
  split
  · exact hx
  · exact hy

lemma ofExcept {f : σ → Except ε α} (hf : ∀ s e, f s = .error e → P e) :
    OnlyThrows P (ofExcept f) := by
  intro s e s' h
  rw [run_ofExcept] at h
  cases hs : f s with
  | ok a =>
    rw [hs] at h
    cases h
  | error e' =>
    rw [hs] at h
    cases h
    exact hf s e hs

lemma zoom {τ : Type} {x : EStateM ε τ α} (hx : OnlyThrows P x) (view : σ → τ)
    (update : τ → σ → σ) : OnlyThrows P (zoom view update x) := by
  intro s e s' h
  rw [run_zoom] at h
  cases hrun : x.run (view s) with
  | ok a t =>
    rw [hrun] at h
    cases h
  | error e' t =>
    rw [hrun] at h
    cases h
    exact hx hrun

end OnlyThrows

/-! ## How a method ends -/

/-- From `s` the method returns. -/
def Returns (x : EStateM ε σ α) (s : σ) : Prop := ∃ a s', x.run s = .ok a s'

/-- From `s` the method throws an exception that satisfies `P`. -/
def Throws (P : ε → Prop) (x : EStateM ε σ α) (s : σ) : Prop := ∃ e s', x.run s = .error e s' ∧ P e

section Ends

variable {P : ε → Prop} {s : σ}

@[simp] lemma returns_pure (a : α) : Returns (pure a : EStateM ε σ α) s := ⟨a, s, rfl⟩

@[simp] lemma not_throws_pure (a : α) : ¬Throws P (pure a : EStateM ε σ α) s := by
  rintro ⟨e, s', h, -⟩
  cases h

/-- Where all exceptions are of another kind. -/
lemma OnlyThrows.not_throws {Q : ε → Prop} {x : EStateM ε σ α} (hx : OnlyThrows Q x)
    (h : ∀ e, Q e → ¬P e) : ¬Throws P x s := by
  rintro ⟨e, s', hrun, he⟩
  exact h e (hx hrun) he

lemma throws_ofExcept {f : σ → Except ε α} :
    Throws P (ofExcept f) s ↔ ∃ e, f s = .error e ∧ P e := by
  rw [Throws, run_ofExcept]
  cases f s with
  | ok a => simp
  | error e => simp

lemma returns_zoom {τ : Type} {view : σ → τ} {update : τ → σ → σ} {x : EStateM ε τ α} :
    Returns (zoom view update x) s ↔ Returns x (view s) := by
  rw [Returns, Returns, run_zoom]
  cases x.run (view s) with
  | ok a t => simp
  | error e t => simp

lemma throws_zoom {τ : Type} {view : σ → τ} {update : τ → σ → σ} {x : EStateM ε τ α} :
    Throws P (zoom view update x) s ↔ Throws P x (view s) := by
  rw [Throws, Throws, run_zoom]
  cases x.run (view s) with
  | ok a t => simp
  | error e t => simp

/-- **A sequence returns** if both parts do. -/
lemma returns_bind {x : EStateM ε σ α} {f : α → EStateM ε σ β} :
    Returns (x >>= f) s ↔ ∃ a s', x.run s = .ok a s' ∧ Returns (f a) s' := by
  rw [Returns, run_bind]
  cases x.run s with
  | ok a t => simp [Returns]
  | error e t => simp

/-- **A sequence throws** in its first part or in its second. -/
lemma throws_bind {x : EStateM ε σ α} {f : α → EStateM ε σ β} :
    Throws P (x >>= f) s ↔ Throws P x s ∨ ∃ a s', x.run s = .ok a s' ∧ Throws P (f a) s' := by
  rw [Throws, Throws, run_bind]
  cases x.run s with
  | ok a t => simp [Throws]
  | error e t => simp

lemma returns_get_bind {f : σ → EStateM ε σ β} :
    Returns (get >>= f) s ↔ Returns (f s) s := Iff.rfl

lemma throws_get_bind {f : σ → EStateM ε σ β} :
    Throws P (get >>= f) s ↔ Throws P (f s) s := Iff.rfl

lemma returns_modify_bind {f : σ → σ} {g : PUnit → EStateM ε σ β} :
    Returns (modify f >>= g) s ↔ Returns (g ⟨⟩) (f s) := Iff.rfl

lemma returns_ofExcept_bind {f : σ → Except ε α} {g : α → EStateM ε σ β} :
    Returns (ofExcept f >>= g) s ↔ ∃ a, f s = .ok a ∧ Returns (g a) s := by
  rw [returns_bind, run_ofExcept]
  cases f s with
  | ok a => simp
  | error e => simp

lemma throws_ofExcept_bind {f : σ → Except ε α} {g : α → EStateM ε σ β} :
    Throws P (ofExcept f >>= g) s ↔
      (∃ e, f s = .error e ∧ P e) ∨ ∃ a, f s = .ok a ∧ Throws P (g a) s := by
  rw [throws_bind, throws_ofExcept, run_ofExcept]
  cases f s with
  | ok a => simp
  | error e => simp

/-- A check in front that passes. -/
lemma returns_ofExcept_bind_of_ok {f : σ → Except ε α} {g : α → EStateM ε σ β} {a : α}
    (h : f s = .ok a) : Returns (ofExcept f >>= g) s ↔ Returns (g a) s := by
  rw [returns_bind, run_ofExcept, h]
  simp

lemma throws_ofExcept_bind_of_ok {f : σ → Except ε α} {g : α → EStateM ε σ β} {a : α}
    (h : f s = .ok a) : Throws P (ofExcept f >>= g) s ↔ Throws P (g a) s := by
  rw [throws_bind, throws_ofExcept, run_ofExcept, h]
  simp

/-- A check in front that does not pass. -/
lemma not_returns_ofExcept_bind {f : σ → Except ε α} {g : α → EStateM ε σ β} {e : ε}
    (h : f s = .error e) : ¬Returns (ofExcept f >>= g) s := by
  rw [returns_bind, run_ofExcept, h]
  simp

lemma throws_ofExcept_bind_of_error {f : σ → Except ε α} {g : α → EStateM ε σ β} {e : ε}
    (h : f s = .error e) : Throws P (ofExcept f >>= g) s ↔ P e := by
  rw [throws_bind, throws_ofExcept, run_ofExcept, h]
  simp

end Ends

/-! ## All or nothing -/

/-- **All or nothing**: from `s` the method throws an exception that satisfies `E` and changes
nothing, or it ends in a state that satisfies `Q`. -/
def Atomic (E : ε → Prop) (Q : σ → Prop) (x : EStateM ε σ α) (s : σ) : Prop :=
  match x.run s with
  | .ok _ s' => Q s'
  | .error e s' => E e ∧ s' = s

namespace Atomic

variable {E : ε → Prop} {Q : σ → Prop} {s : σ}

lemma of_run_eq_ok {x : EStateM ε σ α} {a : α} {s' : σ} (h : x.run s = .ok a s') (hQ : Q s') :
    Atomic E Q x s := by
  unfold Atomic
  rw [h]
  exact hQ

/-- A check in front. -/
lemma ofExcept_bind {f : σ → Except ε α} {g : α → EStateM ε σ β}
    (herror : ∀ e, f s = .error e → E e) (hok : ∀ a, f s = .ok a → Atomic E Q (g a) s) :
    Atomic E Q (ofExcept f >>= g) s := by
  unfold Atomic
  rw [run_bind, run_ofExcept]
  cases h : f s with
  | ok a => exact hok a h
  | error e => exact ⟨herror e h, rfl⟩

/-- What holds of the state after the method, if it held before. -/
lemma finalState {x : EStateM ε σ α} (h : Atomic E Q x s) (hs : Q s) : Q (x.finalState s) := by
  unfold Atomic at h
  unfold EStateM.finalState
  cases hrun : x.run s with
  | ok a s' =>
    rw [hrun] at h
    exact h
  | error e s' =>
    rw [hrun] at h
    obtain ⟨-, rfl⟩ := h
    exact hs

/-- What is known of an exception. -/
lemma of_run_eq_error {x : EStateM ε σ α} {e : ε} {s' : σ} (h : Atomic E Q x s)
    (hrun : x.run s = .error e s') : E e ∧ s' = s := by
  unfold Atomic at h
  rw [hrun] at h
  exact h

end Atomic

/-! ## One method on the image of another's state -/

/-- From `s` the method `x` does what `y` does on the image of the state under `abs`: both throw the
same, or both return, `y` the image under `val`; and they end in corresponding states. -/
def Follows {τ α' : Type} (abs : σ → τ) (val : α → α') (x : EStateM ε σ α) (y : EStateM ε τ α')
    (s : σ) : Prop :=
  y.run (abs s) =
    match x.run s with
    | .ok a s' => .ok (val a) (abs s')
    | .error e s' => .error e (abs s')

namespace Follows

variable {τ α' β' : Type} {abs : σ → τ} {val : α → α'} {s : σ}

lemma pure (a : α) : Follows abs val (pure a) (pure (val a) : EStateM ε τ α') s := rfl

lemma throw (e : ε) : Follows abs val (throw e) (throw e : EStateM ε τ α') s := rfl

/-- A change that the image does not show. -/
lemma modify_bind {f : σ → σ} {x : PUnit → EStateM ε σ α} {y : EStateM ε τ α'}
    (hf : abs (f s) = abs s) (h : Follows abs val (x ⟨⟩) y (f s)) :
    Follows abs val (modify f >>= x) y s := by
  unfold Follows at h ⊢
  rw [hf] at h
  exact h

lemma modify {f : σ → σ} {g : τ → τ} (h : abs (f s) = g (abs s)) :
    Follows abs id (modify f) (modify g : EStateM ε τ PUnit) s :=
  congrArg (Result.ok PUnit.unit) h.symm

/-- What is read follows if the rest does, from what is read. -/
lemma get {f : σ → EStateM ε σ α} {g : τ → EStateM ε τ α'}
    (h : Follows abs val (f s) (g (abs s)) s) : Follows abs val (get >>= f) (get >>= g) s := h

/-- **A sequence** follows part by part. -/
lemma bind {x : EStateM ε σ α} {y : EStateM ε τ α'} {f : α → EStateM ε σ β}
    {g : α' → EStateM ε τ β'} {val' : β → β'} (hxy : Follows abs val x y s)
    (hfg : ∀ a s', x.run s = .ok a s' → Follows abs val' (f a) (g (val a)) s') :
    Follows abs val' (x >>= f) (y >>= g) s := by
  unfold Follows at hxy ⊢
  rw [run_bind, run_bind, hxy]
  cases hx : x.run s with
  | ok a s' => exact hfg a s' hx
  | error e s' => rfl

/-- A method on the image is followed by itself. -/
lemma zoom {update : τ → σ → σ} (hupdate : ∀ t s, abs (update t s) = t) (y : EStateM ε τ α) :
    Follows abs id (EStateM.zoom abs update y) y s := by
  unfold Follows
  rw [run_zoom]
  cases y.run (abs s) with
  | ok a t =>
    show Result.ok a t = Result.ok a (abs (update t s))
    rw [hupdate]
  | error e t =>
    show Result.error e t = Result.error e (abs (update t s))
    rw [hupdate]

/-- Loops follow each other round by round. -/
lemma each {β : Type} {f : β → EStateM ε σ Unit} {g : β → EStateM ε τ Unit}
    (h : ∀ b s, Follows abs id (f b) (g b) s) (bs : List β) :
    Follows abs id (EStateM.each f bs) (EStateM.each g bs) s := by
  induction bs generalizing s with
  | nil => exact pure ()
  | cons b bs ih => exact bind (h b s) fun _ _ _ => ih

/-- The final states correspond. -/
lemma finalState_eq {x : EStateM ε σ α} {y : EStateM ε τ α'} (h : Follows abs val x y s) :
    y.finalState (abs s) = abs (x.finalState s) := by
  unfold Follows at h
  rw [finalState, finalState, h]
  cases x.run s <;> rfl

end Follows

end EStateM
