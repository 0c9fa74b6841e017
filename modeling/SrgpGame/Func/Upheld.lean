import SrgpGame.Func.BaseFuncsExecutor
import SrgpGame.Lib.Maintained

set_option autoImplicit false

/-!
# What executors uphold

An executor comes only to the functions of its lists. What it does to the player itself concerns
the counters of guaranteed drops and the random numbers; the rest is done by the methods of the
functions. So a property of the rest that these methods maintain is maintained by the executor.

## Main definitions

* `Holds` — a property of all functions in the lists, and one of the player.
* `Upholds` — what a function checks and records maintains a property of the player.
* `BaseFuncsExecutor.selected` — the functions that an executor has selected.

## Main results

* `maintains_checks`, `maintains_exec` — what `exec` maintains, up to the run phase and with it.
* `fields_of_checks` — what the checks leave of the executor.
* `follows_runSelectedFuncs` — the run phase executes the selected functions, one after another.
-/

namespace SrgpGame.BaseExecutor

open EStateM (Maintains Follows)
open Func (FixedExecConfig)
open FixedDrop (PlayerVO)

variable {σ ρ κ α β : Type}

/-- **What holds** of all functions in the lists, and of the player. -/
structure Holds (F : AbstractFunc σ ρ → Prop) (P : σ → Prop) (s : ExecState σ ρ) : Prop where
  funcs : ∀ ref, ∀ func ∈ s.lists.data ref, F func
  others : P s.player.others

/-- A method on the player maintains a property of everything but the counters of guaranteed drops
and the random numbers. -/
def MaintainsOthers (P : σ → Prop) (x : EStateM Thrown (PlayerVO σ) α) : Prop :=
  Maintains (fun player => P player.others) x

/-- What a function checks and records maintains a property of the player. -/
structure Upholds (P : σ → Prop) (func : AbstractFunc σ ρ) : Prop where
  depot : ∀ checker, func.depotCapacityChecker = some checker → MaintainsOthers P checker
  param : ∀ checker, func.paramChecker = some checker → MaintainsOthers P checker
  record : MaintainsOthers P func.record

variable {F : AbstractFunc σ ρ → Prop} {P : σ → Prop}

/-! ## The lists -/

lemma maintains_onPlayer {x : EStateM Thrown (PlayerVO σ) α} (hx : MaintainsOthers P x) :
    Maintains (Holds F P) (onPlayer x : Exec σ ρ α) :=
  .zoom (fun _ hs => hs.others) (fun _ _ hs hplayer => ⟨hs.funcs, hplayer⟩) hx

lemma maintains_called (event : Event σ ρ) : Maintains (Holds F P) (called event) :=
  .modify fun _ hs => ⟨hs.funcs, hs.others⟩

lemma maintains_createList : Maintains (Holds F P) (createList : Exec σ ρ ℕ) := by
  intro s hs
  refine ⟨fun ref func hfunc => ?_, hs.others⟩
  replace hfunc : func ∈ s.lists.alloc.data ref := hfunc
  by_cases href : ref = s.lists.size
  · rw [href, Lists.alloc_data_self] at hfunc
    cases hfunc
  · have hdata : s.lists.alloc.data ref = s.lists.data ref := Function.update_of_ne href ..
    rw [hdata] at hfunc
    exact hs.funcs ref func hfunc

/-- Putting functions into a list. -/
lemma Holds.set {s : ExecState σ ρ} (hs : Holds F P s) (ref : ℕ) {funcs : List (AbstractFunc σ ρ)}
    (hfuncs : ∀ func ∈ funcs, F func) : Holds F P { s with lists := s.lists.set ref funcs } := by
  refine ⟨fun ref' func hfunc => ?_, hs.others⟩
  replace hfunc : func ∈ (s.lists.set ref funcs).data ref' := hfunc
  by_cases href : ref' = ref
  · rw [href, Lists.set_data_self] at hfunc
    exact hfuncs func hfunc
  · rw [Lists.set_data_of_ne _ _ href] at hfunc
    exact hs.funcs ref' func hfunc

lemma maintains_addAll (ref : ℕ) {funcs : List (AbstractFunc σ ρ)}
    (hfuncs : ∀ func ∈ funcs, F func) : Maintains (Holds F P) (addAll ref funcs) := by
  refine .modify fun s hs => hs.set ref fun func hfunc => ?_
  rcases List.mem_append.mp hfunc with hold | hnew
  · exact hs.funcs ref func hold
  · exact hfuncs func hnew

lemma maintains_add (ref : ℕ) {func : AbstractFunc σ ρ} (hfunc : F func) :
    Maintains (Holds F P) (add ref func) := by
  refine maintains_addAll ref fun func' hmem => ?_
  rwa [List.mem_singleton.mp hmem]

lemma maintains_clear (ref : ℕ) : Maintains (Holds F P) (clear ref : Exec σ ρ Unit) :=
  .modify fun _ hs => hs.set ref fun _ hfunc => nomatch hfunc

/-- What is read from a list are functions with the property. -/
lemma maintains_elements_bind (ref : ℕ) {f : List (AbstractFunc σ ρ) → Exec σ ρ α}
    (hf : ∀ funcs, (∀ func ∈ funcs, F func) → Maintains (Holds F P) (f funcs)) :
    Maintains (Holds F P) (elements ref >>= f) :=
  fun s hs => hf (s.lists.data ref) (hs.funcs ref) hs

variable (executor : BaseFuncsExecutor σ ρ κ)

lemma maintains_acceptFunc {func : AbstractFunc σ ρ} (hfunc : F func) :
    Maintains (Holds F P) (executor.acceptFunc func) :=
  .bind (maintains_add _ hfunc) fun _ => maintains_add _ hfunc

lemma maintains_getExecutor (cmd : Option Int32) :
    Maintains (Holds F P) (getExecutor cmd : Exec σ ρ (BaseFuncsExecutor σ ρ κ)) := by
  refine .bind ?_ fun _ => .pure _
  exact .bind maintains_createList fun _ => .bind maintains_createList fun _ => .pure _

/-! ## The selection -/

variable (cfgs : Int32 → Option FixedExecConfig)

/-- The counters of guaranteed drops are no part of what is maintained. -/
lemma maintainsOthers_onDrops (x : EStateM Thrown (Func.FixedDropVO × Func.Rng) α) :
    MaintainsOthers P (FixedDrop.onDrops x) := by
  intro player hplayer
  rw [EStateM.finalState, FixedDrop.run_onDrops]
  cases x.run (player.fixedDropVO, player.rng) with
  | ok a s => exact hplayer
  | error e s => exact hplayer

lemma maintains_fix (funcs : ℕ) : Maintains (Holds F P) (fix cfgs funcs : Exec σ ρ ℕ) := by
  refine .bind maintains_createList fun ret => maintains_elements_bind funcs fun funcs hfuncs => ?_
  refine .bind (.each fun func hfunc => ?_) fun _ => .pure _
  refine .bind (maintains_onPlayer (maintainsOthers_onDrops _)) fun selected => ?_
  exact .ite (maintains_add ret (hfuncs func hfunc)) (.pure ())

lemma maintains_select : Maintains (Holds F P) (executor.select cfgs) := by
  refine .ite (.bind (maintains_fix cfgs _) fun select => .bind ?_ fun _ => .pure _) (.ofExcept _)
  unfold BaseFuncsExecutor.addSelectFunc
  split
  · exact .bind (maintains_clear _) fun _ => .pure _
  · refine maintains_elements_bind select fun funcs hfuncs => ?_
    exact .bind (maintains_addAll _ hfuncs) fun _ => .bind (maintains_clear _) fun _ => .pure _

/-! ## The checks -/

section Checks

variable {cfgs} [DecidableEq κ] {recs : CheckRec σ ρ κ}

/-- Checks of functions, one after another. -/
lemma maintains_each_checker {funcs : List (AbstractFunc σ ρ)}
    {getChecker : AbstractFunc σ ρ → Option (EStateM Thrown (PlayerVO σ) Unit)}
    (h : ∀ func ∈ funcs, ∀ checker, getChecker func = some checker → MaintainsOthers P checker) :
    Maintains (Holds F P) (EStateM.each (fun func =>
      match getChecker func with
      | none => pure ()
      | some checker => (onPlayer checker : Exec σ ρ Unit)) funcs) := by
  refine .each fun func hfunc => ?_
  cases hchecker : getChecker func with
  | none => exact .pure ()
  | some checker => exact maintains_onPlayer (h func hfunc checker hchecker)

lemma maintains_recordAll {funcs : List (AbstractFunc σ ρ)}
    (h : ∀ func ∈ funcs, Upholds P func) (checkRec : AList fun _ : κ => ρ) :
    Maintains (Holds F P) (recordAll recs funcs checkRec) := by
  induction funcs generalizing checkRec with
  | nil => exact .pure _
  | cons func funcs ih =>
    have hfunc := h func List.mem_cons_self
    refine .bind (maintains_onPlayer hfunc.record) fun _ => .bind (maintains_called _) fun _ => ?_
    exact ih (fun func' hfunc' => h func' (List.mem_cons_of_mem func hfunc')) _

variable (hF : ∀ func, F func → Upholds P func)
  (hcheck : ∀ rec, MaintainsOthers P (recs.check rec))

include hF in
lemma maintains_checkAndRec (checkRec : AList fun _ : κ => ρ) (selectedFuncs : ℕ) :
    Maintains (Holds F P) (checkAndRec recs checkRec selectedFuncs) := by
  refine maintains_elements_bind selectedFuncs fun funcs hfuncs => .ite (.pure _) ?_
  refine .bind ?_ fun _ => maintains_recordAll (fun func hfunc => hF func (hfuncs func hfunc)) _
  exact maintains_each_checker fun func hfunc => (hF func (hfuncs func hfunc)).param

include hF hcheck in
/-- **A selection with its checks** maintains what the checks do. -/
lemma maintains_selectAndCheck :
    Maintains (Holds F P) (executor.selectAndCheck cfgs recs) := by
  refine .bind (maintains_select executor cfgs) fun r => ?_
  refine .bind (maintains_checkAndRec hF _ _) fun checkRec => .bind ?_ fun _ => .pure _
  exact .each fun rec _ => maintains_onPlayer (hcheck rec)

include hF hcheck in
/-- **The checks of `exec`** maintain what the checks of the functions do. -/
theorem maintains_checks (checkDepot : Bool) :
    Maintains (Holds F P) (executor.checks cfgs recs checkDepot) := by
  have hselect : Maintains (Holds F P) (executor.selectAndCheck cfgs recs) :=
    maintains_selectAndCheck executor hF hcheck
  refine .ite (.bind ?_ fun _ => hselect) hselect
  refine maintains_elements_bind _ fun funcs hfuncs => ?_
  exact maintains_each_checker fun func hfunc => (hF func (hfuncs func hfunc)).depot

/-! ## The run phase -/

/-- The functions that an executor has selected. -/
def BaseFuncsExecutor.selected (s : ExecState σ ρ) : List (AbstractFunc σ ρ) :=
  match executor.selectedFuncs with
  | none => []
  | some selectedFuncs => s.lists.data selectedFuncs

/-- **What the checks leave of an executor**: something is selected, and nothing but the lists and
the records has changed. -/
theorem fields_of_checks {executor executor' : BaseFuncsExecutor σ ρ κ} {checkDepot : Bool}
    {s s' : ExecState σ ρ} (h : (executor.checks cfgs recs checkDepot).run s = .ok executor' s') :
    executor'.cmd = executor.cmd ∧ executor'.function = executor.function ∧
      executor'.selectedFuncs.isSome = true := by
  have hselectAndCheck : ∃ s, (executor.selectAndCheck cfgs recs).run s = .ok executor' s' := by
    rw [BaseFuncsExecutor.checks] at h
    split at h
    · obtain ⟨u, s₁, -, h⟩ := EStateM.run_bind_eq_ok.mp h
      exact ⟨s₁, h⟩
    · exact ⟨s, h⟩
  obtain ⟨s, h⟩ := hselectAndCheck
  obtain ⟨⟨ref, executor₁⟩, s₁, hselect, h⟩ := EStateM.run_bind_eq_ok.mp h
  obtain ⟨checkRec, s₂, -, h⟩ := EStateM.run_bind_eq_ok.mp h
  obtain ⟨u, s₃, -, h⟩ := EStateM.run_bind_eq_ok.mp h
  cases h
  have hsupport : (BaseFuncsExecutor.isSupportManySelect || executor.firstSelect) = true := rfl
  rw [BaseFuncsExecutor.select, if_pos hsupport] at hselect
  obtain ⟨select, s₄, -, hselect⟩ := EStateM.run_bind_eq_ok.mp hselect
  obtain ⟨executor₂, s₅, hadd, hselect⟩ := EStateM.run_bind_eq_ok.mp hselect
  cases hselect
  cases hselected : executor.selectedFuncs with
  | none =>
    simp only [BaseFuncsExecutor.addSelectFunc, hselected] at hadd
    cases hadd
    exact ⟨rfl, rfl, rfl⟩
  | some selectedFuncs =>
    simp only [BaseFuncsExecutor.addSelectFunc, hselected] at hadd
    cases hadd
    exact ⟨rfl, rfl, rfl⟩

variable {executor}

omit [DecidableEq κ] in
/-- **The run phase** executes the selected functions, one after another. -/
theorem follows_runSelectedFuncs (hfunction : executor.function = none)
    (hselected : executor.selectedFuncs.isSome = true) (execNum : Int32) (s : ExecState σ ρ) :
    Follows ExecState.player id (executor.runSelectedFuncs execNum)
      (EStateM.each (fun func => func.exec executor.cmd execNum) (executor.selected s)) s := by
  obtain ⟨ref, href⟩ := Option.isSome_iff_exists.mp hselected
  have hround : ∀ (func : AbstractFunc σ ρ) (s : ExecState σ ρ),
      Follows ExecState.player id (do
        called (.exec func)
        onPlayer (func.exec executor.cmd execNum) : Exec σ ρ Unit)
        (func.exec executor.cmd execNum) s :=
    fun func s => .modify_bind rfl (.zoom (fun _ _ => rfl) _)
  have hloop : Follows ExecState.player id (do
      EStateM.each (fun func => do
        called (.exec func)
        onPlayer (func.exec executor.cmd execNum)) (s.lists.data ref)
      pure () : Exec σ ρ Unit)
      (EStateM.each (fun func => func.exec executor.cmd execNum) (s.lists.data ref)) s := by
    rw [bind_pure_unit]
    exact .each hround _
  rw [BaseFuncsExecutor.runSelectedFuncs, BaseFuncsExecutor.selected, href, hfunction]
  exact hloop

omit [DecidableEq κ] in
/-- The run phase maintains what the executions of all functions do. -/
lemma maintains_runSelectedFuncs (hfunction : executor.function = none)
    (hexec : ∀ func, F func → ∀ cmd execNum, MaintainsOthers P (func.exec cmd execNum))
    (execNum : Int32) : Maintains (Holds F P) (executor.runSelectedFuncs execNum) := by
  unfold BaseFuncsExecutor.runSelectedFuncs
  rw [hfunction]
  split
  · exact .throw _
  · refine maintains_elements_bind _ fun funcs hfuncs => .bind (.each fun func hfunc => ?_)
      fun _ => .pure _
    exact .bind (maintains_called _) fun _ =>
      maintains_onPlayer (hexec func (hfuncs func hfunc) _ _)

/-- **`exec` maintains** what the methods of the functions do. -/
theorem maintains_exec (hF : ∀ func, F func → Upholds P func)
    (hcheck : ∀ rec, MaintainsOthers P (recs.check rec)) (hfunction : executor.function = none)
    (hexec : ∀ func, F func → ∀ cmd execNum, MaintainsOthers P (func.exec cmd execNum))
    (checkDepot : Bool) (execNum : Int32) :
    Maintains (Holds F P) (executor.exec cfgs recs checkDepot execNum) := by
  refine .bind_of (maintains_checks executor hF hcheck checkDepot) fun s executor' s' hrun => ?_
  refine maintains_runSelectedFuncs ?_ hexec execNum
  exact (fields_of_checks hrun).2.1.trans hfunction

end Checks

end SrgpGame.BaseExecutor
