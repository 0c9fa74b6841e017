import SrgpGame.Func.ExecOnce

set_option autoImplicit false

/-!
# Rejections

What an executor does to the player before it executes its functions is what the checks and the
records of these functions do. If they only read, a rejection by the checks leaves the player as
it was.

## Main definitions

* `Careful` — a function that changes the player in its execution only, and leaves the player when
  the execution is rejected.

## Main results

* `Books.player_checks` — the checks of `exec` leave the player.
* `Books.player_of_exec` — an executor of one careful function that is rejected leaves the player.
-/

namespace SrgpGame.BaseExecutor

open Func (FixedExecConfig)
open FixedDrop (PlayerVO)

variable {σ ρ κ α : Type} (cfgs : Int32 → Option FixedExecConfig)

/-- **A careful function**: no guaranteed drop selects it, what it checks and records leaves the
player, and an execution that throws a `LogicException` does too. -/
structure Careful (func : AbstractFunc σ ρ) : Prop where
  fixed : cfgs func.steadyExecId = none
  depot : ∀ checker, func.depotCapacityChecker = some checker →
    ∀ player, checker.finalState player = player
  param : ∀ checker, func.paramChecker = some checker →
    ∀ player, checker.finalState player = player
  record : ∀ player, func.record.finalState player = player
  exec : ∀ cmd execNum player code player',
    (func.exec cmd execNum).run player = .error (.logic code) player' → player' = player

variable {cfgs} {recs : CheckRec σ ρ κ} {s s' : ExecState σ ρ} {funcs : List (AbstractFunc σ ρ)}

/-- What both parts of a sequence leave of the player, the sequence leaves. -/
lemma player_bind {β : Type} {x : Exec σ ρ α} {f : α → Exec σ ρ β}
    (hx : ∀ s, (x.finalState s).player = s.player)
    (hf : ∀ a s, ((f a).finalState s).player = s.player) (s : ExecState σ ρ) :
    ((x >>= f).finalState s).player = s.player :=
  @EStateM.finalState_bind_of_leaves _ _ _ _ _ ExecState.player _ _ hx hf s

/-- What a method on the player does to it. -/
lemma player_onPlayer (x : EStateM Thrown (PlayerVO σ) α) (s : ExecState σ ρ) :
    ((onPlayer x : Exec σ ρ α).finalState s).player = x.finalState s.player := by
  rw [EStateM.finalState, onPlayer, EStateM.run_zoom, EStateM.finalState]
  cases x.run s.player with
  | ok a player => rfl
  | error e player => rfl

/-- Checks that leave the player, one after another. -/
lemma player_each_checker
    {getChecker : AbstractFunc σ ρ → Option (EStateM Thrown (PlayerVO σ) Unit)}
    (h : ∀ func ∈ funcs, ∀ checker, getChecker func = some checker →
      ∀ player, checker.finalState player = player) (s : ExecState σ ρ) :
    ((EStateM.each (fun func =>
      match getChecker func with
      | none => pure ()
      | some checker => (onPlayer checker : Exec σ ρ Unit)) funcs).finalState s).player =
        s.player := by
  induction funcs generalizing s with
  | nil => rfl
  | cons func funcs ih =>
    rw [EStateM.each]
    refine player_bind (fun s => ?_)
      (fun _ s => ih (fun f hf => h f (List.mem_cons_of_mem _ hf)) s) s
    cases hchecker : getChecker func with
    | none => rfl
    | some checker =>
      show ((onPlayer checker : Exec σ ρ Unit).finalState s).player = s.player
      rw [player_onPlayer, h func List.mem_cons_self checker hchecker]

variable [DecidableEq κ]

/-- Recording leaves the player. -/
lemma player_recordAll (h : ∀ func ∈ funcs, Careful cfgs func)
    (checkRec : AList fun _ : κ => ρ) (s : ExecState σ ρ) :
    ((recordAll recs funcs checkRec).finalState s).player = s.player := by
  induction funcs generalizing checkRec s with
  | nil => rfl
  | cons func funcs ih =>
    rw [recordAll]
    refine player_bind (fun s => ?_)
      (fun record s => ?_) s
    · rw [player_onPlayer, (h func List.mem_cons_self).record]
    · exact player_bind (fun _ => rfl)
        (fun _ s => ih (fun f hf => h f (List.mem_cons_of_mem _ hf)) _ s) s

/-- `checkAndRec` leaves the player. -/
lemma player_checkAndRec (checkRec : AList fun _ : κ => ρ) (ref : ℕ)
    (h : ∀ func ∈ s.lists.data ref, Careful cfgs func) :
    ((checkAndRec recs checkRec ref).finalState s).player = s.player := by
  have helements : (elements ref : Exec σ ρ _).run s = .ok (s.lists.data ref) s := rfl
  rw [checkAndRec, EStateM.finalState_bind_of_ok helements]
  split_ifs with hempty
  · rfl
  · exact player_bind
      (player_each_checker fun func hfunc => (h func hfunc).param)
      (fun _ s => player_recordAll h checkRec s) s

section Books

variable {executor executor' : BaseFuncsExecutor σ ρ κ}

/-- A selection leaves the player. -/
lemma Books.player_select (h : Books recs funcs executor s)
    (hfuncs : ∀ func ∈ funcs, Careful cfgs func) {r : ℕ × BaseFuncsExecutor σ ρ κ}
    (hrun : (executor.select cfgs).run s = .ok r s') : s'.player = s.player := by
  have hpending : ∀ func ∈ s.lists.data executor.unSelectFuncs, cfgs func.steadyExecId = none :=
    fun func hfunc => (hfuncs func (h.split ▸ List.mem_append_right _ hfunc)).fixed
  have hsupport : (BaseFuncsExecutor.isSupportManySelect || executor.firstSelect) = true := rfl
  rw [BaseFuncsExecutor.select, if_pos hsupport, EStateM.run_bind, BaseFuncsExecutor.getFuncs,
    run_fix h.unSelect_lt hpending] at hrun
  cases hselected : executor.selectedFuncs with
  | none =>
    simp only [BaseFuncsExecutor.addSelectFunc, hselected] at hrun
    cases hrun
    rfl
  | some selected =>
    simp only [BaseFuncsExecutor.addSelectFunc, hselected] at hrun
    cases hrun
    rfl

/-- **A selection with its checks leaves the player.** -/
lemma Books.player_selectAndCheck
    (hcheck : ∀ rec player, (recs.check rec).finalState player = player)
    (h : Books recs funcs executor s) (hfuncs : ∀ func ∈ funcs, Careful cfgs func) :
    ((executor.selectAndCheck cfgs recs).finalState s).player = s.player := by
  obtain ⟨ref, executor₁, s₁, hselect, href, -⟩ :=
    h.select fun func hfunc => (hfuncs func hfunc).fixed
  have hplayer := h.player_select hfuncs hselect
  have hcareful : ∀ func ∈ s₁.lists.data ref, Careful cfgs func := by
    rw [href]
    exact fun func hfunc => hfuncs func (h.split ▸ List.mem_append_right _ hfunc)
  have hcheckAndRec : ((checkAndRec recs executor₁.checkRec ref).finalState s₁).player =
      s₁.player := player_checkAndRec executor₁.checkRec ref hcareful
  have hreCheck : ∀ (executor : BaseFuncsExecutor σ ρ κ) (s : ExecState σ ρ),
      ((executor.reCheckRecs recs).finalState s).player = s.player := by
    intro executor s
    have hround : ∀ rec (s' : ExecState σ ρ), s'.player = s.player →
        ((onPlayer (recs.check rec) : Exec σ ρ Unit).finalState s').player = s.player := by
      intro rec s' hs'
      rw [player_onPlayer, hcheck, hs']
    exact EStateM.finalState_each_of_keeps hround rfl
  rw [BaseFuncsExecutor.selectAndCheck, EStateM.finalState_bind_of_ok hselect, ← hplayer,
    ← hcheckAndRec]
  refine @EStateM.finalState_bind_eq_of_leaves _ _ _ _ _ ExecState.player _ _
    (fun checkRec s => ?_) s₁
  exact player_bind (hreCheck _) (fun _ _ => rfl) s

/-- **The checks of `exec` leave the player.** -/
lemma Books.player_checks (hcheck : ∀ rec player, (recs.check rec).finalState player = player)
    (h : Books recs funcs executor s) (hfuncs : ∀ func ∈ funcs, Careful cfgs func)
    (checkDepot : Bool) :
    ((executor.checks cfgs recs checkDepot).finalState s).player = s.player := by
  cases checkDepot with
  | false => exact h.player_selectAndCheck hcheck hfuncs
  | true =>
    have hdepot : (executor.doDepotChecker.finalState s).player = s.player := by
      have helements : (elements executor.allFuncs : Exec σ ρ _).run s = .ok funcs s := by
        rw [← h.all]
        rfl
      rw [BaseFuncsExecutor.doDepotChecker, EStateM.finalState_bind_of_ok helements]
      exact player_each_checker (fun func hfunc => (hfuncs func hfunc).depot) s
    rw [BaseFuncsExecutor.checks, if_pos rfl, EStateM.finalState_bind]
    cases hrun : executor.doDepotChecker.run s with
    | ok u s₁ =>
      rw [EStateM.finalState_eq_of_ok hrun] at hdepot
      exact ((h.of_doDepotChecker hrun).player_selectAndCheck hcheck hfuncs).trans hdepot
    | error e s₁ => rwa [EStateM.finalState_eq_of_error hrun] at hdepot

/-- **An executor of one careful function that is rejected** leaves the player. -/
theorem Books.player_of_exec (hcheck : ∀ rec player, (recs.check rec).finalState player = player)
    {func : AbstractFunc σ ρ} (h : Books recs [func] executor s)
    (hfunction : executor.function = none) (hfunc : Careful cfgs func) {checkDepot : Bool}
    {execNum code : Int32}
    (hrun : (executor.exec cfgs recs checkDepot execNum).run s = .error (.logic code) s') :
    s'.player = s.player := by
  have hfuncs : ∀ f ∈ [func], Careful cfgs f := by
    intro f hf
    rwa [List.mem_singleton.mp hf]
  have hchecks := h.player_checks hcheck hfuncs checkDepot
  rw [BaseFuncsExecutor.exec, EStateM.run_bind] at hrun
  cases hrun₁ : (executor.checks cfgs recs checkDepot).run s with
  | error e s₁ =>
    rw [hrun₁] at hrun
    cases hrun
    rwa [EStateM.finalState_eq_of_error hrun₁] at hchecks
  | ok executor₁ s₁ =>
    rw [EStateM.finalState_eq_of_ok hrun₁] at hchecks
    rw [hrun₁] at hrun
    obtain ⟨s₂, h₂, hselect⟩ := h.of_checks hrun₁
    obtain ⟨-, -, hsame, ref, href, hdata⟩ :=
      h₂.selectAndCheck (fun f hf => (hfuncs f hf).fixed) hselect
    -- the run phase executes the one function
    have helements : (elements ref : Exec σ ρ _).run s₁ = .ok [func] s₁ := by
      rw [← hdata]
      rfl
    have hrounds : (executor₁.runSelectedFuncs execNum).run s₁ =
        (onPlayer (func.exec executor₁.cmd execNum) : Exec σ ρ Unit).run
          { s₁ with log := s₁.log ++ [.exec func] } := by
      have hcalled : (called (.exec func) : Exec σ ρ Unit).run s₁ =
          .ok () { s₁ with log := s₁.log ++ [.exec func] } := rfl
      rw [BaseFuncsExecutor.runSelectedFuncs, href]
      simp only [EStateM.run_bind, helements, hsame.function, hfunction, EStateM.each, hcalled]
      cases (onPlayer (func.exec executor₁.cmd execNum) : Exec σ ρ Unit).run
          { s₁ with log := s₁.log ++ [.exec func] } with
      | ok u s₃ => rfl
      | error e s₃ => rfl
    replace hrun : (executor₁.runSelectedFuncs execNum).run s₁ = .error (.logic code) s' := hrun
    rw [hrounds, onPlayer, EStateM.run_zoom] at hrun
    cases hexec : (func.exec executor₁.cmd execNum).run s₁.player with
    | ok u player =>
      simp only [hexec] at hrun
      cases hrun
    | error e player =>
      simp only [hexec] at hrun
      cases hrun
      exact (hfunc.exec _ _ _ _ _ hexec).trans hchecks

end Books

end SrgpGame.BaseExecutor
