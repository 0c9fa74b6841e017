import SrgpGame.Func.BaseFuncsExecutor

set_option autoImplicit false

/-!
# Once, and in order

The lists of an executor are handed from one method to another. They stay different objects, what
was accepted is always what is selected followed by what is pending, and what is selected has been
recorded. So every function is selected, recorded and executed once.

## Main definitions

* `recorded`, `records`, `executed` — what the calls so far say.
* `Books` — what is true of an executor at any time.
* `SelectedOnce`, `ExecutedOnce` — what is true after the two phases of `exec`.

## Main results

* `Books.acceptFunc`, `Books.selectAndCheck` — what the methods keep.
* `Books.copy_run` — a copy is a new executor that has accepted the same functions.
* `exec_once` — every accepted function is selected, recorded and executed once, in order.
-/

namespace SrgpGame.BaseExecutor

open Func (FixedExecConfig)
open FixedDrop (PlayerVO)

variable {σ ρ κ α : Type} [DecidableEq κ] (cfgs : Int32 → Option FixedExecConfig)
  (recs : CheckRec σ ρ κ)

/-! ## What the methods do -/

/-- The functions whose costs were recorded. -/
def recorded : List (Event σ ρ) → List (AbstractFunc σ ρ)
  | [] => []
  | .record func _ :: log => func :: recorded log
  | .exec _ :: log => recorded log

/-- The costs that they recorded. -/
def records : List (Event σ ρ) → List (Option (List (Option ρ)))
  | [] => []
  | .record _ record :: log => record :: records log
  | .exec _ :: log => records log

/-- The functions that were executed. -/
def executed : List (Event σ ρ) → List (AbstractFunc σ ρ)
  | [] => []
  | .record _ _ :: log => executed log
  | .exec func :: log => func :: executed log

lemma recorded_append (log log' : List (Event σ ρ)) :
    recorded (log ++ log') = recorded log ++ recorded log' := by
  induction log with
  | nil => rfl
  | cons event log ih => cases event <;> simp [recorded, ih]

lemma records_append (log log' : List (Event σ ρ)) :
    records (log ++ log') = records log ++ records log' := by
  induction log with
  | nil => rfl
  | cons event log ih => cases event <;> simp [records, ih]

lemma executed_append (log log' : List (Event σ ρ)) :
    executed (log ++ log') = executed log ++ executed log' := by
  induction log with
  | nil => rfl
  | cons event log ih => cases event <;> simp [executed, ih]

/-- The lists and the calls so far. -/
def books (s : ExecState σ ρ) : Lists (AbstractFunc σ ρ) × List (Event σ ρ) := (s.lists, s.log)

section Methods

variable {cfgs recs} {s s' : ExecState σ ρ} {funcs : List (AbstractFunc σ ρ)}

omit [DecidableEq κ] in
/-- What a function does to the player leaves the lists and the calls. -/
lemma keeps_onPlayer (x : EStateM Thrown (PlayerVO σ) α) :
    EStateM.Keeps books (onPlayer x : Exec σ ρ α) := by
  intro s a s' h
  rw [onPlayer, EStateM.run_zoom] at h
  cases hx : x.run s.player with
  | ok b player =>
    rw [hx] at h
    cases h
    rfl
  | error e player =>
    rw [hx] at h
    cases h

/-- The loop of `fix`, for functions that are under no guaranteed drop. -/
lemma run_each_fix (hfixed : ∀ func ∈ funcs, cfgs func.steadyExecId = none) (ret : ℕ)
    (s : ExecState σ ρ) :
    (EStateM.each (fun func => do
      let selected ← fixOne cfgs func
      if selected then add ret func) funcs).run s =
        .ok () { s with lists := s.lists.set ret (s.lists.data ret ++ funcs) } := by
  induction funcs generalizing s with
  | nil =>
    rw [EStateM.run_each_nil, List.append_nil, Lists.set, Function.update_eq_self]
  | cons func funcs ih =>
    have hone : (fixOne cfgs func : Exec σ ρ Bool).run s = .ok true s := by
      rw [fixOne, FixedDrop.fixOne, AbstractFunc.drop, hfixed func List.mem_cons_self]
      rfl
    have hround : (do
        let selected ← fixOne cfgs func
        if selected then add ret func : Exec σ ρ Unit).run s =
          .ok () { s with lists := s.lists.set ret (s.lists.data ret ++ [func]) } := by
      rw [EStateM.run_bind, hone]
      rfl
    rw [EStateM.run_each_cons, hround]
    simp only
    rw [ih fun f hf => hfixed f (List.mem_cons_of_mem _ hf)]
    simp only [Lists.set, Function.update_self, Function.update_idem, List.append_assoc,
      List.singleton_append]

/-- **`fix` copies**: without guaranteed drops it returns a new list with the same functions. -/
lemma run_fix {ref : ℕ} (href : ref < s.lists.size)
    (hfixed : ∀ func ∈ s.lists.data ref, cfgs func.steadyExecId = none) :
    (fix cfgs ref).run s =
      .ok s.lists.size
        { s with lists := s.lists.alloc.set s.lists.size (s.lists.data ref) } := by
  have hcreate : (createList : Exec σ ρ ℕ).run s =
      .ok s.lists.size { s with lists := s.lists.alloc } := rfl
  have helements : (elements ref : Exec σ ρ _).run { s with lists := s.lists.alloc } =
      .ok (s.lists.data ref) { s with lists := s.lists.alloc } := by
    rw [← Lists.alloc_data_of_lt s.lists href]
    rfl
  rw [fix, EStateM.run_bind, hcreate]
  simp only
  rw [EStateM.run_bind, helements]
  simp only
  rw [EStateM.run_bind, run_each_fix hfixed]
  simp only [Lists.alloc_data_self, List.nil_append]
  rfl

/-- **What recording does**: every function is recorded once, in order, and the costs are grouped
with those recorded before. -/
lemma recordAll_run {checkRec checkRec' : AList fun _ : κ => ρ}
    (h : (recordAll recs funcs checkRec).run s = .ok checkRec' s') :
    ∃ events, books s' = (s.lists, s.log ++ events) ∧ recorded events = funcs ∧
      executed events = [] ∧ checkRec' = (records events).foldl recs.groupRecord checkRec := by
  induction funcs generalizing s checkRec with
  | nil =>
    rw [recordAll] at h
    cases h
    exact ⟨[], by rw [List.append_nil]; rfl, rfl, rfl, rfl⟩
  | cons func funcs ih =>
    rw [recordAll] at h
    obtain ⟨record, s₁, hrecord, h⟩ := EStateM.run_bind_eq_ok.mp h
    obtain ⟨⟨⟩, s₂, hcalled, h⟩ := EStateM.run_bind_eq_ok.mp h
    have hbooks := keeps_onPlayer func.record hrecord
    cases hcalled
    obtain ⟨events, hbooks', hrecorded, hexecuted, hcheckRec⟩ := ih h
    obtain ⟨hlists, hlog⟩ := Prod.mk.inj hbooks
    refine ⟨.record func record :: events, ?_, ?_, ?_, ?_⟩
    · rw [hbooks', ← hlists, ← hlog, List.append_assoc]
      rfl
    · rw [recorded, hrecorded]
    · rw [executed, hexecuted]
    · rw [records, List.foldl_cons, hcheckRec]

/-- A check that may be missing leaves the lists and the calls. -/
lemma keeps_checker (checker : Option (EStateM Thrown (PlayerVO σ) Unit)) :
    EStateM.Keeps books
      (match checker with
        | none => pure ()
        | some checker => onPlayer checker : Exec σ ρ Unit) := by
  cases checker with
  | none => exact .pure ()
  | some checker => exact keeps_onPlayer checker

/-- **What `checkAndRec` does**: it records the functions of the list. -/
lemma checkAndRec_run {checkRec checkRec' : AList fun _ : κ => ρ} {selectedFuncs : ℕ}
    (h : (checkAndRec recs checkRec selectedFuncs).run s = .ok checkRec' s') :
    ∃ events, books s' = (s.lists, s.log ++ events) ∧
      recorded events = s.lists.data selectedFuncs ∧ executed events = [] ∧
        checkRec' = (records events).foldl recs.groupRecord checkRec := by
  rw [checkAndRec] at h
  obtain ⟨funcs, s₁, helements, h⟩ := EStateM.run_bind_eq_ok.mp h
  cases helements
  split_ifs at h with hempty
  · cases h
    refine ⟨[], by rw [List.append_nil]; rfl, ?_, rfl, rfl⟩
    rw [List.isEmpty_iff.mp hempty]
    rfl
  · obtain ⟨⟨⟩, s₂, hcheck, h⟩ := EStateM.run_bind_eq_ok.mp h
    have hkeeps : EStateM.Keeps books (EStateM.each (fun func : AbstractFunc σ ρ =>
        (match func.paramChecker with
          | none => pure ()
          | some checker => onPlayer checker : Exec σ ρ Unit)) (s.lists.data selectedFuncs)) :=
      .each (fun func : AbstractFunc σ ρ => keeps_checker func.paramChecker) _
    obtain ⟨hlists, hlog⟩ := Prod.mk.inj (hkeeps hcheck)
    rw [← hlists, ← hlog]
    obtain ⟨events, hbooks, hrecorded, hrest⟩ := recordAll_run h
    exact ⟨events, hbooks, by rw [hrecorded, hlists], hrest⟩

end Methods

/-! ## The books of an executor -/

/-- **What is true of an executor at any time**: its lists are different objects; every accepted
function was selected or is pending; the selected functions were recorded, each once and in order,
and none was executed. -/
structure Books (funcs : List (AbstractFunc σ ρ)) (executor : BaseFuncsExecutor σ ρ κ)
    (s : ExecState σ ρ) : Prop where
  all_lt : executor.allFuncs < s.lists.size
  unSelect_lt : executor.unSelectFuncs < s.lists.size
  all_ne : executor.allFuncs ≠ executor.unSelectFuncs
  selected_lt : ∀ ref, executor.selectedFuncs = some ref →
    ref < s.lists.size ∧ ref ≠ executor.allFuncs ∧ ref ≠ executor.unSelectFuncs
  all : s.lists.data executor.allFuncs = funcs
  split : (executor.selectedFuncs.map s.lists.data).getD [] ++
    s.lists.data executor.unSelectFuncs = funcs
  recorded : recorded s.log = (executor.selectedFuncs.map s.lists.data).getD []
  checkRec : executor.checkRec = (records s.log).foldl recs.groupRecord ∅
  executed : executed s.log = []

section Books

variable {cfgs recs} {s s' : ExecState σ ρ} {funcs : List (AbstractFunc σ ρ)}
  {executor executor' : BaseFuncsExecutor σ ρ κ}

/-- A new executor has nothing. -/
lemma Books.of_new (hlog : s.log = [])
    (h : (BaseFuncsExecutor.new : Exec σ ρ (BaseFuncsExecutor σ ρ κ)).run s = .ok executor s') :
    Books recs [] executor s' := by
  cases h
  have hall : (s.lists.alloc.alloc).data s.lists.size = [] := by
    rw [Lists.alloc_data_of_lt _ (Nat.lt_succ_self _), Lists.alloc_data_self]
  have hpending : (s.lists.alloc.alloc).data s.lists.alloc.size = [] := Lists.alloc_data_self _
  exact {
    all_lt := Nat.lt_succ_of_lt (Nat.lt_succ_self _)
    unSelect_lt := Nat.lt_succ_self _
    all_ne := Nat.ne_of_lt (Nat.lt_succ_self _)
    selected_lt := fun ref href => by cases href
    all := hall
    split := hpending
    recorded := by rw [hlog]; rfl
    checkRec := by rw [hlog]; rfl
    executed := by rw [hlog]; rfl }

/-- A new executor has accepted nothing. -/
lemma getExecutor_run (recs : CheckRec σ ρ κ) (cmd : Option Int32) {s : ExecState σ ρ}
    (hlog : s.log = []) :
    ∃ exec s', (getExecutor cmd : Exec σ ρ (BaseFuncsExecutor σ ρ κ)).run s = .ok exec s' ∧
      exec.function = none ∧ s'.player = s.player ∧ s'.log = [] ∧ Books recs [] exec s' := by
  refine ⟨_, _, rfl, rfl, rfl, hlog, ?_⟩
  have h : Books recs [] ⟨s.lists.size, none, ∅, true, none, none, s.lists.size + 1⟩
      { s with lists := s.lists.alloc.alloc } := Books.of_new hlog rfl
  -- the books are not about the command
  exact ⟨h.all_lt, h.unSelect_lt, h.all_ne, h.selected_lt, h.all, h.split, h.recorded, h.checkRec,
    h.executed⟩

/-- The books are about the lists and the calls. -/
lemma Books.congr (h : Books recs funcs executor s) (heq : books s' = books s) :
    Books recs funcs executor s' := by
  obtain ⟨player, lists, log⟩ := s
  obtain ⟨player', lists', log'⟩ := s'
  obtain ⟨rfl, rfl⟩ := Prod.mk.inj heq
  exact ⟨h.all_lt, h.unSelect_lt, h.all_ne, h.selected_lt, h.all, h.split, h.recorded, h.checkRec,
    h.executed⟩

/-- **Acceptance** adds a pending function. -/
lemma Books.acceptFunc (h : Books recs funcs executor s) (func : AbstractFunc σ ρ) :
    ∃ s', (executor.acceptFunc func).run s = .ok () s' ∧
      Books recs (funcs ++ [func]) executor s' := by
  refine ⟨_, rfl, ?_⟩
  -- the two lists that change are not the selected one
  have hselected : executor.selectedFuncs.map
      ((s.lists.set executor.allFuncs (s.lists.data executor.allFuncs ++ [func])).set
        executor.unSelectFuncs
        ((s.lists.set executor.allFuncs (s.lists.data executor.allFuncs ++ [func])).data
          executor.unSelectFuncs ++ [func])).data = executor.selectedFuncs.map s.lists.data := by
    cases hselected : executor.selectedFuncs with
    | none => rfl
    | some ref =>
      obtain ⟨-, hall, hunSelect⟩ := h.selected_lt ref hselected
      simp only [Option.map_some, Lists.set_data_of_ne _ _ hunSelect, Lists.set_data_of_ne _ _ hall]
  exact {
    all_lt := h.all_lt
    unSelect_lt := h.unSelect_lt
    all_ne := h.all_ne
    selected_lt := h.selected_lt
    all := by rw [Lists.set_data_of_ne _ _ h.all_ne, Lists.set_data_self, h.all]
    split := by
      rw [hselected, Lists.set_data_self, Lists.set_data_of_ne _ _ h.all_ne.symm,
        ← List.append_assoc, h.split]
    recorded := by rw [hselected]; exact h.recorded
    checkRec := h.checkRec
    executed := h.executed }

/-- An executor afterwards is the same object with the same lists, command and hook. -/
structure SameObject (executor executor' : BaseFuncsExecutor σ ρ κ) : Prop where
  allFuncs : executor'.allFuncs = executor.allFuncs
  unSelectFuncs : executor'.unSelectFuncs = executor.unSelectFuncs
  cmd : executor'.cmd = executor.cmd
  function : executor'.function = executor.function

/-- **What `select` does**: it returns a list with what was pending; all accepted functions are then
selected and none is pending. The list that is returned is the selected list itself at the first
selection, and no list of the executor later on. -/
lemma Books.select (h : Books recs funcs executor s)
    (hfixed : ∀ func ∈ funcs, cfgs func.steadyExecId = none) :
    ∃ ref executor' s', (executor.select cfgs).run s = .ok (ref, executor') s' ∧
      s'.lists.data ref = s.lists.data executor.unSelectFuncs ∧ s'.log = s.log ∧
      executor'.checkRec = executor.checkRec ∧ SameObject executor executor' ∧
      s.lists.size < s'.lists.size ∧ s'.lists.data executor.allFuncs = funcs ∧
      s'.lists.data executor.unSelectFuncs = [] ∧
      ∃ selected, executor'.selectedFuncs = some selected ∧ selected < s'.lists.size ∧
        selected ≠ executor.allFuncs ∧ selected ≠ executor.unSelectFuncs ∧
        s'.lists.data selected = funcs := by
  have hpending : ∀ func ∈ s.lists.data executor.unSelectFuncs, cfgs func.steadyExecId = none :=
    fun func hfunc => hfixed func (h.split ▸ List.mem_append_right _ hfunc)
  have hfix := run_fix h.unSelect_lt hpending
  have hall_lt := h.all_lt
  have hunSelect_lt := h.unSelect_lt
  have hall_ne := h.all_ne
  have hsplit := h.split
  have hall := h.all
  have hsupport : (BaseFuncsExecutor.isSupportManySelect || executor.firstSelect) = true := rfl
  rw [BaseFuncsExecutor.select, if_pos hsupport, EStateM.run_bind, BaseFuncsExecutor.getFuncs, hfix]
  simp only [EStateM.run_bind]
  set pending := s.lists.data executor.unSelectFuncs with hpending_def
  cases hselected : executor.selectedFuncs with
  | none =>
    rw [hselected, Option.map_none, Option.getD_none, List.nil_append] at hsplit
    refine ⟨s.lists.size,
      { executor with firstSelect := false, selectedFuncs := some s.lists.size },
      { s with
        lists := (s.lists.alloc.set s.lists.size pending).set executor.unSelectFuncs [] },
      rfl, ?_, rfl, rfl, ⟨rfl, rfl, rfl, rfl⟩,
      Nat.lt_succ_self _, ?_, Lists.set_data_self .., s.lists.size, rfl, Nat.lt_succ_self _,
      by omega, by omega, ?_⟩
    · rw [Lists.set_data_of_ne _ _ (by omega), Lists.set_data_self]
    · rw [Lists.set_data_of_ne _ _ hall_ne, Lists.set_data_of_ne _ _ (by omega),
        Lists.alloc_data_of_lt _ hall_lt, hall]
    · rw [Lists.set_data_of_ne _ _ (by omega), Lists.set_data_self, hsplit]
  | some selected =>
    obtain ⟨hlt, hne_all, hne_unSelect⟩ := h.selected_lt selected hselected
    rw [hselected, Option.map_some, Option.getD_some] at hsplit
    refine ⟨s.lists.size, { executor with firstSelect := false, selectedFuncs := some selected },
      { s with
        lists := ((s.lists.alloc.set s.lists.size pending).set selected
          ((s.lists.alloc.set s.lists.size pending).data selected ++
            (s.lists.alloc.set s.lists.size pending).data s.lists.size)).set
              executor.unSelectFuncs [] },
      rfl, ?_, rfl, rfl, ⟨rfl, rfl, rfl, rfl⟩,
      Nat.lt_succ_self _, ?_, Lists.set_data_self .., selected, rfl,
      Nat.lt_succ_of_lt hlt, hne_all, hne_unSelect, ?_⟩
    · rw [Lists.set_data_of_ne _ _ (by omega), Lists.set_data_of_ne _ _ (by omega),
        Lists.set_data_self]
    · rw [Lists.set_data_of_ne _ _ hall_ne, Lists.set_data_of_ne _ _ hne_all.symm,
        Lists.set_data_of_ne _ _ (by omega), Lists.alloc_data_of_lt _ hall_lt, hall]
    · rw [Lists.set_data_of_ne _ _ hne_unSelect, Lists.set_data_self, Lists.set_data_self,
        Lists.set_data_of_ne _ _ (by omega), Lists.alloc_data_of_lt _ hlt, hsplit]

/-- **`selectAndCheck` keeps the books**, and leaves nothing pending. -/
lemma Books.selectAndCheck (h : Books recs funcs executor s)
    (hfixed : ∀ func ∈ funcs, cfgs func.steadyExecId = none)
    (hrun : (executor.selectAndCheck cfgs recs).run s = .ok executor' s') :
    Books recs funcs executor' s' ∧ s'.lists.data executor'.unSelectFuncs = [] ∧
      SameObject executor executor' ∧
        ∃ selected, executor'.selectedFuncs = some selected ∧ s'.lists.data selected = funcs := by
  obtain ⟨ref, executor₁, s₁, hselect, href, hlog, hcheckRec, hsame, hsize, hall, hunSelect,
    selected, hselected, hselected_lt, hne_all, hne_unSelect, hfuncs⟩ := h.select hfixed
  rw [BaseFuncsExecutor.selectAndCheck, EStateM.run_bind, hselect] at hrun
  obtain ⟨checkRec, s₂, hcheckAndRec, hrun⟩ := EStateM.run_bind_eq_ok.mp hrun
  obtain ⟨⟨⟩, s₃, hreCheck, hrun⟩ := EStateM.run_bind_eq_ok.mp hrun
  cases hrun
  obtain ⟨events, hbooks, hrecorded, hexecuted, hgrouped⟩ := checkAndRec_run hcheckAndRec
  have hkeeps : EStateM.Keeps books
      (({ executor₁ with checkRec := checkRec } : BaseFuncsExecutor σ ρ κ).reCheckRecs recs) :=
    .each (fun _ => keeps_onPlayer _) _
  obtain ⟨hlists, hlog'⟩ := Prod.mk.inj ((hkeeps hreCheck).trans hbooks)
  have hsplit := h.split
  rw [hlog] at hlog'
  have hall' : s'.lists.data executor₁.allFuncs = funcs := by rw [hlists, hsame.allFuncs, hall]
  have hunSelect' : s'.lists.data executor₁.unSelectFuncs = [] := by
    rw [hlists, hsame.unSelectFuncs, hunSelect]
  have hfuncs' : (executor₁.selectedFuncs.map s'.lists.data).getD [] = funcs := by
    rw [hselected, Option.map_some, Option.getD_some, hlists, hfuncs]
  refine ⟨?_, hunSelect', ⟨hsame.allFuncs, hsame.unSelectFuncs, hsame.cmd, hsame.function⟩,
    selected, hselected, by rw [hlists, hfuncs]⟩
  exact {
    all_lt := by rw [hlists]; exact hsame.allFuncs ▸ h.all_lt.trans hsize
    unSelect_lt := by rw [hlists]; exact hsame.unSelectFuncs ▸ h.unSelect_lt.trans hsize
    all_ne := by
      show executor₁.allFuncs ≠ executor₁.unSelectFuncs
      rw [hsame.allFuncs, hsame.unSelectFuncs]
      exact h.all_ne
    selected_lt := by
      intro ref' href'
      obtain rfl := Option.some.inj (hselected.symm.trans href')
      rw [hlists]
      exact ⟨hselected_lt, hsame.allFuncs ▸ hne_all, hsame.unSelectFuncs ▸ hne_unSelect⟩
    all := hall'
    split := by
      show (executor₁.selectedFuncs.map s'.lists.data).getD [] ++
        s'.lists.data executor₁.unSelectFuncs = funcs
      rw [hfuncs', hunSelect', List.append_nil]
    recorded := by
      show BaseExecutor.recorded s'.log = (executor₁.selectedFuncs.map s'.lists.data).getD []
      rw [hfuncs', hlog', recorded_append, h.recorded, hrecorded, href, hsplit]
    checkRec := by
      show checkRec = _
      rw [hlog', records_append, List.foldl_append, ← h.checkRec, hgrouped, hcheckRec]
    executed := by rw [hlog', executed_append, h.executed, hexecuted, List.append_nil] }

/-- The capacity checks keep the books. -/
lemma Books.of_doDepotChecker (h : Books recs funcs executor s)
    (hrun : executor.doDepotChecker.run s = .ok () s') : Books recs funcs executor s' := by
  rw [BaseFuncsExecutor.doDepotChecker] at hrun
  obtain ⟨funcs', s₂, helements, hrun⟩ := EStateM.run_bind_eq_ok.mp hrun
  cases helements
  have hkeeps : EStateM.Keeps books (EStateM.each (fun func : AbstractFunc σ ρ =>
      (match func.depotCapacityChecker with
        | none => pure ()
        | some checker => onPlayer checker : Exec σ ρ Unit)) (s.lists.data executor.allFuncs)) :=
    .each (fun func : AbstractFunc σ ρ => keeps_checker func.depotCapacityChecker) _
  exact h.congr (hkeeps hrun)

/-- The checks of `exec` are those of a selection, after others that keep the books. -/
lemma Books.of_checks (h : Books recs funcs executor s) {checkDepot : Bool}
    (hrun : (executor.checks cfgs recs checkDepot).run s = .ok executor' s') :
    ∃ s₁, Books recs funcs executor s₁ ∧
      (executor.selectAndCheck cfgs recs).run s₁ = .ok executor' s' := by
  cases checkDepot with
  | false => exact ⟨s, h, hrun⟩
  | true =>
    rw [BaseFuncsExecutor.checks, if_pos rfl] at hrun
    obtain ⟨⟨⟩, s₁, hdepot, hselect⟩ := EStateM.run_bind_eq_ok.mp hrun
    exact ⟨s₁, h.of_doDepotChecker hdepot, hselect⟩

/-- The calls keep the books. -/
lemma Books.runCalls {calls : List (Call σ ρ)} (h : Books recs funcs executor s)
    (hfixed : ∀ func ∈ funcs ++ accepted calls, cfgs func.steadyExecId = none)
    (hrun : (runCalls cfgs recs calls executor).run s = .ok executor' s') :
    Books recs (funcs ++ accepted calls) executor' s' := by
  induction calls generalizing funcs executor s with
  | nil =>
    cases hrun
    rw [accepted, List.append_nil]
    exact h
  | cons call calls ih =>
    cases call with
    | acceptFunc func =>
      obtain ⟨s₁, haccept, h₁⟩ := h.acceptFunc func
      have hrest : (runCalls cfgs recs calls executor).run s₁ = .ok executor' s' := by
        rw [BaseExecutor.runCalls, EStateM.run_bind, haccept] at hrun
        exact hrun
      have hbooks := ih h₁ (by rwa [List.append_assoc]) hrest
      rwa [List.append_assoc] at hbooks
    | selectAndCheck =>
      rw [BaseExecutor.runCalls] at hrun
      obtain ⟨executor₁, s₁, hselect, hrest⟩ := EStateM.run_bind_eq_ok.mp hrun
      obtain ⟨h₁, -⟩ := h.selectAndCheck
        (fun func hfunc => hfixed func (List.mem_append_left _ hfunc)) hselect
      exact ih h₁ hfixed hrest

end Books

/-! ## The run phase -/

section RunPhase

variable {s s' : ExecState σ ρ} {funcs : List (AbstractFunc σ ρ)}
  {executor : BaseFuncsExecutor σ ρ κ}

omit [DecidableEq κ] in
lemma finalState_onPlayer (x : EStateM Thrown (PlayerVO σ) α) (s : ExecState σ ρ) :
    books ((onPlayer x : Exec σ ρ α).finalState s) = books s := by
  rw [EStateM.finalState, onPlayer, EStateM.run_zoom]
  cases x.run s.player with
  | ok a player => rfl
  | error e player => rfl

omit [DecidableEq κ] in
/-- **The loop of the run phase**: as far as it comes, it executes the functions in order, each
once; if it returns, it has executed them all. -/
lemma each_exec (cmd : Option Int32) (execNum : Int32) (funcs : List (AbstractFunc σ ρ))
    (s : ExecState σ ρ) :
    ∃ done, done <+: funcs ∧
      books ((EStateM.each (fun func => do
        called (.exec func)
        onPlayer (func.exec cmd execNum)) funcs).finalState s) =
          (s.lists, s.log ++ done.map .exec) ∧
      ∀ s', (EStateM.each (fun func => do
        called (.exec func)
        onPlayer (func.exec cmd execNum)) funcs).run s = .ok () s' → done = funcs := by
  induction funcs generalizing s with
  | nil =>
    exact ⟨[], List.prefix_refl _, by rw [List.map_nil, List.append_nil]; rfl, fun _ _ => rfl⟩
  | cons func funcs ih =>
    set round : AbstractFunc σ ρ → Exec σ ρ Unit := fun func => do
      called (.exec func)
      onPlayer (func.exec cmd execNum) with hround
    have hbooks : books ((round func).finalState s) = (s.lists, s.log ++ [.exec func]) :=
      finalState_onPlayer (func.exec cmd execNum) { s with log := s.log ++ [.exec func] }
    rw [EStateM.finalState] at hbooks
    rw [EStateM.each, EStateM.finalState_bind]
    cases hrun : (round func).run s with
    | ok u s₁ =>
      rw [hrun] at hbooks
      obtain ⟨hlists, hlog⟩ := Prod.mk.inj hbooks
      obtain ⟨done, hprefix, hdone, hall⟩ := ih s₁
      refine ⟨func :: done, (List.prefix_cons_inj func).mpr hprefix, ?_, fun s' hreturn => ?_⟩
      · show books ((EStateM.each round funcs).finalState s₁) = _
        rw [hdone, hlists, hlog, List.append_assoc]
        rfl
      · rw [EStateM.run_bind, hrun] at hreturn
        rw [hall s' hreturn]
    | error e s₁ =>
      rw [hrun] at hbooks
      refine ⟨[func], ⟨funcs, rfl⟩, hbooks, fun s' hreturn => ?_⟩
      rw [EStateM.run_bind, hrun] at hreturn
      cases hreturn

end RunPhase



lemma recorded_map_exec (funcs : List (AbstractFunc σ ρ)) : recorded (funcs.map .exec) = [] := by
  induction funcs with
  | nil => rfl
  | cons func funcs ih => exact ih

lemma executed_map_exec (funcs : List (AbstractFunc σ ρ)) : executed (funcs.map .exec) = funcs := by
  induction funcs with
  | nil => rfl
  | cons func funcs ih => rw [List.map_cons, executed, ih]

/-! ## Copies -/

/-- A new executor that has accepted functions, with a command. -/
def afresh (funcs : List (AbstractFunc σ ρ)) (cmd : Option Int32) :
    Exec σ ρ (BaseFuncsExecutor σ ρ κ) := do
  let executor ← BaseFuncsExecutor.new
  let executor ← runCalls cfgs recs (funcs.map .acceptFunc) executor
  return { executor with cmd := cmd }

section Copies

variable {cfgs recs} {s : ExecState σ ρ} {funcs : List (AbstractFunc σ ρ)}
  {executor : BaseFuncsExecutor σ ρ κ}

/-- Accepting clones is accepting the functions. -/
lemma runCalls_acceptFunc (executor : BaseFuncsExecutor σ ρ κ)
    (funcs : List (AbstractFunc σ ρ)) :
    runCalls cfgs recs (funcs.map .acceptFunc) executor = do
      EStateM.each (fun func => executor.acceptFunc func.clone) funcs
      return executor := by
  induction funcs with
  | nil => rfl
  | cons func funcs ih =>
    rw [List.map_cons, runCalls, ih, EStateM.each, bind_assoc]
    rfl

/-- **A copy** is a new executor that has accepted the same functions. -/
lemma Books.copy_run (hlt : executor.allFuncs < s.lists.size)
    (hall : s.lists.data executor.allFuncs = funcs) :
    executor.copy.run s = (afresh cfgs recs funcs executor.cmd).run s := by
  have hnew : (BaseFuncsExecutor.new : Exec σ ρ (BaseFuncsExecutor σ ρ κ)).run s =
      .ok ⟨s.lists.size, none, ∅, true, none, none, s.lists.size + 1⟩
        { s with lists := s.lists.alloc.alloc } := rfl
  have helements : (elements executor.allFuncs : Exec σ ρ _).run
      { s with lists := s.lists.alloc.alloc } =
        .ok funcs { s with lists := s.lists.alloc.alloc } := by
    have hdata : s.lists.alloc.alloc.data executor.allFuncs = funcs := by
      rw [Lists.alloc_data_of_lt _ (Nat.lt_succ_of_lt hlt), Lists.alloc_data_of_lt _ hlt, hall]
    rw [← hdata]
    rfl
  rw [BaseFuncsExecutor.copy, BaseFuncsExecutor.innerCopy, afresh]
  simp only [EStateM.run_bind, hnew, helements, runCalls_acceptFunc]

end Copies

/-! ## Once, and in order -/

/-- A copy of the executor is, at this point, what a new executor is that has accepted the
functions. -/
def CopiesAfresh (funcs : List (AbstractFunc σ ρ)) (executor : BaseFuncsExecutor σ ρ κ)
    (s : ExecState σ ρ) : Prop :=
  executor.copy.run s = (afresh cfgs recs funcs executor.cmd).run s

/-- **What is true when `exec` has made its checks**: every function is selected once and was
recorded once, in order, and none was executed. -/
structure SelectedOnce (funcs : List (AbstractFunc σ ρ)) (executor : BaseFuncsExecutor σ ρ κ)
    (s : ExecState σ ρ) : Prop where
  selected : ∃ ref, executor.selectedFuncs = some ref ∧ s.lists.data ref = funcs
  recorded : recorded s.log = funcs
  /-- The accumulated records are what the functions recorded, each once. -/
  checkRec : executor.checkRec = (records s.log).foldl recs.groupRecord ∅
  executed : executed s.log = []
  copy : CopiesAfresh cfgs recs funcs executor s

/-- **What is true when `exec` has come to its end**: every function was executed once, in order; if
one of them threw an exception, those before it and the one itself were. -/
structure ExecutedOnce (funcs : List (AbstractFunc σ ρ)) (executor : BaseFuncsExecutor σ ρ κ)
    (s : ExecState σ ρ) (execNum : Int32) : Prop where
  executed : ∀ s', (executor.runSelectedFuncs execNum).run s = .ok () s' → executed s'.log = funcs
  order : BaseExecutor.executed ((executor.runSelectedFuncs execNum).finalState s).log <+: funcs
  recorded : recorded ((executor.runSelectedFuncs execNum).finalState s).log = funcs
  copy : CopiesAfresh cfgs recs funcs executor ((executor.runSelectedFuncs execNum).finalState s)

section Once

variable {cfgs recs} {s₀ s : ExecState σ ρ} {funcs : List (AbstractFunc σ ρ)}
  {executor : BaseFuncsExecutor σ ρ κ}

/-- The run phase executes what is selected. -/
lemma SelectedOnce.executedOnce (h : SelectedOnce cfgs recs funcs executor s)
    (hbooks : Books recs funcs executor s) (execNum : Int32) :
    ExecutedOnce cfgs recs funcs executor s execNum := by
  obtain ⟨ref, href, hfuncs⟩ := h.selected
  obtain ⟨done, hprefix, hdone, hall⟩ := each_exec executor.cmd execNum funcs s
  have helements : (elements ref : Exec σ ρ _).run s = .ok funcs s := by
    rw [← hfuncs]
    rfl
  -- the hook at the end leaves the lists and the calls
  have hend : books ((executor.runSelectedFuncs execNum).finalState s) =
      (s.lists, s.log ++ done.map .exec) := by
    rw [BaseFuncsExecutor.runSelectedFuncs, href]
    simp only
    rw [EStateM.finalState_bind_of_ok helements]
    refine Eq.trans (@EStateM.finalState_bind_eq_of_leaves _ _ _ _ _ books _ _ ?_ s) hdone
    intro _ s'
    cases executor.function with
    | none => rfl
    | some function => exact finalState_onPlayer _ s'
  obtain ⟨hlists, hlog⟩ := Prod.mk.inj hend
  refine ⟨fun s' hreturn => ?_, ?_, ?_, ?_⟩
  · rw [EStateM.finalState_eq_of_ok hreturn] at hlog
    rw [BaseFuncsExecutor.runSelectedFuncs, href] at hreturn
    obtain ⟨funcs', s₁, hget, hreturn⟩ := EStateM.run_bind_eq_ok.mp hreturn
    obtain ⟨rfl, rfl⟩ : funcs = funcs' ∧ s = s₁ := by
      cases helements.symm.trans hget
      exact ⟨rfl, rfl⟩
    obtain ⟨⟨⟩, s₂, heach, -⟩ := EStateM.run_bind_eq_ok.mp hreturn
    rw [hlog, executed_append, h.executed, executed_map_exec, hall s₂ heach, List.nil_append]
  · rw [hlog, executed_append, h.executed, executed_map_exec, List.nil_append]
    exact hprefix
  · rw [hlog, recorded_append, h.recorded, recorded_map_exec, List.append_nil]
  · have hlt : executor.allFuncs <
        ((executor.runSelectedFuncs execNum).finalState s).lists.size := by
      rw [hlists]
      exact hbooks.all_lt
    exact Books.copy_run hlt (by rw [hlists, hbooks.all])

/-- The checks of `exec` select. -/
lemma Books.selectedOnce (h : Books recs funcs executor s)
    (hfixed : ∀ func ∈ funcs, cfgs func.steadyExecId = none) {checkDepot : Bool}
    {executor' : BaseFuncsExecutor σ ρ κ} {s' : ExecState σ ρ}
    (hchecks : (executor.checks cfgs recs checkDepot).run s = .ok executor' s') :
    Books recs funcs executor' s' ∧ SelectedOnce cfgs recs funcs executor' s' := by
  obtain ⟨s₂, hbooks₂, hselect⟩ := h.of_checks hchecks
  obtain ⟨hbooks', hpending, -, ref, href, hfuncs⟩ := hbooks₂.selectAndCheck hfixed hselect
  refine ⟨hbooks', ⟨ref, href, hfuncs⟩, ?_, hbooks'.checkRec, hbooks'.executed,
    Books.copy_run hbooks'.all_lt hbooks'.all⟩
  rw [hbooks'.recorded, href, Option.map_some, Option.getD_some, hfuncs]

/-- An execution that returns has executed every accepted function once, in order. -/
lemma Books.executed_of_exec (h : Books recs funcs executor s)
    (hfixed : ∀ func ∈ funcs, cfgs func.steadyExecId = none) {checkDepot : Bool} {execNum : Int32}
    {s' : ExecState σ ρ}
    (hrun : (executor.exec cfgs recs checkDepot execNum).run s = .ok () s') :
    BaseExecutor.executed s'.log = funcs := by
  obtain ⟨executor', s₁, hchecks, hexec⟩ := EStateM.run_bind_eq_ok.mp hrun
  obtain ⟨hbooks, hselected⟩ := h.selectedOnce hfixed hchecks
  exact (hselected.executedOnce hbooks execNum).executed s' hexec

/-- **Every accepted function is selected, recorded and executed once, in the order of acceptance**,
for every order of acceptances and selections with one execution at the end, as long as the checks
pass; and a copy is, at any time, what a new executor is that has accepted the same functions. -/
theorem exec_once {calls : List (Call σ ρ)}
    (hfixed : ∀ func ∈ accepted calls, cfgs func.steadyExecId = none) (hlog : s₀.log = [])
    (hcalls : (BaseFuncsExecutor.new >>= runCalls cfgs recs calls).run s₀ = .ok executor s) :
    CopiesAfresh cfgs recs (accepted calls) executor s ∧
      ∀ checkDepot executor' s',
        (executor.checks cfgs recs checkDepot).run s = .ok executor' s' →
          SelectedOnce cfgs recs (accepted calls) executor' s' ∧
            ∀ execNum, ExecutedOnce cfgs recs (accepted calls) executor' s' execNum := by
  obtain ⟨executor₁, s₁, hnew, hcalls⟩ := EStateM.run_bind_eq_ok.mp hcalls
  have hbooks : Books recs (accepted calls) executor s := by
    have h : Books recs ([] ++ accepted calls) executor s :=
      (Books.of_new hlog hnew).runCalls hfixed hcalls
    rwa [List.nil_append] at h
  refine ⟨Books.copy_run hbooks.all_lt hbooks.all, fun checkDepot executor' s' hchecks => ?_⟩
  obtain ⟨hbooks', hselected⟩ := hbooks.selectedOnce hfixed hchecks
  exact ⟨hselected, fun execNum => hselected.executedOnce hbooks' execNum⟩

end Once

/-- A function that costs `n` and adds `n`. -/
def costing (n : ℕ) : AbstractFunc ℕ ℕ where
  steadyExecId := 0
  depotCapacityChecker := none
  paramChecker := none
  record := pure (some [some n])
  exec _ _ := modify fun player => { player with others := player.others + n }

/-- Costs of one class, which never fail. -/
def sums : CheckRec ℕ ℕ Unit where
  getClass _ := ()
  accept oldRec rec := oldRec + rec
  check _ := pure ()

/-- Before anything was called. -/
def fresh : ExecState ℕ ℕ := ⟨⟨0, ⟨∅, ∅⟩, ⟨fun _ => 0⟩⟩, ⟨fun _ => [], 0⟩, []⟩

/-- A selection with nothing pending, and one before the second function is accepted. -/
def twoFuncs : List (Call ℕ ℕ) :=
  [.selectAndCheck, .acceptFunc (costing 1), .selectAndCheck, .acceptFunc (costing 2)]

/-- Whether a method returns. -/
def returns {ε τ β : Type} : EStateM.Result ε τ β → Bool
  | .ok _ _ => true
  | .error _ _ => false

/-- The calls return, and the functions are selected, recorded and executed once. -/
theorem exec_once_twoFuncs :
    ∃ executor s, (BaseFuncsExecutor.new >>= runCalls (fun _ => none) sums twoFuncs).run fresh =
        .ok executor s ∧
      CopiesAfresh (fun _ => none) sums [costing 1, costing 2] executor s ∧
      ∀ checkDepot executor' s',
        (executor.checks (fun _ => none) sums checkDepot).run s = .ok executor' s' →
          SelectedOnce (fun _ => none) sums [costing 1, costing 2] executor' s' ∧
            ∀ execNum, ExecutedOnce (fun _ => none) sums [costing 1, costing 2] executor' s'
              execNum := by
  have hreturns : returns ((BaseFuncsExecutor.new >>=
      runCalls (fun _ => none) sums twoFuncs).run fresh) = true := by decide +kernel
  cases hcalls : (BaseFuncsExecutor.new >>= runCalls (fun _ => none) sums twoFuncs).run fresh with
  | ok executor s => exact ⟨executor, s, rfl, exec_once (fun _ _ => rfl) rfl hcalls⟩
  | error e s =>
    rw [hcalls] at hreturns
    cases hreturns

end SrgpGame.BaseExecutor
