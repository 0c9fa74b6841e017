import SrgpGame.Core.Codes
import SrgpGame.Lib.Batches
import SrgpGame.Lib.Runs

set_option autoImplicit false

/-!
# The behaviours of a quest that was accepted

A quest that was accepted has two lists of behaviours. Those of the one are executed when its finish
conditions are met, those of the other when the player commits it. The functions of a behaviour may
raise events while they are executed, and an event may tell again that the conditions are met: then
behaviours are executed while others are being executed. A behaviour is marked when all functions of
its run have returned.

## Main definitions

* `QuestProcVO` — what is recorded of the behaviours.
* `tryBehavs` — the behaviours whose functions can be executed together.
* `Handling` — a quest, and the runs of `execBehavs` that are going on.
* `questFinCditsSatisfied`, `commit`, `next` — what happens to it.
* `CalledOnce`, `RecordedRight` — what is required.
* `Allowed` — what a step must not do.

## Main results

* `executedOnce_run` — if no step does it, all is right throughout a run.

## Design notes

Of a function only its place in the list of its behaviour is known, and that it returns or throws.
What is thrown in a run that is going on inside another one may be caught on the way, so the
function of the outer run goes on, and may throw as well. A quest that is finished or reset is no
longer found by events, but the runs that are going on keep its progress. Which check phases pass,
and which of the functions the guaranteed drops leave out, is given with a step.
-/

namespace SrgpGame.QuestBO

open Batches (Batch Books Sound)

/-- The two lists of behaviours. -/
inductive BehavLst where
  | auto
  | manual
  deriving DecidableEq, Repr

/-- `AQuestCfg`: the functions of the behaviours (`BehavCfg.getFuncs`), which are of type `φ`. -/
structure AQuestCfg (φ : Type) where
  autoBehavLst : List (List φ)
  manualBehavLst : List (List φ)

/-- The behaviours of a list. -/
def AQuestCfg.behavLst {φ : Type} (cfg : AQuestCfg φ) : BehavLst → List (List φ)
  | .auto => cfg.autoBehavLst
  | .manual => cfg.manualBehavLst

/-! ## What is recorded -/

/-- `QuestProcVO`: for each behaviour, whether it was executed (`BooleanRecProcItemVO.isRec`). -/
structure QuestProcVO where
  autoBehavProcs : List Bool
  manualBehavProcs : List Bool
  deriving DecidableEq, Repr

namespace QuestProcVO

/-- `new QuestProcVO(cfg, qHolder)`. -/
def create {φ : Type} (cfg : AQuestCfg φ) : QuestProcVO :=
  ⟨cfg.autoBehavLst.map fun _ => false, cfg.manualBehavLst.map fun _ => false⟩

/-- The progress of a list. -/
def behavProcs (vo : QuestProcVO) : BehavLst → List Bool
  | .auto => vo.autoBehavProcs
  | .manual => vo.manualBehavProcs

/-- Whether a behaviour was executed. -/
def isRec (vo : QuestProcVO) (key : BehavLst × ℕ) : Bool :=
  (vo.behavProcs key.1)[key.2]?.getD false

/-- `isAutoBehavFin`. -/
def isAutoBehavFin (vo : QuestProcVO) : Bool := vo.autoBehavProcs.all id

/-- `isManualBehavFin`. -/
def isManualBehavFin (vo : QuestProcVO) : Bool := vo.manualBehavProcs.all id

/-- `allBehavFin`. -/
def allBehavFin (vo : QuestProcVO) : Bool := vo.isAutoBehavFin && vo.isManualBehavFin

/-- `BProcBasic.execBehavRec`: marks a behaviour. -/
def execBehavRec (vo : QuestProcVO) : BehavLst × ℕ → QuestProcVO
  | (.auto, ix) => { vo with autoBehavProcs := vo.autoBehavProcs.set ix true }
  | (.manual, ix) => { vo with manualBehavProcs := vo.manualBehavProcs.set ix true }

end QuestProcVO

/-! ## A run of `execBehavs` -/

/-- The loop over the behaviours: those that were executed are passed over, and of the others those
are taken with which, after the ones taken so far, the check phase passes. -/
def tryBehavs (passes : List ℕ → ℕ → Bool) (behavProcs : List Bool) : List ℕ :=
  (List.range behavProcs.length).foldl (fun execBehavIxs ix =>
    if behavProcs[ix]?.getD false then execBehavIxs
    else if passes execBehavIxs ix then execBehavIxs ++ [ix] else execBehavIxs) []

/-- What the check phases of a run of `execBehavs` come to. -/
structure Checks where
  /-- Whether the check phase passes for one more behaviour. -/
  passes : List ℕ → ℕ → Bool
  /-- What is thrown before the first function is executed; or which functions of which behaviours
  are selected. -/
  selected : Except Thrown (ℕ → ℕ → Bool)

/-- A quest that was accepted, and what goes on in it. -/
structure Handling where
  qProcVO : QuestProcVO
  /-- Whether it is found by `getQuestProcByCid`. -/
  onProc : Bool
  /-- The runs of `execBehavs`, each inside the next one. The last function that was begun in a run
  is being executed. -/
  execs : List (Batch (BehavLst × ℕ) ℕ)
  /-- How often each function was executed; the code keeps no such number. -/
  called : (BehavLst × ℕ) × ℕ → ℕ
  /-- The functions of a behaviour that were selected in the run that marked it; nor does it keep
  these. -/
  selected : BehavLst × ℕ → List ℕ

/-- **A quest is accepted.** -/
def accepted {φ : Type} (cfg : AQuestCfg φ) : Handling :=
  ⟨.create cfg, true, [], fun _ => 0, fun _ => []⟩

namespace Handling

variable (h : Handling)

/-- `finishQuest`, if all behaviours were executed. -/
def finish : Handling := if h.qProcVO.allBehavFin then { h with onProc := false } else h

/-- Marks the behaviours of a run. -/
def execBehavRecs (exec : Batch (BehavLst × ℕ) ℕ) : Handling :=
  { h with
    qProcVO := exec.keys.foldl QuestProcVO.execBehavRec h.qProcVO
    selected := fun key => if key ∈ exec.keys then exec.items key else h.selected key }

/-- **`runSelectedFuncs`**, from one function to the next; after the last one the behaviours are
marked. -/
def next : Handling :=
  match h.execs with
  | [] => h
  | exec :: execs =>
    match exec.left with
    | func :: left =>
      { h with
        execs := exec.begin func left :: execs
        called := Function.update h.called func (h.called func + 1) }
    | [] => ({ h with execs := execs }.execBehavRecs exec).finish

/-- What follows on an exception: `execBehavs` catches a `LogicException`. -/
def caught : Thrown → Handling
  | .logic _ => h.finish
  | _ => h

variable {φ : Type} (cfg : AQuestCfg φ)

/-- The functions of a behaviour that are selected. -/
def selectedFuncs (selected : ℕ → ℕ → Bool) (key : BehavLst × ℕ) : List ℕ :=
  (List.range (((cfg.behavLst key.1)[key.2]?.map List.length).getD 0)).filter (selected key.2)

/-- **`execBehavs`**, up to its first function. -/
def execBehavs (lst : BehavLst) (checks : Checks) : Handling :=
  match checks.selected with
  | .error e => h.caught e
  | .ok selected =>
    let execBehavIxs := tryBehavs checks.passes (h.qProcVO.behavProcs lst)
    { h with
      execs :=
        .start (execBehavIxs.map (Prod.mk lst)) (selectedFuncs cfg selected) :: h.execs }.next

/-- **`questFinCditsSatisfied`**, for an event of the quest. -/
def questFinCditsSatisfied (checks : Checks) : Handling :=
  -- a quest that is not found is dereferenced
  if !h.onProc then h
  else if h.qProcVO.isAutoBehavFin then h.finish
  else h.execBehavs cfg .auto checks

/-- **`commit`.** -/
def commit (finCditsSatisfied : Bool) (checks : Checks) : Handling :=
  if !h.onProc then h
  else if h.qProcVO.isManualBehavFin then h
  else if !finCditsSatisfied then h
  else h.execBehavs cfg .manual checks

/-- A function throws: the run ends without a mark. -/
def throws (e : Thrown) : Handling := { h with execs := h.execs.tail }.caught e

end Handling

/-- What happens to a quest. -/
inductive Action where
  /-- An event tells that its finish conditions are met. -/
  | finCditsSatisfied (checks : Checks)
  /-- The player commits it. -/
  | commit (finCditsSatisfied : Bool) (checks : Checks)
  /-- The function that is being executed returns. -/
  | returns
  /-- The function that is being executed throws. -/
  | throws (e : Thrown)
  /-- It is removed by a reset (`update`). -/
  | update

/-- One step. A request waits until no function is being executed. -/
def step {φ : Type} (cfg : AQuestCfg φ) (h : Handling) : Action → Handling
  | .finCditsSatisfied checks => h.questFinCditsSatisfied cfg checks
  | .commit finCditsSatisfied checks =>
    if h.execs.isEmpty then h.commit cfg finCditsSatisfied checks else h
  | .returns => h.next
  | .throws e => if h.execs.isEmpty then h else h.throws e
  | .update => { h with onProc := false }

/-! ## What is required -/

/-- **No function is executed twice.** -/
def CalledOnce (h : Handling) : Prop := ∀ func, h.called func ≤ 1

/-- **When nothing goes on**, the functions selected of the behaviours that are marked were
executed, and none of the others. -/
def RecordedRight (h : Handling) : Prop :=
  h.execs = [] → ∀ lst ix (executed : Bool), (h.qProcVO.behavProcs lst)[ix]? = some executed → ∀ i,
    h.called ((lst, ix), i) = if executed ∧ i ∈ h.selected (lst, ix) then 1 else 0

/-- **A step is allowed**: no run takes a behaviour that another run has taken which is going on,
and no function throws. -/
def Allowed (h : Handling) : Action → Prop
  | .finCditsSatisfied checks => h.onProc = true → (∃ selected, checks.selected = .ok selected) →
      ∀ ix ∈ tryBehavs checks.passes h.qProcVO.autoBehavProcs, ∀ exec ∈ h.execs,
        (.auto, ix) ∉ exec.keys
  | .throws _ => h.execs = []
  | _ => True

/-! ## The behaviours of a run -/

section Loop

variable {passes : List ℕ → ℕ → Bool} {behavProcs : List Bool}

variable (passes behavProcs) in
/-- The behaviours that the loop takes are some of those that were not executed, in their order. -/
lemma foldl_tryBehavs_sublist (ixs taken : List ℕ) :
    ∃ more, ixs.foldl (fun execBehavIxs ix =>
        if behavProcs[ix]?.getD false then execBehavIxs
        else if passes execBehavIxs ix then execBehavIxs ++ [ix] else execBehavIxs) taken =
      taken ++ more ∧ more.Sublist (ixs.filter fun ix => !behavProcs[ix]?.getD false) := by
  induction ixs generalizing taken with
  | nil => exact ⟨[], (List.append_nil taken).symm, List.Sublist.refl []⟩
  | cons ix ixs ih =>
    rw [List.foldl_cons]
    by_cases hexecuted : behavProcs[ix]?.getD false = true
    · rw [if_pos hexecuted, List.filter_cons_of_neg (by simp [hexecuted])]
      exact ih taken
    · rw [if_neg hexecuted, List.filter_cons_of_pos (by simp [hexecuted])]
      split_ifs with hpasses
      · obtain ⟨more, hmore, hsublist⟩ := ih (taken ++ [ix])
        refine ⟨ix :: more, ?_, hsublist.cons_cons ix⟩
        rw [hmore, List.append_assoc, List.singleton_append]
      · obtain ⟨more, hmore, hsublist⟩ := ih taken
        exact ⟨more, hmore, hsublist.cons ix⟩

lemma tryBehavs_sublist : (tryBehavs passes behavProcs).Sublist
    ((List.range behavProcs.length).filter fun ix => !behavProcs[ix]?.getD false) := by
  obtain ⟨more, hmore, hsublist⟩ :=
    foldl_tryBehavs_sublist passes behavProcs (List.range behavProcs.length) []
  rw [tryBehavs, hmore]
  exact hsublist

lemma nodup_tryBehavs : (tryBehavs passes behavProcs).Nodup :=
  tryBehavs_sublist.nodup (List.nodup_range.filter _)

/-- A behaviour that is taken was not executed. -/
lemma of_mem_tryBehavs {ix : ℕ} (h : ix ∈ tryBehavs passes behavProcs) :
    ix < behavProcs.length ∧ behavProcs[ix]?.getD false = false := by
  have hmem := tryBehavs_sublist.subset h
  rw [List.mem_filter, List.mem_range, Bool.not_eq_true'] at hmem
  exact hmem

end Loop

/-! ## The marks -/

section Marks

variable (vo : QuestProcVO) (keys : List (BehavLst × ℕ)) (lst : BehavLst)

lemma behavProcs_execBehavRec (key : BehavLst × ℕ) : (vo.execBehavRec key).behavProcs lst =
    if key.1 = lst then (vo.behavProcs lst).set key.2 true else vo.behavProcs lst := by
  obtain ⟨lst', ix⟩ := key
  cases lst' <;> cases lst <;> rfl

lemma length_foldl_execBehavRec :
    ((keys.foldl QuestProcVO.execBehavRec vo).behavProcs lst).length =
      (vo.behavProcs lst).length := by
  induction keys generalizing vo with
  | nil => rfl
  | cons key keys ih =>
    rw [List.foldl_cons, ih, behavProcs_execBehavRec]
    split_ifs
    · rw [List.length_set]
    · rfl

lemma isRec_execBehavRec {key : BehavLst × ℕ} (hkey : key.2 < (vo.behavProcs key.1).length)
    (key' : BehavLst × ℕ) :
    (vo.execBehavRec key).isRec key' = if key' = key then true else vo.isRec key' := by
  rw [QuestProcVO.isRec, behavProcs_execBehavRec]
  by_cases heq : key' = key
  · subst heq
    rw [if_pos rfl, if_pos rfl, List.getElem?_set_self hkey, Option.getD_some]
  · rw [if_neg heq]
    split_ifs with hlst
    · have hne : key.2 ≠ key'.2 := fun hix => heq (Prod.ext hlst.symm hix.symm)
      rw [List.getElem?_set_ne hne, QuestProcVO.isRec]
    · rfl

/-- **What is marked** after a run: what was marked before, and its behaviours. -/
lemma isRec_foldl_execBehavRec (hkeys : ∀ key ∈ keys, key.2 < (vo.behavProcs key.1).length)
    (key : BehavLst × ℕ) : (keys.foldl QuestProcVO.execBehavRec vo).isRec key =
      if key ∈ keys then true else vo.isRec key := by
  induction keys generalizing vo with
  | nil => rw [List.foldl_nil, if_neg List.not_mem_nil]
  | cons key' keys ih =>
    obtain ⟨hkey', hkeys⟩ := List.forall_mem_cons.mp hkeys
    have hrest : ∀ key ∈ keys, key.2 < ((vo.execBehavRec key').behavProcs key.1).length := by
      intro key hkey
      have hlength := length_foldl_execBehavRec vo [key'] key.1
      exact hlength ▸ hkeys key hkey
    rw [List.foldl_cons, ih _ hrest, isRec_execBehavRec vo hkey']
    by_cases hmem : key ∈ keys
    · rw [if_pos hmem, if_pos (List.mem_cons_of_mem _ hmem)]
    · rw [if_neg hmem]
      by_cases heq : key = key'
      · rw [if_pos heq, if_pos (heq ▸ List.mem_cons_self)]
      · rw [if_neg heq, if_neg fun h => (List.mem_cons.mp h).elim heq hmem]

end Marks

/-! ## The books of a quest -/

/-- The behaviours that are marked, with their functions that were selected, and how often each was
executed. -/
def Handling.books (h : Handling) : Books (BehavLst × ℕ) ℕ where
  entered key := if h.qProcVO.isRec key then some (h.selected key) else none
  count := h.called

/-- **The books of a quest are right**, with the runs that are going on. -/
structure Inv (h : Handling) : Prop where
  sound : Sound h.books h.execs
  lt_length : ∀ exec ∈ h.execs, ∀ key ∈ exec.keys, key.2 < (h.qProcVO.behavProcs key.1).length

variable {φ : Type} {cfg : AQuestCfg φ} {h : Handling}

/-- **The marks are entered in the books.** -/
lemma books_execBehavRecs {exec : Batch (BehavLst × ℕ) ℕ}
    (hlt : ∀ key ∈ exec.keys, key.2 < (h.qProcVO.behavProcs key.1).length) :
    (h.execBehavRecs exec).books = h.books.enter exec := by
  have hentered : (h.execBehavRecs exec).books.entered = (h.books.enter exec).entered := by
    funext key
    have hrec : (h.execBehavRecs exec).qProcVO.isRec key =
        if key ∈ exec.keys then true else h.qProcVO.isRec key :=
      isRec_foldl_execBehavRec _ _ hlt key
    have hbefore : (h.execBehavRecs exec).books.entered key =
        if (h.execBehavRecs exec).qProcVO.isRec key then
          some (if key ∈ exec.keys then exec.items key else h.selected key) else none := rfl
    rw [hbefore, hrec, Batches.entered_enter]
    by_cases hkey : key ∈ exec.keys
    · rw [if_pos hkey, if_pos hkey, if_pos hkey, if_pos rfl]
    · rw [if_neg hkey, if_neg hkey, if_neg hkey]
      rfl
  show (⟨(h.execBehavRecs exec).books.entered, h.called⟩ : Books (BehavLst × ℕ) ℕ) = _
  rw [hentered]
  rfl

lemma inv_accepted (cfg : AQuestCfg φ) : Inv (accepted cfg) where
  sound := by
    have hbooks : (accepted cfg).books = Books.empty := by
      have hentered : (accepted cfg).books.entered = fun _ => none := by
        funext key
        obtain ⟨lst, ix⟩ := key
        have hnone : ∀ l : List (List φ), (l.map fun _ => false)[ix]?.getD false = false := by
          intro l
          rw [List.getElem?_map]
          cases l[ix]? <;> rfl
        have hproc : (accepted cfg).qProcVO.isRec (lst, ix) = false := by
          cases lst
          · exact hnone cfg.autoBehavLst
          · exact hnone cfg.manualBehavLst
        exact if_neg (by rw [Bool.not_eq_true]; exact hproc)
      show (⟨(accepted cfg).books.entered, fun _ => 0⟩ : Books (BehavLst × ℕ) ℕ) = _
      rw [hentered]
      rfl
    rw [hbooks]
    exact Batches.sound_empty
  lt_length := nofun

/-- Whether the quest is found makes no difference. -/
lemma Inv.onProc (hinv : Inv h) (onProc : Bool) : Inv { h with onProc := onProc } :=
  ⟨hinv.sound, hinv.lt_length⟩

lemma Inv.finish (hinv : Inv h) : Inv h.finish := by
  unfold Handling.finish
  split_ifs
  · exact hinv.onProc false
  · exact hinv

lemma Inv.caught (hinv : Inv h) (e : Thrown) : Inv (h.caught e) := by
  cases e with
  | logic code => exact hinv.finish
  | nullPointer => exact hinv
  | illegalArgument => exact hinv
  | arithmetic => exact hinv
  | indexOutOfBounds => exact hinv

/-- **A function returns**: the next one is executed, or the behaviours are marked. -/
lemma Inv.next (hinv : Inv h) : Inv h.next := by
  unfold Handling.next
  cases hexecs : h.execs with
  | nil => exact hinv
  | cons exec execs =>
    have hsound := hinv.sound
    rw [hexecs] at hsound
    obtain ⟨hlt, hlts⟩ := List.forall_mem_cons.mp (hexecs ▸ hinv.lt_length)
    cases hleft : exec.left with
    | cons func left =>
      simp only [hleft]
      exact ⟨hsound.begin hleft, List.forall_mem_cons.mpr ⟨hlt, hlts⟩⟩
    | nil =>
      simp only [hleft]
      refine Inv.finish ⟨?_, ?_⟩
      · have hbooks := @books_execBehavRecs { h with execs := execs } exec hlt
        rw [hbooks]
        exact hsound.close hleft
      · intro exec' hexec' key hkey
        have hlength := length_foldl_execBehavRec h.qProcVO exec.keys key.1
        exact hlength ▸ hlts exec' hexec' key hkey

/-- **A run is started** on behaviours that no run has taken which is going on. -/
lemma Inv.execBehavs (hinv : Inv h) (lst : BehavLst) (checks : Checks)
    (hfree : (∃ selected, checks.selected = .ok selected) →
      ∀ ix ∈ tryBehavs checks.passes (h.qProcVO.behavProcs lst), ∀ exec ∈ h.execs,
        (lst, ix) ∉ exec.keys) : Inv (h.execBehavs cfg lst checks) := by
  unfold Handling.execBehavs
  cases hselected : checks.selected with
  | error e => exact hinv.caught e
  | ok selected =>
    simp only
    refine Inv.next ⟨?_, List.forall_mem_cons.mpr ⟨?_, hinv.lt_length⟩⟩
    · refine hinv.sound.start ?_ ?_ ?_ ?_
      · exact nodup_tryBehavs.map fun ix ix' heq => (Prod.mk.inj heq).2
      · intro key hkey
        obtain ⟨ix, hix, rfl⟩ := List.mem_map.mp hkey
        exact if_neg (by rw [Bool.not_eq_true]; exact (of_mem_tryBehavs hix).2)
      · intro key hkey exec hexec
        obtain ⟨ix, hix, rfl⟩ := List.mem_map.mp hkey
        exact hfree ⟨selected, hselected⟩ ix hix exec hexec
      · intro key _
        exact List.nodup_range.filter _
    · intro key hkey
      obtain ⟨ix, hix, rfl⟩ := List.mem_map.mp hkey
      exact (of_mem_tryBehavs hix).1

/-- **A step that is allowed** keeps the books right. -/
lemma Inv.step (hinv : Inv h) {action : Action} (hallowed : Allowed h action) :
    Inv (step cfg h action) := by
  cases action with
  | finCditsSatisfied checks =>
    show Inv (h.questFinCditsSatisfied cfg checks)
    unfold Handling.questFinCditsSatisfied
    split_ifs with hon hfin
    · exact hinv
    · exact hinv.finish
    · exact hinv.execBehavs .auto checks (hallowed (by simpa using hon))
  | commit finCditsSatisfied checks =>
    show Inv (if h.execs.isEmpty then h.commit cfg finCditsSatisfied checks else h)
    unfold Handling.commit
    split_ifs with hidle hon hfin hcdits
    · exact hinv
    · exact hinv
    · exact hinv
    · refine hinv.execBehavs .manual checks fun _ ix _ exec hexec => ?_
      rw [List.isEmpty_iff.mp hidle] at hexec
      cases hexec
    · exact hinv
  | returns => exact hinv.next
  | throws e =>
    show Inv (if h.execs.isEmpty then h else h.throws e)
    rw [if_pos (List.isEmpty_iff.mpr hallowed)]
    exact hinv
  | update => exact hinv.onProc false

/-! ## The result -/

/-- **Books that are right** say what is required. -/
lemma Inv.right (hinv : Inv h) : CalledOnce h ∧ RecordedRight h := by
  refine ⟨hinv.sound.count_le_one, fun hidle lst ix executed hexecuted i => ?_⟩
  have hrec : h.qProcVO.isRec (lst, ix) = executed := by
    show (h.qProcVO.behavProcs lst)[ix]?.getD false = executed
    rw [hexecuted, Option.getD_some]
  cases executed with
  | true =>
    obtain ⟨hnodup, hcount⟩ := hinv.sound.entered (if_pos hrec)
    have hcalled : h.called ((lst, ix), i) = (h.selected (lst, ix)).count i := hcount i
    rw [hcalled, hnodup.count]
    simp only [true_and]
  | false =>
    have hnone : h.books.entered (lst, ix) = none := if_neg (Bool.not_eq_true _ ▸ hrec)
    have hfree : ∀ exec ∈ h.execs, (lst, ix) ∉ exec.keys := by
      intro exec hexec
      rw [hidle] at hexec
      cases hexec
    rw [if_neg fun h => Bool.false_ne_true h.1]
    exact hinv.sound.idle hnone hfree i

/-- **Behaviours are executed once**, and those are marked that were executed, throughout every run
in which no run of `execBehavs` takes a behaviour that another one has taken which is going on, and
no function throws. -/
theorem executedOnce_run {φ : Type} (cfg : AQuestCfg φ) (actions : List Action)
    (hallowed : Runs.EveryStep (step cfg) Allowed (accepted cfg) actions) :
    CalledOnce (Runs.run (step cfg) (accepted cfg) actions) ∧
      RecordedRight (Runs.run (step cfg) (accepted cfg) actions) :=
  (Runs.state_inv_run Inv (fun _ _ hinv hstep => hinv.step hstep) (inv_accepted cfg) hallowed).right

/-- One automatic behaviour with one function, and one with two. -/
def twoBehavs : AQuestCfg Unit := ⟨[[()], [(), ()]], []⟩

/-- The check phase passes for one behaviour only. -/
def only (ix : ℕ) : Checks := ⟨fun _ ix' => ix' == ix, .ok fun _ _ => true⟩

/-- The second behaviour is executed inside the first one. -/
theorem executedOnce_run_inside :
    CalledOnce (Runs.run (step twoBehavs) (accepted twoBehavs)
        [.finCditsSatisfied (only 0), .finCditsSatisfied (only 1), .returns, .returns, .returns]) ∧
      RecordedRight (Runs.run (step twoBehavs) (accepted twoBehavs)
        [.finCditsSatisfied (only 0), .finCditsSatisfied (only 1), .returns, .returns,
          .returns]) := by
  refine executedOnce_run twoBehavs _ ⟨?_, ?_, trivial, trivial, trivial, trivial⟩
  · rintro - - ix - exec ⟨⟩
  · rintro - - ix hix exec hexec
    obtain rfl : ix = 1 := List.mem_singleton.mp hix
    obtain rfl := List.mem_singleton.mp hexec
    decide

/-- **Not so in every run**: an event raised by the function of a behaviour executes the behaviour
again; and when its second function throws, the first one was executed and nothing is marked. -/
theorem not_executedOnce :
    ¬ CalledOnce (Runs.run (step twoBehavs) (accepted twoBehavs)
        [.finCditsSatisfied (only 0), .finCditsSatisfied (only 0), .returns, .returns]) ∧
      ¬ RecordedRight (Runs.run (step twoBehavs) (accepted twoBehavs)
        [.finCditsSatisfied (only 1), .returns, .throws .nullPointer]) := by
  constructor
  · intro h
    exact absurd (h ((.auto, 0), 0)) (by decide)
  · intro h
    exact absurd (h (by decide) .auto 1 false (by decide) 0) (by decide)

end SrgpGame.QuestBO
