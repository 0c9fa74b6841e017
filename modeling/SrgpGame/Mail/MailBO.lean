import SrgpGame.Func.Executor

set_option autoImplicit false

/-!
# Picking the attachments of mails

A mail carries a list of attachments, which its owner picks once. A request names one mail or a
batch of mails; `pick` gives the attachments of all mails it accepts to one executor and marks the
mails when the executor has returned.

## Main definitions

* `MailVO`, `PlayerVO` — a mail, and a player with a mailbox.
* `FuncsExecutor` — the executor, in its two phases.
* `baseExecutor` — the executor of the functions modelled here, as one of these.
* `pickOne`, `pickMany` — the two requests of `MailBOImpl`, with `pickAll`, their common part.

## Design notes

What an attachment is and what it changes is left open: `ι` is the type of attachments and `σ` that
of everything else about the player. `granted` is no field of the source; it is the history of the
attachments that were granted, each with the id of the mail it came from. An attachment may be
granted although its function throws: `EventDepotBOImpl` books it first and then tells the
listeners, and one of these may throw. What `pick` does after the marks (the answer, the event, the
database) changes neither the mails nor the attachments and is left out.
-/

namespace SrgpGame.Mail

/-! ## Mails and their owner -/

/-- `MailVO`, as far as a pick reads or changes it. -/
structure MailVO (ι : Type) where
  /-- The attachments; may be missing. -/
  itemList : Option (List ι)
  /-- Whether the mail was read. -/
  read : Bool := false
  /-- Whether the attachments were picked. -/
  pick : Bool := false
  /-- The time before which a single pick is refused. -/
  limitDate : Int64 := 0

/-- The attachments of a mail, none when the list is missing. -/
def MailVO.items {ι : Type} (mailVO : MailVO ι) : List ι := mailVO.itemList.getD []

/-- A player: the mails by id, and everything else. -/
structure PlayerVO (ι σ : Type) where
  mailVOMap : AList fun _ : Int32 => MailVO ι
  /-- What attachments read and change. -/
  others : σ
  /-- The attachments granted so far, in order, each with the id of its mail. -/
  granted : List (Int32 × ι)

/-- The executor of attachments. -/
structure FuncsExecutor (ι σ : Type) where
  /-- Everything before the run phase: the selection and the checks. It may throw. -/
  selectAndCheck : List ι → EStateM Thrown σ Unit
  /-- One function of the run phase. It may throw. -/
  execFunc : ι → EStateM Thrown σ Unit
  /-- Whether something was given or taken between two states. -/
  gives : σ → σ → Bool

variable {ι σ : Type}

/-- A method on everything else than the mails. -/
def onOthers (x : EStateM Thrown σ Unit) : EStateM Thrown (PlayerVO ι σ) Unit := fun playerVO =>
  match x.run playerVO.others with
  | .ok _ others => .ok () { playerVO with others := others }
  | .error e others => .error e { playerVO with others := others }

/-! ## The executor of the modelled functions -/

/-- Whether two counts differ. -/
def differ {α : Type} [DecidableEq α] [OfNat α 0] (counts counts' : AList fun _ : Int32 => α) :
    Bool :=
  (counts.keys ++ counts'.keys).any fun key =>
    counts.getOrDefault key 0 ≠ counts'.getOrDefault key 0

/-- The executor of currencies, goods and guild money. -/
def baseExecutor (cfgs : Func.Configs) (depotBO : Func.DepotBO) :
    FuncsExecutor Func.AbstractFunc Func.ExecState where
  selectAndCheck funcs := do
    let _ ← Func.selectAndCheck cfgs funcs
  execFunc func := func.exec cfgs depotBO 1
  gives s s' := differ s.player.depotVO.goodsCounts s'.player.depotVO.goodsCounts ||
    differ s.player.depotVO.currencyMap s'.player.depotVO.currencyMap ||
    s.player.guild != s'.player.guild

/-- Functions under no guaranteed drop are all selected. Those made from attachments are under
none: their `steadyExecId` is never set. -/
lemma fix_eq_of_unfixed {cfgs : Func.Configs} {funcs : List Func.AbstractFunc}
    (h : ∀ f ∈ funcs, cfgs.fixedExec f.steadyExecId = none) : Func.fix cfgs funcs = pure funcs := by
  induction funcs with
  | nil => rfl
  | cons f funcs ih =>
    obtain ⟨hf, hfuncs⟩ := List.forall_mem_cons.mp h
    have hone : Func.fixOne cfgs f = pure true := by
      unfold Func.fixOne
      rw [hf]
    rw [Func.fix, hone, ih hfuncs]
    rfl

/-! ## Picking -/

/-- The attachments of the mails with the ids `mailIds`. -/
def accessories (playerVO : PlayerVO ι σ) (mailIds : List Int32) : List (Int32 × ι) :=
  mailIds.flatMap fun mailId =>
    ((playerVO.mailVOMap.lookup mailId).elim [] MailVO.items).map (mailId, ·)

/-- Marks a mail as picked and read. -/
def markPicked (playerVO : PlayerVO ι σ) (mailId : Int32) : PlayerVO ι σ :=
  match playerVO.mailVOMap.lookup mailId with
  | none => playerVO
  | some mailVO =>
    { playerVO with
      mailVOMap := playerVO.mailVOMap.insert mailId { mailVO with pick := true, read := true } }

/-- Executes one attachment. It is granted if its function returns, and also if this throws when it
has given something. -/
def grant (exec : FuncsExecutor ι σ) (accessory : Int32 × ι) :
    EStateM Thrown (PlayerVO ι σ) Unit := fun playerVO =>
  match (exec.execFunc accessory.2).run playerVO.others with
  | .ok _ others => .ok () { playerVO with
      others := others
      granted := playerVO.granted ++ [accessory] }
  | .error e others => .error e { playerVO with
      others := others
      granted := if exec.gives playerVO.others others then playerVO.granted ++ [accessory]
        else playerVO.granted }

/-- The common part of both requests: one executor for the attachments of all mails, and the marks
when it has returned. -/
def pickAll (exec : FuncsExecutor ι σ) (mailIds : List Int32) :
    EStateM Thrown (PlayerVO ι σ) Unit := do
  let playerVO ← get
  let funcs := accessories playerVO mailIds
  onOthers (exec.selectAndCheck (funcs.map Prod.snd))
  EStateM.each (grant exec) funcs
  modify fun playerVO => mailIds.foldl markPicked playerVO

/-- The checks of a single pick at the time `now`. -/
def checkPick (playerVO : PlayerVO ι σ) (now : Int64) (mailId : Int32) : Except Thrown Unit :=
  match playerVO.mailVOMap.lookup mailId with
  | none => CodeMail.mailNotFind.throwException
  | some mailVO => do
    CodeMail.mailAlreadyPick.throwIfTrue mailVO.pick
    CodeMail.mailEmptyAccessory.throwIfTrue (mailVO.items.length < 1)
    CodeMail.mailInLimit.throwIfTrue (now < mailVO.limitDate)

/-- `pick` of one mail. -/
def pickOne (exec : FuncsExecutor ι σ) (now : Int64) (mailId : Int32) :
    EStateM Thrown (PlayerVO ι σ) Unit := do
  EStateM.ofExcept fun playerVO => checkPick playerVO now mailId
  pickAll exec [mailId]

/-- The mails of a batch that are to be picked. Unknown mails, picked mails and mails without
attachments are passed over; a missing id throws. -/
def pickable (playerVO : PlayerVO ι σ) : List (Option Int32) → Except Thrown (List Int32)
  | [] => .ok []
  | none :: _ => .error .nullPointer
  | some mailId :: mailIds => do
    let rest ← pickable playerVO mailIds
    match playerVO.mailVOMap.lookup mailId with
    | none => return rest
    | some mailVO =>
      if mailVO.pick ∨ mailVO.items.length < 1 then return rest
      else return mailId :: rest

/-- The mails that a batch picks; the batch itself must be there. -/
def checkPicks (playerVO : PlayerVO ι σ) (mailIds : Option (List (Option Int32))) :
    Except Thrown (List Int32) :=
  match mailIds with
  | none => CodeMail.mailParamsError.throwException
  | some mailIds => do
    CodeMail.mailParamsError.throwIfTrue (mailIds.length < 1)
    pickable playerVO mailIds

/-- `pick` of a batch of mails. -/
def pickMany (exec : FuncsExecutor ι σ) (mailIds : Option (List (Option Int32))) :
    EStateM Thrown (PlayerVO ι σ) Unit := do
  let mailIds ← EStateM.ofExcept fun playerVO => checkPicks playerVO mailIds
  pickAll exec mailIds

end SrgpGame.Mail
