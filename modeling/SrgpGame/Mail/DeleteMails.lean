import SrgpGame.Lib.Method
import SrgpGame.Mail.MailBO

set_option autoImplicit false

/-!
# Deleting mails

A player deletes a list of mails. Each is taken out of the mailbox as soon as it is found to be one
that may be deleted; the rows of all of them are deleted at the end. A mail that may not be deleted
stops the method in between.

## Main definitions

* `Mails` — the mailbox of a player and the rows of its mails.
* `isDelete`, `collect`, `delete` — the method of `MailBOImpl` and its parts.
* `DeletesAllOrNothing` — what is wanted of a request.
* `listedMails` — the elements of a request that the method does not pass over.

## Main results

* `collect_returns`, `collect_throws` — how the loop ends.
* `delete_allOrNothing_iff` — when a request deletes all its mails or none.
-/

namespace SrgpGame.Mail

open EStateM

variable {ι : Type}

/-! ## The method -/

/-- The mails of a player in memory, and their rows in the store. -/
structure Mails (ι : Type) where
  mailVOMap : AList fun _ : Int32 => MailVO ι
  store : AList fun _ : Int32 => MailVO ι

/-- `isDelete`. A mail whose list of attachments is missing is an error. -/
def isDelete (mailVO : MailVO ι) : Except Thrown Bool :=
  match mailVO.itemList with
  | none => .error .nullPointer
  | some items => .ok (items.length ≤ 0 || mailVO.pick)

/-- The check of one mail. -/
def checkDelete (mailVO : MailVO ι) : Except Thrown Unit := do
  let deletable ← isDelete mailVO
  CodeMail.mailCanNotDeleteMail.throwIfTrue (deletable = false)

/-- The loop of `delete`: the mails that are taken out of the mailbox. -/
def collect : List (Option Int32) → EStateM Thrown (Mails ι) (List Int32)
  | [] => pure []
  | none :: _ => throw .nullPointer
  | some mailId :: mailIds => do
    let mails ← get
    match mails.mailVOMap.lookup mailId with
    | none => collect mailIds
    | some mailVO => do
      ofExcept fun _ => checkDelete mailVO
      modify fun mails => { mails with mailVOMap := mails.mailVOMap.erase mailId }
      let deletes ← collect mailIds
      pure (mailId :: deletes)

/-- **`delete`**. The rows are deleted when all mails have been taken out. -/
def delete (mailIds : Option (List (Option Int32))) : EStateM Thrown (Mails ι) (List Int32) :=
  match mailIds with
  | none => throw .nullPointer
  | some mailIds => do
    let deletes ← collect mailIds
    modify fun mails => { mails with
      store := deletes.foldl (fun store mailId => store.erase mailId) mails.store }
    pure deletes

/-! ## What is wanted -/

/-- The mails in memory are those in the store. -/
def Mails.Agree (mails : Mails ι) : Prop :=
  ∀ mailId, (mails.mailVOMap.lookup mailId).isSome = (mails.store.lookup mailId).isSome

/-- **All or nothing**: the request throws and changes nothing, or it takes exactly the listed mails
out of the mailbox and out of the store. In both cases these agree afterwards if they did before. -/
def DeletesAllOrNothing (mails : Mails ι) (mailIds : Option (List (Option Int32))) : Prop :=
  Atomic (fun _ => True)
    (fun mails' => ∃ listed, mailIds = some listed ∧
      (∀ mailId, mails'.mailVOMap.lookup mailId =
        if some mailId ∈ listed then none else mails.mailVOMap.lookup mailId) ∧
      ∀ mailId, mails'.store.lookup mailId =
        if some mailId ∈ listed ∧ (mails.mailVOMap.lookup mailId).isSome then none
        else mails.store.lookup mailId)
    (delete mailIds) mails ∧
  (mails.Agree → ((delete mailIds).finalState mails).Agree)

/-- A mail that may be deleted: its list of attachments is there, and nothing is left to pick. -/
def MailVO.Deletable (mailVO : MailVO ι) : Prop :=
  mailVO.itemList.isSome ∧ (mailVO.items = [] ∨ mailVO.pick)

/-- **The element is no obstacle**: it is there, and its mail may be deleted if there is one. -/
def Mails.Allows (mails : Mails ι) (mailId : Option Int32) : Prop :=
  ∃ id, mailId = some id ∧ ∀ mailVO ∈ mails.mailVOMap.lookup id, mailVO.Deletable

/-- The elements of a request that are not passed over: the mails that are there, and ids that are
missing. -/
def listedMails (mails : Mails ι) (mailIds : List (Option Int32)) : List (Option Int32) :=
  mailIds.filter fun mailId => mailId.elim true fun id => (mails.mailVOMap.lookup id).isSome

/-! ## The loop -/

section Loop

variable {mails : Mails ι} {mailId : Int32} {mailIds : List (Option Int32)}

/-- Takes a mail out of the mailbox. -/
def Mails.take (mails : Mails ι) (mailId : Int32) : Mails ι :=
  { mails with mailVOMap := mails.mailVOMap.erase mailId }

@[simp] lemma Mails.store_take : (mails.take mailId).store = mails.store := rfl

@[simp] lemma Mails.lookup_take (id : Int32) :
    (mails.take mailId).mailVOMap.lookup id =
      if id = mailId then none else mails.mailVOMap.lookup id :=
  AList.lookup_erase_ite _ _ _

/-- The check passes exactly for the mails that may be deleted. -/
lemma checkDelete_eq_ok {mailVO : MailVO ι} : checkDelete mailVO = .ok () ↔ mailVO.Deletable := by
  unfold checkDelete isDelete MailVO.Deletable MailVO.items
  cases mailVO.itemList with
  | none => simp [bind, Except.bind]
  | some items =>
    simp only [bind, Except.bind, ICode.throwIfTrue_eq_ok]
    simp [or_iff_not_imp_left]

/-- The loop comes to the mail that is read from the mailbox. -/
lemma run_collect_cons :
    (collect (some mailId :: mailIds)).run mails =
      ((mails.mailVOMap.lookup mailId).elim (collect mailIds) fun mailVO => do
        ofExcept fun _ => checkDelete mailVO
        modify fun mails => mails.take mailId
        let deletes ← collect mailIds
        pure (mailId :: deletes)).run mails := by
  rw [collect, run_bind]
  have hget : (get : EStateM Thrown (Mails ι) (Mails ι)).run mails = .ok mails mails := rfl
  rw [hget]
  dsimp only
  cases mails.mailVOMap.lookup mailId <;> rfl

/-- A mail that is not there is passed over. -/
lemma run_collect_of_none (h : mails.mailVOMap.lookup mailId = none) :
    (collect (some mailId :: mailIds)).run mails = (collect mailIds).run mails := by
  rw [run_collect_cons, h, Option.elim_none]

variable {mailVO : MailVO ι}

/-- A mail that may not be deleted stops the loop. -/
lemma run_collect_of_error {e : Thrown} (h : mails.mailVOMap.lookup mailId = some mailVO)
    (hcheck : checkDelete mailVO = .error e) :
    (collect (some mailId :: mailIds)).run mails = .error e mails := by
  rw [run_collect_cons, h, Option.elim_some, run_bind, run_ofExcept, hcheck]

/-- A mail that may be deleted is taken out. -/
lemma run_collect_of_ok (h : mails.mailVOMap.lookup mailId = some mailVO)
    (hcheck : checkDelete mailVO = .ok ()) :
    (collect (some mailId :: mailIds)).run mails =
      (do let deletes ← collect mailIds; pure (mailId :: deletes)).run (mails.take mailId) := by
  rw [run_collect_cons, h, Option.elim_some, run_bind, run_ofExcept, hcheck]
  rfl

/-- The loop puts no mail back. -/
lemma lookup_collect_of_none (hnone : mails.mailVOMap.lookup mailId = none) :
    ((collect mailIds).finalState mails).mailVOMap.lookup mailId = none := by
  induction mailIds generalizing mails with
  | nil => exact hnone
  | cons head mailIds ih =>
    cases head with
    | none => exact hnone
    | some id =>
      cases hlookup : mails.mailVOMap.lookup id with
      | none =>
        rw [finalState, run_collect_of_none hlookup]
        exact ih hnone
      | some mailVO =>
        cases hcheck : checkDelete mailVO with
        | error e =>
          rw [finalState, run_collect_of_error hlookup hcheck]
          exact hnone
        | ok u =>
          have hfinal : (collect (some id :: mailIds)).finalState mails =
              (collect mailIds).finalState (mails.take id) := by
            rw [finalState, run_collect_of_ok hlookup hcheck, run_bind, finalState]
            cases (collect mailIds).run (mails.take id) <;> rfl
          rw [hfinal]
          exact ih (by rw [Mails.lookup_take, hnone, ite_self])

/-- Without a mail that may be deleted the same elements are obstacles. -/
lemma allows_take (hdeletable : mailVO.Deletable)
    (hlookup : mails.mailVOMap.lookup mailId = some mailVO) {e : Option Int32} :
    (mails.take mailId).Allows e ↔ mails.Allows e := by
  unfold Mails.Allows
  refine exists_congr fun id => and_congr_right fun _ => ?_
  rw [Mails.lookup_take]
  rcases eq_or_ne id mailId with rfl | hid
  · simp [hlookup, hdeletable]
  · simp [hid]

/-- **The loop returns** if no element is an obstacle. -/
lemma collect_returns (h : ∀ e ∈ mailIds, mails.Allows e) :
    ∃ deletes mails', (collect mailIds).run mails = .ok deletes mails' ∧
      mails'.store = mails.store ∧
      (∀ id, mails'.mailVOMap.lookup id =
        if some id ∈ mailIds then none else mails.mailVOMap.lookup id) ∧
      ∀ id, id ∈ deletes ↔ some id ∈ mailIds ∧ (mails.mailVOMap.lookup id).isSome := by
  induction mailIds generalizing mails with
  | nil => exact ⟨[], mails, rfl, rfl, by simp, by simp⟩
  | cons head mailIds ih =>
    obtain ⟨⟨mailId, rfl, hdeletable⟩, hrest⟩ := List.forall_mem_cons.mp h
    cases hlookup : mails.mailVOMap.lookup mailId with
    | none =>
      obtain ⟨deletes, mails', hrun, hstore, hmails, hdeletes⟩ := ih hrest
      refine ⟨deletes, mails', (run_collect_of_none hlookup).trans hrun, hstore, ?_, ?_⟩
      · intro id
        rw [hmails]
        rcases eq_or_ne id mailId with rfl | hid
        · simp [hlookup]
        · simp [hid]
      · intro id
        rw [hdeletes]
        rcases eq_or_ne id mailId with rfl | hid
        · simp [hlookup]
        · simp [hid]
    | some mailVO =>
      have hcheck := checkDelete_eq_ok.mpr (hdeletable mailVO hlookup)
      obtain ⟨deletes, mails', hrun, hstore, hmails, hdeletes⟩ :=
        ih fun e he => (allows_take (hdeletable mailVO hlookup) hlookup).mpr (hrest e he)
      refine ⟨mailId :: deletes, mails', ?_, hstore, ?_, ?_⟩
      · rw [run_collect_of_ok hlookup hcheck, run_bind, hrun]
        rfl
      · intro id
        rw [hmails, Mails.lookup_take]
        rcases eq_or_ne id mailId with rfl | hid
        · simp
        · simp [hid]
      · intro id
        rw [List.mem_cons, hdeletes, Mails.lookup_take]
        rcases eq_or_ne id mailId with rfl | hid
        · simp [hlookup]
        · simp [hid]

/-- **The loop throws** at an obstacle; nothing was taken out just if there was nothing before it
that is not passed over. -/
lemma collect_throws (h : ¬∀ e ∈ mailIds, mails.Allows e) :
    ∃ e mails', (collect mailIds).run mails = .error e mails' ∧
      (mails' = mails ↔ ∃ first, (listedMails mails mailIds).head? = some first ∧
        ¬mails.Allows first) := by
  induction mailIds generalizing mails with
  | nil => exact absurd (fun e he => absurd he List.not_mem_nil) h
  | cons head mailIds ih =>
    cases head with
    | none =>
      refine ⟨.nullPointer, mails, rfl, iff_of_true rfl ⟨none, rfl, ?_⟩⟩
      rintro ⟨id, hid, -⟩
      cases hid
    | some mailId =>
      cases hlookup : mails.mailVOMap.lookup mailId with
      | none =>
        have hallows : mails.Allows (some mailId) := by
          refine ⟨mailId, rfl, fun mailVO hmail => ?_⟩
          rw [hlookup] at hmail
          cases hmail
        have hlisted : listedMails mails (some mailId :: mailIds) = listedMails mails mailIds := by
          simp [listedMails, hlookup]
        rw [run_collect_of_none hlookup, hlisted]
        exact ih fun hall => h (List.forall_mem_cons.mpr ⟨hallows, hall⟩)
      | some mailVO =>
        have hlisted : (listedMails mails (some mailId :: mailIds)).head? = some (some mailId) := by
          simp [listedMails, hlookup]
        rw [hlisted]
        cases hcheck : checkDelete mailVO with
        | error e =>
          refine ⟨e, mails, run_collect_of_error hlookup hcheck,
            iff_of_true rfl ⟨some mailId, rfl, ?_⟩⟩
          rintro ⟨id, hid, hdeletable⟩
          cases hid
          rw [checkDelete_eq_ok.mpr (hdeletable mailVO hlookup)] at hcheck
          cases hcheck
        | ok u =>
          -- the mail is taken out, and an obstacle is still to come
          have hdeletable := checkDelete_eq_ok.mp hcheck
          have hallows : mails.Allows (some mailId) := by
            refine ⟨mailId, rfl, fun mailVO' hmail => ?_⟩
            rw [hlookup] at hmail
            cases hmail
            exact hdeletable
          have hrest : ¬∀ e ∈ mailIds, (mails.take mailId).Allows e := by
            intro hall
            refine h (List.forall_mem_cons.mpr ⟨hallows, fun e he => ?_⟩)
            exact (allows_take hdeletable hlookup).mp (hall e he)
          obtain ⟨e, mails', hrun, -⟩ := ih hrest
          refine ⟨e, mails', ?_, iff_of_false ?_ ?_⟩
          · rw [run_collect_of_ok hlookup hcheck, run_bind, hrun]
          · rintro rfl
            have hgone := @lookup_collect_of_none _ (mails'.take mailId) mailId mailIds
              (by rw [Mails.lookup_take, if_pos rfl])
            rw [finalState_eq_of_error hrun, hlookup] at hgone
            cases hgone
          · rintro ⟨first, hfirst, hobstacle⟩
            cases hfirst
            exact hobstacle hallows

end Loop

/-! ## The whole request -/

section Request

variable {mails : Mails ι} {mailIds : List (Option Int32)}

lemma lookup_foldl_erase (deletes : List Int32) (store : AList fun _ : Int32 => MailVO ι)
    (id : Int32) :
    (deletes.foldl (fun store mailId => store.erase mailId) store).lookup id =
      if id ∈ deletes then none else store.lookup id := by
  induction deletes generalizing store with
  | nil => simp
  | cons mailId deletes ih =>
    rw [List.foldl_cons, ih, AList.lookup_erase_ite]
    rcases eq_or_ne id mailId with rfl | hid
    · simp
    · simp [hid]

/-- The mailbox and the store agree if the same mails were taken out of both. -/
lemma agree_of_lookup {mails' : Mails ι}
    (hmails : ∀ id, mails'.mailVOMap.lookup id =
      if some id ∈ mailIds then none else mails.mailVOMap.lookup id)
    (hstore : ∀ id, mails'.store.lookup id =
      if some id ∈ mailIds ∧ (mails.mailVOMap.lookup id).isSome then none
      else mails.store.lookup id)
    (hagree : mails.Agree) : mails'.Agree := by
  intro id
  rw [hmails, hstore]
  have hid := hagree id
  by_cases hlisted : some id ∈ mailIds
  · by_cases hknown : (mails.mailVOMap.lookup id).isSome
    · simp [hlisted, hknown]
    · simp_all
  · simp [hlisted, hid]

/-- A request without an obstacle does what is wanted. -/
lemma allOrNothing_of_allows (h : ∀ e ∈ mailIds, mails.Allows e) :
    DeletesAllOrNothing mails (some mailIds) := by
  obtain ⟨deletes, mails', hrun, hstore, hmails, hdeletes⟩ := collect_returns h
  have hdelete : (delete (some mailIds)).run mails = .ok deletes { mails' with
      store := deletes.foldl (fun store mailId => store.erase mailId) mails'.store } := by
    rw [delete, run_bind, hrun]
    rfl
  have hrows : ∀ id,
      (deletes.foldl (fun store mailId => store.erase mailId) mails'.store).lookup id =
        if some id ∈ mailIds ∧ (mails.mailVOMap.lookup id).isSome then none
        else mails.store.lookup id := by
    intro id
    rw [lookup_foldl_erase, hstore]
    simp only [hdeletes]
  refine ⟨Atomic.of_run_eq_ok hdelete ⟨mailIds, rfl, hmails, hrows⟩, fun hagree => ?_⟩
  rw [finalState_eq_of_ok hdelete]
  exact agree_of_lookup hmails hrows hagree

/-- **When a request deletes all its mails or none**: the list is missing, or no element of it is an
obstacle, or the first one that is not passed over is. -/
theorem delete_allOrNothing_iff (mails : Mails ι) (mailIds : Option (List (Option Int32))) :
    DeletesAllOrNothing mails mailIds ↔
      ∀ listed ∈ mailIds, (∀ mailId ∈ listed, mails.Allows mailId) ∨
        ∃ first, (listedMails mails listed).head? = some first ∧ ¬mails.Allows first := by
  cases mailIds with
  | none =>
    refine iff_of_true ⟨⟨trivial, rfl⟩, id⟩ fun listed h => ?_
    cases h
  | some listed =>
    simp only [Option.mem_some_iff, forall_eq']
    by_cases hallows : ∀ mailId ∈ listed, mails.Allows mailId
    · exact iff_of_true (allOrNothing_of_allows hallows) (.inl hallows)
    · obtain ⟨e, mails', hrun, hsame⟩ := collect_throws hallows
      have hdelete : (delete (some listed)).run mails = .error e mails' := by
        rw [delete, run_bind, hrun]
      rw [or_iff_right hallows, ← hsame]
      constructor
      · rintro ⟨hatomic, -⟩
        exact (hatomic.of_run_eq_error hdelete).2
      · rintro rfl
        refine ⟨?_, fun hagree => ?_⟩
        · unfold Atomic
          rw [hdelete]
          exact ⟨trivial, rfl⟩
        · rw [finalState_eq_of_error hdelete]
          exact hagree

/-- A mailbox with two mails: the first has nothing attached, the second has an attachment that was
not picked. -/
def twoMails : AList fun _ : Int32 => MailVO Unit :=
  AList.insert 2 { itemList := some [()] } (AList.insert 1 { itemList := some [] } ∅)

/-- **A mail that may not be deleted, after one that may**: the first is gone from the mailbox and
still in the store. -/
theorem delete_half :
    ¬DeletesAllOrNothing ⟨twoMails, twoMails⟩ (some [some 1, some 2]) := by
  rintro ⟨-, hagree⟩
  have hafter : ((delete (some [some 1, some 2])).finalState
      (⟨twoMails, twoMails⟩ : Mails Unit)).Agree := hagree fun _ => rfl
  have hfirst : false = true := hafter 1
  cases hfirst

end Request

end SrgpGame.Mail
