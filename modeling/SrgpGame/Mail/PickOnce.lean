import SrgpGame.Lib.Runs
import SrgpGame.Mail.MailBO

set_option autoImplicit false

/-!
# Is every mail picked once?

The batch pick tests each mail when it collects the attachments and marks it after all of them have
been executed. This file says what should hold of a mailbox after any sequence of requests, and
for which sequences it does.

## Main definitions

* `PickRequest`, `PickRequest.after` — a request, and the player after it.
* `OncePicked` — every mail marked since the start had its attachments granted once, and no other
  mail had any granted.
* `AllOrNothing` — the condition on a request.

## Main results

* `after_cases` — what a request does.
* `oncePicked_iff_allOrNothing` — `OncePicked` holds after every request of a run exactly when
  `AllOrNothing` holds of every request.
* `batch_grants_twice` — a batch that names a mail twice.
-/

namespace SrgpGame.Mail

variable {ι σ : Type}

/-! ## Requests -/

/-- A request of the player: one mail at a time of the server's clock, or a batch. -/
inductive PickRequest where
  | one (now : Int64) (mailId : Int32)
  | many (mailIds : Option (List (Option Int32)))

namespace PickRequest

/-- The mails that a request is to pick; a refused request throws. -/
def mails (playerVO : PlayerVO ι σ) : PickRequest → Except Thrown (List Int32)
  | .one now mailId => (checkPick playerVO now mailId).map fun _ => [mailId]
  | .many mailIds => checkPicks playerVO mailIds

/-- The method that serves a request. -/
def pick (exec : FuncsExecutor ι σ) : PickRequest → EStateM Thrown (PlayerVO ι σ) Unit
  | .one now mailId => pickOne exec now mailId
  | .many mailIds => pickMany exec mailIds

/-- The player after a request, whether it was answered or refused. -/
def after (exec : FuncsExecutor ι σ) (playerVO : PlayerVO ι σ) (req : PickRequest) :
    PlayerVO ι σ :=
  (req.pick exec).finalState playerVO

end PickRequest

/-! ## What should hold, and when it does -/

/-- The attachments that were granted from a mail, in order. -/
def grants (mailId : Int32) (granted : List (Int32 × ι)) : List ι :=
  (granted.filter fun a => a.1 = mailId).map Prod.snd

/-- **Every mail is picked once.** Compared with the player `start`: no mail came or went, no mark
was taken back, and the attachments granted from a mail are all of them, once, if the mail was
marked since the start, and none otherwise. -/
structure OncePicked (start playerVO : PlayerVO ι σ) : Prop where
  known : ∀ mailId, (playerVO.mailVOMap.lookup mailId).isSome =
    (start.mailVOMap.lookup mailId).isSome
  mail : ∀ mailId old new, start.mailVOMap.lookup mailId = some old →
    playerVO.mailVOMap.lookup mailId = some new →
      new.items = old.items ∧ (old.pick → new.pick) ∧
        grants mailId playerVO.granted = if new.pick ∧ ¬old.pick then new.items else []

/-- **The first attachment throws** and has given nothing. -/
def ThrowsAtOnce (exec : FuncsExecutor ι σ) (funcs : List ι) (others : σ) : Prop :=
  ∃ func rest e others', funcs = func :: rest ∧
    (exec.execFunc func).run others = .error e others' ∧ exec.gives others others' = false

/-- **The condition on a request**: when its attachments pass the checks, either the first of them
throws and has given nothing, or all of them are executed and the request picks no mail twice. -/
def AllOrNothing (exec : FuncsExecutor ι σ) (playerVO : PlayerVO ι σ) (req : PickRequest) : Prop :=
  ∀ mailIds others, req.mails playerVO = .ok mailIds →
    let funcs := (accessories playerVO mailIds).map Prod.snd
    (exec.selectAndCheck funcs).run playerVO.others = .ok () others →
      ThrowsAtOnce exec funcs others ∨
        (EStateM.rounds exec.execFunc funcs others = funcs.length ∧ mailIds.Nodup)

/-! ## What a request does -/

section Request

variable {exec : FuncsExecutor ι σ} {playerVO : PlayerVO ι σ} {req : PickRequest}

lemma run_grant (a : Int32 × ι) (playerVO : PlayerVO ι σ) :
    (grant exec a).run playerVO =
      match (exec.execFunc a.2).run playerVO.others with
      | .ok _ others => .ok () ⟨playerVO.mailVOMap, others, playerVO.granted ++ [a]⟩
      | .error e others => .error e ⟨playerVO.mailVOMap, others,
          if exec.gives playerVO.others others then playerVO.granted ++ [a]
          else playerVO.granted⟩ := rfl

/-- How many attachments the run phase grants: those whose functions return, and the one after them
if it has given something when it throws. -/
def given (exec : FuncsExecutor ι σ) : List ι → σ → ℕ
  | [], _ => 0
  | func :: funcs, others =>
    match (exec.execFunc func).run others with
    | .ok _ others' => given exec funcs others' + 1
    | .error _ others' => if exec.gives others others' then 1 else 0

/-- **Nothing is given** just if there are no attachments or the first throws at once. -/
lemma given_eq_zero {funcs : List ι} {others : σ} :
    given exec funcs others = 0 ↔ funcs = [] ∨ ThrowsAtOnce exec funcs others := by
  cases funcs with
  | nil => exact iff_of_true rfl (.inl rfl)
  | cons func funcs =>
    rw [given, or_iff_right (List.cons_ne_nil _ _)]
    unfold ThrowsAtOnce
    cases hrun : (exec.execFunc func).run others with
    | ok u others' =>
      refine iff_of_false (Nat.succ_ne_zero _) ?_
      rintro ⟨func', rest, e, others₁, hcons, hthrows, -⟩
      obtain ⟨rfl, -⟩ := List.cons.inj hcons
      exact absurd (hrun.symm.trans hthrows) nofun
    | error e others' =>
      constructor
      · intro hzero
        refine ⟨func, funcs, e, others', rfl, hrun, ?_⟩
        by_contra hgives
        rw [Bool.not_eq_false] at hgives
        simp only [hgives, if_true] at hzero
        cases hzero
      · rintro ⟨func', rest, e', others₁, hcons, hthrows, hgives⟩
        obtain ⟨rfl, -⟩ := List.cons.inj hcons
        obtain ⟨-, rfl⟩ := EStateM.Result.error.inj (hrun.symm.trans hthrows)
        simp only [hgives, Bool.false_eq_true, if_false]

lemma ThrowsAtOnce.rounds_eq_zero {funcs : List ι} {others : σ}
    (h : ThrowsAtOnce exec funcs others) : EStateM.rounds exec.execFunc funcs others = 0 := by
  obtain ⟨func, rest, e, others', rfl, hthrows, -⟩ := h
  rw [EStateM.rounds, hthrows]

/-- **The run phase** grants the attachments that give something. -/
lemma run_each_grant (funcs : List (Int32 × ι)) (playerVO : PlayerVO ι σ) :
    ∃ others,
      let given := given exec (funcs.map Prod.snd) playerVO.others
      let playerVO' : PlayerVO ι σ :=
        ⟨playerVO.mailVOMap, others, playerVO.granted ++ funcs.take given⟩
      if EStateM.rounds exec.execFunc (funcs.map Prod.snd) playerVO.others = funcs.length then
        given = funcs.length ∧ (EStateM.each (grant exec) funcs).run playerVO = .ok () playerVO'
      else ∃ e, (EStateM.each (grant exec) funcs).run playerVO = .error e playerVO' := by
  induction funcs generalizing playerVO with
  | nil => exact ⟨playerVO.others, by simp [EStateM.rounds, given]⟩
  | cons a funcs ih =>
    rw [EStateM.run_each_cons, run_grant, List.map_cons, EStateM.rounds, given]
    cases (exec.execFunc a.2).run playerVO.others with
    | ok u others =>
      obtain ⟨others', hrest⟩ := ih ⟨playerVO.mailVOMap, others, playerVO.granted ++ [a]⟩
      refine ⟨others', ?_⟩
      simpa using hrest
    | error e others =>
      refine ⟨others, ?_⟩
      by_cases hgives : exec.gives playerVO.others others = true
      · simp [hgives]
      · simp [hgives]

/-- The common part of both requests throws in the check phase, or throws in the run phase, or
returns with the marks made. -/
lemma pickAll_cases (exec : FuncsExecutor ι σ) (playerVO : PlayerVO ι σ) (mailIds : List Int32) :
    let funcs := accessories playerVO mailIds
    (∃ e others, (exec.selectAndCheck (funcs.map Prod.snd)).run playerVO.others = .error e others ∧
      (pickAll exec mailIds).finalState playerVO =
        ⟨playerVO.mailVOMap, others, playerVO.granted⟩) ∨
    ∃ others others', (exec.selectAndCheck (funcs.map Prod.snd)).run playerVO.others =
        .ok () others ∧
      let rounds := EStateM.rounds exec.execFunc (funcs.map Prod.snd) others
      (rounds ≠ funcs.length ∧ (pickAll exec mailIds).finalState playerVO =
        ⟨playerVO.mailVOMap, others',
          playerVO.granted ++ funcs.take (given exec (funcs.map Prod.snd) others)⟩) ∨
      (rounds = funcs.length ∧ (pickAll exec mailIds).finalState playerVO =
        mailIds.foldl markPicked ⟨playerVO.mailVOMap, others', playerVO.granted ++ funcs⟩) := by
  intro funcs
  have hcheck : (onOthers (exec.selectAndCheck (funcs.map Prod.snd))).run playerVO =
      match (exec.selectAndCheck (funcs.map Prod.snd)).run playerVO.others with
      | .ok _ others => .ok () { playerVO with others := others }
      | .error e others => .error e { playerVO with others := others } := rfl
  have hget : (get : EStateM Thrown (PlayerVO ι σ) _).run playerVO = .ok playerVO playerVO := rfl
  have hall : (pickAll exec mailIds).finalState playerVO =
      match (onOthers (exec.selectAndCheck (funcs.map Prod.snd))).run playerVO with
      | .error _ playerVO => playerVO
      | .ok _ playerVO =>
        match (EStateM.each (grant exec) funcs).run playerVO with
        | .error _ playerVO => playerVO
        | .ok _ playerVO => mailIds.foldl markPicked playerVO := by
    unfold pickAll
    rw [EStateM.finalState_bind, hget]
    simp only
    rw [EStateM.finalState_bind, hcheck]
    cases (exec.selectAndCheck (funcs.map Prod.snd)).run playerVO.others with
    | error e others => rfl
    | ok u others =>
      simp only
      rw [EStateM.finalState_bind]
      cases (EStateM.each (grant exec) funcs).run { playerVO with others := others } with
      | error e p => rfl
      | ok u p => rfl
  rw [hall, hcheck]
  cases hsel : (exec.selectAndCheck (funcs.map Prod.snd)).run playerVO.others with
  | error e others => exact .inl ⟨e, others, rfl, rfl⟩
  | ok u others =>
    obtain ⟨others', hrun⟩ := @run_each_grant _ _ exec funcs { playerVO with others := others }
    refine .inr ⟨others, others', rfl, ?_⟩
    by_cases hk : EStateM.rounds exec.execFunc (funcs.map Prod.snd) others = funcs.length
    · refine .inr ⟨hk, ?_⟩
      simp only [hk, if_true] at hrun
      obtain ⟨hgiven, hrun⟩ := hrun
      rw [hgiven, List.take_length] at hrun
      simp only [hrun]
    · refine .inl ⟨hk, ?_⟩
      simp only [hk, if_false] at hrun
      obtain ⟨e, hrun⟩ := hrun
      simp only [hrun]

/-- A request that is refused changes nothing; otherwise the common part decides. -/
lemma after_eq (exec : FuncsExecutor ι σ) (playerVO : PlayerVO ι σ) (req : PickRequest) :
    req.after exec playerVO =
      match req.mails playerVO with
      | .error _ => playerVO
      | .ok mailIds => (pickAll exec mailIds).finalState playerVO := by
  cases req with
  | one now mailId =>
    unfold PickRequest.after PickRequest.pick PickRequest.mails pickOne
    simp only
    rw [EStateM.finalState_bind, EStateM.run_ofExcept]
    cases checkPick playerVO now mailId with
    | error e => rfl
    | ok u => rfl
  | many mailIds =>
    unfold PickRequest.after PickRequest.pick PickRequest.mails pickMany
    simp only
    rw [EStateM.finalState_bind, EStateM.run_ofExcept]
    cases checkPicks playerVO mailIds with
    | error e => rfl
    | ok mailIds => rfl

/-- The mails of a batch that are to be picked are there, not picked, and have attachments. -/
lemma pickable_spec {mailIds : List (Option Int32)} {ids : List Int32}
    (h : pickable playerVO mailIds = .ok ids) :
    ∀ mailId ∈ ids, ∃ mailVO, playerVO.mailVOMap.lookup mailId = some mailVO ∧
      mailVO.pick = false ∧ mailVO.items ≠ [] := by
  induction mailIds generalizing ids with
  | nil =>
    obtain rfl : [] = ids := by simpa [pickable] using h
    simp
  | cons head mailIds ih =>
    cases head with
    | none => simp [pickable] at h
    | some mailId =>
      rw [pickable] at h
      obtain ⟨rest, hrest, h⟩ := Except.bind_eq_ok.mp h
      have ih := ih hrest
      cases hlookup : playerVO.mailVOMap.lookup mailId with
      | none =>
        simp only [hlookup] at h
        obtain rfl : rest = ids := by simpa [pure, Except.pure] using h
        exact ih
      | some mailVO =>
        simp only [hlookup] at h
        by_cases hskip : mailVO.pick ∨ mailVO.items.length < 1
        · rw [if_pos hskip] at h
          obtain rfl : rest = ids := by simpa [pure, Except.pure] using h
          exact ih
        · rw [if_neg hskip] at h
          obtain rfl : mailId :: rest = ids := by simpa [pure, Except.pure] using h
          push Not at hskip
          refine List.forall_mem_cons.mpr ⟨⟨mailVO, hlookup, ?_, ?_⟩, ih⟩
          · simpa using hskip.1
          · exact List.ne_nil_of_length_pos hskip.2

/-- **The mails that a request picks** are there, not picked, and have attachments. -/
theorem mails_spec {ids : List Int32} (h : req.mails playerVO = .ok ids) :
    ∀ mailId ∈ ids, ∃ mailVO, playerVO.mailVOMap.lookup mailId = some mailVO ∧
      mailVO.pick = false ∧ mailVO.items ≠ [] := by
  cases req with
  | one now mailId =>
    simp only [PickRequest.mails] at h
    unfold checkPick at h
    cases hlookup : playerVO.mailVOMap.lookup mailId with
    | none => simp [hlookup, ICode.throwException, Except.map] at h
    | some mailVO =>
      simp only [hlookup] at h
      obtain ⟨u, hcheck, hids⟩ := Except.map_eq_ok.mp h
      obtain ⟨⟨⟩, hpick, hcheck⟩ := Except.bind_eq_ok.mp hcheck
      obtain ⟨⟨⟩, hempty, -⟩ := Except.bind_eq_ok.mp hcheck
      rw [ICode.throwIfTrue_eq_ok] at hpick hempty
      subst hids
      intro id hid
      obtain rfl : id = mailId := by simpa using hid
      exact ⟨mailVO, hlookup, by simpa using hpick, List.ne_nil_of_length_pos (by omega)⟩
  | many mailIds =>
    cases mailIds with
    | none => simp [PickRequest.mails, checkPicks, ICode.throwException] at h
    | some mailIds =>
      simp only [PickRequest.mails, checkPicks] at h
      obtain ⟨⟨⟩, -, h⟩ := Except.bind_eq_ok.mp h
      exact pickable_spec h

end Request

/-! ## Marks and grants -/

section Marks

variable {playerVO : PlayerVO ι σ} {mailIds : List Int32} {mailId : Int32}

lemma markPicked_eq (playerVO : PlayerVO ι σ) (marked : Int32) :
    (markPicked playerVO marked).granted = playerVO.granted ∧
      ∀ mailId, (markPicked playerVO marked).mailVOMap.lookup mailId =
        (playerVO.mailVOMap.lookup mailId).map fun mailVO =>
          if mailId = marked then { mailVO with pick := true, read := true } else mailVO := by
  unfold markPicked
  cases hlookup : playerVO.mailVOMap.lookup marked with
  | none =>
    refine ⟨rfl, fun mailId => ?_⟩
    by_cases hid : mailId = marked
    · rw [hid, hlookup]
      rfl
    · simp [hid]
  | some mailVO =>
    refine ⟨rfl, fun mailId => ?_⟩
    rw [AList.lookup_insert_ite]
    by_cases hid : mailId = marked
    · rw [if_pos hid, hid, hlookup]
      simp
    · simp [hid]

/-- **The marks**: exactly the mails of the request are marked. -/
lemma foldl_markPicked_eq (mailIds : List Int32) (playerVO : PlayerVO ι σ) :
    (mailIds.foldl markPicked playerVO).granted = playerVO.granted ∧
      ∀ mailId, (mailIds.foldl markPicked playerVO).mailVOMap.lookup mailId =
        (playerVO.mailVOMap.lookup mailId).map fun mailVO =>
          if mailId ∈ mailIds then { mailVO with pick := true, read := true } else mailVO := by
  induction mailIds generalizing playerVO with
  | nil => simp
  | cons marked mailIds ih =>
    obtain ⟨hgranted, hlookup⟩ := markPicked_eq playerVO marked
    obtain ⟨ihgranted, ihlookup⟩ := ih (markPicked playerVO marked)
    rw [List.foldl_cons]
    refine ⟨ihgranted.trans hgranted, fun mailId => ?_⟩
    rw [ihlookup, hlookup, Option.map_map]
    congr 1
    funext mailVO
    by_cases hid : mailId = marked
    · by_cases hmem : mailId ∈ mailIds <;> simp [hid]
    · by_cases hmem : mailId ∈ mailIds <;> simp [hid, hmem]

lemma grants_append (mailId : Int32) (xs ys : List (Int32 × ι)) :
    grants mailId (xs ++ ys) = grants mailId xs ++ grants mailId ys := by
  simp [grants]

/-- A request hands out the attachments of a mail as often as it names the mail. -/
lemma grants_accessories {mailVO : MailVO ι}
    (hlookup : playerVO.mailVOMap.lookup mailId = some mailVO) (mailIds : List Int32) :
    grants mailId (accessories playerVO mailIds) =
      (List.replicate (mailIds.count mailId) mailVO.items).flatten := by
  induction mailIds with
  | nil => rfl
  | cons head mailIds ih =>
    have hcons : accessories playerVO (head :: mailIds) =
        accessories playerVO [head] ++ accessories playerVO mailIds := by
      simp [accessories]
    rw [hcons, grants_append, ih]
    by_cases hhead : head = mailId
    · subst hhead
      have hself : grants head (accessories playerVO [head]) = mailVO.items := by
        simp [grants, accessories, hlookup, List.filter_map, Function.comp_def]
      rw [hself, List.count_cons_self, List.replicate_succ, List.flatten_cons]
    · have hother : grants mailId (accessories playerVO [head]) = [] := by
        simp [grants, accessories, List.filter_map, Function.comp_def, hhead]
      rw [hother, List.nil_append, List.count_cons_of_ne hhead]

end Marks

/-! ## One request -/

section Step

variable {exec : FuncsExecutor ι σ} {start playerVO : PlayerVO ι σ} {req : PickRequest}

/-- `OncePicked` depends on the mails and on what was granted. -/
lemma OncePicked.congr {playerVO' : PlayerVO ι σ} (h : OncePicked start playerVO)
    (hmails : playerVO'.mailVOMap = playerVO.mailVOMap)
    (hgranted : playerVO'.granted = playerVO.granted) : OncePicked start playerVO' := by
  refine ⟨fun mailId => ?_, fun mailId old new hold hnew => ?_⟩
  · rw [hmails]
    exact h.known mailId
  · rw [hmails] at hnew
    rw [hgranted]
    exact h.mail mailId old new hold hnew

/-- A mail that is there was there at the start. -/
lemma OncePicked.exists_old (h : OncePicked start playerVO) {mailId : Int32} {mailVO : MailVO ι}
    (hlookup : playerVO.mailVOMap.lookup mailId = some mailVO) :
    ∃ old, start.mailVOMap.lookup mailId = some old := by
  have hknown := h.known mailId
  rw [hlookup, Option.isSome_some] at hknown
  exact Option.isSome_iff_exists.mp hknown.symm

/-- From a mail that is not marked nothing was granted. -/
lemma OncePicked.grants_eq_nil (h : OncePicked start playerVO) {mailId : Int32}
    {mailVO : MailVO ι} (hlookup : playerVO.mailVOMap.lookup mailId = some mailVO)
    (hpick : mailVO.pick = false) : grants mailId playerVO.granted = [] := by
  obtain ⟨old, hold⟩ := h.exists_old hlookup
  rw [(h.mail mailId old mailVO hold hlookup).2.2]
  simp [hpick]

/-- A mail that is not marked was not marked at the start. -/
lemma OncePicked.pick_old (h : OncePicked start playerVO) {mailId : Int32}
    {old mailVO : MailVO ι} (hold : start.mailVOMap.lookup mailId = some old)
    (hlookup : playerVO.mailVOMap.lookup mailId = some mailVO) (hpick : mailVO.pick = false) :
    old.pick = false := by
  cases hp : old.pick with
  | false => rfl
  | true =>
    rw [(h.mail mailId old mailVO hold hlookup).2.1 hp] at hpick
    exact hpick

/-- A request that picks a mail has an attachment of a mail that is not picked to execute first. -/
lemma exists_accessories_cons {mailIds : List Int32} (hmails : req.mails playerVO = .ok mailIds)
    (hne : mailIds ≠ []) :
    ∃ mailId mailVO a rest, accessories playerVO mailIds = (mailId, a) :: rest ∧
      playerVO.mailVOMap.lookup mailId = some mailVO ∧ mailVO.pick = false := by
  obtain ⟨mailId, others, rfl⟩ := List.exists_cons_of_ne_nil hne
  obtain ⟨mailVO, hlookup, hpick, hitems⟩ := mails_spec hmails mailId List.mem_cons_self
  obtain ⟨a, as, has⟩ := List.exists_cons_of_ne_nil hitems
  refine ⟨mailId, mailVO, a, as.map (mailId, ·) ++ accessories playerVO others, ?_, hlookup, hpick⟩
  simp [accessories, hlookup, has]

/-- The mails of a request that returned, each named once, are picked once. -/
lemma OncePicked.marked (h : OncePicked start playerVO) {mailIds : List Int32} {others : σ}
    (hmails : req.mails playerVO = .ok mailIds) (hnodup : mailIds.Nodup) :
    OncePicked start (mailIds.foldl markPicked
      ⟨playerVO.mailVOMap, others, playerVO.granted ++ accessories playerVO mailIds⟩) := by
  obtain ⟨hgranted, hlookup⟩ := foldl_markPicked_eq mailIds
    ⟨playerVO.mailVOMap, others, playerVO.granted ++ accessories playerVO mailIds⟩
  refine ⟨fun mailId => ?_, fun mailId old new hold hnew => ?_⟩
  · rw [hlookup, Option.isSome_map]
    exact h.known mailId
  · rw [hlookup] at hnew
    obtain ⟨cur, hcur, rfl⟩ := Option.map_eq_some_iff.mp hnew
    replace hcur : playerVO.mailVOMap.lookup mailId = some cur := hcur
    obtain ⟨hitems, hmono, hgrants⟩ := h.mail mailId old cur hold hcur
    rw [hgranted, grants_append, grants_accessories hcur]
    by_cases hmem : mailId ∈ mailIds
    · obtain ⟨mailVO, hmail, hpick, -⟩ := mails_spec hmails mailId hmem
      obtain rfl : mailVO = cur := Option.some.inj (hmail.symm.trans hcur)
      have hold' := h.pick_old hold hcur hpick
      rw [h.grants_eq_nil hcur hpick, List.count_eq_one_of_mem hnodup hmem, if_pos hmem]
      refine ⟨hitems, fun _ => rfl, ?_⟩
      simp [hold', MailVO.items]
    · rw [List.count_eq_zero_of_not_mem hmem, if_neg hmem]
      refine ⟨hitems, hmono, ?_⟩
      simpa using hgrants

/-- **All or nothing keeps `OncePicked`.** -/
theorem OncePicked.after (h : OncePicked start playerVO) (hreq : AllOrNothing exec playerVO req) :
    OncePicked start (req.after exec playerVO) := by
  rw [after_eq]
  cases hmails : req.mails playerVO with
  | error e => exact h
  | ok mailIds =>
    simp only
    rcases pickAll_cases exec playerVO mailIds with
      ⟨e, others, -, hend⟩ | ⟨others, others', hsel, hend⟩
    · rw [hend]
      exact h.congr rfl rfl
    · have hall := hreq mailIds others hmails hsel
      simp only [List.length_map] at hall
      rcases hend with ⟨hk, hend⟩ | ⟨hk, hend⟩
      · -- the run phase threw: by the condition, at once
        have hzero : given exec ((accessories playerVO mailIds).map Prod.snd) others = 0 :=
          given_eq_zero.mpr (.inr (hall.resolve_right fun hgood => hk hgood.1))
        rw [hend]
        exact h.congr rfl (by simp [hzero])
      · rw [hend]
        refine h.marked hmails ?_
        by_cases hnil : mailIds = []
        · rw [hnil]
          exact List.nodup_nil
        · refine (hall.resolve_left fun hthrows => ?_).2
          obtain ⟨mailId, mailVO, a, rest, hcons, -⟩ := exists_accessories_cons hmails hnil
          rw [hthrows.rounds_eq_zero, hcons] at hk
          cases hk

/-- **Only all or nothing keeps `OncePicked`.** -/
theorem OncePicked.allOrNothing (h : OncePicked start playerVO)
    (hafter : OncePicked start (req.after exec playerVO)) : AllOrNothing exec playerVO req := by
  intro mailIds others hmails funcs hsel
  rw [after_eq, hmails] at hafter
  simp only at hafter
  rcases pickAll_cases exec playerVO mailIds with
    ⟨e, others₁, hsel', -⟩ | ⟨others₁, others', hsel', hend⟩
  · simp [funcs, hsel'] at hsel
  · obtain rfl : others₁ = others := by simpa [funcs, hsel'] using hsel
    have hlen : funcs.length = (accessories playerVO mailIds).length := List.length_map _
    rw [hlen]
    rcases hend with ⟨hk, hend⟩ | ⟨hk, hend⟩
    · -- the run phase threw: an attachment granted before would be of an unmarked mail
      have hne : mailIds ≠ [] := by
        rintro rfl
        exact hk rfl
      obtain ⟨mailId, mailVO, a, rest, hcons, hlookup, hpick⟩ := exists_accessories_cons hmails hne
      rw [hend] at hafter
      have hgrants := hafter.grants_eq_nil hlookup hpick
      refine .inl ((given_eq_zero.mp ?_).resolve_left ?_)
      · by_contra hpos
        obtain ⟨k, hgiven⟩ := Nat.exists_eq_succ_of_ne_zero hpos
        simp only [funcs] at hgiven
        rw [hgiven, hcons] at hgrants
        simp [grants] at hgrants
      · simp only [funcs]
        rw [hcons]
        exact List.cons_ne_nil _ _
    · refine .inr ⟨hk, List.nodup_iff_count_le_one.mpr fun mailId => ?_⟩
      by_contra! hcount
      -- a mail named twice was granted twice
      have hmem : mailId ∈ mailIds := List.count_pos_iff.mp (by omega)
      obtain ⟨mailVO, hlookup, hpick, hitems⟩ := mails_spec hmails mailId hmem
      obtain ⟨old, hold⟩ := h.exists_old hlookup
      obtain ⟨hgranted, hmarked⟩ := foldl_markPicked_eq mailIds
        ⟨playerVO.mailVOMap, others', playerVO.granted ++ accessories playerVO mailIds⟩
      rw [hend] at hafter
      have hnew := hmarked mailId
      simp only [hlookup, Option.map_some, if_pos hmem] at hnew
      obtain ⟨-, -, hgrants⟩ := hafter.mail mailId old _ hold hnew
      rw [hgranted, grants_append, grants_accessories hlookup, h.grants_eq_nil hlookup hpick]
        at hgrants
      have heq : (List.replicate (mailIds.count mailId) mailVO.items).flatten = mailVO.items := by
        simpa [h.pick_old hold hlookup hpick, MailVO.items] using hgrants
      have hlength := congrArg List.length heq
      rw [List.length_flatten, List.map_replicate, List.sum_replicate_nat] at hlength
      have hpos' := List.length_pos_of_ne_nil hitems
      have htwo := Nat.mul_le_mul_right mailVO.items.length (Nat.succ_le_of_lt hcount)
      omega

end Step

/-! ## Whole runs -/

/-- A player before any request. -/
def PlayerVO.init (mailVOMap : AList fun _ : Int32 => MailVO ι) (others : σ) : PlayerVO ι σ :=
  ⟨mailVOMap, others, []⟩

lemma oncePicked_init (mailVOMap : AList fun _ : Int32 => MailVO ι) (others : σ) :
    OncePicked (PlayerVO.init mailVOMap others) (PlayerVO.init mailVOMap others) := by
  refine ⟨fun _ => rfl, fun mailId old new hold hnew => ?_⟩
  obtain rfl := Option.some.inj (hold.symm.trans hnew)
  refine ⟨rfl, id, ?_⟩
  simp [PlayerVO.init, grants]

/-- **After every request of a run every mail is picked once, exactly when every request is all or
nothing.** The mailbox, the requests and the executor are any.

**Proof sketch.** `OncePicked` is an invariant of the runs whose requests are all or nothing, and
where it holds before and after a request, that request was all or nothing. -/
theorem oncePicked_iff_allOrNothing (exec : FuncsExecutor ι σ)
    (mailVOMap : AList fun _ : Int32 => MailVO ι) (others : σ) (reqs : List PickRequest) :
    Runs.EveryStep (PickRequest.after exec)
        (fun playerVO req =>
          OncePicked (PlayerVO.init mailVOMap others) (PickRequest.after exec playerVO req))
        (PlayerVO.init mailVOMap others) reqs ↔
      Runs.EveryStep (PickRequest.after exec) (AllOrNothing exec)
        (PlayerVO.init mailVOMap others) reqs :=
  Runs.everyStep_congr (fun playerVO _ => OncePicked (PlayerVO.init mailVOMap others) playerVO)
    (fun _ _ _ hinv hreq => hinv.after hreq)
    (fun _ _ _ hinv => ⟨hinv.allOrNothing, hinv.after⟩)
    (oncePicked_init mailVOMap others)

/-- No configuration but that of goods 11. -/
def bareConfigs : Func.Configs := ⟨GoodsTable.ofList [{ id := 11 }], fun _ => none, fun _ => none⟩

/-- The executor, with listeners that do nothing. -/
def bareExecutor : FuncsExecutor Func.AbstractFunc Func.ExecState :=
  baseExecutor bareConfigs (Func.eventDepotBOImpl bareConfigs fun _ => pure ())

/-- A fresh player. -/
def freshPlayer : Func.ExecState := ⟨Func.PlayerVO.init ⟨0, 0, 0⟩, ⟨fun _ => 0⟩⟩

/-- Two goods 11. -/
def twoGoods : Func.AbstractFunc :=
  { type := .changeGoodsFunc, param := { param := 11, value := 2 } }

/-- A mailbox with one mail, with the id 1 and two goods attached. -/
def oneMail : AList fun _ : Int32 => MailVO Func.AbstractFunc :=
  AList.insert 1 { itemList := some [twoGoods] } ∅

/-- A single pick grants the attachment once. -/
example : ((PickRequest.one 0 1).after bareExecutor
    (PlayerVO.init oneMail freshPlayer)).granted = [(1, twoGoods)] := rfl

/-- **A batch that names a mail twice** grants its attachments twice. -/
theorem batch_grants_twice :
    ¬Runs.EveryStep (PickRequest.after bareExecutor)
      (fun playerVO req => OncePicked (PlayerVO.init oneMail freshPlayer)
        (PickRequest.after bareExecutor playerVO req))
      (PlayerVO.init oneMail freshPlayer) [.many (some [some 1, some 1])] := by
  rintro ⟨h, -⟩
  obtain ⟨-, -, hgrants⟩ := h.mail 1 { itemList := some [twoGoods] }
    { itemList := some [twoGoods], read := true, pick := true } rfl rfl
  have htwice : [twoGoods, twoGoods] = [twoGoods] := hgrants
  exact absurd htwice (by decide)

end SrgpGame.Mail
