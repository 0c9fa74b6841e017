import SrgpGame.Mail.GrantedOnce

set_option autoImplicit false

/-!
# No mail is lost, and deleted ones come back

While a player is loaded, mails to him can arrive that the load has not read. They are kept in
`CacheMail`, so that after a login the mailbox has every mail that has a row. `CacheMail` is never
cleared: a mail that it has goes into the mailbox at every later login, also when its owner has
deleted it.

## Main definitions

* `MailService.Complete` — a player is in the cache, and his mailbox has all his mails.
* `MailService.Delivers` — the condition on a step.

## Main results

* `MailService.Kept.step` — what a step preserves.
* `MailService.mailbox_after_login` — what is in the mailbox after a login.
* `MailService.nothing_lost` — from a login on, until the player leaves the cache, the mailbox is
  complete.
* `MailService.deleted_comes_back` — a mail that was in `CacheMail` is in the mailbox after every
  login that loads its player, also when it was deleted, until it lapses.
-/

namespace SrgpGame.Mail

open Runs

variable {ι σ : Type}

namespace MailService

variable {exec : FuncsExecutor ι σ} {upserts : Bool} {service service' : MailService ι σ}

/-! ## What is wanted, and when -/

/-- **The mailbox is complete**: the player is in the cache, and each of his mails that has a row is
in the mailbox. -/
def Complete (service : MailService ι σ) (pid : Int32) : Prop :=
  ∃ box, service.cacheAllPlayers.lookup pid = some box ∧
    ∀ mailId row, service.mailDAO.lookup mailId = some row → row.playerId = pid →
      (box.lookup mailId).isSome

/-- The mail is in `CacheMail`. -/
def Cached (service : MailService ι σ) (pid mailId : Int32) : Prop :=
  ∃ mailVOMap, service.cacheNewMail.lookup pid = some mailVOMap ∧ (mailVOMap.lookup mailId).isSome

/-- **The condition on a step.** No player leaves the cache during a load, and a request deletes all
its mails or none. -/
def Delivers (service : MailService ι σ) : Action ι → Prop
  | .evict pid => ∀ load ∈ service.loads, load.1 ≠ pid
  | .delete pid mailIds => ∀ box ∈ service.cacheAllPlayers.lookup pid,
      DeletesAllOrNothing ⟨(service.view pid box).mailVOMap,
        service.mailDAO.mapValues MailObj.toMailVO⟩ mailIds
  | _ => True

/-! ## The invariant -/

/-- The mail was sent, to this player. -/
def Owned (service : MailService ι σ) (mail : MailObj ι) : Prop :=
  ∃ original, service.sent.lookup mail.id = some original ∧ mail.playerId = original.playerId

/-- **The invariant**: what a load has read, with the mails in `CacheMail`, are the mails of the
player, if he is not in the cache. -/
structure Kept (service : MailService ι σ) : Prop where
  owned : service.Everywhere service.Owned
  known : ∀ pid, (service.cacheAllPlayers.lookup pid).isSome → pid ∈ service.baseInfo
  loading : ∀ load ∈ service.loads, load.1 ∈ service.baseInfo
  read : ∀ load ∈ service.loads, service.cacheAllPlayers.lookup load.1 = none →
    ∀ mailId row, service.mailDAO.lookup mailId = some row → row.playerId = load.1 →
      (∃ r ∈ load.2, r.id = mailId) ∨ service.Cached load.1 mailId
  row : ∀ load ∈ service.loads, service.cacheAllPlayers.lookup load.1 = none →
    ∀ r ∈ load.2, ∃ row, service.mailDAO.lookup r.id = some row ∧ row.playerId = load.1

lemma Owned.playerId_eq {mail mail' : MailObj ι} (h : service.Owned mail)
    (h' : service.Owned mail') (hid : mail.id = mail'.id) : mail.playerId = mail'.playerId := by
  obtain ⟨original, hsent, hplayer⟩ := h
  obtain ⟨original', hsent', hplayer'⟩ := h'
  rw [hid, hsent'] at hsent
  obtain rfl := Option.some.inj hsent
  exact hplayer.trans hplayer'.symm

/-- A row of a mail that is in a mailbox is of the player with the mailbox. -/
lemma Kept.playerId_eq (hkept : Kept service) {pid mailId : Int32} {box : Mailbox} {ref : ℕ}
    {row : MailObj ι} (hbox : service.cacheAllPlayers.lookup pid = some box)
    (href : box.lookup mailId = some ref) (hrow : service.mailDAO.lookup mailId = some row) :
    row.playerId = pid := by
  obtain ⟨-, hid, hplayer, howned⟩ := hkept.owned.inBox pid box mailId ref hbox href
  obtain ⟨hid', howned'⟩ := hkept.owned.row mailId row hrow
  exact (howned'.playerId_eq howned (hid'.trans hid.symm)).trans hplayer

/-- **The rows of a step** that sends nothing: those that change are of mails in mailboxes. -/
structure RowsOf (service service' : MailService ι σ) : Prop where
  new : ∀ mailId row, service'.mailDAO.lookup mailId = some row →
    service.mailDAO.lookup mailId = some row ∨
      ∃ box, service.cacheAllPlayers.lookup row.playerId = some box ∧ (box.lookup mailId).isSome
  old : ∀ mailId row, service.mailDAO.lookup mailId = some row →
    service.cacheAllPlayers.lookup row.playerId = none →
      ∃ row', service'.mailDAO.lookup mailId = some row' ∧ row'.playerId = row.playerId

lemma RowsOf.of_eq (h : service'.mailDAO = service.mailDAO) : RowsOf service service' where
  new := by
    rw [h]
    exact fun mailId row hrow => .inl hrow
  old := by
    rw [h]
    exact fun mailId row hrow _ => ⟨row, hrow, rfl⟩

/-- **A step that sends nothing** preserves the invariant, if no player leaves the cache, no load
begins, and only rows of mails in mailboxes change. -/
lemma Kept.of_rows (hkept : Kept service) (howned : service'.Everywhere service.Owned)
    (hsent : service'.sent = service.sent) (hcache : service'.cacheNewMail = service.cacheNewMail)
    (hknown : ∀ pid, (service'.cacheAllPlayers.lookup pid).isSome → pid ∈ service'.baseInfo)
    (hbase : ∀ pid ∈ service.baseInfo, pid ∈ service'.baseInfo)
    (hloads : ∀ load ∈ service'.loads, load ∈ service.loads)
    (hnone : ∀ load ∈ service'.loads, service'.cacheAllPlayers.lookup load.1 = none →
      service.cacheAllPlayers.lookup load.1 = none)
    (hrows : RowsOf service service') : Kept service' where
  owned := by
    apply howned.imp
    intro mail hmail
    unfold Owned
    rw [hsent]
    exact hmail
  known := hknown
  loading := fun load hload => hbase _ (hkept.loading load (hloads load hload))
  read := by
    intro load hload hlookup mailId row hrow hplayer
    have hbefore := hnone load hload hlookup
    rcases hrows.new mailId row hrow with hold | ⟨box, hbox, -⟩
    · rcases hkept.read load (hloads load hload) hbefore mailId row hold hplayer with
        hread | hcached
      · exact .inl hread
      · refine .inr ?_
        unfold Cached
        rw [hcache]
        exact hcached
    · rw [hplayer, hbefore] at hbox
      cases hbox
  row := by
    intro load hload hlookup r hr
    have hbefore := hnone load hload hlookup
    obtain ⟨row, hrow, hplayer⟩ := hkept.row load (hloads load hload) hbefore r hr
    obtain ⟨row', hrow', hplayer'⟩ := hrows.old r.id row hrow (hplayer ▸ hbefore)
    exact ⟨row', hrow', hplayer'.trans hplayer⟩

/-- **A complete mailbox stays complete** if no mail is taken out and only rows of mails in
mailboxes change. -/
lemma Complete.of_rows {pid : Int32} (hcomplete : service.Complete pid)
    (hbox : ∀ box, service.cacheAllPlayers.lookup pid = some box →
      ∃ box', service'.cacheAllPlayers.lookup pid = some box' ∧
        ∀ mailId, (box.lookup mailId).isSome → (box'.lookup mailId).isSome)
    (hrows : RowsOf service service') : service'.Complete pid := by
  obtain ⟨box, hlookup, hall⟩ := hcomplete
  obtain ⟨box', hlookup', hstay⟩ := hbox box hlookup
  refine ⟨box', hlookup', fun mailId row hrow hplayer => hstay mailId ?_⟩
  rcases hrows.new mailId row hrow with hold | ⟨other, hother, hsome⟩
  · exact hall mailId row hold hplayer
  · rw [hplayer, hlookup] at hother
    obtain rfl := Option.some.inj hother
    exact hsome

/-! ## The steps -/

/-- What a request to delete leaves: the rows of mails in other mailboxes, and no row without its
mail. -/
lemma delete_spec {mails : Mails ι} {mailIds : Option (List (Option Int32))}
    (h : DeletesAllOrNothing mails mailIds) (mailId : Int32) :
    (mails.mailVOMap.lookup mailId = none →
        ((delete mailIds).finalState mails).store.lookup mailId = mails.store.lookup mailId) ∧
      ((((delete mailIds).finalState mails).store.lookup mailId).isSome →
        (mails.mailVOMap.lookup mailId).isSome →
          (((delete mailIds).finalState mails).mailVOMap.lookup mailId).isSome) := by
  obtain ⟨hatomic, -⟩ := h
  unfold EStateM.finalState
  unfold EStateM.Atomic at hatomic
  cases hrun : (delete mailIds).run mails with
  | error e mails' =>
    rw [hrun] at hatomic
    obtain ⟨-, rfl⟩ := hatomic
    exact ⟨fun _ => rfl, fun _ hsome => hsome⟩
  | ok a mails' =>
    rw [hrun] at hatomic
    obtain ⟨listed, -, hbox, hstore⟩ := hatomic
    simp only
    rw [hbox, hstore]
    refine ⟨fun hnone => ?_, fun hsome hin => ?_⟩
    · rw [if_neg]
      rw [hnone]
      exact fun hlisted => Bool.noConfusion hlisted.2
    · by_cases hlisted : some mailId ∈ listed
      · rw [if_pos ⟨hlisted, hin⟩] at hsome
        cases hsome
      · rwa [if_neg hlisted]

/-- The rows after mails are taken out of a mailbox, and rows of mails in it deleted. -/
lemma RowsOf.filterKeys (hkept : Kept service) {pid : Int32} {box : Mailbox} (p : Int32 → Bool)
    (hrows : service'.mailDAO = service.mailDAO.filterKeys p)
    (hbox : service.cacheAllPlayers.lookup pid = some box)
    (hp : ∀ mailId, (service.mailDAO.lookup mailId).isSome → p mailId = false →
      (box.lookup mailId).isSome) : RowsOf service service' where
  new := by
    intro mailId row hrow
    rw [hrows, AList.lookup_filterKeys] at hrow
    split_ifs at hrow
    exact .inl hrow
  old := by
    intro mailId row hrow hnone
    refine ⟨row, ?_, rfl⟩
    rw [hrows, AList.lookup_filterKeys]
    split_ifs with hpid
    · exact hrow
    · have hsome := hp mailId (by rw [hrow, Option.isSome_some]) (Bool.eq_false_iff.mpr hpid)
      obtain ⟨ref, href⟩ := Option.isSome_iff_exists.mp hsome
      rw [hkept.playerId_eq hbox href hrow, hbox] at hnone
      cases hnone

/-- The rows after mails of a mailbox are saved. -/
lemma RowsOf.save (hkept : Kept service) {pid : Int32} {box : Mailbox}
    (hbox : service.cacheAllPlayers.lookup pid = some box)
    (hnew : ∀ mailId row, service'.mailDAO.lookup mailId = some row →
      service.mailDAO.lookup mailId = some row ∨ row.playerId = pid ∧ (box.lookup mailId).isSome)
    (hold : ∀ mailId row, service.mailDAO.lookup mailId = some row →
      service'.mailDAO.lookup mailId = some row ∨ (box.lookup mailId).isSome) :
    RowsOf service service' where
  new := by
    intro mailId row hrow
    rcases hnew mailId row hrow with h | ⟨hplayer, hsome⟩
    · exact .inl h
    · exact .inr ⟨box, hplayer ▸ hbox, hsome⟩
  old := by
    intro mailId row hrow hnone
    rcases hold mailId row hrow with h | hsome
    · exact ⟨row, h, rfl⟩
    · obtain ⟨ref, href⟩ := Option.isSome_iff_exists.mp hsome
      rw [hkept.playerId_eq hbox href hrow, hbox] at hnone
      cases hnone

/-- A row stays when one is saved, or the one that is saved has its id. -/
lemma lookup_save_of_lookup {rows : AList fun _ : Int32 => MailObj ι} (upserts : Bool)
    (mail : MailObj ι) {row : MailObj ι} {mailId : Int32} (h : rows.lookup mailId = some row) :
    (MailService.save upserts rows mail).lookup mailId = some row ∨ mail.id = mailId := by
  unfold MailService.save
  split_ifs
  · rw [AList.lookup_insert_ite]
    split_ifs with hid
    · exact .inr hid.symm
    · exact .inl h
  · exact .inl h

lemma lookup_foldl_save_of_lookup {mails : List (MailObj ι)}
    {rows : AList fun _ : Int32 => MailObj ι} {row : MailObj ι} {mailId : Int32}
    (h : rows.lookup mailId = some row) :
    (mails.foldl (MailService.save upserts) rows).lookup mailId = some row ∨
      ∃ mail ∈ mails, mail.id = mailId := by
  induction mails generalizing rows with
  | nil => exact .inl h
  | cons mail mails ih =>
    rcases lookup_save_of_lookup upserts mail h with hsaved | hid
    · rcases ih hsaved with hlookup | ⟨other, hmem, hid⟩
      · exact .inl hlookup
      · exact .inr ⟨other, List.mem_cons_of_mem _ hmem, hid⟩
    · exact .inr ⟨mail, List.mem_cons_self, hid⟩

lemma rowsOf_getMailInfo (hkept : Kept service) (pid mailId : Int32) :
    RowsOf service (service.getMailInfo upserts pid mailId) := by
  unfold MailService.getMailInfo
  cases hfound : (service.cacheAllPlayers.lookup pid).bind (·.lookup mailId) with
  | none => exact RowsOf.of_eq rfl
  | some ref =>
    obtain ⟨box, hbox, href⟩ := Option.bind_eq_some_iff.mp hfound
    obtain ⟨-, hid, hplayer, -⟩ := hkept.owned.inBox pid box mailId ref hbox href
    have hsome : (box.lookup mailId).isSome := by rw [href, Option.isSome_some]
    apply RowsOf.save hkept hbox
    · intro other row hrow
      rcases lookup_save hrow with ⟨hother, rfl⟩ | ⟨-, hrow⟩
      · exact .inr ⟨hplayer, hother.trans hid ▸ hsome⟩
      · exact .inl hrow
    · intro other row hrow
      rcases lookup_save_of_lookup upserts _ hrow with hrow | hother
      · exact .inl hrow
      · exact .inr (hother.symm.trans hid ▸ hsome)

lemma rowsOf_pickMails (hkept : Kept service) (pid : Int32) (req : PickRequest) :
    RowsOf service (service.pickMails exec upserts pid req) := by
  unfold MailService.pickMails
  cases hbox : service.cacheAllPlayers.lookup pid with
  | none => exact RowsOf.of_eq rfl
  | some box =>
    simp only
    set objects := service.writeBack box (req.after exec (service.view pid box)).mailVOMap
      with hobjects
    -- what is saved are mails of the mailbox
    have hsaved : ∀ mail ∈ (box.values.filter fun ref =>
        (objects ref).pick && !(service.objects ref).pick).map objects,
          mail.playerId = pid ∧ (box.lookup mail.id).isSome := by
      intro mail hmem
      obtain ⟨ref, href, rfl⟩ := List.mem_map.mp hmem
      obtain ⟨key, hkey⟩ := AList.mem_values.mp (List.mem_of_mem_filter href)
      obtain ⟨-, hid, hplayer, -⟩ := hkept.owned.inBox pid box key ref hbox hkey
      obtain ⟨mailVO, hwrite⟩ := writeBack_eq service box
        (req.after exec (service.view pid box)).mailVOMap ref
      rw [hobjects, hwrite]
      refine ⟨hplayer, ?_⟩
      rw [hid, hkey, Option.isSome_some]
    apply RowsOf.save hkept hbox
    · intro mailId row hrow
      rcases lookup_foldl_save hrow with ⟨hmem, rfl⟩ | ⟨-, hrow⟩
      · exact .inr (hsaved row hmem)
      · exact .inl hrow
    · intro mailId row hrow
      rcases lookup_foldl_save_of_lookup hrow with hrow | ⟨mail, hmem, rfl⟩
      · exact .inl hrow
      · exact .inr (hsaved mail hmem).2

lemma rowsOf_clearOverdueMail (hkept : Kept service) (pid : Int32) (now : Int64) :
    RowsOf service (service.clearOverdueMail pid now) := by
  unfold MailService.clearOverdueMail
  cases hbox : service.cacheAllPlayers.lookup pid with
  | none => exact RowsOf.of_eq rfl
  | some box =>
    simp only
    set overdue : Int32 → Bool := fun mailId =>
      (box.lookup mailId).any fun ref => (service.objects ref).valid ≤ now with hset
    refine RowsOf.filterKeys hkept (fun mailId => !overdue mailId) rfl hbox ?_
    intro mailId _ hoverdue
    simp only [hset] at hoverdue
    cases href : box.lookup mailId with
    | none => simp [href] at hoverdue
    | some ref => rfl

lemma lookup_view (service : MailService ι σ) (pid : Int32) (box : Mailbox) (mailId : Int32) :
    (service.view pid box).mailVOMap.lookup mailId =
      (box.lookup mailId).map fun ref => (service.objects ref).toMailVO :=
  AList.lookup_mapValues _ _ _

lemma rowsOf_deleteMails (hkept : Kept service) {pid : Int32}
    {mailIds : Option (List (Option Int32))} (hdelivers : service.Delivers (.delete pid mailIds)) :
    RowsOf service (service.deleteMails pid mailIds) := by
  unfold MailService.deleteMails
  cases hbox : service.cacheAllPlayers.lookup pid with
  | none => exact RowsOf.of_eq rfl
  | some box =>
    simp only
    set mails : Mails ι := ⟨(service.view pid box).mailVOMap,
      service.mailDAO.mapValues MailObj.toMailVO⟩ with hmails
    refine RowsOf.filterKeys hkept
      (fun mailId => (((delete mailIds).finalState mails).store.lookup mailId).isSome) rfl hbox ?_
    intro mailId hrow hdeleted
    have hspec : DeletesAllOrNothing mails mailIds := hdelivers box hbox
    have hstays := (delete_spec hspec mailId).1
    have hstore : mails.store.lookup mailId =
      (service.mailDAO.lookup mailId).map MailObj.toMailVO := AList.lookup_mapValues _ _ _
    cases href : box.lookup mailId with
    | none =>
      have hnone : mails.mailVOMap.lookup mailId = none := by
        rw [hmails, lookup_view, href, Option.map_none]
      rw [hstays hnone, hstore, Option.isSome_map, hrow] at hdeleted
      cases hdeleted
    | some ref => rfl

/-- No mail leaves a mailbox. -/
def Grows (service service' : MailService ι σ) : Prop :=
  ∀ pid box, service.cacheAllPlayers.lookup pid = some box →
    ∃ box', service'.cacheAllPlayers.lookup pid = some box' ∧
      ∀ mailId, (box.lookup mailId).isSome → (box'.lookup mailId).isSome

lemma Grows.of_eq (h : service'.cacheAllPlayers = service.cacheAllPlayers) :
    Grows service service' := by
  intro pid box hbox
  exact ⟨box, by rw [h, hbox], fun _ hsome => hsome⟩

lemma Grows.trans {service'' : MailService ι σ} (h : Grows service service')
    (h' : Grows service' service'') : Grows service service'' := by
  intro pid box hbox
  obtain ⟨box', hbox', hstay⟩ := h pid box hbox
  obtain ⟨box'', hbox'', hstay'⟩ := h' pid box' hbox'
  exact ⟨box'', hbox'', fun mailId hsome => hstay' mailId (hstay mailId hsome)⟩

/-- A load adds the player's mailbox. -/
lemma grows_load (service : MailService ι σ) (pid : Int32) (rows : List (MailObj ι)) :
    Grows service (service.load pid rows) ∧
      ∀ pid', ((service.load pid rows).cacheAllPlayers.lookup pid').isSome →
        (service.cacheAllPlayers.lookup pid').isSome ∨ pid' = pid := by
  by_cases hplayer : service.cacheAllPlayers.lookup pid = none
  · refine ⟨fun pid' box hbox => ⟨box, ?_, fun _ hsome => hsome⟩, fun pid' hsome => ?_⟩
    · rw [lookup_load_of_ne, hbox]
      rintro rfl
      rw [hplayer] at hbox
      cases hbox
    · by_cases hpid : pid' = pid
      · exact .inr hpid
      · rw [lookup_load_of_ne _ hpid] at hsome
        exact .inl hsome
  · obtain ⟨box, hbox⟩ := Option.ne_none_iff_exists'.mp hplayer
    rw [load_of_some hbox]
    exact ⟨Grows.of_eq rfl, fun pid' hsome => .inl hsome⟩

/-- The mails of `CacheMail` are added. -/
lemma grows_loadSuc (service : MailService ι σ) (pid : Int32) :
    Grows service (service.loadSuc pid) ∧
      ∀ pid', ((service.loadSuc pid).cacheAllPlayers.lookup pid').isSome →
        (service.cacheAllPlayers.lookup pid').isSome := by
  unfold MailService.loadSuc
  cases hplayer : service.cacheAllPlayers.lookup pid with
  | none => exact ⟨Grows.of_eq rfl, fun _ hsome => hsome⟩
  | some box =>
    cases hmap : service.cacheNewMail.lookup pid with
    | none => exact ⟨Grows.of_eq rfl, fun _ hsome => hsome⟩
    | some mailVOMap =>
      refine ⟨fun pid' box' hbox => ?_, fun pid' hsome => ?_⟩
      · by_cases hpid : pid' = pid
        · subst hpid
          obtain rfl : box = box' := Option.some.inj (hplayer.symm.trans hbox)
          refine ⟨_, lookup_put_self _ _ _, fun mailId hsome => ?_⟩
          rw [AList.lookup_isSome] at hsome ⊢
          exact AList.mem_union.mpr (.inr hsome)
        · exact ⟨box', (AList.lookup_insert_ne hpid).trans hbox, fun _ hsome => hsome⟩
      · by_cases hpid : pid' = pid
        · rw [hpid, hplayer, Option.isSome_some]
        · rwa [show (service.put pid (mailVOMap ∪ box)).cacheAllPlayers.lookup pid' =
            service.cacheAllPlayers.lookup pid' from AList.lookup_insert_ne hpid] at hsome

/-- **A load ends**: the rows stay, and no mail leaves a mailbox. -/
lemma Kept.finish (exec : FuncsExecutor ι σ) (upserts : Bool) (hkept : Kept service) (ix : ℕ)
    (login : Bool) :
    Kept (service.step exec upserts (.finish ix login)) ∧
      Grows service (service.step exec upserts (.finish ix login)) ∧
      RowsOf service (service.step exec upserts (.finish ix login)) := by
  have howned : (service.step exec upserts (.finish ix login)).Everywhere service.Owned :=
    hkept.owned.finish ix login
  simp only [step] at howned ⊢
  cases hix : service.loads[ix]? with
  | none => exact ⟨hkept, Grows.of_eq rfl, RowsOf.of_eq rfl⟩
  | some load =>
    obtain ⟨pid, rows⟩ := load
    simp only [hix] at howned ⊢
    set closed : MailService ι σ := { service with loads := service.loads.eraseIdx ix } with hclosed
    have hload := frame_load closed pid rows
    obtain ⟨hgrows, hsome⟩ := grows_load closed pid rows
    obtain ⟨hgrows', hsome'⟩ := grows_loadSuc (closed.load pid rows) pid
    have hpid := hkept.loading (pid, rows) (List.mem_of_getElem? hix)
    have hmove : ∀ service' : MailService ι σ, service'.Everywhere service.Owned →
        Frame closed service' → Grows closed service' →
        (∀ pid', (service'.cacheAllPlayers.lookup pid').isSome →
          ((closed.load pid rows).cacheAllPlayers.lookup pid').isSome) →
        Kept service' ∧ Grows service service' ∧ RowsOf service service' := by
      intro service' howned hframe hgrows hknown
      have hrows : RowsOf service service' := RowsOf.of_eq hframe.mailDAO
      refine ⟨?_, hgrows, hrows⟩
      apply hkept.of_rows howned hframe.sent hframe.cacheNewMail
      · intro pid' hplayer
        rw [hframe.baseInfo]
        rcases hsome pid' (hknown pid' hplayer) with hplayer | rfl
        · exact hkept.known pid' hplayer
        · exact hpid
      · rw [hframe.baseInfo]
        exact fun _ hknown => hknown
      · rw [hframe.loads]
        exact fun load hmem => List.mem_of_mem_eraseIdx hmem
      · intro load _ hnone
        by_contra hplayer
        obtain ⟨box, hbox⟩ := Option.ne_none_iff_exists'.mp hplayer
        obtain ⟨box', hbox', -⟩ := hgrows load.1 box hbox
        rw [hbox'] at hnone
        cases hnone
      · exact hrows
    cases login with
    | true =>
      exact hmove _ howned (hload.trans (frame_loadSuc _ pid)) (hgrows.trans hgrows') hsome'
    | false => exact hmove _ howned hload hgrows fun _ hplayer => hplayer

/-- The service when a mail has a row and an object. -/
def saved (service : MailService ι σ) (mail : MailObj ι) : MailService ι σ :=
  (MailService.newMailVO { service with
    mailDAO := service.mailDAO.insert mail.id mail
    sent := service.sent.insert mail.id mail } mail).1

lemma sendMail_eq (service : MailService ι σ) (mail : MailObj ι) :
    service.sendMail mail =
      match service.cacheAllPlayers.lookup mail.playerId with
      | some box => (service.saved mail).put mail.playerId (box.insert mail.id service.fresh)
      | none =>
        if mail.playerId ∈ service.baseInfo then
          { service.saved mail with
            cacheNewMail := service.cacheNewMail.insert mail.playerId
              (((service.cacheNewMail.lookup mail.playerId).getD ∅).insert mail.id service.fresh) }
        else service.saved mail := rfl

/-- The mailboxes after a mail is sent. -/
lemma lookup_sendMail (service : MailService ι σ) (mail : MailObj ι) (pid : Int32) :
    (service.sendMail mail).cacheAllPlayers.lookup pid =
      if pid = mail.playerId then
        (service.cacheAllPlayers.lookup pid).map (·.insert mail.id service.fresh)
      else service.cacheAllPlayers.lookup pid := by
  rw [sendMail_eq]
  cases hplayer : service.cacheAllPlayers.lookup mail.playerId with
  | some box =>
    change (service.cacheAllPlayers.insert mail.playerId _).lookup pid = _
    rw [AList.lookup_insert_ite]
    split_ifs with hpid
    · rw [hpid, hplayer, Option.map_some]
    · rfl
  | none =>
    have hsame : (if pid = mail.playerId then
        (service.cacheAllPlayers.lookup pid).map (·.insert mail.id service.fresh)
        else service.cacheAllPlayers.lookup pid) = service.cacheAllPlayers.lookup pid := by
      split_ifs with hpid
      · rw [hpid, hplayer, Option.map_none]
      · rfl
    rw [hsame]
    simp only
    split_ifs
    · rfl
    · rfl

/-- The rows, the loads and the mails sent after a mail is sent. -/
lemma frame_sendMail (service : MailService ι σ) (mail : MailObj ι) :
    (service.sendMail mail).mailDAO = service.mailDAO.insert mail.id mail ∧
      (service.sendMail mail).sent = service.sent.insert mail.id mail ∧
      (service.sendMail mail).loads = service.loads ∧
      (service.sendMail mail).baseInfo = service.baseInfo := by
  rw [sendMail_eq]
  cases service.cacheAllPlayers.lookup mail.playerId with
  | some box => exact ⟨rfl, rfl, rfl, rfl⟩
  | none =>
    simp only
    split_ifs
    · exact ⟨rfl, rfl, rfl, rfl⟩
    · exact ⟨rfl, rfl, rfl, rfl⟩

/-- `CacheMail` after a mail is sent. -/
lemma cacheNewMail_sendMail (service : MailService ι σ) (mail : MailObj ι) :
    (service.sendMail mail).cacheNewMail =
      if service.cacheAllPlayers.lookup mail.playerId = none ∧ mail.playerId ∈ service.baseInfo then
        service.cacheNewMail.insert mail.playerId
          (((service.cacheNewMail.lookup mail.playerId).getD ∅).insert mail.id service.fresh)
      else service.cacheNewMail := by
  rw [sendMail_eq]
  cases service.cacheAllPlayers.lookup mail.playerId with
  | some box =>
    simp only [reduceCtorEq, false_and, if_false]
    rfl
  | none =>
    simp only [true_and]
    split_ifs
    · rfl
    · rfl

/-- `CacheMail` keeps what it has. -/
lemma Cached.sendMail {pid mailId : Int32} (h : service.Cached pid mailId) (mail : MailObj ι) :
    (service.sendMail mail).Cached pid mailId := by
  unfold Cached
  rw [cacheNewMail_sendMail]
  split_ifs with hknown
  · obtain ⟨mailVOMap, hmap, hsome⟩ := h
    rw [AList.lookup_insert_ite]
    split_ifs with hpid
    · refine ⟨_, rfl, ?_⟩
      rw [← hpid, hmap, Option.getD_some, AList.lookup_insert_ite]
      split_ifs
      · rfl
      · exact hsome
    · exact ⟨mailVOMap, hmap, hsome⟩
  · exact h

/-- A mail to a known player who is not in the cache goes into `CacheMail`. -/
lemma cached_sendMail {mail : MailObj ι}
    (hnone : service.cacheAllPlayers.lookup mail.playerId = none)
    (hknown : mail.playerId ∈ service.baseInfo) :
    (service.sendMail mail).Cached mail.playerId mail.id := by
  unfold Cached
  rw [cacheNewMail_sendMail, if_pos ⟨hnone, hknown⟩]
  exact ⟨_, AList.lookup_insert _, by rw [AList.lookup_insert, Option.isSome_some]⟩

/-- **A new mail** goes where its player will find it. -/
lemma Kept.sendMail (hkept : Kept service) {mail : MailObj ι}
    (hnew : service.sent.lookup mail.id = none) : Kept (service.sendMail mail) := by
  obtain ⟨hrows, hsent, hloads, hbase⟩ := frame_sendMail service mail
  have hnone : ∀ pid, (service.sendMail mail).cacheAllPlayers.lookup pid = none →
      service.cacheAllPlayers.lookup pid = none := by
    intro pid hlookup
    rw [lookup_sendMail] at hlookup
    split_ifs at hlookup
    · exact Option.map_eq_none_iff.mp hlookup
    · exact hlookup
  -- the mails that were there have other ids
  have howned : ∀ mail', service.Owned mail' → (service.sendMail mail).Owned mail' := by
    rintro mail' ⟨original, hlookup, hplayer⟩
    refine ⟨original, ?_, hplayer⟩
    rw [hsent, AList.lookup_insert_ite, if_neg]
    · exact hlookup
    · intro hid
      rw [hid, hnew] at hlookup
      cases hlookup
  have hself : (service.sendMail mail).Owned mail := by
    refine ⟨mail, ?_, rfl⟩
    rw [hsent, AList.lookup_insert]
  have hother : ∀ mailId row, service.mailDAO.lookup mailId = some row → mailId ≠ mail.id := by
    rintro mailId row hrow rfl
    obtain ⟨hid, original, hlookup, -⟩ := hkept.owned.row mail.id row hrow
    rw [hid, hnew] at hlookup
    cases hlookup
  exact {
    owned := (hkept.owned.imp howned).sendMail hself
    known := by
      intro pid hsome
      rw [hbase]
      apply hkept.known
      rw [Option.isSome_iff_ne_none] at hsome ⊢
      intro hlookup
      rw [lookup_sendMail, hlookup, Option.map_none, ite_self] at hsome
      exact hsome rfl
    loading := by
      rw [hloads, hbase]
      exact hkept.loading
    read := by
      intro load hload hlookup mailId row hrow hplayer
      rw [hloads] at hload
      rw [hrows, AList.lookup_insert_ite] at hrow
      split_ifs at hrow with hid
      · obtain rfl := Option.some.inj hrow
        refine .inr ?_
        rw [hid, ← hplayer]
        refine cached_sendMail (hplayer ▸ hnone _ hlookup) ?_
        rw [hplayer]
        exact hkept.loading load hload
      · rcases hkept.read load hload (hnone _ hlookup) mailId row hrow hplayer with hread | hcached
        · exact .inl hread
        · exact .inr (hcached.sendMail mail)
    row := by
      intro load hload hlookup r hr
      rw [hloads] at hload
      obtain ⟨row, hrow, hplayer⟩ := hkept.row load hload (hnone _ hlookup) r hr
      refine ⟨row, ?_, hplayer⟩
      rw [hrows, AList.lookup_insert_ite, if_neg (hother r.id row hrow)]
      exact hrow }

/-- A player in the cache gets a new mail. -/
lemma Complete.sendMail {pid : Int32} (hcomplete : service.Complete pid) (mail : MailObj ι) :
    (service.sendMail mail).Complete pid := by
  obtain ⟨box, hbox, hall⟩ := hcomplete
  unfold Complete
  rw [lookup_sendMail, (frame_sendMail service mail).1, hbox]
  split_ifs with hpid
  · refine ⟨_, rfl, fun mailId row hrow hplayer => ?_⟩
    rw [AList.lookup_insert_ite] at hrow ⊢
    split_ifs at hrow ⊢
    · rfl
    · exact hall mailId row hrow hplayer
  · refine ⟨box, rfl, fun mailId row hrow hplayer => ?_⟩
    rw [AList.lookup_insert_ite] at hrow
    split_ifs at hrow with hid
    · obtain rfl := Option.some.inj hrow
      exact absurd hplayer.symm hpid
    · exact hall mailId row hrow hplayer

/-- A request of a player changes his mailbox only. -/
lemma lookup_put_eq_none {pid pid' : Int32} {box box' : Mailbox}
    (hbox : service.cacheAllPlayers.lookup pid = some box) :
    (service.put pid box').cacheAllPlayers.lookup pid' = none ↔
      service.cacheAllPlayers.lookup pid' = none := by
  change (service.cacheAllPlayers.insert pid box').lookup pid' = none ↔ _
  rw [AList.lookup_insert_ite]
  split_ifs with hpid
  · rw [hpid, hbox]
    simp only [reduceCtorEq]
  · rfl

/-- **What a request leaves as it is**: the players in the cache, `CacheMail` and the loads, and
when mails lapse. -/
structure Request (service service' : MailService ι σ) : Prop where
  fresh : service'.fresh = service.fresh
  valid : ∀ ref, (service'.objects ref).valid = (service.objects ref).valid
  sent : service'.sent = service.sent
  cacheNewMail : service'.cacheNewMail = service.cacheNewMail
  baseInfo : service'.baseInfo = service.baseInfo
  loads : service'.loads = service.loads
  absent : ∀ pid, service'.cacheAllPlayers.lookup pid = none ↔
    service.cacheAllPlayers.lookup pid = none

lemma request_clearOverdueMail (service : MailService ι σ) (pid : Int32) (now : Int64) :
    Request service (service.clearOverdueMail pid now) := by
  unfold MailService.clearOverdueMail
  cases hbox : service.cacheAllPlayers.lookup pid with
  | none => exact ⟨rfl, fun _ => rfl, rfl, rfl, rfl, rfl, fun _ => Iff.rfl⟩
  | some box => exact ⟨rfl, fun _ => rfl, rfl, rfl, rfl, rfl, fun _ => lookup_put_eq_none hbox⟩

lemma request_deleteMails (service : MailService ι σ) (pid : Int32)
    (mailIds : Option (List (Option Int32))) :
    Request service (service.deleteMails pid mailIds) := by
  unfold MailService.deleteMails
  cases hbox : service.cacheAllPlayers.lookup pid with
  | none => exact ⟨rfl, fun _ => rfl, rfl, rfl, rfl, rfl, fun _ => Iff.rfl⟩
  | some box => exact ⟨rfl, fun _ => rfl, rfl, rfl, rfl, rfl, fun _ => lookup_put_eq_none hbox⟩

lemma cacheAllPlayers_getMailInfo (upserts : Bool) (service : MailService ι σ)
    (pid mailId : Int32) :
    Request service (service.getMailInfo upserts pid mailId) ∧
      (service.getMailInfo upserts pid mailId).cacheAllPlayers = service.cacheAllPlayers := by
  unfold MailService.getMailInfo
  split
  · exact ⟨⟨rfl, fun _ => rfl, rfl, rfl, rfl, rfl, fun _ => Iff.rfl⟩, rfl⟩
  · next ref _ =>
    refine ⟨⟨rfl, fun other => ?_, rfl, rfl, rfl, rfl, fun _ => Iff.rfl⟩, rfl⟩
    simp only [Function.update_apply]
    split_ifs with heq
    · rw [heq]
    · rfl

lemma cacheAllPlayers_pickMails (exec : FuncsExecutor ι σ) (upserts : Bool)
    (service : MailService ι σ) (pid : Int32) (req : PickRequest) :
    Request service (service.pickMails exec upserts pid req) ∧
      (service.pickMails exec upserts pid req).cacheAllPlayers = service.cacheAllPlayers := by
  unfold MailService.pickMails
  split
  · exact ⟨⟨rfl, fun _ => rfl, rfl, rfl, rfl, rfl, fun _ => Iff.rfl⟩, rfl⟩
  · refine ⟨⟨rfl, fun ref => ?_, rfl, rfl, rfl, rfl, fun _ => Iff.rfl⟩, rfl⟩
    simp only [writeBack]
    split <;> rfl

/-- **A request** keeps the invariant, if only rows of mails in mailboxes change. -/
lemma Kept.of_request (hkept : Kept service) (howned : service'.Everywhere service.Owned)
    (hrequest : Request service service') (hrows : RowsOf service service') : Kept service' := by
  apply hkept.of_rows howned hrequest.sent hrequest.cacheNewMail ?_ ?_ ?_ ?_ hrows
  · intro pid hsome
    rw [hrequest.baseInfo]
    apply hkept.known
    rw [Option.isSome_iff_ne_none] at hsome ⊢
    exact fun hlookup => hsome ((hrequest.absent pid).mpr hlookup)
  · rw [hrequest.baseInfo]
    exact fun _ hpid => hpid
  · rw [hrequest.loads]
    exact fun _ hload => hload
  · exact fun load _ hlookup => (hrequest.absent load.1).mp hlookup

/-- A new player. -/
lemma Kept.create (hkept : Kept service) (pid : Int32) :
    Kept (service.step exec upserts (.create pid)) := by
  have howned : (service.step exec upserts (.create pid)).Everywhere service.Owned :=
    hkept.owned.create pid
  simp only [MailService.step] at howned ⊢
  split_ifs at howned ⊢ with hknown
  · exact hkept
  · have hother : ∀ pid' ≠ pid, (service.cacheAllPlayers.insert pid ∅).lookup pid' =
        service.cacheAllPlayers.lookup pid' := fun _ hne => AList.lookup_insert_ne hne
    refine hkept.of_rows howned rfl rfl ?_ ?_ (fun _ hload => hload) ?_ (RowsOf.of_eq rfl)
    · intro pid' hsome
      by_cases hpid : pid' = pid
      · exact hpid ▸ List.mem_cons_self
      · refine List.mem_cons_of_mem _ (hkept.known pid' ?_)
        rw [← hother pid' hpid]
        exact hsome
    · exact fun _ hpid => List.mem_cons_of_mem _ hpid
    · intro load hload hlookup
      rw [← hother load.1 fun hpid => hknown (hpid ▸ hkept.loading load hload)]
      exact hlookup

/-- **A load begins**: it reads all rows of the player. -/
lemma Kept.beginLoad (hkept : Kept service) (pid : Int32) :
    Kept (service.step exec upserts (.read pid)) := by
  have howned : (service.step exec upserts (.read pid)).Everywhere service.Owned :=
    hkept.owned.read pid
  simp only [MailService.step] at howned ⊢
  split_ifs at howned ⊢ with hknown
  · have hmem : ∀ load ∈ service.loads ++ [(pid, service.rowsOf pid)],
        load ∈ service.loads ∨ load = (pid, service.rowsOf pid) := by
      intro load hload
      exact (List.mem_append.mp hload).imp id List.mem_singleton.mp
    exact {
      owned := howned
      known := hkept.known
      loading := by
        intro load hload
        rcases hmem load hload with hold | rfl
        · exact hkept.loading load hold
        · exact hknown
      read := by
        intro load hload hlookup mailId row hrow hplayer
        rcases hmem load hload with hold | rfl
        · exact hkept.read load hold hlookup mailId row hrow hplayer
        · refine .inl ⟨row, List.mem_filter.mpr ⟨?_, decide_eq_true hplayer⟩, ?_⟩
          · exact AList.mem_values.mpr ⟨mailId, hrow⟩
          · exact (hkept.owned.row mailId row hrow).1
      row := by
        intro load hload hlookup r hr
        rcases hmem load hload with hold | rfl
        · exact hkept.row load hold hlookup r hr
        · obtain ⟨hvalue, hplayer⟩ := List.mem_filter.mp hr
          obtain ⟨mailId, hrow⟩ := AList.mem_values.mp hvalue
          refine ⟨r, ?_, of_decide_eq_true hplayer⟩
          rw [(hkept.owned.row mailId r hrow).1]
          exact hrow }
  · exact hkept

/-- A player leaves the cache. -/
lemma Kept.evict (hkept : Kept service) {pid : Int32} (hne : ∀ load ∈ service.loads, load.1 ≠ pid) :
    Kept (service.step exec upserts (.evict pid)) := by
  have howned : (service.step exec upserts (.evict pid)).Everywhere service.Owned :=
    hkept.owned.evict fun load hload hpid => absurd hpid (hne load hload)
  refine hkept.of_rows howned rfl rfl ?_ (fun _ hpid => hpid) (fun _ hload => hload) ?_
    (RowsOf.of_eq rfl)
  · intro pid' hsome
    simp only [MailService.step, AList.lookup_erase_ite] at hsome
    split_ifs at hsome
    · cases hsome
    · exact hkept.known pid' hsome
  · intro load hload hlookup
    simp only [MailService.step, AList.lookup_erase_ite, if_neg (hne load hload)] at hlookup
    exact hlookup

/-- **Every step keeps the invariant.** -/
theorem Kept.step (hkept : Kept service) {action : Action ι} (hdelivers : service.Delivers action) :
    Kept (service.step exec upserts action) := by
  cases action with
  | send mail =>
    simp only [MailService.step]
    split_ifs with hsent
    · exact hkept
    · push Not at hsent
      exact hkept.sendMail (Option.not_isSome_iff_eq_none.mp hsent.1)
  | create pid => exact hkept.create pid
  | read pid => exact hkept.beginLoad pid
  | finish ix login => exact (hkept.finish exec upserts ix login).1
  | evict pid => exact hkept.evict hdelivers
  | enterGame pid now =>
    exact hkept.of_request (hkept.owned.clearOverdueMail pid now)
      (request_clearOverdueMail service pid now) (rowsOf_clearOverdueMail hkept pid now)
  | getMailInfo pid mailId =>
    exact hkept.of_request (hkept.owned.getMailInfo pid mailId fun _ h => h)
      (cacheAllPlayers_getMailInfo upserts service pid mailId).1
      (rowsOf_getMailInfo hkept pid mailId)
  | pick pid req =>
    exact hkept.of_request (hkept.owned.pickMails pid req fun _ _ h => h)
      (cacheAllPlayers_pickMails exec upserts service pid req).1 (rowsOf_pickMails hkept pid req)
  | delete pid mailIds =>
    exact hkept.of_request (hkept.owned.deleteMails pid mailIds)
      (request_deleteMails service pid mailIds) (rowsOf_deleteMails hkept hdelivers)

/-! ## A complete mailbox stays complete -/

/-- Mails are taken out of the mailbox of one player, and their rows with them. -/
lemma Complete.of_filter {pid pid' : Int32} {box : Mailbox} (hcomplete : service.Complete pid')
    (hbox : service.cacheAllPlayers.lookup pid = some box) {p q : Int32 → Bool}
    (hplayers : service'.cacheAllPlayers = service.cacheAllPlayers.insert pid (box.filterKeys p))
    (hrows : service'.mailDAO = service.mailDAO.filterKeys q)
    (hpq : ∀ mailId, q mailId = true → (box.lookup mailId).isSome → p mailId = true) :
    service'.Complete pid' := by
  obtain ⟨box', hbox', hall⟩ := hcomplete
  unfold Complete
  rw [hplayers, hrows, AList.lookup_insert_ite]
  split_ifs with hpid
  · rw [hpid, hbox] at hbox'
    obtain rfl := Option.some.inj hbox'
    refine ⟨_, rfl, fun mailId row hrow hplayer => ?_⟩
    rw [AList.lookup_filterKeys] at hrow ⊢
    split_ifs at hrow with hq
    have hsome := hall mailId row hrow hplayer
    rw [if_pos (hpq mailId hq hsome)]
    exact hsome
  · refine ⟨box', hbox', fun mailId row hrow hplayer => hall mailId row ?_ hplayer⟩
    rw [AList.lookup_filterKeys] at hrow
    split_ifs at hrow
    exact hrow

/-- Mails that have lapsed. -/
lemma Complete.clearOverdueMail {pid' : Int32} (hcomplete : service.Complete pid') (pid : Int32)
    (now : Int64) : (service.clearOverdueMail pid now).Complete pid' := by
  unfold MailService.clearOverdueMail
  cases hbox : service.cacheAllPlayers.lookup pid with
  | none => exact hcomplete
  | some box => exact hcomplete.of_filter hbox rfl rfl fun _ hq _ => hq

/-- **A request that deletes all its mails or none.** -/
lemma Complete.deleteMails {pid pid' : Int32} (hcomplete : service.Complete pid')
    {mailIds : Option (List (Option Int32))} (hdelivers : service.Delivers (.delete pid mailIds)) :
    (service.deleteMails pid mailIds).Complete pid' := by
  unfold MailService.deleteMails
  cases hbox : service.cacheAllPlayers.lookup pid with
  | none => exact hcomplete
  | some box =>
    simp only
    set mails : Mails ι := ⟨(service.view pid box).mailVOMap,
      service.mailDAO.mapValues MailObj.toMailVO⟩ with hmails
    have hspec : DeletesAllOrNothing mails mailIds := hdelivers box hbox
    refine hcomplete.of_filter hbox
      (p := fun mailId => (((delete mailIds).finalState mails).mailVOMap.lookup mailId).isSome)
      (q := fun mailId => (((delete mailIds).finalState mails).store.lookup mailId).isSome)
      rfl rfl fun mailId hq hsome => ?_
    have hbefore : (mails.mailVOMap.lookup mailId).isSome := by
      rwa [hmails, lookup_view, Option.isSome_map]
    exact (delete_spec hspec mailId).2 hq hbefore

/-- **A mailbox stays complete** until its player leaves the cache. -/
theorem Complete.step {pid : Int32} (hcomplete : service.Complete pid) (hkept : Kept service)
    {action : Action ι} (hdelivers : service.Delivers action) (hstays : action ≠ .evict pid) :
    (service.step exec upserts action).Complete pid := by
  cases action with
  | send mail =>
    simp only [MailService.step]
    split_ifs
    · exact hcomplete
    · exact hcomplete.sendMail mail
  | create pid' =>
    simp only [MailService.step]
    split_ifs with hknown
    · exact hcomplete
    · obtain ⟨box, hbox, hall⟩ := hcomplete
      have hne : pid ≠ pid' := by
        rintro rfl
        exact hknown (hkept.known pid (by rw [hbox, Option.isSome_some]))
      exact ⟨box, (AList.lookup_insert_ne hne).trans hbox, hall⟩
  | read pid' =>
    simp only [MailService.step]
    split_ifs
    · exact hcomplete
    · exact hcomplete
  | finish ix login =>
    obtain ⟨-, hgrows, hrows⟩ := hkept.finish exec upserts ix login
    exact hcomplete.of_rows (hgrows pid) hrows
  | evict pid' =>
    obtain ⟨box, hbox, hall⟩ := hcomplete
    have hne : pid ≠ pid' := fun hpid => hstays (hpid ▸ rfl)
    refine ⟨box, ?_, hall⟩
    simp only [MailService.step, AList.lookup_erase_ite, if_neg hne]
    exact hbox
  | enterGame pid' now => exact hcomplete.clearOverdueMail pid' now
  | getMailInfo pid' mailId =>
    have hsame := (cacheAllPlayers_getMailInfo upserts service pid' mailId).2
    exact hcomplete.of_rows (Grows.of_eq hsame pid) (rowsOf_getMailInfo hkept pid' mailId)
  | pick pid' req =>
    have hsame := (cacheAllPlayers_pickMails exec upserts service pid' req).2
    exact hcomplete.of_rows (Grows.of_eq hsame pid) (rowsOf_pickMails hkept pid' req)
  | delete pid' mailIds => exact hcomplete.deleteMails hdelivers

/-! ## Logins -/

/-- What a load puts into the mailbox: the rows that it has read. -/
lemma lookup_buildAsLoad (service : MailService ι σ) (box : Mailbox) (rows : List (MailObj ι))
    (mailId : Int32) :
    ((service.buildAsLoad box rows).2.lookup mailId).isSome ↔
      (box.lookup mailId).isSome ∨ ∃ row ∈ rows, row.id = mailId := by
  induction rows generalizing service box with
  | nil => simp only [buildAsLoad, List.not_mem_nil, false_and, exists_false, or_false]
  | cons row rows ih =>
    have hinsert : ((box.insert row.id service.fresh).lookup mailId).isSome ↔
        (box.lookup mailId).isSome ∨ row.id = mailId := by
      rw [AList.lookup_insert_ite]
      split_ifs with hid
      · exact iff_of_true rfl (.inr hid.symm)
      · exact ⟨.inl, fun h => h.resolve_right fun heq => hid heq.symm⟩
    rw [show (service.buildAsLoad box (row :: rows)).2 =
      ((service.newMailVO row).1.buildAsLoad (box.insert row.id service.fresh) rows).2 from rfl,
      ih, hinsert, or_assoc]
    simp only [List.mem_cons, exists_eq_or_imp]

/-- **The mailbox after a login**: what was read, and `CacheMail`. -/
lemma lookup_login (service : MailService ι σ) {pid : Int32}
    (hnone : service.cacheAllPlayers.lookup pid = none) (rows : List (MailObj ι)) :
    ∃ box, ((service.load pid rows).loadSuc pid).cacheAllPlayers.lookup pid = some box ∧
      ∀ mailId, (box.lookup mailId).isSome ↔
        (∃ row ∈ rows, row.id = mailId) ∨ service.Cached pid mailId := by
  have hbuilt := lookup_buildAsLoad service ∅ rows
  have hload : (service.load pid rows).cacheAllPlayers.lookup pid =
      some (service.buildAsLoad ∅ rows).2 := by
    unfold MailService.load
    rw [hnone]
    exact lookup_put_self _ _ _
  have hcache := (frame_load service pid rows).cacheNewMail
  unfold MailService.loadSuc
  rw [hload, hcache]
  cases hmap : service.cacheNewMail.lookup pid with
  | none =>
    refine ⟨_, hload, fun mailId => ?_⟩
    have huncached : ¬service.Cached pid mailId := by
      rintro ⟨mailVOMap, hlookup, -⟩
      rw [hmap] at hlookup
      cases hlookup
    rw [hbuilt, iff_false_intro huncached, or_false]
    simp only [AList.lookup_empty, Option.isSome_none, Bool.false_eq_true, false_or]
  | some mailVOMap =>
    refine ⟨_, lookup_put_self _ _ _, fun mailId => ?_⟩
    have hcached : service.Cached pid mailId ↔ (mailVOMap.lookup mailId).isSome := by
      constructor
      · rintro ⟨other, hother, hsome⟩
        rw [hmap] at hother
        obtain rfl := Option.some.inj hother
        exact hsome
      · exact fun hsome => ⟨mailVOMap, hmap, hsome⟩
    have hread := hbuilt mailId
    simp only [AList.lookup_isSome, AList.mem_union] at hread hcached ⊢
    rw [hcached, hread, or_comm]
    simp only [AList.notMem_empty, false_or]

/-! ## What `CacheMail` keeps -/

/-- **`CacheMail` has an object** of the mail, which lapses at the time `valid`. -/
def CachedUntil (service : MailService ι σ) (pid mailId : Int32) (valid : Int64) : Prop :=
  (service.sent.lookup mailId).isSome ∧ ∃ mailVOMap ref,
    service.cacheNewMail.lookup pid = some mailVOMap ∧ mailVOMap.lookup mailId = some ref ∧
      ref < service.fresh ∧ (service.objects ref).valid = valid

section CachedUntil

variable {pid mailId : Int32} {valid : Int64}

/-- The object stays where `CacheMail` and the objects that there are do. -/
lemma CachedUntil.congr (h : service.CachedUntil pid mailId valid)
    (hsent : service'.sent = service.sent) (hcache : service'.cacheNewMail = service.cacheNewMail)
    (hfresh : service.fresh ≤ service'.fresh)
    (hobjects : ∀ ref < service.fresh, (service'.objects ref).valid = (service.objects ref).valid) :
    service'.CachedUntil pid mailId valid := by
  obtain ⟨hmail, mailVOMap, ref, hmap, href, hlt, hvalid⟩ := h
  refine ⟨hsent ▸ hmail, mailVOMap, ref, hcache ▸ hmap, href, hlt.trans_le hfresh, ?_⟩
  rw [hobjects ref hlt, hvalid]

lemma CachedUntil.of_frame (h : service.CachedUntil pid mailId valid)
    (hframe : Frame service service') : service'.CachedUntil pid mailId valid :=
  h.congr hframe.sent hframe.cacheNewMail hframe.fresh
    fun ref hlt => congrArg MailObj.valid (hframe.objects ref hlt)

lemma CachedUntil.of_request (h : service.CachedUntil pid mailId valid)
    (hrequest : Request service service') : service'.CachedUntil pid mailId valid :=
  h.congr hrequest.sent hrequest.cacheNewMail hrequest.fresh.ge fun ref _ => hrequest.valid ref

/-- The objects after a mail is sent. -/
lemma objects_sendMail (service : MailService ι σ) (mail : MailObj ι) :
    (service.sendMail mail).fresh = service.fresh + 1 ∧
      (service.sendMail mail).objects =
        Function.update service.objects service.fresh mail := by
  rw [sendMail_eq]
  cases service.cacheAllPlayers.lookup mail.playerId with
  | some box => exact ⟨rfl, rfl⟩
  | none =>
    simp only
    split_ifs
    · exact ⟨rfl, rfl⟩
    · exact ⟨rfl, rfl⟩

/-- A new mail takes the place of none in `CacheMail`. -/
lemma CachedUntil.sendMail (h : service.CachedUntil pid mailId valid) {mail : MailObj ι}
    (hnew : service.sent.lookup mail.id = none) :
    (service.sendMail mail).CachedUntil pid mailId valid := by
  obtain ⟨hmail, mailVOMap, ref, hmap, href, hlt, hvalid⟩ := h
  obtain ⟨hfresh, hobjects⟩ := objects_sendMail service mail
  have hid : mailId ≠ mail.id := by
    rintro rfl
    rw [hnew] at hmail
    cases hmail
  have hobject : ((service.sendMail mail).objects ref).valid = valid := by
    rw [hobjects, Function.update_of_ne hlt.ne, hvalid]
  have hlt' : ref < (service.sendMail mail).fresh := hfresh ▸ hlt.trans (Nat.lt_succ_self _)
  refine ⟨?_, ?_⟩
  · rw [(frame_sendMail service mail).2.1, AList.lookup_insert_ite, if_neg hid]
    exact hmail
  · rw [cacheNewMail_sendMail]
    split_ifs
    · rw [AList.lookup_insert_ite]
      split_ifs with hpid
      · refine ⟨_, ref, rfl, ?_, hlt', hobject⟩
        rw [← hpid, hmap, Option.getD_some, AList.lookup_insert_ite, if_neg hid, href]
      · exact ⟨mailVOMap, ref, hmap, href, hlt', hobject⟩
    · exact ⟨mailVOMap, ref, hmap, href, hlt', hobject⟩

/-- A mail to a known player who is not in the cache goes into `CacheMail`. -/
lemma cachedUntil_sendMail {mail : MailObj ι}
    (hnone : service.cacheAllPlayers.lookup mail.playerId = none)
    (hknown : mail.playerId ∈ service.baseInfo) :
    (service.sendMail mail).CachedUntil mail.playerId mail.id mail.valid := by
  obtain ⟨hfresh, hobjects⟩ := objects_sendMail service mail
  refine ⟨?_, ((service.cacheNewMail.lookup mail.playerId).getD ∅).insert mail.id service.fresh,
    service.fresh, ?_, AList.lookup_insert _, ?_, ?_⟩
  · rw [(frame_sendMail service mail).2.1, AList.lookup_insert]
    rfl
  · rw [cacheNewMail_sendMail, if_pos ⟨hnone, hknown⟩]
    exact AList.lookup_insert _
  · rw [hfresh]
    exact Nat.lt_succ_self _
  · rw [hobjects, Function.update_self]

/-- **`CacheMail` loses nothing.** -/
lemma CachedUntil.step (h : service.CachedUntil pid mailId valid) (action : Action ι) :
    (service.step exec upserts action).CachedUntil pid mailId valid := by
  cases action with
  | send mail =>
    simp only [MailService.step]
    split_ifs with hsent
    · exact h
    · push Not at hsent
      exact h.sendMail (Option.not_isSome_iff_eq_none.mp hsent.1)
  | create pid' =>
    simp only [MailService.step]
    split_ifs
    · exact h
    · exact h.congr rfl rfl le_rfl fun _ _ => rfl
  | read pid' =>
    simp only [MailService.step]
    split_ifs
    · exact h.congr rfl rfl le_rfl fun _ _ => rfl
    · exact h
  | finish ix login =>
    simp only [MailService.step]
    cases service.loads[ix]? with
    | none => exact h
    | some load =>
      have hclosed : CachedUntil { service with loads := service.loads.eraseIdx ix } pid mailId
          valid := h.congr rfl rfl le_rfl fun _ _ => rfl
      have hload := hclosed.of_frame (frame_load _ load.1 load.2)
      cases login with
      | true => exact hload.of_frame (frame_loadSuc _ load.1)
      | false => exact hload
  | evict pid' => exact h.congr rfl rfl le_rfl fun _ _ => rfl
  | enterGame pid' now => exact h.of_request (request_clearOverdueMail service pid' now)
  | getMailInfo pid' mailId' =>
    exact h.of_request (cacheAllPlayers_getMailInfo upserts service pid' mailId').1
  | pick pid' req =>
    exact h.of_request (cacheAllPlayers_pickMails exec upserts service pid' req).1
  | delete pid' mailIds => exact h.of_request (request_deleteMails service pid' mailIds)

/-- **A login** puts the mails of `CacheMail` into the mailbox, and then those that have lapsed are
taken out. -/
lemma CachedUntil.login (h : service.CachedUntil pid mailId valid) (rows : List (MailObj ι))
    (now : Int64) :
    ∃ box, (((service.load pid rows).loadSuc pid).clearOverdueMail pid
        now).cacheAllPlayers.lookup pid = some box ∧
      ((box.lookup mailId).isSome ↔ now < valid) := by
  obtain ⟨-, mailVOMap, ref, hmap, href, hlt, hvalid⟩ := h
  have hframe := frame_load service pid rows
  obtain ⟨box, hbox⟩ : ∃ box, (service.load pid rows).cacheAllPlayers.lookup pid = some box := by
    cases hplayer : service.cacheAllPlayers.lookup pid with
    | some box => exact ⟨box, by rw [load_of_some hplayer, hplayer]⟩
    | none =>
      unfold MailService.load
      rw [hplayer]
      exact ⟨_, lookup_put_self _ _ _⟩
  have hlogin : (service.load pid rows).loadSuc pid =
      (service.load pid rows).put pid (mailVOMap ∪ box) := by
    unfold MailService.loadSuc
    rw [hbox, hframe.cacheNewMail, hmap]
  have hunion : (mailVOMap ∪ box).lookup mailId = some ref := AList.mem_lookup_union.mpr (.inl href)
  have hobject : (((service.load pid rows).put pid (mailVOMap ∪ box)).objects ref).valid = valid :=
    (congrArg MailObj.valid (hframe.objects ref hlt)).trans hvalid
  rw [hlogin]
  unfold MailService.clearOverdueMail
  rw [lookup_put_self]
  refine ⟨_, lookup_put_self _ _ _, ?_⟩
  rw [AList.lookup_filterKeys]
  simp only [hunion, Option.any_some, hobject]
  by_cases hlapsed : valid ≤ now
  · simp [hlapsed]
  · simp [hlapsed, Int64.not_le.mp hlapsed]

end CachedUntil

/-! ## Runs -/

lemma kept_boot (rows : List (MailObj ι)) (pids : List Int32) (others : Int32 → σ) :
    Kept (boot rows pids others) where
  owned := by
    apply everywhere_boot
    intro mailId row hrow
    rcases AList.lookup_putAll hrow with hnone | ⟨-, hid⟩
    · cases hnone
    · exact ⟨row, by rw [hid]; exact hrow, rfl⟩
  known := by
    intro pid hsome
    obtain ⟨box, hbox⟩ := Option.isSome_iff_exists.mp hsome
    exact (lookup_boot hbox).2
  loading := fun load hload => by cases hload
  read := fun load hload => by cases hload
  row := fun load hload => by cases hload

variable (exec : FuncsExecutor ι σ) (upserts : Bool) (rows : List (MailObj ι)) (pids : List Int32)
  (others : Int32 → σ)

/-- The service after a run from the start of the server. -/
abbrev after (actions : List (Action ι)) : MailService ι σ :=
  run (step exec upserts) (boot rows pids others) actions

/-- The invariant holds after every run whose steps meet the condition. -/
lemma kept_after {actions : List (Action ι)}
    (hdelivers : EveryStep (step exec upserts) Delivers (boot rows pids others) actions) :
    Kept (after exec upserts rows pids others actions) :=
  state_inv_run Kept (fun _ _ hkept hdelivers => hkept.step hdelivers)
    (kept_boot rows pids others) hdelivers

/-- **What is in the mailbox after a login.** After every run whose steps meet the condition, the
login of a player who is not in the cache leaves in his mailbox just the mails that have a row, and
those in `CacheMail`. -/
theorem mailbox_after_login (actions : List (Action ι))
    (hdelivers : EveryStep (step exec upserts) Delivers (boot rows pids others) actions)
    (ix : ℕ) (pid : Int32) (read : List (MailObj ι))
    (hload : (after exec upserts rows pids others actions).loads[ix]? = some (pid, read))
    (haway : (after exec upserts rows pids others actions).cacheAllPlayers.lookup pid = none) :
    ∃ box, (after exec upserts rows pids others
        (actions ++ [.finish ix true])).cacheAllPlayers.lookup pid = some box ∧
      ∀ mailId, (box.lookup mailId).isSome ↔
        (∃ row, (after exec upserts rows pids others actions).mailDAO.lookup mailId = some row ∧
          row.playerId = pid) ∨
        (after exec upserts rows pids others actions).Cached pid mailId := by
  have hkept := kept_after exec upserts rows pids others hdelivers
  have hmem := List.mem_of_getElem? hload
  rw [after, run_append]
  set service := run (step exec upserts) (boot rows pids others) actions
  set closed : MailService ι σ := { service with loads := service.loads.eraseIdx ix } with hclosed
  have hrun : run (step exec upserts) service [.finish ix true] =
      (closed.load pid read).loadSuc pid := by
    simp only [run_cons, run_nil, step]
    rw [hload]
    rfl
  obtain ⟨box, hbox, hall⟩ := lookup_login closed haway read
  refine ⟨box, hrun ▸ hbox, fun mailId => (hall mailId).trans ?_⟩
  constructor
  · rintro (⟨row, hrow, rfl⟩ | hcached)
    · exact .inl (hkept.row (pid, read) hmem haway row hrow)
    · exact .inr hcached
  · rintro (⟨row, hrow, hplayer⟩ | hcached)
    · exact hkept.read (pid, read) hmem haway mailId row hrow hplayer
    · exact .inr hcached

/-- A mail arrives while player 7 is being loaded. -/
def duringLoad : List (Action Unit) := [.evict 7, .read 7, .send mailToSeven]

lemma delivers_duringLoad : EveryStep (step freeExecutor false) Delivers (boot [] [7] fun _ => ())
    (duringLoad ++ [.finish 0 true, .getMailInfo 7 1]) := by
  refine ⟨fun load hload => ?_, trivial, trivial, trivial, trivial, trivial⟩
  cases hload

/-- **No mail is lost.** In every run whose steps meet the condition, from a login of a player who
was not in the cache, and until he leaves it, each of his mails that has a row is in his mailbox. -/
theorem nothing_lost (before actions : List (Action ι)) (ix : ℕ) (pid : Int32)
    (read : List (MailObj ι))
    (hdelivers : EveryStep (step exec upserts) Delivers (boot rows pids others)
      (before ++ .finish ix true :: actions))
    (hload : (after exec upserts rows pids others before).loads[ix]? = some (pid, read))
    (haway : (after exec upserts rows pids others before).cacheAllPlayers.lookup pid = none)
    (hstays : .evict pid ∉ actions) :
    (after exec upserts rows pids others (before ++ .finish ix true :: actions)).Complete pid := by
  obtain ⟨hbefore, hfinish, hactions⟩ := (everyStep_append _ _ _).mp hdelivers
  have hkept := kept_after exec upserts rows pids others hbefore
  obtain ⟨hkept', -, hrows⟩ := hkept.finish exec upserts ix true
  obtain ⟨box, hbox, hall⟩ := mailbox_after_login exec upserts rows pids others before hbefore ix
    pid read hload haway
  rw [after, run_append] at hbox ⊢
  simp only [run_cons, run_nil] at hbox ⊢
  -- the login leaves a complete mailbox
  have hlogin : ((after exec upserts rows pids others before).step exec upserts
      (.finish ix true)).Complete pid := by
    refine ⟨box, hbox, fun mailId row hrow hplayer => (hall mailId).mpr ?_⟩
    rcases hrows.new mailId row hrow with hold | ⟨other, hother, -⟩
    · exact .inl ⟨row, hold, hplayer⟩
    · rw [hplayer, haway] at hother
      cases hother
  -- and it stays so, as long as the player is not told to leave
  have hinv : Kept (run (step exec upserts) _ actions) ∧
      (run (step exec upserts) _ actions).Complete pid ∧ .evict pid ∉ ([] : List (Action ι)) :=
    inv_run (fun service todo => Kept service ∧ service.Complete pid ∧ .evict pid ∉ todo)
      (fun service action todo ⟨hkept, hcomplete, hnever⟩ hdelivers =>
        ⟨hkept.step hdelivers,
          hcomplete.step hkept hdelivers fun heq => hnever (heq ▸ List.mem_cons_self),
          fun hmem => hnever (List.mem_cons_of_mem _ hmem)⟩)
      ⟨hkept', hlogin, by rwa [List.append_nil]⟩ hactions
  exact hinv.2.1

/-- The mail that arrived during the load is in the mailbox. -/
theorem nothing_lost_duringLoad :
    ((after freeExecutor false [] [7] (fun _ => ())
        (duringLoad ++ [.finish 0 true, .getMailInfo 7 1])).mailDAO.lookup 1).isSome = true ∧
      (after freeExecutor false [] [7] (fun _ => ())
        (duringLoad ++ [.finish 0 true, .getMailInfo 7 1])).Complete 7 :=
  ⟨by decide, nothing_lost freeExecutor false [] [7] (fun _ => ()) duringLoad [.getMailInfo 7 1] 0 7
    [] delivers_duringLoad rfl rfl (fun h => by simp at h)⟩

/-- **Deleted mails come back.** In every run, once a mail has been sent to a known player who was
not in the cache, it is in his mailbox after each login that loads him, whatever he did with it
before, unless it has lapsed. -/
theorem deleted_comes_back (before actions : List (Action ι)) (mail : MailObj ι)
    (hnew : (after exec upserts rows pids others before).sent.lookup mail.id = none)
    (hpick : mail.pick = false)
    (haway : (after exec upserts rows pids others before).cacheAllPlayers.lookup mail.playerId =
      none)
    (hknown : mail.playerId ∈ (after exec upserts rows pids others before).baseInfo)
    (ix : ℕ) (read : List (MailObj ι))
    (hload : (after exec upserts rows pids others (before ++ .send mail :: actions)).loads[ix]? =
      some (mail.playerId, read)) (now : Int64) :
    ∃ box, (after exec upserts rows pids others (before ++ .send mail :: actions ++
        [.finish ix true, .enterGame mail.playerId now])).cacheAllPlayers.lookup
          mail.playerId = some box ∧ ((box.lookup mail.id).isSome ↔ now < mail.valid) := by
  have hcached : (after exec upserts rows pids others
      (before ++ .send mail :: actions)).CachedUntil mail.playerId mail.id mail.valid := by
    rw [after, run_append, run_cons]
    refine forall_inv_run
      (fun service : MailService ι σ => service.CachedUntil mail.playerId mail.id mail.valid)
      (fun service action h => h.step action) ?_ actions
    simp only [step, hnew, hpick, Option.isSome_none, Bool.false_eq_true, or_self, if_false]
    exact cachedUntil_sendMail haway hknown
  rw [after, run_append]
  set service := run (step exec upserts) (boot rows pids others) (before ++ .send mail :: actions)
  set closed : MailService ι σ := { service with loads := service.loads.eraseIdx ix }
  have hrun : run (step exec upserts) service [.finish ix true, .enterGame mail.playerId now] =
      ((closed.load mail.playerId read).loadSuc mail.playerId).clearOverdueMail mail.playerId
        now := by
    simp only [run_cons, run_nil, step]
    rw [hload]
    rfl
  rw [hrun]
  have hclosed : closed.CachedUntil mail.playerId mail.id mail.valid :=
    hcached.congr rfl rfl le_rfl fun _ _ => rfl
  exact hclosed.login read now

/-- Player 7 comes back, picks the mail and deletes it, leaves the cache and comes back again. -/
def pickedAndDeleted : List (Action Unit) :=
  [.read 7, .finish 0 true, .pick 7 (.one 0 1), .delete 7 (some [some 1]), .evict 7, .read 7]

/-- The row is gone, and the mail is back in the mailbox. -/
theorem deleted_comes_back_pickedAndDeleted :
    (after freeExecutor false [] [7] (fun _ => ())
        ([.evict 7] ++ .send mailToSeven :: pickedAndDeleted)).mailDAO.lookup 1 = none ∧
      ∃ box, (after freeExecutor false [] [7] (fun _ => ())
        ([.evict 7] ++ .send mailToSeven :: pickedAndDeleted ++
          [.finish 0 true, .enterGame 7 500])).cacheAllPlayers.lookup 7 = some box ∧
        ((box.lookup 1).isSome ↔ (500 : Int64) < 1000) :=
  ⟨by rfl, deleted_comes_back freeExecutor false [] [7] (fun _ => ()) [.evict 7] pickedAndDeleted
    mailToSeven rfl rfl rfl (List.mem_singleton.mpr rfl) 0 [] rfl 500⟩

end MailService

end SrgpGame.Mail
