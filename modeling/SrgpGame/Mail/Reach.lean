import SrgpGame.Mail.Mailboxes

set_option autoImplicit false

/-!
# The mails that can be reached

Of a mail there may be several objects, and a row, and rows that a load has read. This file says
what it is that all of them have a property, and that no step but a request to pick mails brings up
one without it, if it is a property of new mails and no matter of whether a mail was read.

## Main definitions

* `MailService.Holds` — what a mailbox may hold.
* `MailService.Everywhere` — all objects and rows that can be reached have a property.

## Main results

* `MailService.Everywhere.finish`, `MailService.Everywhere.sendMail` and others — one lemma for
  each method.
-/

namespace SrgpGame.Mail

variable {ι σ : Type}

namespace MailService

variable {exec : FuncsExecutor ι σ} {upserts : Bool} {service service' : MailService ι σ}
  {P Q : MailObj ι → Prop}

/-- **What a mailbox may hold**: an object of the mail, which is the player's, with property `P`. -/
def Holds (P : MailObj ι → Prop) (service : MailService ι σ) (pid mailId : Int32) (ref : ℕ) :
    Prop :=
  ref < service.fresh ∧ (service.objects ref).id = mailId ∧ (service.objects ref).playerId = pid ∧
    P (service.objects ref)

/-- **All mails that can be reached** have property `P`. What a load has read matters only as long
as its player is not in the cache. -/
structure Everywhere (P : MailObj ι → Prop) (service : MailService ι σ) : Prop where
  inBox : ∀ pid box mailId ref, service.cacheAllPlayers.lookup pid = some box →
    box.lookup mailId = some ref → service.Holds P pid mailId ref
  inCache : ∀ pid mailVOMap mailId ref, service.cacheNewMail.lookup pid = some mailVOMap →
    mailVOMap.lookup mailId = some ref → service.Holds P pid mailId ref
  row : ∀ mailId row, service.mailDAO.lookup mailId = some row → row.id = mailId ∧ P row
  load : ∀ load ∈ service.loads, ∀ row ∈ load.2, row.playerId = load.1 ∧
    (service.cacheAllPlayers.lookup load.1 = none → P row)

lemma Holds.imp {pid mailId : Int32} {ref : ℕ} (h : service.Holds P pid mailId ref)
    (himp : ∀ mail, P mail → Q mail) : service.Holds Q pid mailId ref :=
  ⟨h.1, h.2.1, h.2.2.1, himp _ h.2.2.2⟩

/-- A weaker property. -/
lemma Everywhere.imp (h : service.Everywhere P) (himp : ∀ mail, P mail → Q mail) :
    service.Everywhere Q where
  inBox := fun pid box mailId ref hbox href => (h.inBox pid box mailId ref hbox href).imp himp
  inCache := fun pid mailVOMap mailId ref hmap href =>
    (h.inCache pid mailVOMap mailId ref hmap href).imp himp
  row := fun mailId row hrow => ⟨(h.row mailId row hrow).1, himp row (h.row mailId row hrow).2⟩
  load := fun load hload row hrow =>
    ⟨(h.load load hload row hrow).1, fun hnone => himp row ((h.load load hload row hrow).2 hnone)⟩

/-! ## New objects and mailboxes -/

/-- A new object changes nothing for those that can be reached. -/
lemma Holds.newMailVO {pid mailId : Int32} {ref : ℕ} (h : service.Holds P pid mailId ref)
    (mail : MailObj ι) : (service.newMailVO mail).1.Holds P pid mailId ref := by
  have hobject : (service.newMailVO mail).1.objects ref = service.objects ref :=
    Function.update_of_ne h.1.ne _ _
  unfold Holds
  rw [hobject]
  exact ⟨h.1.trans (Nat.lt_succ_self _), h.2⟩

lemma Everywhere.newMailVO (h : service.Everywhere P) (mail : MailObj ι) :
    (service.newMailVO mail).1.Everywhere P where
  inBox := fun pid box mailId ref hbox href => (h.inBox pid box mailId ref hbox href).newMailVO mail
  inCache := fun pid mailVOMap mailId ref hmap href =>
    (h.inCache pid mailVOMap mailId ref hmap href).newMailVO mail
  row := h.row
  load := h.load

/-- The new object is what a mailbox may hold, if the mail has the property. -/
lemma holds_newMailVO {mail : MailObj ι} (hmail : P mail) :
    (service.newMailVO mail).1.Holds P mail.playerId mail.id service.fresh := by
  have hobject : (service.newMailVO mail).1.objects service.fresh = mail :=
    Function.update_self _ _ _
  unfold Holds
  rw [hobject]
  exact ⟨Nat.lt_succ_self _, rfl, rfl, hmail⟩

/-- **A player gets a mailbox**, of objects that it may hold. -/
lemma Everywhere.put (h : service.Everywhere P) {pid : Int32} {box : Mailbox}
    (hbox : ∀ mailId ref, box.lookup mailId = some ref → service.Holds P pid mailId ref) :
    (service.put pid box).Everywhere P where
  inBox := by
    intro pid' box' mailId ref hlookup href
    change (service.cacheAllPlayers.insert pid box).lookup pid' = some box' at hlookup
    rw [AList.lookup_insert_ite] at hlookup
    split_ifs at hlookup with hpid
    · obtain rfl := Option.some.inj hlookup
      rw [hpid]
      exact hbox mailId ref href
    · exact h.inBox pid' box' mailId ref hlookup href
  inCache := h.inCache
  row := h.row
  load := by
    intro load hload row hrow
    obtain ⟨hplayer, hP⟩ := h.load load hload row hrow
    refine ⟨hplayer, fun hnone => hP ?_⟩
    change (service.cacheAllPlayers.insert pid box).lookup load.1 = none at hnone
    rw [AList.lookup_insert_ite] at hnone
    split_ifs at hnone
    exact hnone

lemma lookup_put_self (service : MailService ι σ) (pid : Int32) (box : Mailbox) :
    (service.put pid box).cacheAllPlayers.lookup pid = some box :=
  AList.lookup_insert _

/-- Mails are taken out of a mailbox. -/
lemma Everywhere.put_filterKeys (h : service.Everywhere P) {pid : Int32} {box : Mailbox}
    (hlookup : service.cacheAllPlayers.lookup pid = some box) (p : Int32 → Bool) :
    (service.put pid (box.filterKeys p)).Everywhere P := by
  apply h.put
  intro mailId ref href
  rw [AList.lookup_filterKeys] at href
  split_ifs at href
  exact h.inBox pid box mailId ref hlookup href

/-- **The table changes** to one of rows with the property. -/
lemma Everywhere.setRows (h : service.Everywhere P) {rows : AList fun _ : Int32 => MailObj ι}
    (hrows : ∀ mailId row, rows.lookup mailId = some row → row.id = mailId ∧ P row) :
    Everywhere P { service with mailDAO := rows } where
  inBox := h.inBox
  inCache := h.inCache
  row := hrows
  load := h.load

/-- Rows are deleted. -/
lemma Everywhere.filterRows (h : service.Everywhere P) (p : Int32 → Bool) :
    Everywhere P { service with mailDAO := service.mailDAO.filterKeys p } := by
  apply h.setRows
  intro mailId row hrow
  rw [AList.lookup_filterKeys] at hrow
  split_ifs at hrow
  exact h.row mailId row hrow

/-- **Loads** begin with rows of the player, and end. -/
lemma Everywhere.setLoads (h : service.Everywhere P) {loads : List (Int32 × List (MailObj ι))}
    (hloads : ∀ load ∈ loads, load ∈ service.loads ∨
      ∀ row ∈ load.2, row.playerId = load.1 ∧ P row) :
    Everywhere P { service with loads := loads } where
  inBox := h.inBox
  inCache := h.inCache
  row := h.row
  load := by
    intro load hload row hrow
    rcases hloads load hload with hold | hnew
    · exact h.load load hold row hrow
    · exact ⟨(hnew row hrow).1, fun _ => (hnew row hrow).2⟩

/-! ## Loads -/

/-- **A load** builds a mailbox of objects with the property. -/
lemma Everywhere.buildAsLoad {pid : Int32} {rows : List (MailObj ι)} (h : service.Everywhere P)
    {box : Mailbox} (hrows : ∀ row ∈ rows, row.playerId = pid ∧ P row)
    (hbox : ∀ mailId ref, box.lookup mailId = some ref → service.Holds P pid mailId ref) :
    (service.buildAsLoad box rows).1.Everywhere P ∧
      ∀ mailId ref, (service.buildAsLoad box rows).2.lookup mailId = some ref →
        (service.buildAsLoad box rows).1.Holds P pid mailId ref := by
  induction rows generalizing service box with
  | nil => exact ⟨h, hbox⟩
  | cons row rows ih =>
    obtain ⟨⟨hplayer, hrow⟩, hrows⟩ := List.forall_mem_cons.mp hrows
    apply ih (h.newMailVO row) hrows
    intro mailId ref href
    change (box.insert row.id service.fresh).lookup mailId = some ref at href
    rw [AList.lookup_insert_ite] at href
    split_ifs at href with hid
    · obtain rfl := Option.some.inj href
      rw [hid, ← hplayer]
      exact holds_newMailVO hrow
    · exact (hbox mailId ref href).newMailVO row

/-- **What a load leaves as it is.** -/
structure Frame (service service' : MailService ι σ) : Prop where
  fresh : service.fresh ≤ service'.fresh
  objects : ∀ ref < service.fresh, service'.objects ref = service.objects ref
  mailDAO : service'.mailDAO = service.mailDAO
  baseInfo : service'.baseInfo = service.baseInfo
  cacheNewMail : service'.cacheNewMail = service.cacheNewMail
  loads : service'.loads = service.loads
  granted : service'.granted = service.granted
  sent : service'.sent = service.sent

lemma Frame.refl (service : MailService ι σ) : Frame service service :=
  ⟨le_rfl, fun _ _ => rfl, rfl, rfl, rfl, rfl, rfl, rfl⟩

lemma Frame.trans {service'' : MailService ι σ} (h : Frame service service')
    (h' : Frame service' service'') : Frame service service'' where
  fresh := h.fresh.trans h'.fresh
  objects := fun ref href => (h'.objects ref (href.trans_le h.fresh)).trans (h.objects ref href)
  mailDAO := h'.mailDAO.trans h.mailDAO
  baseInfo := h'.baseInfo.trans h.baseInfo
  cacheNewMail := h'.cacheNewMail.trans h.cacheNewMail
  loads := h'.loads.trans h.loads
  granted := h'.granted.trans h.granted
  sent := h'.sent.trans h.sent

lemma frame_put (service : MailService ι σ) (pid : Int32) (box : Mailbox) :
    Frame service (service.put pid box) :=
  ⟨le_rfl, fun _ _ => rfl, rfl, rfl, rfl, rfl, rfl, rfl⟩

lemma frame_newMailVO (service : MailService ι σ) (mail : MailObj ι) :
    Frame service (service.newMailVO mail).1 :=
  ⟨Nat.le_succ _, fun _ href => Function.update_of_ne href.ne _ _, rfl, rfl, rfl, rfl, rfl, rfl⟩

lemma frame_buildAsLoad (service : MailService ι σ) (box : Mailbox) (rows : List (MailObj ι)) :
    Frame service (service.buildAsLoad box rows).1 ∧
      (service.buildAsLoad box rows).1.cacheAllPlayers = service.cacheAllPlayers := by
  induction rows generalizing service box with
  | nil => exact ⟨Frame.refl service, rfl⟩
  | cons row rows ih =>
    obtain ⟨hframe, hplayers⟩ := ih (service.newMailVO row).1 (box.insert row.id service.fresh)
    exact ⟨(frame_newMailVO service row).trans hframe, hplayers⟩

lemma frame_load (service : MailService ι σ) (pid : Int32) (rows : List (MailObj ι)) :
    Frame service (service.load pid rows) := by
  unfold MailService.load
  split
  · exact Frame.refl service
  · exact (frame_buildAsLoad service ∅ rows).1.trans (frame_put _ _ _)

lemma frame_loadSuc (service : MailService ι σ) (pid : Int32) :
    Frame service (service.loadSuc pid) := by
  unfold MailService.loadSuc
  split
  · exact frame_put _ _ _
  · exact Frame.refl service

/-- The mailboxes of other players stay during a load. -/
lemma lookup_load_of_ne (service : MailService ι σ) {pid pid' : Int32} (hne : pid' ≠ pid)
    (rows : List (MailObj ι)) :
    (service.load pid rows).cacheAllPlayers.lookup pid' = service.cacheAllPlayers.lookup pid' := by
  unfold MailService.load
  split
  · rfl
  · rw [← (frame_buildAsLoad service ∅ rows).2]
    exact AList.lookup_insert_ne hne

lemma lookup_loadSuc_of_ne (service : MailService ι σ) {pid pid' : Int32} (hne : pid' ≠ pid) :
    (service.loadSuc pid).cacheAllPlayers.lookup pid' = service.cacheAllPlayers.lookup pid' := by
  unfold MailService.loadSuc
  split
  · exact AList.lookup_insert_ne hne
  · rfl

/-- A player who is in the cache is not built again. -/
lemma load_of_some {pid : Int32} {box : Mailbox}
    (hplayer : service.cacheAllPlayers.lookup pid = some box) (rows : List (MailObj ι)) :
    service.load pid rows = service := by
  unfold MailService.load
  rw [hplayer]

/-- **`load`**: a player who is not in the cache gets a mailbox of the rows. -/
lemma Everywhere.loadPlayer (h : service.Everywhere P) {pid : Int32} {rows : List (MailObj ι)}
    (hrows : ∀ row ∈ rows, row.playerId = pid ∧
      (service.cacheAllPlayers.lookup pid = none → P row)) :
    (service.load pid rows).Everywhere P := by
  unfold MailService.load
  cases hplayer : service.cacheAllPlayers.lookup pid with
  | some box => exact h
  | none =>
    obtain ⟨hbuilt, hbox⟩ := h.buildAsLoad
      (fun row hrow => ⟨(hrows row hrow).1, (hrows row hrow).2 hplayer⟩)
      (fun mailId ref (href : (∅ : Mailbox).lookup mailId = some ref) => by cases href)
    exact hbuilt.put hbox

/-- The mails of `CacheMail` take the place of others. -/
lemma lookup_union {mailVOMap box : Mailbox} {mailId : Int32} {ref : ℕ}
    (h : (mailVOMap ∪ box).lookup mailId = some ref) :
    mailVOMap.lookup mailId = some ref ∨
      mailVOMap.lookup mailId = none ∧ box.lookup mailId = some ref := by
  rcases AList.mem_lookup_union.mp h with hmap | ⟨hmap, hbox⟩
  · exact .inl hmap
  · exact .inr ⟨AList.lookup_eq_none.mpr hmap, hbox⟩

/-- **`listen` for `LoadSuc`.** -/
lemma Everywhere.loadSuc (h : service.Everywhere P) (pid : Int32) :
    (service.loadSuc pid).Everywhere P := by
  unfold MailService.loadSuc
  cases hplayer : service.cacheAllPlayers.lookup pid with
  | none => exact h
  | some box =>
    cases hmap : service.cacheNewMail.lookup pid with
    | none => exact h
    | some mailVOMap =>
      apply h.put
      intro mailId ref href
      rcases lookup_union href with href | ⟨-, href⟩
      · exact h.inCache pid mailVOMap mailId ref hmap href
      · exact h.inBox pid box mailId ref hplayer href

/-- **A load ends.** -/
lemma Everywhere.finish (h : service.Everywhere P) (ix : ℕ) (login : Bool) :
    (service.step exec upserts (.finish ix login)).Everywhere P := by
  simp only [step]
  cases hix : service.loads[ix]? with
  | none => exact h
  | some load =>
    obtain ⟨pid, rows⟩ := load
    have hloads : Everywhere P { service with loads := service.loads.eraseIdx ix } :=
      h.setLoads fun load hload => .inl (List.mem_of_mem_eraseIdx hload)
    have hloaded := hloads.loadPlayer (h.load (pid, rows) (List.mem_of_getElem? hix))
    cases login with
    | true => exact hloaded.loadSuc pid
    | false => exact hloaded

/-- **A player leaves the cache**: what was read for it before has to have the property. -/
lemma Everywhere.evict (h : service.Everywhere P) {pid : Int32}
    (hloads : ∀ load ∈ service.loads, load.1 = pid → ∀ row ∈ load.2, P row) :
    (service.step exec upserts (.evict pid)).Everywhere P where
  inBox := by
    intro pid' box mailId ref hlookup href
    change (service.cacheAllPlayers.erase pid).lookup pid' = some box at hlookup
    rw [AList.lookup_erase_ite] at hlookup
    split_ifs at hlookup
    exact h.inBox pid' box mailId ref hlookup href
  inCache := h.inCache
  row := h.row
  load := by
    intro load hload row hrow
    obtain ⟨hplayer, hP⟩ := h.load load hload row hrow
    refine ⟨hplayer, fun hnone => ?_⟩
    by_cases hpid : load.1 = pid
    · exact hloads load hload hpid row hrow
    · refine hP ?_
      change (service.cacheAllPlayers.erase pid).lookup load.1 = none at hnone
      rwa [AList.lookup_erase_ite, if_neg hpid] at hnone

/-- A load reads rows. -/
lemma Everywhere.read (h : service.Everywhere P) (pid : Int32) :
    (service.step exec upserts (.read pid)).Everywhere P := by
  simp only [step]
  split_ifs
  · apply h.setLoads
    intro load hload
    rcases List.mem_append.mp hload with hload | hload
    · exact .inl hload
    · obtain rfl := List.mem_singleton.mp hload
      refine .inr fun row hrow => ?_
      obtain ⟨hrow, hplayer⟩ := List.mem_filter.mp hrow
      obtain ⟨mailId, hlookup⟩ := AList.mem_values.mp hrow
      exact ⟨of_decide_eq_true hplayer, (h.row mailId row hlookup).2⟩
  · exact h

/-! ## The other methods -/

/-- `createPlayer`. -/
lemma Everywhere.create (h : service.Everywhere P) (pid : Int32) :
    (service.step exec upserts (.create pid)).Everywhere P := by
  simp only [step]
  split_ifs
  · exact h
  · have hput : (service.put pid ∅).Everywhere P :=
      h.put fun mailId ref (href : (∅ : Mailbox).lookup mailId = some ref) => by cases href
    exact ⟨hput.inBox, hput.inCache, hput.row, hput.load⟩

/-- **`sendMail`**: the new object goes into the mailbox or into `CacheMail`. -/
lemma Everywhere.sendMail (h : service.Everywhere P) {mail : MailObj ι} (hmail : P mail) :
    (service.sendMail mail).Everywhere P := by
  have hsaved : Everywhere P { service with
      mailDAO := service.mailDAO.insert mail.id mail
      sent := service.sent.insert mail.id mail } := by
    refine ⟨h.inBox, h.inCache, fun mailId row hrow => ?_, h.load⟩
    rw [AList.lookup_insert_ite] at hrow
    split_ifs at hrow with hid
    · obtain rfl := Option.some.inj hrow
      exact ⟨hid.symm, hmail⟩
    · exact h.row mailId row hrow
  have hmade := hsaved.newMailVO mail
  have hholds : (MailService.newMailVO { service with
      mailDAO := service.mailDAO.insert mail.id mail
      sent := service.sent.insert mail.id mail } mail).1.Holds P mail.playerId mail.id
        service.fresh := holds_newMailVO hmail
  unfold MailService.sendMail
  simp only
  set made := (MailService.newMailVO { service with
    mailDAO := service.mailDAO.insert mail.id mail
    sent := service.sent.insert mail.id mail } mail).1 with hmadeDef
  cases hplayer : made.cacheAllPlayers.lookup mail.playerId with
  | some box =>
    apply hmade.put
    intro mailId ref href
    rw [AList.lookup_insert_ite] at href
    split_ifs at href with hid
    · obtain rfl := Option.some.inj href
      rw [hid]
      exact hholds
    · exact hmade.inBox mail.playerId box mailId ref hplayer href
  | none =>
    simp only
    split_ifs
    · refine ⟨hmade.inBox, fun pid mailVOMap mailId ref hmap href => ?_, hmade.row, hmade.load⟩
      rw [AList.lookup_insert_ite] at hmap
      split_ifs at hmap with hpid
      · obtain rfl := Option.some.inj hmap
        rw [AList.lookup_insert_ite] at href
        split_ifs at href with hid
        · obtain rfl := Option.some.inj href
          rw [hpid, hid]
          exact hholds
        · cases hold : made.cacheNewMail.lookup mail.playerId with
          | none =>
            rw [hold] at href
            cases href
          | some old =>
            rw [hold] at href
            rw [hpid]
            exact hmade.inCache mail.playerId old mailId ref hold href
      · exact hmade.inCache pid mailVOMap mailId ref hmap href
    · exact hmade

/-- **`clearOverdueMail`.** -/
lemma Everywhere.clearOverdueMail (h : service.Everywhere P) (pid : Int32) (now : Int64) :
    (service.clearOverdueMail pid now).Everywhere P := by
  unfold MailService.clearOverdueMail
  cases hbox : service.cacheAllPlayers.lookup pid with
  | none => exact h
  | some box => exact (h.put_filterKeys hbox _).filterRows _

/-- **`delete`.** -/
lemma Everywhere.deleteMails (h : service.Everywhere P) (pid : Int32)
    (mailIds : Option (List (Option Int32))) : (service.deleteMails pid mailIds).Everywhere P := by
  unfold MailService.deleteMails
  cases hbox : service.cacheAllPlayers.lookup pid with
  | none => exact h
  | some box => exact (h.put_filterKeys hbox _).filterRows _

/-- The rows after one is saved. -/
lemma lookup_save {rows : AList fun _ : Int32 => MailObj ι} {mail row : MailObj ι}
    {mailId : Int32} (h : (save upserts rows mail).lookup mailId = some row) :
    mailId = mail.id ∧ row = mail ∨ mailId ≠ mail.id ∧ rows.lookup mailId = some row := by
  unfold save at h
  split_ifs at h with hsaved
  · rw [AList.lookup_insert_ite] at h
    split_ifs at h with hid
    · exact .inl ⟨hid, (Option.some.inj h).symm⟩
    · exact .inr ⟨hid, h⟩
  · refine .inr ⟨?_, h⟩
    rintro rfl
    rw [h] at hsaved
    simp at hsaved

/-- The rows after some are saved: these, and others as before. -/
lemma lookup_foldl_save {mails : List (MailObj ι)} {rows : AList fun _ : Int32 => MailObj ι}
    {row : MailObj ι} {mailId : Int32}
    (h : (mails.foldl (save upserts) rows).lookup mailId = some row) :
    (row ∈ mails ∧ row.id = mailId) ∨
      (∀ mail ∈ mails, mail.id ≠ mailId) ∧ rows.lookup mailId = some row := by
  induction mails generalizing rows with
  | nil => exact .inr ⟨List.forall_mem_nil _, h⟩
  | cons mail mails ih =>
    rcases ih h with ⟨hmem, hid⟩ | ⟨hne, hlookup⟩
    · exact .inl ⟨List.mem_cons_of_mem _ hmem, hid⟩
    · rcases lookup_save hlookup with ⟨hid, rfl⟩ | ⟨hid, hlookup⟩
      · exact .inl ⟨List.mem_cons_self, hid.symm⟩
      · exact .inr ⟨List.forall_mem_cons.mpr ⟨hid.symm, hne⟩, hlookup⟩

/-- **The objects change** in place: each stays an object of its mail, and those that can be reached
keep the property. -/
lemma Everywhere.setObjects (h : service.Everywhere P) {objects : ℕ → MailObj ι}
    (hkept : ∀ ref, (objects ref).id = (service.objects ref).id ∧
      (objects ref).playerId = (service.objects ref).playerId)
    (hP : ∀ ref, P (service.objects ref) → P (objects ref)) :
    Everywhere P { service with objects := objects } where
  inBox := by
    intro pid box mailId ref hbox href
    obtain ⟨hlt, hid, hplayer, hold⟩ := h.inBox pid box mailId ref hbox href
    exact ⟨hlt, (hkept ref).1.trans hid, (hkept ref).2.trans hplayer, hP ref hold⟩
  inCache := by
    intro pid mailVOMap mailId ref hmap href
    obtain ⟨hlt, hid, hplayer, hold⟩ := h.inCache pid mailVOMap mailId ref hmap href
    exact ⟨hlt, (hkept ref).1.trans hid, (hkept ref).2.trans hplayer, hP ref hold⟩
  row := h.row
  load := h.load

/-- Reading a mail changes one object. -/
lemma update_read (service : MailService ι σ) (ref other : ℕ) :
    Function.update service.objects ref { service.objects ref with read := true } other =
      if other = ref then { service.objects other with read := true }
      else service.objects other := by
  split_ifs with hother
  · rw [hother, Function.update_self]
  · rw [Function.update_of_ne hother]

/-- **`getMailInfo`**, for a property that does not depend on whether a mail was read. -/
lemma Everywhere.getMailInfo (h : service.Everywhere P) (pid mailId : Int32)
    (hread : ∀ mail, P mail → P { mail with read := true }) :
    (service.getMailInfo upserts pid mailId).Everywhere P := by
  unfold MailService.getMailInfo
  cases hfound : (service.cacheAllPlayers.lookup pid).bind (·.lookup mailId) with
  | none => exact h
  | some ref =>
    obtain ⟨box, hbox, href⟩ := Option.bind_eq_some_iff.mp hfound
    obtain ⟨-, -, -, hold⟩ := h.inBox pid box mailId ref hbox href
    simp only
    have hobjects : Everywhere P { service with
        objects := Function.update service.objects ref
          { service.objects ref with read := true } } := by
      apply h.setObjects
      · intro other
        rw [update_read]
        split_ifs
        · exact ⟨rfl, rfl⟩
        · exact ⟨rfl, rfl⟩
      · intro other hother
        rw [update_read]
        split_ifs
        · exact hread _ hother
        · exact hother
    apply hobjects.setRows
    intro mailId row hrow
    rcases lookup_save hrow with ⟨hid, rfl⟩ | ⟨-, hrow⟩
    · exact ⟨hid.symm, hread _ hold⟩
    · exact h.row mailId row hrow

/-! ## All steps -/

/-- An object after a request is one with other contents, and the same mail. -/
lemma writeBack_eq (service : MailService ι σ) (box : Mailbox)
    (mailVOMap : AList fun _ : Int32 => MailVO ι) (ref : ℕ) :
    ∃ mailVO, service.writeBack box mailVOMap ref =
      { service.objects ref with toMailVO := mailVO } := by
  unfold writeBack
  simp only
  split_ifs
  · exact ⟨_, rfl⟩
  · exact ⟨(service.objects ref).toMailVO, rfl⟩

/-- **`pick`**, for a property that does not depend on what is in a mail. -/
lemma Everywhere.pickMails (h : service.Everywhere P) (pid : Int32) (req : PickRequest)
    (hP : ∀ (mail : MailObj ι) (mailVO : MailVO ι), P mail → P { mail with toMailVO := mailVO }) :
    (service.pickMails exec upserts pid req).Everywhere P := by
  unfold MailService.pickMails
  cases hbox : service.cacheAllPlayers.lookup pid with
  | none => exact h
  | some box =>
    simp only
    set mailVOMap := (req.after exec (service.view pid box)).mailVOMap with hmap
    have hobjects : Everywhere P { service with objects := service.writeBack box mailVOMap } := by
      apply h.setObjects
      · intro ref
        obtain ⟨mailVO, hwrite⟩ := writeBack_eq service box mailVOMap ref
        rw [hwrite]
        exact ⟨rfl, rfl⟩
      · intro ref hold
        obtain ⟨mailVO, hwrite⟩ := writeBack_eq service box mailVOMap ref
        rw [hwrite]
        exact hP _ mailVO hold
    refine ⟨hobjects.inBox, hobjects.inCache, fun mailId row hrow => ?_, hobjects.load⟩
    rcases lookup_foldl_save hrow with ⟨hmem, hid⟩ | ⟨-, hrow⟩
    · obtain ⟨ref, href, rfl⟩ := List.mem_map.mp hmem
      obtain ⟨key, hkey⟩ := AList.mem_values.mp (List.mem_of_mem_filter href)
      exact ⟨hid, (hobjects.inBox pid box key ref hbox hkey).2.2.2⟩
    · exact h.row mailId row hrow

/-- The mailboxes are empty when the server has started. -/
lemma lookup_boot {rows : List (MailObj ι)} {pids : List Int32} {others : Int32 → σ} {pid : Int32}
    {box : Mailbox} (h : (boot rows pids others).cacheAllPlayers.lookup pid = some box) :
    box = ∅ ∧ pid ∈ pids := by
  have hfold : ∀ (pids : List Int32) (players : AList fun _ : Int32 => Mailbox) (pid : Int32)
      (box : Mailbox), (pids.foldl (fun players pid => players.insert pid ∅) players).lookup pid =
        some box → players.lookup pid = some box ∨ box = ∅ ∧ pid ∈ pids := by
    intro pids
    induction pids with
    | nil => exact fun _ _ _ hlookup => .inl hlookup
    | cons head pids ih =>
      intro players pid box hlookup
      rcases ih _ pid box hlookup with hhead | ⟨hempty, hmem⟩
      · rw [AList.lookup_insert_ite] at hhead
        split_ifs at hhead with hpid
        · exact .inr ⟨(Option.some.inj hhead).symm, hpid ▸ List.mem_cons_self⟩
        · exact .inl hhead
      · exact .inr ⟨hempty, List.mem_cons_of_mem _ hmem⟩
  rcases hfold pids ∅ pid box h with hnone | hpid
  · cases hnone
  · exact hpid

/-- What holds of every row holds of all mails when the server has started. -/
lemma everywhere_boot {rows : List (MailObj ι)} (pids : List Int32) (others : Int32 → σ)
    (hrows : ∀ mailId row, (AList.putAll MailObj.id rows ∅).lookup mailId = some row → P row) :
    (boot rows pids others).Everywhere P where
  inBox := by
    intro pid box mailId ref hbox href
    rw [(lookup_boot hbox).1] at href
    cases href
  inCache := fun pid mailVOMap mailId ref hmap => by cases hmap
  row := by
    intro mailId row hrow
    rcases AList.lookup_putAll hrow with hnone | ⟨-, hid⟩
    · cases hnone
    · exact ⟨hid, hrows mailId row hrow⟩
  load := fun load hload => by cases hload

end MailService

end SrgpGame.Mail
