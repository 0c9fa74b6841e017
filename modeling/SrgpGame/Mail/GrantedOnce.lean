import SrgpGame.Mail.Reach

set_option autoImplicit false

/-!
# Attachments are granted once, if no mail is loaded in passing

An object in `CacheMail` and another of the same mail in the mailbox can say different things about
whether the mail was picked, and at the next login the object of `CacheMail` takes the place of the
other. This file shows that this, and loads that are overtaken, are all that can go wrong between
requests: else a mail is picked at most once, however often its owner is loaded.

## Main definitions

* `MailService.Sound` — a mail as an object or row, which is marked if anything was granted from it.
* `MailService.Inv` — every object and every row that can still be reached is sound.
* `MailService.Allowed` — the condition on a step.

## Main results

* `after_spec` — what one request grants and marks.
* `MailService.Inv.step` — what an allowed step preserves.
* `MailService.granted_once` — in a run of allowed steps no mail has its attachments granted twice.
-/

namespace SrgpGame.Mail

open Runs

variable {ι σ : Type}

/-! ## One request -/

section Request

variable {exec : FuncsExecutor ι σ} {playerVO : PlayerVO ι σ} {req : PickRequest}

lemma isSome_of_mem_accessories {mailIds : List Int32} {a : Int32 × ι}
    (ha : a ∈ accessories playerVO mailIds) : (playerVO.mailVOMap.lookup a.1).isSome := by
  obtain ⟨mailId, -, ha⟩ := List.mem_flatMap.mp ha
  cases hlookup : playerVO.mailVOMap.lookup mailId with
  | none => simp [hlookup] at ha
  | some mailVO =>
    obtain ⟨item, -, rfl⟩ := List.mem_map.mp ha
    rw [hlookup, Option.isSome_some]

/-- What a request grants are attachments of mails in the mailbox. -/
lemma isSome_of_mem_granted (hgranted : playerVO.granted = []) {a : Int32 × ι}
    (ha : a ∈ (req.after exec playerVO).granted) : (playerVO.mailVOMap.lookup a.1).isSome := by
  rw [after_eq] at ha
  cases hmails : req.mails playerVO with
  | error e => simp [hmails, hgranted] at ha
  | ok mailIds =>
    simp only [hmails] at ha
    rcases pickAll_cases exec playerVO mailIds with
      ⟨e, others, -, hend⟩ | ⟨others, others', -, hend⟩
    · rw [hend, hgranted] at ha
      cases ha
    · rcases hend with ⟨-, hend⟩ | ⟨-, hend⟩
      · rw [hend, hgranted, List.nil_append] at ha
        exact isSome_of_mem_accessories (List.mem_of_mem_take ha)
      · rw [hend, (foldl_markPicked_eq mailIds _).1, hgranted, List.nil_append] at ha
        exact isSome_of_mem_accessories ha

lemma grants_eq_nil_iff {mailId : Int32} {granted : List (Int32 × ι)} :
    grants mailId granted = [] ↔ ∀ a ∈ granted, a.1 ≠ mailId := by
  simp [grants, List.filter_eq_nil_iff]

/-- **One request**, all or nothing: it keeps the mails with their attachments and takes back no
mark, and of each mail it grants all attachments if it marks the mail, and else none. -/
lemma after_spec (hgranted : playerVO.granted = []) (hreq : AllOrNothing exec playerVO req) :
    (∀ mailId old, playerVO.mailVOMap.lookup mailId = some old →
      ∃ new, (req.after exec playerVO).mailVOMap.lookup mailId = some new ∧
        new.items = old.items ∧ (old.pick → new.pick) ∧
        grants mailId (req.after exec playerVO).granted =
          if new.pick ∧ ¬old.pick then new.items else []) ∧
      ∀ mailId, playerVO.mailVOMap.lookup mailId = none →
        grants mailId (req.after exec playerVO).granted = [] := by
  have hinit : PlayerVO.init playerVO.mailVOMap playerVO.others = playerVO := by
    rw [PlayerVO.init, ← hgranted]
  have honce := oncePicked_init playerVO.mailVOMap playerVO.others
  rw [hinit] at honce
  have hafter := honce.after hreq
  refine ⟨fun mailId old hold => ?_, fun mailId hnone => ?_⟩
  · have hknown := hafter.known mailId
    rw [hold, Option.isSome_some] at hknown
    obtain ⟨new, hnew⟩ := Option.isSome_iff_exists.mp hknown
    exact ⟨new, hnew, hafter.mail mailId old new hold hnew⟩
  · rw [grants_eq_nil_iff]
    rintro a ha rfl
    have hsome := isSome_of_mem_granted hgranted ha
    rw [hnone] at hsome
    cases hsome

end Request

namespace MailService

/-! ## The condition -/

/-- **The condition on a step.** A player with a mail in `CacheMail` that is not picked yet is not
loaded but for a login, no player leaves the cache during a load, and requests are all or
nothing. -/
def Allowed (exec : FuncsExecutor ι σ) (service : MailService ι σ) : Action ι → Prop
  | .finish ix login => ∀ load ∈ service.loads[ix]?, login = false →
      service.cacheAllPlayers.lookup load.1 = none →
        ∀ mailVOMap ∈ service.cacheNewMail.lookup load.1, ∀ mailId, ∀ ref ∈ mailVOMap.lookup mailId,
          (service.objects ref).pick = true
  | .evict pid => ∀ load ∈ service.loads, load.1 ≠ pid
  | .pick pid req => ∀ box ∈ service.cacheAllPlayers.lookup pid,
      AllOrNothing exec (service.view pid box) req
  | _ => True

/-! ## The invariant -/

/-- **An object or row of a mail** that was sent to its player, with its attachments. It is marked
if anything was granted. -/
def Sound (service : MailService ι σ) (mail : MailObj ι) : Prop :=
  (∃ original, service.sent.lookup mail.id = some original ∧ mail.items = original.items ∧
    mail.playerId = original.playerId) ∧
  (grants mail.id service.granted ≠ [] → mail.pick = true)

/-- The object of a mail in `CacheMail` that is not picked is the only one in memory. -/
def Same (service : MailService ι σ) : Prop :=
  ∀ pid mailVOMap mailId ref, service.cacheNewMail.lookup pid = some mailVOMap →
    mailVOMap.lookup mailId = some ref → (service.objects ref).pick = false →
      ∀ box other, service.cacheAllPlayers.lookup pid = some box →
        box.lookup mailId = some other → other = ref

/-- **The invariant.** -/
structure Inv (service : MailService ι σ) : Prop where
  sound : service.Everywhere service.Sound
  same : service.Same
  once : ∀ mailId, grants mailId service.granted = [] ∨
    ∃ original, service.sent.lookup mailId = some original ∧
      grants mailId service.granted = original.items

section Step

variable {exec : FuncsExecutor ι σ} {upserts : Bool} {service service' : MailService ι σ}

lemma Sound.congr {mail : MailObj ι} (h : service.Sound mail) {mail' : MailObj ι}
    (hid : mail'.id = mail.id) (hplayer : mail'.playerId = mail.playerId)
    (hitems : mail'.items = mail.items) (hpick : mail.pick = true → mail'.pick = true) :
    service.Sound mail' := by
  obtain ⟨hcopy, hmarked⟩ := h
  refine ⟨?_, fun hgrants => hpick (hmarked ?_)⟩
  · rw [hid, hitems, hplayer]
    exact hcopy
  · rwa [hid] at hgrants

/-- Two objects or rows of a mail are of the same player. -/
lemma Sound.playerId_eq {mail mail' : MailObj ι} (h : service.Sound mail)
    (h' : service.Sound mail') (hid : mail.id = mail'.id) : mail.playerId = mail'.playerId := by
  obtain ⟨⟨original, hsent, -, hplayer⟩, -⟩ := h
  obtain ⟨⟨original', hsent', -, hplayer'⟩, -⟩ := h'
  rw [hid, hsent'] at hsent
  obtain rfl := Option.some.inj hsent
  exact hplayer.trans hplayer'.symm

/-- **The mailboxes after a step**: what they have was there before, or of the mail there is no
other object in `CacheMail` that is not picked. -/
lemma Same.of_back (hsame : service.Same) (hcache : service'.cacheNewMail = service.cacheNewMail)
    (hpick : ∀ pid mailVOMap mailId ref, service.cacheNewMail.lookup pid = some mailVOMap →
      mailVOMap.lookup mailId = some ref → (service'.objects ref).pick = false →
        (service.objects ref).pick = false)
    (hbox : ∀ pid box mailId other, service'.cacheAllPlayers.lookup pid = some box →
      box.lookup mailId = some other →
        (∃ old, service.cacheAllPlayers.lookup pid = some old ∧ old.lookup mailId = some other) ∨
        ∀ mailVOMap ref, service.cacheNewMail.lookup pid = some mailVOMap →
          mailVOMap.lookup mailId = some ref →
            (service.objects ref).pick = false → other = ref) : service'.Same := by
  intro pid mailVOMap mailId ref hmap href hunpicked box other hlookup hother
  rw [hcache] at hmap
  have hbefore := hpick pid mailVOMap mailId ref hmap href hunpicked
  rcases hbox pid box mailId other hlookup hother with ⟨old, hold, hother⟩ | hnew
  · exact hsame pid mailVOMap mailId ref hmap href hbefore old other hold hother
  · exact hnew mailVOMap ref hmap href hbefore

/-- **A step that grants nothing** and sends nothing preserves the invariant if it keeps all mails
sound and the objects of `CacheMail` the only ones. -/
lemma Inv.of_frame (hinv : Inv service) (hsent : service'.sent = service.sent)
    (hgranted : service'.granted = service.granted) (hsound : service'.Everywhere service.Sound)
    (hsame : service'.Same) : Inv service' where
  sound := by
    apply hsound.imp
    intro mail hmail
    unfold Sound
    rw [hsent, hgranted]
    exact hmail
  same := hsame
  once := by
    rw [hsent, hgranted]
    exact hinv.once

/-! ## The steps -/

/-- **The mailbox after a login** has the objects of `CacheMail`. -/
lemma lookup_loadSuc {pid : Int32} {box mailVOMap : Mailbox} {mailId : Int32} {ref other : ℕ}
    (hbox : (service.loadSuc pid).cacheAllPlayers.lookup pid = some box)
    (hmap : service.cacheNewMail.lookup pid = some mailVOMap)
    (href : mailVOMap.lookup mailId = some ref) (hother : box.lookup mailId = some other) :
    other = ref := by
  unfold MailService.loadSuc at hbox
  cases hplayer : service.cacheAllPlayers.lookup pid with
  | none =>
    simp only [hplayer] at hbox
    cases hbox
  | some old =>
    simp only [hplayer, hmap, lookup_put_self] at hbox
    obtain rfl := Option.some.inj hbox
    rcases lookup_union hother with hother | ⟨hnone, -⟩
    · exact Option.some.inj (hother.symm.trans href)
    · rw [hnone] at href
      cases href

/-- **A load ends.** -/
lemma Inv.finish (hinv : Inv service) {ix : ℕ} {login : Bool}
    (hallowed : service.Allowed exec (.finish ix login)) :
    Inv (service.step exec upserts (.finish ix login)) := by
  have hsound : (service.step exec upserts (.finish ix login)).Everywhere service.Sound :=
    hinv.sound.finish ix login
  simp only [step] at hsound ⊢
  cases hix : service.loads[ix]? with
  | none => exact hinv
  | some load =>
    obtain ⟨pid, rows⟩ := load
    simp only [hix] at hsound ⊢
    set closed : MailService ι σ := { service with loads := service.loads.eraseIdx ix } with hclosed
    have hload := frame_load closed pid rows
    have hlogin := hload.trans (frame_loadSuc (closed.load pid rows) pid)
    cases login with
    | true =>
      simp only [if_true] at hsound ⊢
      refine hinv.of_frame hlogin.sent hlogin.granted hsound ?_
      apply hinv.same.of_back hlogin.cacheNewMail
      · intro pid' mailVOMap mailId ref hmap href hpick
        have hlt := (hinv.sound.inCache pid' mailVOMap mailId ref hmap href).1
        rwa [hlogin.objects ref hlt] at hpick
      · intro pid' box mailId other hlookup hother
        by_cases hpid : pid' = pid
        · subst hpid
          refine .inr fun mailVOMap ref hmap href _ => ?_
          exact lookup_loadSuc hlookup (hload.cacheNewMail ▸ hmap) href hother
        · rw [lookup_loadSuc_of_ne _ hpid, lookup_load_of_ne _ hpid] at hlookup
          exact .inl ⟨box, hlookup, hother⟩
    | false =>
      refine hinv.of_frame hload.sent hload.granted hsound ?_
      apply hinv.same.of_back hload.cacheNewMail
      · intro pid' mailVOMap mailId ref hmap href hpick
        have hlt := (hinv.sound.inCache pid' mailVOMap mailId ref hmap href).1
        change ((closed.load pid rows).objects ref).pick = false at hpick
        rwa [hload.objects ref hlt] at hpick
      · intro pid' box mailId other hlookup hother
        by_cases hpid : pid' = pid
        · subst hpid
          cases hplayer : service.cacheAllPlayers.lookup pid' with
          | some old =>
            have hloaded : closed.load pid' rows = closed :=
              load_of_some (show closed.cacheAllPlayers.lookup pid' = some old from hplayer) rows
            change (closed.load pid' rows).cacheAllPlayers.lookup pid' = some box at hlookup
            rw [hloaded] at hlookup
            exact .inl ⟨box, hplayer.symm.trans hlookup, hother⟩
          | none =>
            -- the player has no mail in `CacheMail` that is not picked
            refine .inr fun mailVOMap ref hmap href hpick => ?_
            have hpicked := hallowed (pid', rows) hix rfl hplayer mailVOMap hmap mailId ref href
            rw [hpicked] at hpick
            cases hpick
        · change (closed.load pid rows).cacheAllPlayers.lookup pid' = some box at hlookup
          rw [lookup_load_of_ne _ hpid] at hlookup
          exact .inl ⟨box, hlookup, hother⟩

/-- **A player leaves the cache** when no load of it is on the way. -/
lemma Inv.evict (hinv : Inv service) {pid : Int32}
    (hallowed : service.Allowed exec (.evict pid)) :
    Inv (service.step exec upserts (.evict pid)) := by
  refine hinv.of_frame rfl rfl
    (hinv.sound.evict fun load hload hpid => absurd hpid (hallowed load hload)) ?_
  refine hinv.same.of_back rfl (fun _ _ _ _ _ _ hpick => hpick)
    fun pid' box mailId other hlookup hother => ?_
  change (service.cacheAllPlayers.erase pid).lookup pid' = some box at hlookup
  rw [AList.lookup_erase_ite] at hlookup
  split_ifs at hlookup
  exact .inl ⟨box, hlookup, hother⟩

/-- Mails are taken out of a mailbox. -/
lemma Same.put_filterKeys (hsame : service.Same) {pid : Int32} {box : Mailbox}
    (hbox : service.cacheAllPlayers.lookup pid = some box) (p : Int32 → Bool) :
    (service.put pid (box.filterKeys p)).Same := by
  refine hsame.of_back rfl (fun _ _ _ _ _ _ hpick => hpick)
    fun pid' box' mailId other hlookup hother => ?_
  change (service.cacheAllPlayers.insert pid (box.filterKeys p)).lookup pid' = some box' at hlookup
  rw [AList.lookup_insert_ite] at hlookup
  split_ifs at hlookup with hpid
  · obtain rfl := Option.some.inj hlookup
    rw [AList.lookup_filterKeys] at hother
    split_ifs at hother
    exact .inl ⟨box, hpid ▸ hbox, hother⟩
  · exact .inl ⟨box', hlookup, hother⟩

/-- **`clearOverdueMail`.** -/
lemma Inv.clearOverdueMail (hinv : Inv service) (pid : Int32) (now : Int64) :
    Inv (service.clearOverdueMail pid now) := by
  have hsound := hinv.sound.clearOverdueMail pid now
  unfold MailService.clearOverdueMail at hsound ⊢
  cases hbox : service.cacheAllPlayers.lookup pid with
  | none => exact hinv
  | some box =>
    simp only [hbox] at hsound ⊢
    exact hinv.of_frame rfl rfl hsound (hinv.same.put_filterKeys hbox _)

/-- **`delete`.** -/
lemma Inv.deleteMails (hinv : Inv service) (pid : Int32)
    (mailIds : Option (List (Option Int32))) : Inv (service.deleteMails pid mailIds) := by
  have hsound := hinv.sound.deleteMails pid mailIds
  unfold MailService.deleteMails at hsound ⊢
  cases hbox : service.cacheAllPlayers.lookup pid with
  | none => exact hinv
  | some box =>
    simp only [hbox] at hsound ⊢
    exact hinv.of_frame rfl rfl hsound (hinv.same.put_filterKeys hbox _)

/-- **`createPlayer`**: the new mailbox is empty. -/
lemma Inv.create (hinv : Inv service) (pid : Int32) :
    Inv (service.step exec upserts (.create pid)) := by
  have hsound : (service.step exec upserts (.create pid)).Everywhere service.Sound :=
    hinv.sound.create pid
  simp only [step] at hsound ⊢
  split_ifs with hknown
  · exact hinv
  · rw [if_neg hknown] at hsound
    refine hinv.of_frame rfl rfl hsound ?_
    refine hinv.same.of_back rfl (fun _ _ _ _ _ _ hpick => hpick)
      fun pid' box mailId other hlookup hother => ?_
    change (service.cacheAllPlayers.insert pid ∅).lookup pid' = some box at hlookup
    rw [AList.lookup_insert_ite] at hlookup
    split_ifs at hlookup
    · obtain rfl := Option.some.inj hlookup
      cases hother
    · exact .inl ⟨box, hlookup, hother⟩

/-- **A load reads rows.** -/
lemma Inv.read (hinv : Inv service) (pid : Int32) :
    Inv (service.step exec upserts (.read pid)) := by
  have hsound : (service.step exec upserts (.read pid)).Everywhere service.Sound :=
    hinv.sound.read pid
  simp only [step] at hsound ⊢
  split_ifs with hknown
  · rw [if_pos hknown] at hsound
    exact hinv.of_frame rfl rfl hsound hinv.same
  · exact hinv

/-- **`getMailInfo`.** -/
lemma Inv.getMailInfo (hinv : Inv service) (pid mailId : Int32) :
    Inv (service.getMailInfo upserts pid mailId) := by
  have hsound : (service.getMailInfo upserts pid mailId).Everywhere service.Sound :=
    hinv.sound.getMailInfo pid mailId fun mail hmail => hmail.congr rfl rfl rfl id
  unfold MailService.getMailInfo at hsound ⊢
  cases hfound : (service.cacheAllPlayers.lookup pid).bind (·.lookup mailId) with
  | none => exact hinv
  | some ref =>
    simp only [hfound] at hsound ⊢
    refine hinv.of_frame rfl rfl hsound ?_
    refine hinv.same.of_back rfl (fun pid mailVOMap mailId other hmap hother hpick => ?_)
      fun pid box mailId other hbox hother => .inl ⟨box, hbox, hother⟩
    simp only [update_read] at hpick
    split_ifs at hpick
    · exact hpick
    · exact hpick

/-- **`sendMail`**: nothing has the id of the new mail yet. -/
lemma Inv.sendMail (hinv : Inv service) {mail : MailObj ι}
    (hnew : service.sent.lookup mail.id = none) : Inv (service.sendMail mail) := by
  have hsent : (service.sendMail mail).sent = service.sent.insert mail.id mail := by
    simp only [MailService.sendMail]
    split
    · rfl
    · split_ifs
      · rfl
      · rfl
  have hgranted : (service.sendMail mail).granted = service.granted := by
    simp only [MailService.sendMail]
    split
    · rfl
    · split_ifs
      · rfl
      · rfl
  have hold : ∀ {mailId : Int32} {original : MailObj ι},
      service.sent.lookup mailId = some original →
        mailId ≠ mail.id ∧ (service.sendMail mail).sent.lookup mailId = some original := by
    intro mailId original hlookup
    have hne : mailId ≠ mail.id := by
      rintro rfl
      rw [hnew] at hlookup
      cases hlookup
    rw [hsent, AList.lookup_insert_ne hne]
    exact ⟨hne, hlookup⟩
  have hmail : (service.sendMail mail).Sound mail := by
    refine ⟨⟨mail, ?_, rfl, rfl⟩, fun hgrants => ?_⟩
    · rw [hsent, AList.lookup_insert]
    · rw [hgranted] at hgrants
      rcases hinv.once mail.id with hnil | ⟨original, hlookup, -⟩
      · exact absurd hnil hgrants
      · exact absurd rfl (hold hlookup).1
  constructor
  case sound =>
    have hsound : service.Everywhere (service.sendMail mail).Sound := by
      apply hinv.sound.imp
      rintro other ⟨⟨original, hlookup, hsame⟩, hmarked⟩
      refine ⟨⟨original, (hold hlookup).2, hsame⟩, ?_⟩
      rwa [hgranted]
    exact hsound.sendMail hmail
  case same =>
    -- the mails in `CacheMail` so far have other ids
    have hne : ∀ {pid : Int32} {mailVOMap : Mailbox} {mailId : Int32} {ref : ℕ},
        service.cacheNewMail.lookup pid = some mailVOMap → mailVOMap.lookup mailId = some ref →
          mailId ≠ mail.id ∧ ref ≠ service.fresh := by
      intro pid mailVOMap mailId ref hmap href
      obtain ⟨hlt, hid, -, ⟨original, hlookup, -⟩, -⟩ :=
        hinv.sound.inCache pid mailVOMap mailId ref hmap href
      rw [hid] at hlookup
      exact ⟨(hold hlookup).1, hlt.ne⟩
    have hobject : ∀ {ref : ℕ}, ref ≠ service.fresh →
        Function.update service.objects service.fresh mail ref = service.objects ref :=
      fun hfresh => Function.update_of_ne hfresh _ _
    simp only [MailService.sendMail]
    set made := (MailService.newMailVO { service with
      mailDAO := service.mailDAO.insert mail.id mail
      sent := service.sent.insert mail.id mail } mail).1 with hmade
    cases hplayer : made.cacheAllPlayers.lookup mail.playerId with
    | some box =>
      intro pid mailVOMap mailId ref hmap href hpick box' other hlookup hother
      change service.cacheNewMail.lookup pid = some mailVOMap at hmap
      change (made.cacheAllPlayers.insert mail.playerId
        (box.insert mail.id service.fresh)).lookup pid = some box' at hlookup
      change (Function.update service.objects service.fresh mail ref).pick = false at hpick
      rw [hobject (hne hmap href).2] at hpick
      rw [AList.lookup_insert_ite] at hlookup
      split_ifs at hlookup with hpid
      · obtain rfl := Option.some.inj hlookup
        rw [AList.lookup_insert_ne (hne hmap href).1] at hother
        exact hinv.same pid mailVOMap mailId ref hmap href hpick box other (hpid ▸ hplayer) hother
      · exact hinv.same pid mailVOMap mailId ref hmap href hpick box' other hlookup hother
    | none =>
      simp only
      split_ifs
      · intro pid mailVOMap mailId ref hmap href hpick box' other hlookup hother
        change service.cacheAllPlayers.lookup pid = some box' at hlookup
        change (Function.update service.objects service.fresh mail ref).pick = false at hpick
        have hpid : pid ≠ mail.playerId := by
          rintro rfl
          exact absurd (hlookup.symm.trans hplayer) (Option.some_ne_none _)
        rw [AList.lookup_insert_ne hpid] at hmap
        rw [hobject (hne hmap href).2] at hpick
        exact hinv.same pid mailVOMap mailId ref hmap href hpick box' other hlookup hother
      · intro pid mailVOMap mailId ref hmap href hpick
        change (Function.update service.objects service.fresh mail ref).pick = false at hpick
        rw [hobject (hne hmap href).2] at hpick
        exact hinv.same pid mailVOMap mailId ref hmap href hpick
  case once =>
    intro mailId
    rw [hgranted]
    rcases hinv.once mailId with hnil | ⟨original, hlookup, hgrants⟩
    · exact .inl hnil
    · exact .inr ⟨original, (hold hlookup).2, hgrants⟩

/-- **What a request does** to the objects and to what was granted. -/
structure Picks (service : MailService ι σ) (box : Mailbox) (playerVO : PlayerVO ι σ) : Prop where
  /-- An object stays the same mail and keeps its mark. -/
  kept : ∀ ref, (service.writeBack box playerVO.mailVOMap ref).id = (service.objects ref).id ∧
    (service.writeBack box playerVO.mailVOMap ref).playerId = (service.objects ref).playerId ∧
    (service.writeBack box playerVO.mailVOMap ref).items = (service.objects ref).items ∧
    ((service.objects ref).pick = true →
      (service.writeBack box playerVO.mailVOMap ref).pick = true)
  /-- From a mail that gets its mark all attachments are granted, and from others none. -/
  granted : ∀ mailId, grants mailId playerVO.granted = [] ∨
    ∃ ref, box.lookup mailId = some ref ∧ (service.objects ref).pick = false ∧
      (service.writeBack box playerVO.mailVOMap ref).pick = true ∧
      grants mailId playerVO.granted = (service.objects ref).items

/-- A request that is all or nothing. -/
lemma Inv.picks (hinv : Inv service) {pid : Int32} {box : Mailbox} {req : PickRequest}
    (hbox : service.cacheAllPlayers.lookup pid = some box)
    (hreq : AllOrNothing exec (service.view pid box) req) :
    Picks service box (req.after exec (service.view pid box)) := by
  obtain ⟨hmails, hnone⟩ := after_spec rfl hreq
  have hview : ∀ mailId, (service.view pid box).mailVOMap.lookup mailId =
      (box.lookup mailId).map fun ref => (service.objects ref).toMailVO :=
    fun mailId => AList.lookup_mapValues _ _ _
  have hobject : ∀ {ref : ℕ}, box.lookup (service.objects ref).id = some ref → ∃ new,
      (req.after exec (service.view pid box)).mailVOMap.lookup (service.objects ref).id = some new ∧
      service.writeBack box (req.after exec (service.view pid box)).mailVOMap ref =
        { service.objects ref with toMailVO := new } ∧
      new.items = (service.objects ref).items ∧
      ((service.objects ref).pick = true → new.pick = true) ∧
      grants (service.objects ref).id (req.after exec (service.view pid box)).granted =
        if new.pick ∧ ¬(service.objects ref).pick then new.items else [] := by
    intro ref href
    have hold := hview (service.objects ref).id
    rw [href, Option.map_some] at hold
    obtain ⟨new, hnew, hitems, hpick, hgrants⟩ := hmails _ _ hold
    refine ⟨new, hnew, ?_, hitems, hpick, hgrants⟩
    unfold writeBack
    simp only [if_pos href, hnew, Option.getD_some]
  constructor
  · intro ref
    by_cases href : box.lookup (service.objects ref).id = some ref
    · obtain ⟨new, -, hwrite, hitems, hpick, -⟩ := hobject href
      rw [hwrite]
      exact ⟨rfl, rfl, hitems, hpick⟩
    · have hwrite : service.writeBack box (req.after exec (service.view pid box)).mailVOMap ref =
          service.objects ref := by
        unfold writeBack
        simp only [if_neg href]
      rw [hwrite]
      exact ⟨rfl, rfl, rfl, id⟩
  · intro mailId
    cases hlookup : box.lookup mailId with
    | none =>
      refine .inl (hnone mailId ?_)
      rw [hview, hlookup, Option.map_none]
    | some ref =>
      obtain ⟨-, hid, -⟩ := hinv.sound.inBox pid box mailId ref hbox hlookup
      subst hid
      obtain ⟨new, -, hwrite, hitems, -, hgrants⟩ := hobject hlookup
      by_cases hmarked : new.pick = true ∧ ¬(service.objects ref).pick = true
      · rw [if_pos hmarked] at hgrants
        refine .inr ⟨ref, rfl, by simpa using hmarked.2, ?_, hgrants.trans hitems⟩
        rw [hwrite]
        exact hmarked.1
      · rw [if_neg hmarked] at hgrants
        exact .inl hgrants

/-- **`pick`**: the mails from which something is granted are marked wherever they can be
reached. -/
lemma Inv.pickMails (hinv : Inv service) {pid : Int32} {req : PickRequest}
    (hallowed : service.Allowed exec (.pick pid req)) :
    Inv (service.pickMails exec upserts pid req) := by
  unfold MailService.pickMails
  cases hbox : service.cacheAllPlayers.lookup pid with
  | none => exact hinv
  | some box =>
    simp only
    obtain ⟨hkept, hgranted⟩ := hinv.picks hbox (hallowed box hbox)
    set playerVO := req.after exec (service.view pid box) with hplayerVO
    set objects := service.writeBack box playerVO.mailVOMap with hobjects
    set after : MailService ι σ := { service with
      objects := objects
      mailDAO := List.foldl (save upserts) service.mailDAO (List.map objects
        (box.values.filter fun ref => (objects ref).pick && !(service.objects ref).pick))
      others := Function.update service.others pid playerVO.others
      granted := service.granted ++ playerVO.granted } with hafter
    have hgrants : ∀ mailId, grants mailId after.granted =
        grants mailId service.granted ++ grants mailId playerVO.granted :=
      fun mailId => grants_append mailId _ _
    -- a mail from which nothing is granted now stays sound
    have hquiet : ∀ {mail mail' : MailObj ι}, service.Sound mail → mail'.id = mail.id →
        mail'.playerId = mail.playerId → mail'.items = mail.items →
        (mail.pick = true → mail'.pick = true) →
        (grants mail.id playerVO.granted ≠ [] → mail'.pick = true) → after.Sound mail' := by
      intro mail mail' hsound hid hplayer hitems hpick hnew
      have hsame : service.Sound mail' := hsound.congr hid hplayer hitems hpick
      refine ⟨hsame.1, fun hmarked => ?_⟩
      rw [hgrants] at hmarked
      by_cases hnow : grants mail.id playerVO.granted = []
      · rw [hid, hnow, List.append_nil, ← hid] at hmarked
        exact hsame.2 hmarked
      · exact hnew hnow
    have hholds : ∀ {pid' mailId : Int32} {ref : ℕ}, service.Holds service.Sound pid' mailId ref →
        (grants mailId playerVO.granted ≠ [] → (objects ref).pick = true) →
          after.Holds after.Sound pid' mailId ref := by
      rintro pid' mailId ref ⟨hlt, rfl, hplayer, hsound⟩ hnow
      obtain ⟨hid', hplayer', hitems', hpick'⟩ := hkept ref
      exact ⟨hlt, hid', hplayer'.trans hplayer, hquiet hsound hid' hplayer' hitems' hpick' hnow⟩
    have hboxHolds : ∀ mailId ref, box.lookup mailId = some ref →
        after.Holds after.Sound pid mailId ref := by
      intro mailId ref href
      refine hholds (hinv.sound.inBox pid box mailId ref hbox href) fun hnow => ?_
      rcases hgranted mailId with hnil | ⟨other, hother, -, hmarked, -⟩
      · exact absurd hnil hnow
      · obtain rfl := Option.some.inj (href.symm.trans hother)
        exact hmarked
    -- what is granted now is from mails of the player
    have howner : ∀ {mail : MailObj ι}, service.Sound mail → grants mail.id playerVO.granted ≠ [] →
        ∃ ref, box.lookup mail.id = some ref ∧ (service.objects ref).pick = false ∧
          (objects ref).pick = true ∧ mail.playerId = pid := by
      intro mail hsound hnow
      rcases hgranted mail.id with hnil | ⟨ref, href, hpick, hmarked, -⟩
      · exact absurd hnil hnow
      · obtain ⟨-, hid, hplayer, hrefSound⟩ := hinv.sound.inBox pid box mail.id ref hbox href
        exact ⟨ref, href, hpick, hmarked, (hsound.playerId_eq hrefSound hid.symm).trans hplayer⟩
    constructor
    case sound =>
      constructor
      case inBox =>
        intro pid' box' mailId ref hlookup href
        have hold := hinv.sound.inBox pid' box' mailId ref hlookup href
        by_cases hpid : pid' = pid
        · subst hpid
          obtain rfl : box = box' := Option.some.inj (hbox.symm.trans hlookup)
          exact hboxHolds mailId ref href
        · refine hholds hold fun hnow => ?_
          rw [← hold.2.1] at hnow
          obtain ⟨-, -, -, -, howned⟩ := howner hold.2.2.2 hnow
          exact absurd (hold.2.2.1.symm.trans howned) hpid
      case inCache =>
        intro pid' mailVOMap mailId ref hmap href
        have hold := hinv.sound.inCache pid' mailVOMap mailId ref hmap href
        refine hholds hold fun hnow => ?_
        rw [← hold.2.1] at hnow
        obtain ⟨other, hother, hunpicked, hmarked, howned⟩ := howner hold.2.2.2 hnow
        rw [hold.2.1] at hother
        rw [hold.2.2.1] at howned
        subst howned
        cases hpicked : (service.objects ref).pick with
        | true => exact (hkept ref).2.2.2 hpicked
        | false =>
          obtain rfl := hinv.same pid' mailVOMap mailId ref hmap href hpicked box other hbox hother
          exact hmarked
      case row =>
        intro mailId row hrow
        rcases lookup_foldl_save hrow with ⟨hmem, hid⟩ | ⟨hne, hrow⟩
        · refine ⟨hid, ?_⟩
          obtain ⟨ref, href, rfl⟩ := List.mem_map.mp hmem
          obtain ⟨key, hkey⟩ := AList.mem_values.mp (List.mem_of_mem_filter href)
          exact (hboxHolds key ref hkey).2.2.2
        · obtain ⟨hid, hsound⟩ := hinv.sound.row mailId row hrow
          refine ⟨hid, hquiet hsound rfl rfl rfl id fun hnow => ?_⟩
          obtain ⟨ref, href, hunpicked, hmarked, -⟩ := howner hsound hnow
          -- the row was saved
          rw [hid] at href
          have hmem : ref ∈ box.values.filter fun ref =>
              (objects ref).pick && !(service.objects ref).pick := by
            refine List.mem_filter.mpr ⟨AList.mem_values.mpr ⟨mailId, href⟩, ?_⟩
            rw [hmarked, hunpicked]
            rfl
          exact absurd ((hkept ref).1.trans (hinv.sound.inBox pid box mailId ref hbox href).2.1)
            (hne _ (List.mem_map_of_mem hmem))
      case load =>
        intro load hload row hrow
        obtain ⟨hplayer, hsound⟩ := hinv.sound.load load hload row hrow
        refine ⟨hplayer, fun hnone => hquiet (hsound hnone) rfl rfl rfl id fun hnow => ?_⟩
        obtain ⟨-, -, -, -, howned⟩ := howner (hsound hnone) hnow
        have hnone' : service.cacheAllPlayers.lookup load.1 = none := hnone
        rw [← hplayer, howned, hbox] at hnone'
        cases hnone'
    case same =>
      refine hinv.same.of_back rfl (fun pid' mailVOMap mailId ref hmap href hpick => ?_)
        fun pid' box' mailId other hlookup hother => .inl ⟨box', hlookup, hother⟩
      cases hpicked : (service.objects ref).pick with
      | true =>
        have hstill := (hkept ref).2.2.2 hpicked
        exact absurd (hstill.symm.trans hpick) Bool.noConfusion
      | false => rfl
    case once =>
      intro mailId
      rw [hgrants]
      rcases hgranted mailId with hnil | ⟨ref, href, hunpicked, -, hitems⟩
      · rw [hnil, List.append_nil]
        exact hinv.once mailId
      · obtain ⟨-, hid, -, ⟨original, hsent, horiginal, -⟩, hmarked⟩ :=
          hinv.sound.inBox pid box mailId ref hbox href
        rw [hid] at hsent hmarked
        have hbefore : grants mailId service.granted = [] := by
          by_contra hsome
          rw [hmarked hsome] at hunpicked
          cases hunpicked
        refine .inr ⟨original, hsent, ?_⟩
        rw [hbefore, List.nil_append, hitems]
        exact horiginal

/-- **An allowed step preserves the invariant.** -/
theorem Inv.step (hinv : Inv service) {action : Action ι} (hallowed : service.Allowed exec action) :
    Inv (service.step exec upserts action) := by
  cases action with
  | send mail =>
    simp only [MailService.step]
    split_ifs with hsent
    · exact hinv
    · push Not at hsent
      exact hinv.sendMail (Option.not_isSome_iff_eq_none.mp hsent.1)
  | create pid => exact hinv.create pid
  | read pid => exact hinv.read pid
  | finish ix login => exact hinv.finish hallowed
  | evict pid => exact hinv.evict hallowed
  | enterGame pid now => exact hinv.clearOverdueMail pid now
  | getMailInfo pid mailId => exact hinv.getMailInfo pid mailId
  | pick pid req => exact hinv.pickMails hallowed
  | delete pid mailIds => exact hinv.deleteMails pid mailIds

end Step

/-! ## Runs -/

lemma inv_boot (rows : List (MailObj ι)) (pids : List Int32) (others : Int32 → σ) :
    Inv (boot rows pids others) where
  sound := by
    apply everywhere_boot
    intro mailId row hrow
    obtain hnone | ⟨-, hid⟩ := AList.lookup_putAll hrow
    · cases hnone
    · refine ⟨⟨row, ?_, rfl, rfl⟩, fun hgrants => absurd rfl hgrants⟩
      rw [hid]
      exact hrow
  same := fun pid mailVOMap mailId ref hmap => by cases hmap
  once := fun mailId => .inl rfl

/-- **Attachments are granted once.** In every run of allowed steps from the start of the server, in
which mails are sent, players come and go and make requests in any order, what was granted from a
mail is nothing or the attachments that it was sent with. -/
theorem granted_once (exec : FuncsExecutor ι σ) (upserts : Bool) (rows : List (MailObj ι))
    (pids : List Int32) (others : Int32 → σ) (actions : List (Action ι))
    (hallowed : EveryStep (step exec upserts) (Allowed exec) (boot rows pids others) actions)
    (mailId : Int32) :
    grants mailId (run (step exec upserts) (boot rows pids others) actions).granted = [] ∨
      ∃ original, (run (step exec upserts) (boot rows pids others) actions).sent.lookup mailId =
          some original ∧
        grants mailId (run (step exec upserts) (boot rows pids others) actions).granted =
          original.items := by
  have hinv : Inv (run (step exec upserts) (boot rows pids others) actions) :=
    state_inv_run Inv (fun _ _ hinv hallowed => hinv.step hallowed) (inv_boot rows pids others)
      hallowed
  exact hinv.once mailId

/-- Attachments that cost nothing. -/
def freeExecutor : FuncsExecutor Unit Unit :=
  ⟨fun _ => pure (), fun _ => pure (), fun _ _ => true⟩

/-- A mail to player 7, with one attachment. -/
def mailToSeven : MailObj Unit := ⟨{ itemList := some [()] }, 1, 7, 1000⟩

/-- Player 7 is away when the mail is sent, and is loaded; then he picks the mail, leaves the cache
and tries again. -/
def pickedAndBack (login : Bool) : List (Action Unit) :=
  [.evict 7, .send mailToSeven, .read 7, .finish 0 login, .pick 7 (.one 0 1), .evict 7, .read 7,
    .finish 0 true, .pick 7 (.one 0 1)]

/-- A request for one mail of free attachments is all or nothing. -/
lemma allOrNothing_free (playerVO : PlayerVO Unit Unit) (now : Int64) (mailId : Int32) :
    AllOrNothing freeExecutor playerVO (.one now mailId) := by
  intro mailIds others hmails funcs _
  have hrounds : ∀ l : List Unit, EStateM.rounds freeExecutor.execFunc l others = l.length := by
    intro l
    induction l with
    | nil => rfl
    | cons a l ih => exact congrArg (· + 1) ih
  obtain ⟨-, -, rfl⟩ := Except.map_eq_ok.mp hmails
  exact .inr ⟨hrounds funcs, List.nodup_singleton mailId⟩

/-- The player who comes back by a login has the attachment once, one who is loaded in passing
twice. -/
theorem granted_once_pickedAndBack :
    grants 1 (run (step freeExecutor false) (boot [] [7] fun _ => ())
        (pickedAndBack true)).granted = [()] ∧
      (∀ mailId, grants mailId (run (step freeExecutor false) (boot [] [7] fun _ => ())
          (pickedAndBack true)).granted = [] ∨
        ∃ original, (run (step freeExecutor false) (boot [] [7] fun _ => ())
            (pickedAndBack true)).sent.lookup mailId = some original ∧
          grants mailId (run (step freeExecutor false) (boot [] [7] fun _ => ())
            (pickedAndBack true)).granted = original.items) ∧
      -- a player who is loaded in passing, because a friend looks at him, picks the mail twice
      grants 1 (run (step freeExecutor false) (boot [] [7] fun _ => ())
        (pickedAndBack false)).granted = [(), ()] := by
  refine ⟨by decide, granted_once freeExecutor false [] [7] (fun _ => ()) (pickedAndBack true) ?_,
    by decide⟩
  refine ⟨?_, trivial, trivial, ?_, ?_, ?_, trivial, ?_, ?_, trivial⟩
  · intro load hload
    cases hload
  · intro load _ hlogin
    cases hlogin
  · exact fun box _ => allOrNothing_free _ 0 1
  · intro load hload
    cases hload
  · intro load _ hlogin
    cases hlogin
  · exact fun box _ => allOrNothing_free _ 0 1

end MailService

end SrgpGame.Mail
