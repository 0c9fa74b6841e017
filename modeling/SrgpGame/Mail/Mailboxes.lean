import SrgpGame.Mail.DeleteMails
import SrgpGame.Mail.PickOnce

set_option autoImplicit false

/-!
# Where mails are

A mail is a row of the table and objects in memory. A player in the cache has a mailbox of objects.
A mail to a player who is not in the cache is kept in a second cache, `CacheMail`, and put into the
mailbox when the player is loaded for a login. Players are loaded for other reasons too, and then
their mailbox is made of the rows only.

## Main definitions

* `MailObj` — a mail with its keys.
* `MailService` — the rows, the objects, the mailboxes and `CacheMail`.
* `sendMail`, `buildAsLoad`, `loadSuc`, `clearOverdueMail`, `getMailInfo` — the methods of
  `MailBOImpl`; `pickMails` and `deleteMails` are the requests of a player.
* `MailService.step` — what happens to mails.

## Design notes

A mailbox and `CacheMail` may hold the same object, so objects are held by reference. `granted` is
the history of the attachments that were granted, `sent` that of the mails with their attachments.
The store gives every new row an id that none had before. When the server starts, all players are
put into the cache, with empty mailboxes. Whether saving an object whose row is gone makes a row
again is left open (`upserts`). Of loading a player only the mails matter; what else there is of
players stays where it is.
-/

namespace SrgpGame.Mail

variable {ι σ : Type}

/-! ## The service -/

/-- A mail with its keys and the time at which it lapses. -/
structure MailObj (ι : Type) extends MailVO ι where
  id : Int32
  playerId : Int32
  valid : Int64

/-- A mailbox: references of mails, by their ids. -/
abbrev Mailbox : Type := AList fun _ : Int32 => ℕ

/-- The mails of all players. -/
structure MailService (ι σ : Type) where
  /-- The objects, by reference. -/
  objects : ℕ → MailObj ι
  /-- The reference of the next object. -/
  fresh : ℕ
  /-- The rows. -/
  mailDAO : AList fun _ : Int32 => MailObj ι
  /-- The mailboxes of the players in `CachePlayer`. -/
  cacheAllPlayers : AList fun _ : Int32 => Mailbox
  /-- The players of whom `CachePlayerBase` knows. -/
  baseInfo : List Int32
  /-- `CacheMail`. -/
  cacheNewMail : AList fun _ : Int32 => Mailbox
  /-- The loads on the way: the player, and the rows that were read. -/
  loads : List (Int32 × List (MailObj ι))
  /-- What attachments read and change, of each player. -/
  others : Int32 → σ
  /-- The attachments executed so far, each with the id of its mail. -/
  granted : List (Int32 × ι)
  /-- The mails sent so far. -/
  sent : AList fun _ : Int32 => MailObj ι

namespace MailService

/-- Makes a new object: the service, and the reference. -/
def newMailVO (service : MailService ι σ) (mail : MailObj ι) : MailService ι σ × ℕ :=
  ({ service with
      objects := Function.update service.objects service.fresh mail
      fresh := service.fresh + 1 }, service.fresh)

/-- `mailDAO.save` of an object that has a row, or had one: the rows. -/
def save (upserts : Bool) (rows : AList fun _ : Int32 => MailObj ι) (mail : MailObj ι) :
    AList fun _ : Int32 => MailObj ι :=
  if upserts || (rows.lookup mail.id).isSome then rows.insert mail.id mail else rows

/-- Puts a mail into the mailbox of a player in the cache. -/
def put (service : MailService ι σ) (pid : Int32) (box : Mailbox) : MailService ι σ :=
  { service with cacheAllPlayers := service.cacheAllPlayers.insert pid box }

/-- **`sendMail`**: the mail is saved and put where its player will find it. -/
def sendMail (service : MailService ι σ) (mail : MailObj ι) : MailService ι σ :=
  let service := { service with
    mailDAO := service.mailDAO.insert mail.id mail
    sent := service.sent.insert mail.id mail }
  let (service, ref) := service.newMailVO mail
  match service.cacheAllPlayers.lookup mail.playerId with
  | some box => service.put mail.playerId (box.insert mail.id ref)
  | none =>
    if mail.playerId ∈ service.baseInfo then
      let mailVOMap := (service.cacheNewMail.lookup mail.playerId).getD ∅
      { service with
        cacheNewMail :=
          service.cacheNewMail.insert mail.playerId (mailVOMap.insert mail.id ref) }
    else service

/-- The rows of the mails of a player. -/
def rowsOf (service : MailService ι σ) (pid : Int32) : List (MailObj ι) :=
  service.mailDAO.values.filter fun row => row.playerId = pid

/-- **`buildAsLoad`**: an object of each row, in the mailbox. -/
def buildAsLoad : MailService ι σ → Mailbox → List (MailObj ι) → MailService ι σ × Mailbox
  | service, box, [] => (service, box)
  | service, box, row :: rows =>
    let (service, ref) := service.newMailVO row
    service.buildAsLoad (box.insert row.id ref) rows

/-- `load` of `PlayerBOImpl`: a player who is in the cache is not built again. -/
def load (service : MailService ι σ) (pid : Int32) (rows : List (MailObj ι)) : MailService ι σ :=
  match service.cacheAllPlayers.lookup pid with
  | some _ => service
  | none =>
    let (service, box) := service.buildAsLoad ∅ rows
    service.put pid box

/-- **`listen` for `LoadSuc`**: the mails of `CacheMail` are put into the mailbox. -/
def loadSuc (service : MailService ι σ) (pid : Int32) : MailService ι σ :=
  match service.cacheAllPlayers.lookup pid, service.cacheNewMail.lookup pid with
  | some box, some mailVOMap => service.put pid (mailVOMap ∪ box)
  | _, _ => service

/-- **`clearOverdueMail`** at the time `now`. -/
def clearOverdueMail (service : MailService ι σ) (pid : Int32) (now : Int64) :
    MailService ι σ :=
  match service.cacheAllPlayers.lookup pid with
  | none => service
  | some box =>
    let overdue (mailId : Int32) : Bool :=
      (box.lookup mailId).any fun ref => (service.objects ref).valid ≤ now
    { service.put pid (box.filterKeys fun mailId => !overdue mailId) with
      mailDAO := service.mailDAO.filterKeys fun mailId => !overdue mailId }

/-- `getMailInfo`: the mail is read. -/
def getMailInfo (upserts : Bool) (service : MailService ι σ) (pid mailId : Int32) :
    MailService ι σ :=
  match (service.cacheAllPlayers.lookup pid).bind (·.lookup mailId) with
  | none => service
  | some ref =>
    let mail := { service.objects ref with read := true }
    { service with
      objects := Function.update service.objects ref mail
      mailDAO := save upserts service.mailDAO mail }

/-- The player as the requests see it. -/
def view (service : MailService ι σ) (pid : Int32) (box : Mailbox) : PlayerVO ι σ where
  mailVOMap := box.mapValues fun ref => (service.objects ref).toMailVO
  others := service.others pid
  granted := []

/-- The objects after a request has changed the mails of a mailbox. -/
def writeBack (service : MailService ι σ) (box : Mailbox)
    (mailVOMap : AList fun _ : Int32 => MailVO ι) (ref : ℕ) : MailObj ι :=
  let mail := service.objects ref
  if box.lookup mail.id = some ref then
    { mail with toMailVO := (mailVOMap.lookup mail.id).getD mail.toMailVO }
  else mail

/-- **`pick`**: what the request grants and marks, and the rows of the mails that are marked. -/
def pickMails (exec : FuncsExecutor ι σ) (upserts : Bool) (service : MailService ι σ)
    (pid : Int32) (req : PickRequest) : MailService ι σ :=
  match service.cacheAllPlayers.lookup pid with
  | none => service
  | some box =>
    let playerVO := req.after exec (service.view pid box)
    let objects := service.writeBack box playerVO.mailVOMap
    let picked := box.values.filter fun ref => (objects ref).pick && !(service.objects ref).pick
    { service with
      objects := objects
      mailDAO := (picked.map objects).foldl (save upserts) service.mailDAO
      others := Function.update service.others pid playerVO.others
      granted := service.granted ++ playerVO.granted }

/-- **`delete`**: the mails that are taken out of the mailbox, and the rows that are deleted. -/
def deleteMails (service : MailService ι σ) (pid : Int32)
    (mailIds : Option (List (Option Int32))) : MailService ι σ :=
  match service.cacheAllPlayers.lookup pid with
  | none => service
  | some box =>
    let mails : Mails ι := ⟨(service.view pid box).mailVOMap,
      service.mailDAO.mapValues MailObj.toMailVO⟩
    let mails' := (delete mailIds).finalState mails
    { service.put pid (box.filterKeys fun mailId => (mails'.mailVOMap.lookup mailId).isSome) with
      mailDAO := service.mailDAO.filterKeys fun mailId => (mails'.store.lookup mailId).isSome }

/-! ## What happens -/

/-- What happens. -/
inductive Action (ι : Type) where
  /-- A mail is sent; the store has given it its id. -/
  | send (mail : MailObj ι)
  /-- `createPlayer`. -/
  | create (pid : Int32)
  /-- A load reads the rows of a player's mails. -/
  | read (pid : Int32)
  /-- The load at `ix` ends, for a login or for another reason. -/
  | finish (ix : ℕ) (login : Bool)
  /-- The player leaves the cache. -/
  | evict (pid : Int32)
  /-- The player enters the game. -/
  | enterGame (pid : Int32) (now : Int64)
  | getMailInfo (pid mailId : Int32)
  | pick (pid : Int32) (req : PickRequest)
  | delete (pid : Int32) (mailIds : Option (List (Option Int32)))

/-- **What happens to mails**; what cannot happen changes nothing. -/
def step (exec : FuncsExecutor ι σ) (upserts : Bool) (service : MailService ι σ) :
    Action ι → MailService ι σ
  | .send mail =>
    if (service.sent.lookup mail.id).isSome ∨ mail.pick then service else service.sendMail mail
  | .create pid =>
    if pid ∈ service.baseInfo then service
    else { service.put pid ∅ with baseInfo := pid :: service.baseInfo }
  | .read pid =>
    if pid ∈ service.baseInfo then
      { service with loads := service.loads ++ [(pid, service.rowsOf pid)] }
    else service
  | .finish ix login =>
    match service.loads[ix]? with
    | none => service
    | some (pid, rows) =>
      let service := { service with loads := service.loads.eraseIdx ix }.load pid rows
      if login then service.loadSuc pid else service
  | .evict pid => { service with cacheAllPlayers := service.cacheAllPlayers.erase pid }
  | .enterGame pid now => service.clearOverdueMail pid now
  | .getMailInfo pid mailId => service.getMailInfo upserts pid mailId
  | .pick pid req => service.pickMails exec upserts pid req
  | .delete pid mailIds => service.deleteMails pid mailIds

/-- The server when it has started: the rows, and the players with empty mailboxes. -/
def boot (rows : List (MailObj ι)) (pids : List Int32) (others : Int32 → σ) :
    MailService ι σ where
  objects := fun _ => ⟨{ itemList := none }, 0, 0, 0⟩
  fresh := 0
  mailDAO := AList.putAll MailObj.id rows ∅
  cacheAllPlayers := pids.foldl (fun players pid => players.insert pid ∅) ∅
  baseInfo := pids
  cacheNewMail := ∅
  loads := []
  others := others
  granted := []
  sent := AList.putAll MailObj.id rows ∅

end MailService

end SrgpGame.Mail
