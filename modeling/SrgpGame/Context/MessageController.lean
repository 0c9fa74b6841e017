import SrgpGame.Lib.Machine

set_option autoImplicit false

/-!
# Message controllers

A client numbers its requests, the server numbers its answers. The message controller of a session
keeps the number of the last request it accepted, so that a request that arrives again is dropped,
and a pool of the answers that the client has not acknowledged. A reconnect moves the controller of
the player to the client's new session.

## Main definitions

* `ServerMessage`, `MessageController` — an answer, and the controller of a session.
* `validate`, `discardServerMessage`, `sendMessage`, `copyClientMessageId` — its methods.
* `PlayerSessions` — the sessions of one player's client, with `getController` and `reconnection`
  of `CacheMessageController`.
* `SessionStep`, `SessionStep.next` — what can happen to them, with the gateway's handler, which
  drops what comes on a session that is not active.

## Design notes

`κ` is the type of sessions and `μ` that of the contents of answers. Sessions are compared by
identity, and the cache files every controller under its own session; so the player's controller is
named by its session. The tasks that a controller hands to its connection run at once.
-/

namespace SrgpGame.Context

variable {κ μ : Type}

/-! ## Controllers -/

/-- `ServerMessage`, as far as the controller is concerned. -/
structure ServerMessage (μ : Type) where
  /-- The last request that was accepted when the message was sent. -/
  lastClientMessageId : Int32
  /-- The id of the message. -/
  lastServerMessageId : Int32
  content : μ
  deriving DecidableEq, Repr

/-- `MessageController`. -/
structure MessageController (κ μ : Type) where
  session : κ
  /-- The id of the last request that was accepted. -/
  lastClientMessageId : Int32 := -1
  /-- The answers that were not acknowledged, oldest first. -/
  messagePool : List (ServerMessage μ) := []
  /-- The id of the last answer. -/
  lastReceivedMessageId : Int32 := 0
  deriving DecidableEq, Repr

namespace MessageController

/-- Drops the answers that the client has, while the session is active. -/
def discardServerMessage (controller : MessageController κ μ) (isActive : Bool)
    (lastServerMessageId : Int32) : MessageController κ μ :=
  if isActive then
    { controller with
      messagePool := controller.messagePool.dropWhile fun message =>
        ¬lastServerMessageId < message.lastServerMessageId }
  else controller

/-- Whether a request is to be executed. If it is, its id becomes the last one, and the answers
that the client has are dropped. -/
def validate (controller : MessageController κ μ) (isActive : Bool)
    (lastClientMessageId lastServerMessageId : Int32) : MessageController κ μ × Bool :=
  let valid : Bool := controller.lastClientMessageId < lastClientMessageId
  if valid then
    let controller := { controller with
      lastClientMessageId := max controller.lastClientMessageId lastClientMessageId }
    (controller.discardServerMessage isActive lastServerMessageId, valid)
  else (controller, valid)

/-- `sendMessageImpl`: numbers an answer, keeps it, and hands it to the connection. -/
def sendMessageImpl (controller : MessageController κ μ) (content : μ) :
    MessageController κ μ × ServerMessage μ :=
  let id := controller.lastReceivedMessageId + 1
  let message : ServerMessage μ := ⟨controller.lastClientMessageId, id, content⟩
  ({ controller with
      lastReceivedMessageId := id, messagePool := controller.messagePool ++ [message] }, message)

/-- Sends an answer, while the session is active: the controller, and what the connection was
handed. -/
def sendMessage (controller : MessageController κ μ) (isActive : Bool) (content : μ) :
    MessageController κ μ × List (ServerMessage μ) :=
  if isActive then
    let (controller, message) := controller.sendMessageImpl content
    (controller, [message])
  else (controller, [])

/-- Moves the controller to another session. -/
def newSession (controller : MessageController κ μ) (session : κ) : MessageController κ μ :=
  { controller with session := session }

/-- Takes over the id of the last request from another controller. -/
def copyClientMessageId (controller other : MessageController κ μ) : MessageController κ μ :=
  { controller with lastClientMessageId := other.lastClientMessageId }

end MessageController

/-! ## Sessions -/

/-- The sessions of one player's client. -/
structure PlayerSessions (κ μ : Type) where
  /-- `CacheMessageController.cache`, as far as these sessions go. -/
  cache : AList fun _ : κ => MessageController κ μ
  /-- The sessions with a live connection. -/
  active : List κ
  /-- The session of the player's controller. -/
  player : κ

namespace PlayerSessions

variable [DecidableEq κ]

/-- `getController`: the controller of a session, a new one if there is none. -/
def getController (sessions : PlayerSessions κ μ) (session : κ) : MessageController κ μ :=
  (sessions.cache.lookup session).getD { session := session }

def isActive (sessions : PlayerSessions κ μ) (session : κ) : Bool := session ∈ sessions.active

/-- Files a controller under its session. -/
def put (sessions : PlayerSessions κ μ) (session : κ) (controller : MessageController κ μ) :
    PlayerSessions κ μ :=
  { sessions with cache := sessions.cache.insert session controller }

/-- `reconnection`: the player's controller moves to `session`; the old session is destroyed, and
the controller that the new session had so far is dropped. -/
def reconnection (sessions : PlayerSessions κ μ) (session : κ) : PlayerSessions κ μ :=
  let newController := sessions.getController session
  let oldController := sessions.getController sessions.player
  let cache := sessions.cache.erase sessions.player
  let controller := (oldController.newSession session).copyClientMessageId newController
  { cache := cache.insert session controller
    active := sessions.active.filter (· ≠ sessions.player)
    player := session }

/-- A controller that is filed is the controller of its session. -/
lemma getController_of_lookup {sessions : PlayerSessions κ μ} {session : κ}
    {controller : MessageController κ μ} (h : sessions.cache.lookup session = some controller) :
    sessions.getController session = controller := by
  rw [getController, h, Option.getD_some]

/-- The controllers that are filed after one was. -/
lemma lookup_put (sessions : PlayerSessions κ μ) (session other : κ)
    (controller : MessageController κ μ) :
    (sessions.put session controller).cache.lookup other =
      if other = session then some controller else sessions.cache.lookup other :=
  AList.lookup_insert_ite _ _ _ _

/-- The controller of a session after one was filed. -/
lemma getController_put (sessions : PlayerSessions κ μ) (session other : κ)
    (controller : MessageController κ μ) :
    (sessions.put session controller).getController other =
      if other = session then controller else sessions.getController other := by
  rw [getController, lookup_put]
  split
  · rfl
  · rfl

/-- The controllers that are filed after a reconnect. -/
lemma lookup_reconnection (sessions : PlayerSessions κ μ) (session other : κ) :
    (sessions.reconnection session).cache.lookup other =
      if other = session then
        some (((sessions.getController sessions.player).newSession session).copyClientMessageId
          (sessions.getController session))
      else if other = sessions.player then none else sessions.cache.lookup other := by
  rw [reconnection, AList.lookup_insert_ite, AList.lookup_erase_ite]

/-- The controller of a session after a reconnect. -/
lemma getController_reconnection (sessions : PlayerSessions κ μ) (session other : κ) :
    (sessions.reconnection session).getController other =
      if other = session then
        ((sessions.getController sessions.player).newSession session).copyClientMessageId
          (sessions.getController session)
      else if other = sessions.player then { session := other }
      else sessions.getController other := by
  rw [getController, lookup_reconnection]
  split_ifs
  · rfl
  · rfl
  · rfl

end PlayerSessions

/-! ## Steps -/

/-- What can happen to the sessions of a player's client. -/
inductive SessionStep (κ μ : Type) where
  /-- A session is opened. -/
  | opened (session : κ)
  /-- A request arrives on a session, with its id and the last answer that the client has. -/
  | message (session : κ) (cix six : Int32)
  /-- The client takes up the player's session again on another one. -/
  | reconnect (session : κ)
  /-- The server sends an answer to a session. -/
  | send (session : κ) (content : μ)
  /-- The connection of a session is lost. -/
  | lost (session : κ)
  deriving DecidableEq, Repr

namespace SessionStep

variable [DecidableEq κ]

/-- The sessions after a step. -/
def next (sessions : PlayerSessions κ μ) : SessionStep κ μ → PlayerSessions κ μ
  | .opened session =>
    { sessions.put session (sessions.getController session) with
      active := session :: sessions.active }
  | .message session cix six =>
    -- the requests of a session that is not active are dropped before they are validated
    if sessions.isActive session then
      sessions.put session
        ((sessions.getController session).validate (sessions.isActive session) cix six).1
    else sessions
  | .reconnect session => sessions.reconnection session
  | .send session content =>
    match sessions.cache.lookup session with
    | none => sessions
    | some controller =>
      sessions.put session (controller.sendMessage (sessions.isActive session) content).1
  | .lost session => { sessions with active := sessions.active.filter (· ≠ session) }

end SessionStep

/-- A player who has just entered the game on a session. -/
def PlayerSessions.enterGame [DecidableEq κ] (session : κ) : PlayerSessions κ μ where
  cache := AList.insert session { session := session } ∅
  active := [session]
  player := session

end SrgpGame.Context
