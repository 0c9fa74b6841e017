import SrgpGame.Lib.Machine
import SrgpGame.Lib.Transducer
import SrgpGame.Gateway.Message
import Mathlib.Logic.Function.Basic

set_option autoImplicit false

/-!
# Sessions on the game server

A gateway holds a few connections to the game server, and each of its clients is a session that one
of these connections manages. When a connection is lost its sessions are dead until they are taken
over by another connection of the gateway; when the last one is lost the sessions are closed.

## Main definitions

* `SessionController`, `ConnectionAttachment` — a session, and the sessions of a connection.
* `SocketServer` — the tables of `GameMessageHandler` and `GameMessageProcessorJob`.
* `process` — what a message from the gateway does.
* `cleanUp` — the job that `connectionClosed` submits.
* `SocketStep`, `SocketStep.next` — what can happen, and what it dispatches.

## Design notes

`κ` is the type of connections and `γ` that of the names of gateways. `Dispatch` is what the steps
emit: the messages that are handed to the game logic. The job of a lost connection runs on the
thread of that connection, while messages arrive on others, so losing a connection and its job are
two steps.
-/

namespace SrgpGame.Socket

open Gateway

variable {κ γ : Type}

/-! ## Sessions -/

/-- `SessionController`. -/
structure SessionController (κ : Type) where
  /-- The connection that manages the session, `none` once it is destroyed. -/
  connection : Option κ
  channelId : Int32
  /-- The attribute `CLIENT_IP`. -/
  clientIp : Option (List UInt8) := none
  deriving DecidableEq, Repr

namespace SessionController

/-- Clears the attributes and the connection. -/
def destroy (controller : SessionController κ) : SessionController κ :=
  { controller with connection := none, clientIp := none }

def bindConnection (controller : SessionController κ) (connection : κ) : SessionController κ :=
  { controller with connection := some connection }

end SessionController

/-- `ConnectionAttachment`: the gateway of a connection, and the sessions that it manages. -/
structure ConnectionAttachment (κ γ : Type) where
  id : γ
  sessions : AList fun _ : Int32 => SessionController κ

/-- A call of `Dispatch.dispatchGameMessage`. -/
structure Dispatched (κ γ : Type) where
  /-- The gateway of the session, which with its channel tells it apart. -/
  gateway : γ
  session : SessionController κ
  messageType : MessageType
  cix : Int32 := 0
  six : Int32 := 0
  bytes : Option (List UInt8) := none
  deriving DecidableEq, Repr

/-! ## The tables -/

/-- The connections of the game server, and its tables. -/
structure SocketServer (κ γ : Type) where
  /-- The attachments of the connections that shook hands. -/
  attachments : AList fun _ : κ => ConnectionAttachment κ γ := ∅
  /-- The connections that are active. -/
  active : List κ := []
  /-- The connections whose job was submitted and did not run. -/
  jobs : List κ := []
  /-- `CONNECTION_SIZE_PER_GATEWAY`. -/
  connectionSizePerGateway : γ → ℤ := fun _ => 0
  /-- `DEAD_SESSIONS`. -/
  deadSessions : AList fun _ : γ × Int32 => SessionController κ := ∅

namespace SocketServer

variable [DecidableEq κ] [DecidableEq γ]

/-- Sets the sessions of a connection. -/
def setSessions (server : SocketServer κ γ) (connection : κ)
    (attachment : ConnectionAttachment κ γ)
    (sessions : AList fun _ : Int32 => SessionController κ) :
    SocketServer κ γ :=
  { server with
    attachments := server.attachments.insert connection { attachment with sessions := sessions } }

/-- A dead session is kept for its gateway. -/
def addDeadSession (server : SocketServer κ γ) (gateway : γ) (session : SessionController κ) :
    SocketServer κ γ :=
  { server with
    deadSessions := server.deadSessions.insert (gateway, session.channelId) session }

/-- Takes all dead sessions of a gateway. -/
def clearDeadSession (server : SocketServer κ γ) (gateway : γ) :
    List (SessionController κ) × SocketServer κ γ :=
  ((server.deadSessions.filterKeys (·.1 = gateway)).values,
    { server with deadSessions := server.deadSessions.filterKeys (·.1 ≠ gateway) })

/-- Takes the dead session of a channel. -/
def take (server : SocketServer κ γ) (gateway : γ) (channel : Int32) :
    Option (SessionController κ) × SocketServer κ γ :=
  (server.deadSessions.lookup (gateway, channel),
    { server with deadSessions := server.deadSessions.erase (gateway, channel) })

/-- `SessionController.isActive`. -/
def isActive (server : SocketServer κ γ) (session : SessionController κ) : Bool :=
  session.connection.any (· ∈ server.active)

/-! ## Messages -/

/-- The end of the case `Message`: the message is dispatched if its session is active. -/
def dispatchMessage (server : SocketServer κ γ) (gateway : γ) (controller : SessionController κ)
    (message : ServerMessage) : List (Dispatched κ γ) :=
  match message.content with
  | none => []
  | some data =>
    if server.isActive controller then
      [⟨gateway, controller, .Message, message.lastClientMessageId, message.lastServerMessageId,
        some data⟩]
    else []

/-- `GameMessageProcessorJob.process`: what a message does that arrives on a connection. -/
def process (server : SocketServer κ γ) (connection : κ) (message : ServerMessage) :
    SocketServer κ γ × List (Dispatched κ γ) :=
  match server.attachments.lookup connection with
  | none => (server, [])
  | some attachment =>
    let channel := message.forwardChannel
    match message.type, attachment.sessions.lookup channel with
    | .Open, _ =>
      let controller : SessionController κ := ⟨some connection, channel, message.content⟩
      (server.setSessions connection attachment (attachment.sessions.insert channel controller),
        -- without content the client's address is not read, which ends in the `catch`
        if message.content.isSome then [⟨attachment.id, controller, .Open, 0, 0, none⟩] else [])
    | .Close, some controller =>
      (server.setSessions connection attachment (attachment.sessions.erase channel),
        [⟨attachment.id, controller.destroy, .Close, 0, 0, none⟩])
    | .Close, none =>
      match server.take attachment.id channel with
      | (none, server) => (server, [])
      | (some controller, server) =>
        (server, [⟨attachment.id, controller.destroy, .Close, 0, 0, none⟩])
    | .Message, some controller =>
      (server, server.dispatchMessage attachment.id controller message)
    | .Message, none =>
      match server.take attachment.id channel with
      | (none, server) => (server, [])
      | (some controller, server) =>
        let controller := controller.bindConnection connection
        (server.setSessions connection attachment
            (attachment.sessions.insert controller.channelId controller),
          server.dispatchMessage attachment.id controller message)

/-! ## Connections -/

/-- A connection shakes hands with the name of its gateway. -/
def handshakeMessage (server : SocketServer κ γ) (connection : κ) (gateway : γ) :
    SocketServer κ γ :=
  { server with
    attachments := server.attachments.insert connection ⟨gateway, ∅⟩
    active := connection :: server.active
    connectionSizePerGateway := Function.update server.connectionSizePerGateway gateway
      (server.connectionSizePerGateway gateway + 1) }

/-- A connection is lost: its job is submitted. -/
def connectionClosed (server : SocketServer κ γ) (closed : κ) : SocketServer κ γ :=
  let server := { server with active := server.active.erase closed }
  match server.attachments.lookup closed with
  | none => server
  | some _ => { server with jobs := server.jobs ++ [closed] }

/-- The message that closes a session. -/
def createCloseMessage (session : SessionController κ) : ServerMessage :=
  ⟨.Close, session.channelId, 0, 0, none⟩

/-- Passes the message that closes a session to `process`. -/
def notifyClosed (closed : κ) (server : SocketServer κ γ) (controller : SessionController κ) :
    SocketServer κ γ × List (Dispatched κ γ) :=
  server.process closed (createCloseMessage controller)

/-- The body of the loop over the sessions of a lost connection. -/
def releaseSession (closed : κ) (gateway : γ) (notifyClose : Bool) (server : SocketServer κ γ)
    (controller : SessionController κ) : SocketServer κ γ × List (Dispatched κ γ) :=
  if notifyClose then notifyClosed closed server controller
  else (server.addDeadSession gateway controller.destroy, [])

/-- The job of a lost connection. -/
def cleanUp (server : SocketServer κ γ) (closed : κ) :
    SocketServer κ γ × List (Dispatched κ γ) :=
  let server := { server with jobs := server.jobs.erase closed }
  match server.attachments.lookup closed with
  | none => (server, [])
  | some attachment =>
    let counter := server.connectionSizePerGateway attachment.id - 1
    let server := { server with
      connectionSizePerGateway :=
        Function.update server.connectionSizePerGateway attachment.id counter }
    let notifyClose : Bool := counter ≤ 0
    let (server, sessions) := Transducer.run (releaseSession closed attachment.id notifyClose)
      server attachment.sessions.values
    if notifyClose then
      let (deadControllers, server) := server.clearDeadSession attachment.id
      let (server, dead) := Transducer.run (notifyClosed closed) server deadControllers
      (server, sessions ++ dead)
    else (server, sessions)

end SocketServer

/-! ## Steps -/

/-- What can happen to the connections of the game server. -/
inductive SocketStep (κ γ : Type) where
  /-- A connection shakes hands. -/
  | handshakeMessage (connection : κ) (gateway : γ)
  /-- A message arrives on a connection. -/
  | messageArrived (connection : κ) (message : ServerMessage)
  /-- A connection is lost. -/
  | connectionClosed (connection : κ)
  /-- The job of a lost connection runs. -/
  | cleanUp (connection : κ)
  deriving DecidableEq, Repr

/-- What a step does, and what it dispatches. -/
def SocketStep.next [DecidableEq κ] [DecidableEq γ] (server : SocketServer κ γ) :
    SocketStep κ γ → SocketServer κ γ × List (Dispatched κ γ)
  | .handshakeMessage connection gateway => (server.handshakeMessage connection gateway, [])
  | .messageArrived connection message => server.process connection message
  | .connectionClosed connection => (server.connectionClosed connection, [])
  | .cleanUp connection => server.cleanUp connection

end SrgpGame.Socket
