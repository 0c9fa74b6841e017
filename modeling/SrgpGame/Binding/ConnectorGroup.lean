import SrgpGame.Core.Codes
import SrgpGame.Gateway.Message
import SrgpGame.Lib.Method

set_option autoImplicit false

/-!
# Connectors of the gateway

The gateway keeps several connections to each game server, its connectors, in a group. A client that
wants to talk to a game server is bound to one of them, and is bound anew when that one is lost.
Each connector counts the clients that it was chosen for, and the one with the smallest count is
chosen.

## Main definitions

* `ConnectorAttachment`, `Connector`, `Client`, `GatewayServer` — the two kinds of connections, and
  the groups.
* `getBinding`, `distributeConnector` — the choice of a connector.
* `process` — `ClientMessageProcessorJob.process`, as far as it binds and clears.
* `GatewayStep`, `GatewayStep.next` — what can happen at the gateway.

## Design notes

`κ` is the type of connectors and `γ` that of clients, which are objects with an identity; `ι` is
the type of the ids of game servers and `δ` that of addresses. The jobs of a client run one after
another on the thread of its connection, after the event that submits them; a job is one step. A
channel stops being active before the event that reports its loss is handled, so these are two steps
for a connector. What is written to a connection, and when a lost connection is tried again, is left
out. A decoder hands over one handshake of each connection.
-/

namespace SrgpGame.Binding

open SrgpGame.Gateway (MessageType)

variable {κ γ ι δ : Type}

/-! ## Connections -/

/-- `ConnectorAttachment`. -/
structure ConnectorAttachment (ι : Type) where
  gameServerId : ι
  managedSession : Int32
  deriving DecidableEq, Repr

/-- One more session. -/
def ConnectorAttachment.incrementSession (attachment : ConnectorAttachment ι) :
    ConnectorAttachment ι :=
  { attachment with managedSession := attachment.managedSession + 1 }

/-- A connection to a game server: before its handshake, with its attachment, and after `clear`. -/
inductive Connector (ι δ : Type) where
  | opened (active : Bool) (dest : δ)
  | shaken (active : Bool) (dest : δ) (attachment : ConnectorAttachment ι)
  | cleared
  deriving DecidableEq, Repr

namespace Connector

/-- `isActive`: there is a channel, and it is active. -/
def isActive : Connector ι δ → Bool
  | opened active _ => active
  | shaken active _ _ => active
  | cleared => false

/-- `getAttachment`. -/
def getAttachment : Connector ι δ → Option (ConnectorAttachment ι)
  | shaken _ _ attachment => some attachment
  | _ => none

/-- Where the channel leads to; `none` once it is cleared. -/
def dest : Connector ι δ → Option δ
  | opened _ dest => some dest
  | shaken _ dest _ => some dest
  | cleared => none

/-- The channel is closed. -/
def inactive : Connector ι δ → Connector ι δ
  | opened _ dest => opened false dest
  | shaken _ dest attachment => shaken false dest attachment
  | cleared => cleared

/-- It shook hands once. -/
def isKnown : Connector ι δ → Bool
  | opened _ _ => false
  | _ => true

/-- `incrementSession` of the attachment. -/
def incrementSession : Connector ι δ → Connector ι δ
  | shaken active dest attachment => shaken active dest attachment.incrementSession
  | connector => connector

end Connector

/-- `ClientAttachment`. -/
structure ClientAttachment (κ ι : Type) where
  bindGameServerId : ι
  bindGameServerConnector : Option κ
  deriving DecidableEq, Repr

/-- The connection of a client, with the jobs that wait for its thread. -/
structure Client (κ ι : Type) where
  /-- The handshake arrived. -/
  shaken : Bool := false
  /-- The connection is closed. -/
  closed : Bool := false
  attachment : Option (ClientAttachment κ ι) := none
  jobs : List MessageType := []
  deriving DecidableEq, Repr

/-- `gameConnector` of the attachment. -/
def Client.gameConnector (client : Client κ ι) : Option κ :=
  client.attachment.bind ClientAttachment.bindGameServerConnector

/-- `submitJob`. -/
def Client.submitJob (client : Client κ ι) (type : MessageType) : Client κ ι :=
  { client with jobs := client.jobs ++ [type] }

/-- The gateway: its connections, and the connectors of each game server. -/
structure GatewayServer (κ γ ι δ : Type) where
  connectors : AList fun _ : κ => Connector ι δ
  /-- `ConnectorGroup.GROUPS`. -/
  groups : AList fun _ : ι => List κ
  clients : AList fun _ : γ => Client κ ι

namespace GatewayServer

/-- A gateway without connections. -/
def empty : GatewayServer κ γ ι δ := ⟨∅, ∅, ∅⟩

variable (g : GatewayServer κ γ ι δ)

section Connectors

variable [DecidableEq κ]

def setConnector (c : κ) (connector : Connector ι δ) : GatewayServer κ γ ι δ :=
  { g with connectors := g.connectors.insert c connector }

/-- `isActive` of a connector. -/
def isActive (c : κ) : Bool := (g.connectors.lookup c).any Connector.isActive

/-- `getAttachment` of a connector. -/
def getAttachment (c : κ) : Option (ConnectorAttachment ι) :=
  (g.connectors.lookup c).bind Connector.getAttachment

/-- The connector shook hands once. -/
def isKnown (c : κ) : Bool := (g.connectors.lookup c).any Connector.isKnown

variable (c c' : κ) (connector : Connector ι δ)

lemma lookup_setConnector :
    (g.setConnector c connector).connectors.lookup c' =
      if c' = c then some connector else g.connectors.lookup c' :=
  g.connectors.lookup_insert_ite c c' connector

lemma isActive_setConnector :
    (g.setConnector c connector).isActive c' =
      if c' = c then connector.isActive else g.isActive c' := by
  rw [isActive, lookup_setConnector]
  split <;> rfl

lemma getAttachment_setConnector :
    (g.setConnector c connector).getAttachment c' =
      if c' = c then connector.getAttachment else g.getAttachment c' := by
  rw [getAttachment, lookup_setConnector]
  split <;> rfl

lemma isKnown_setConnector :
    (g.setConnector c connector).isKnown c' =
      if c' = c then connector.isKnown else g.isKnown c' := by
  rw [isKnown, lookup_setConnector]
  split <;> rfl

/-- `incrementSession` of a connector. -/
def incrementSession : GatewayServer κ γ ι δ :=
  match g.connectors.lookup c with
  | none => g
  | some connector => g.setConnector c connector.incrementSession

@[simp] lemma groups_incrementSession : (g.incrementSession c).groups = g.groups := by
  unfold incrementSession
  split <;> rfl

@[simp] lemma clients_incrementSession : (g.incrementSession c).clients = g.clients := by
  unfold incrementSession
  split <;> rfl

@[simp] lemma isActive_incrementSession :
    (g.incrementSession c).isActive c' = g.isActive c' := by
  unfold incrementSession
  cases hlookup : g.connectors.lookup c with
  | none => rfl
  | some connector =>
    refine (g.isActive_setConnector c c' connector.incrementSession).trans ?_
    split
    · next h =>
      rw [h, isActive, hlookup]
      cases connector <;> rfl
    · rfl

lemma getAttachment_incrementSession :
    (g.incrementSession c).getAttachment c' =
      if c' = c then (g.getAttachment c).map ConnectorAttachment.incrementSession
      else g.getAttachment c' := by
  unfold incrementSession
  cases hlookup : g.connectors.lookup c with
  | none =>
    show g.getAttachment c' = _
    split
    · next h => rw [h, getAttachment, hlookup, Option.bind_none, Option.map_none]
    · rfl
  | some connector =>
    refine (g.getAttachment_setConnector c c' connector.incrementSession).trans ?_
    split
    · rw [getAttachment, hlookup]
      cases connector <;> rfl
    · rfl

@[simp] lemma isKnown_incrementSession :
    (g.incrementSession c).isKnown c' = g.isKnown c' := by
  unfold incrementSession
  cases hlookup : g.connectors.lookup c with
  | none => rfl
  | some connector =>
    refine (g.isKnown_setConnector c c' connector.incrementSession).trans ?_
    split
    · next h =>
      rw [h, isKnown, hlookup]
      cases connector <;> rfl
    · rfl

variable {c}

/-- A connector with an attachment shook hands. -/
lemma isKnown_of_getAttachment {attachment : ConnectorAttachment ι}
    (h : g.getAttachment c = some attachment) : g.isKnown c := by
  obtain ⟨connector, hlookup, hattachment⟩ := Option.bind_eq_some_iff.mp h
  rw [isKnown, hlookup]
  cases connector with
  | opened active dest => cases hattachment
  | shaken active dest attachment => rfl
  | cleared => rfl

/-- A connector that shook hands and is active has an attachment. -/
lemma exists_getAttachment (hknown : g.isKnown c) (hactive : g.isActive c) :
    ∃ attachment, g.getAttachment c = some attachment := by
  unfold isKnown at hknown
  unfold isActive at hactive
  unfold getAttachment
  cases hlookup : g.connectors.lookup c with
  | none => simp [hlookup] at hknown
  | some connector =>
    rw [hlookup] at hknown hactive
    cases connector with
    | opened active dest => cases hknown
    | shaken active dest attachment => exact ⟨attachment, rfl⟩
    | cleared => cases hactive

end Connectors

section Destinations

variable [DecidableEq κ] [DecidableEq δ]

/-- `hasSameDest`. -/
def hasSameDest (c c' : κ) : Bool :=
  (g.connectors.lookup c).bind Connector.dest = (g.connectors.lookup c').bind Connector.dest

/-- `ConnectorGroup.addConnection`: a connection that leads elsewhere is discarded. -/
def addConnection (connections : List κ) (c : κ) : List κ :=
  match connections with
  | [] => [c]
  | dest :: _ => if g.hasSameDest c dest then connections ++ [c] else connections

lemma mem_of_mem_addConnection {g : GatewayServer κ γ ι δ} {connections : List κ} {c c' : κ}
    (h : c' ∈ g.addConnection connections c) : c' ∈ connections ∨ c' = c := by
  unfold addConnection at h
  cases connections with
  | nil => exact .inr (List.mem_singleton.mp h)
  | cons dest rest =>
    simp only at h
    split at h
    · exact (List.mem_append.mp h).imp_right List.mem_singleton.mp
    · exact .inl h

lemma nodup_addConnection {g : GatewayServer κ γ ι δ} {connections : List κ} {c : κ}
    (h : connections.Nodup) (hc : c ∉ connections) : (g.addConnection connections c).Nodup := by
  unfold addConnection
  cases connections with
  | nil => exact List.nodup_singleton c
  | cons dest rest =>
    simp only
    split
    · exact h.append (List.nodup_singleton c) (List.disjoint_singleton.mpr hc)
    · exact h

end Destinations

section Groups

variable [DecidableEq ι]

def setGroup (id : ι) (connections : List κ) : GatewayServer κ γ ι δ :=
  { g with groups := g.groups.insert id connections }

/-- The connectors of a game server. -/
def group (id : ι) : List κ := (g.groups.lookup id).getD []

/-- `ConnectorGroup.hasConnector`. -/
def hasConnector (id : ι) : Bool := !(g.group id).isEmpty

lemma mem_group {id : ι} {c : κ} (h : c ∈ g.group id) :
    ∃ connections, g.groups.lookup id = some connections ∧ c ∈ connections := by
  unfold group at h
  cases hlookup : g.groups.lookup id with
  | none => simp [hlookup] at h
  | some connections => exact ⟨connections, rfl, by simpa [hlookup] using h⟩

end Groups

/-! ## The choice of a connector -/

variable [DecidableEq κ]

/-- `Sorter` finds the first connector smaller than the second. -/
def less (o1 o2 : κ) : Except Thrown Bool :=
  match g.getAttachment o1, g.getAttachment o2 with
  | some o1a, some o2a => .ok (decide (o1a.managedSession - o2a.managedSession < 0))
  | _, _ => .error .nullPointer

/-- The loop of `Collections.min`. -/
def minFrom : κ → List κ → Except Thrown κ
  | candidate, [] => .ok candidate
  | candidate, next :: rest => do
    let smaller ← g.less next candidate
    minFrom (if smaller then next else candidate) rest

/-- `Collections.min` returns an element. -/
lemma mem_of_minFrom {g : GatewayServer κ γ ι δ} {candidate best : κ} {rest : List κ}
    (h : g.minFrom candidate rest = .ok best) : best ∈ candidate :: rest := by
  induction rest generalizing candidate with
  | nil =>
    cases h
    exact List.mem_cons_self
  | cons next rest ih =>
    obtain ⟨smaller, -, htail⟩ := Except.bind_eq_ok.mp h
    have hmem := ih htail
    cases smaller with
    | true => exact List.mem_cons_of_mem _ hmem
    | false =>
      rcases List.mem_cons.mp hmem with rfl | hrest
      · exact List.mem_cons_self
      · exact List.mem_cons_of_mem _ (List.mem_cons_of_mem _ hrest)

/-- `ConnectorGroup.getBinding`: the connector that is chosen, and the gateway after it. -/
def getBinding : List κ → Except Thrown (Option κ × GatewayServer κ γ ι δ)
  | [] => .ok (none, g)
  | first :: rest => do
    let best ← g.minFrom first rest
    if g.isActive best ∧ (g.getAttachment best).isSome then
      return (some best, g.incrementSession best)
    else return (some best, g)

variable [DecidableEq ι]

/-- `ConnectorGroup.distributeConnector`: an exception is as good as no connector. -/
def distributeConnector (id : ι) : Option κ × GatewayServer κ γ ι δ :=
  match g.getBinding (g.group id) with
  | .ok r => r
  | .error _ => (none, g)

/-- The loop that tries again while the connector is not active. With the last try it gives up,
whatever was chosen. -/
def retry (id : ι) : ℕ → Option κ × GatewayServer κ γ ι δ → Option κ × GatewayServer κ γ ι δ
  | 0, (_, g) => (none, g)
  | _ + 1, (none, g) => (none, g)
  | tries + 1, (some c, g) =>
    if g.isActive c then (some c, g)
    else retry id tries (if g.hasConnector id then g.distributeConnector id else (some c, g))

/-- `DISTRIBUTE_MAX_TRY`. -/
def distributeMaxTry : ℕ := 5

/-- The choice with all its tries. -/
def distribute (id : ι) : Option κ × GatewayServer κ γ ι δ :=
  retry id (distributeMaxTry - 1) (g.distributeConnector id)

/-! ## The jobs of a client -/

variable [DecidableEq γ]

def setClient (k : γ) (client : Client κ ι) : GatewayServer κ γ ι δ :=
  { g with clients := g.clients.insert k client }

/-- `gameConnector() != null && gameConnector().isActive()`. -/
def isBound (attachment : ClientAttachment κ ι) : Bool :=
  attachment.bindGameServerConnector.any g.isActive

/-- `bindGameServer`. -/
def bindGameServer (k : γ) (client : Client κ ι) (attachment : ClientAttachment κ ι)
    (connector : Option κ) : GatewayServer κ γ ι δ :=
  g.setClient k { client with
    attachment := some { attachment with bindGameServerConnector := connector } }

/-- A client whose connector is missing or lost is bound anew. -/
def rebind (k : γ) (client : Client κ ι) : GatewayServer κ γ ι δ :=
  match client.attachment with
  | none => g
  | some attachment =>
    if g.isBound attachment then g
    else
      let r := g.distribute attachment.bindGameServerId
      r.2.bindGameServer k client attachment r.1

/-- `Connection.clear` of a client. -/
def clearClient (k : γ) : GatewayServer κ γ ι δ :=
  match g.clients.lookup k with
  | none => g
  | some client => g.setClient k { client with attachment := none }

/-- `ClientMessageProcessorJob.process`: the client is bound, the message is sent on, and a message
of the type `Close` clears the connection. -/
def process (k : γ) (client : Client κ ι) (type : MessageType) : GatewayServer κ γ ι δ :=
  let bound := g.rebind k client
  if type = .Close then bound.clearClient k else bound

/-- The thread of a client runs its next job. -/
def runJob (k : γ) : GatewayServer κ γ ι δ :=
  match g.clients.lookup k with
  | none => g
  | some client =>
    match client.jobs with
    | [] => g
    | type :: jobs =>
      let client := { client with jobs := jobs }
      (g.setClient k client).process k client type

/-! ## Events of a client -/

/-- `connectionOpened`. -/
def clientOpened (k : γ) : GatewayServer κ γ ι δ :=
  match g.clients.lookup k with
  | none => g.setClient k {}
  | some _ => g

/-- `ClientMessageHandler.handshakeMessage`: without a connector the client only gets an answer. -/
def clientHandshake (serverIdMapping : ι → ι) (k : γ) (msg : ι) : GatewayServer κ γ ι δ :=
  match g.clients.lookup k with
  | none => g
  | some client =>
    if client.shaken ∨ client.closed then g
    else
      let client := { client with shaken := true }
      if g.hasConnector (serverIdMapping msg) then
        let attachment := ⟨serverIdMapping msg, none⟩
        g.setClient k ({ client with attachment := some attachment }.submitJob .Open)
      else g.setClient k client

/-- `ClientMessageHandler.messageArrived`. -/
def clientMessage (k : γ) : GatewayServer κ γ ι δ :=
  match g.clients.lookup k with
  | none => g
  | some client =>
    if client.shaken ∧ ¬client.closed then g.setClient k (client.submitJob .Message) else g

/-- `ClientMessageHandler.connectionClosed`. -/
def clientClosed (k : γ) : GatewayServer κ γ ι δ :=
  match g.clients.lookup k with
  | none => g
  | some client =>
    if client.closed then g else g.setClient k ({ client with closed := true }.submitJob .Close)

/-! ## Events of a connector -/

/-- `connectionOpened`. -/
def connectorOpened (c : κ) (dest : δ) : GatewayServer κ γ ι δ :=
  match g.connectors.lookup c with
  | none => g.setConnector c (.opened true dest)
  | some _ => g

variable [DecidableEq δ]

/-- The handshake of a connector: it gets its attachment and is added to its group. -/
def connectorHandshake (c : κ) (msg : ι) : GatewayServer κ γ ι δ :=
  match g.connectors.lookup c with
  | some (.opened active dest) =>
    let g := g.setConnector c (.shaken active dest ⟨msg, 0⟩)
    g.setGroup msg (g.addConnection (g.group msg) c)
  | _ => g

/-- The channel of a connector is closed. -/
def connectorLost (c : κ) : GatewayServer κ γ ι δ :=
  match g.connectors.lookup c with
  | none => g
  | some connector => g.setConnector c connector.inactive

/-- `ConnectorGroup.removeConnector`. -/
def removeConnector (c : κ) : GatewayServer κ γ ι δ :=
  match g.getAttachment c with
  | none => g
  | some attachment =>
    match g.groups.lookup attachment.gameServerId with
    | none => g
    | some connections => g.setGroup attachment.gameServerId (connections.erase c)

/-- `connectionClosed` of a connector whose channel is closed. -/
def connectorClosed (c : κ) : GatewayServer κ γ ι δ :=
  match g.connectors.lookup c with
  | none => g
  | some connector =>
    if connector.isActive then g else (g.removeConnector c).setConnector c .cleared

end GatewayServer

/-! ## Steps -/

/-- What can happen at the gateway. -/
inductive GatewayStep (κ γ ι δ : Type) where
  | connectorOpened (c : κ) (dest : δ)
  | connectorHandshake (c : κ) (msg : ι)
  | connectorLost (c : κ)
  | connectorClosed (c : κ)
  | clientOpened (k : γ)
  | clientHandshake (k : γ) (msg : ι)
  | clientMessage (k : γ)
  | clientClosed (k : γ)
  | runJob (k : γ)
  deriving DecidableEq, Repr

/-- What a step does. -/
def GatewayStep.next [DecidableEq κ] [DecidableEq γ] [DecidableEq ι] [DecidableEq δ]
    (serverIdMapping : ι → ι) (g : GatewayServer κ γ ι δ) :
    GatewayStep κ γ ι δ → GatewayServer κ γ ι δ
  | connectorOpened c dest => g.connectorOpened c dest
  | connectorHandshake c msg => g.connectorHandshake c msg
  | connectorLost c => g.connectorLost c
  | connectorClosed c => g.connectorClosed c
  | clientOpened k => g.clientOpened k
  | clientHandshake k msg => g.clientHandshake serverIdMapping k msg
  | clientMessage k => g.clientMessage k
  | clientClosed k => g.clientClosed k
  | runJob k => g.runJob k

end SrgpGame.Binding
