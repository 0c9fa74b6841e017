import SrgpGame.Socket.SocketServer
import Mathlib.Data.List.Perm.Lattice

set_option autoImplicit false

/-!
# Where sessions are filed

A session is filed with a connection that manages it or managed it until it was lost, or among the
dead sessions. This file says how the connections are counted, and what a message and the job of a
lost connection do to the places of sessions.

## Main definitions

* `SocketServer.filed` — the session that is filed in a place.
* `Counted` — the counters of the gateways count their connections.

## Main results

* `Counted.isLast_iff` — the counter of a gateway tells whether a connection is its last.
-/

namespace SrgpGame.Socket

open Gateway

variable {κ γ : Type} [DecidableEq κ] [DecidableEq γ]

/-! ## Where sessions are filed -/

namespace SocketServer

/-- The connections that shook hands and whose job did not run. -/
def connected (server : SocketServer κ γ) : List κ := server.active ++ server.jobs

/-- The gateway of a connection. -/
def gatewayOf (server : SocketServer κ γ) (connection : κ) : Option γ :=
  (server.attachments.lookup connection).map ConnectionAttachment.id

/-- No other connection of its gateway is connected. -/
def isLast (server : SocketServer κ γ) (connection : κ) : Bool :=
  server.connected.all fun other =>
    other = connection ∨ server.gatewayOf other ≠ server.gatewayOf connection

/-- The session that is filed in a place: with a connection, or, for `none`, among the dead. -/
def filed (server : SocketServer κ γ) :
    Option κ → γ × Int32 → Option (SessionController κ)
  | none, key => server.deadSessions.lookup key
  | some connection, key =>
    if connection ∈ server.connected then
      (server.attachments.lookup connection).bind fun attachment =>
        if attachment.id = key.1 then attachment.sessions.lookup key.2 else none
    else none

end SocketServer

/-! ## Counting connections -/

/-- The connections are counted: each is known once, and with its gateway. -/
structure Counted (server : SocketServer κ γ) : Prop where
  attached : ∀ connection ∈ server.connected, (server.gatewayOf connection).isSome
  nodup : server.connected.Nodup
  counter : ∀ gateway, server.connectionSizePerGateway gateway =
    server.connected.countP (server.gatewayOf · = some gateway)

section Connections

variable {server : SocketServer κ γ}

/-- What keeps the connections and their gateways keeps them counted. -/
lemma Counted.congr {server' : SocketServer κ γ} (hinv : Counted server)
    (hconnected : server'.connected.Perm server.connected)
    (hgateway : ∀ connection ∈ server.connected,
      server'.gatewayOf connection = server.gatewayOf connection)
    (hsize : server'.connectionSizePerGateway = server.connectionSizePerGateway) :
    Counted server' := by
  refine ⟨fun connection hmem => ?_, ?_, fun gateway => ?_⟩
  · have hmem' := hconnected.mem_iff.mp hmem
    rw [hgateway connection hmem']
    exact hinv.attached connection hmem'
  · exact hconnected.nodup_iff.mpr hinv.nodup
  · rw [hsize, hinv.counter, hconnected.countP_eq]
    refine congrArg _ (List.countP_congr fun connection hmem => ?_)
    rw [hgateway connection hmem]

/-- The counter of a gateway tells whether a connection is its last. -/
lemma Counted.isLast_iff (hinv : Counted server) {connection : κ}
    (hmem : connection ∈ server.connected) {gateway : γ}
    (hgateway : server.gatewayOf connection = some gateway) :
    server.isLast connection = true ↔ server.connectionSizePerGateway gateway ≤ 1 := by
  have hperm := List.perm_cons_erase hmem
  have hcount := hinv.counter gateway
  rw [hperm.countP_eq, List.countP_cons_of_pos (by simpa using hgateway)] at hcount
  have hzero : server.connectionSizePerGateway gateway ≤ 1 ↔
      (server.connected.erase connection).countP (server.gatewayOf · = some gateway) = 0 := by
    rw [hcount]
    push_cast
    omega
  rw [hzero, List.countP_eq_zero, SocketServer.isLast, List.all_eq_true]
  constructor
  · intro hlast other hother
    obtain ⟨hne, hmem'⟩ := (hinv.nodup.mem_erase_iff).mp hother
    have := of_decide_eq_true (hlast other hmem')
    rw [hgateway] at this
    simpa using this.resolve_left hne
  · intro hlast other hother
    by_cases hne : other = connection
    · exact decide_eq_true (.inl hne)
    · have := hlast other ((hinv.nodup.mem_erase_iff).mpr ⟨hne, hother⟩)
      rw [hgateway]
      exact decide_eq_true (.inr (by simpa using this))

/-- A handshake keeps the connections counted. -/
lemma Counted.handshakeMessage (hinv : Counted server) {connection : κ} (gateway : γ)
    (hfresh : server.attachments.lookup connection = none) :
    Counted (server.handshakeMessage connection gateway) := by
  have hgateway : ∀ other, (server.handshakeMessage connection gateway).gatewayOf other =
      if other = connection then some gateway else server.gatewayOf other := by
    intro other
    rw [SocketServer.gatewayOf, SocketServer.handshakeMessage, AList.lookup_insert_ite]
    split
    · rfl
    · rfl
  have hnotMem : connection ∉ server.connected := by
    intro hmem
    have hsome := hinv.attached connection hmem
    rw [SocketServer.gatewayOf, hfresh] at hsome
    cases hsome
  have hold : ∀ other ∈ server.connected,
      (server.handshakeMessage connection gateway).gatewayOf other = server.gatewayOf other := by
    intro other hmem
    have hne : other ≠ connection := by
      rintro rfl
      exact hnotMem hmem
    rw [hgateway, if_neg hne]
  refine ⟨fun other hmem => ?_, ?_, fun name => ?_⟩
  · rcases List.mem_cons.mp hmem with rfl | hmem
    · rw [hgateway, if_pos rfl]
      rfl
    · rw [hold other hmem]
      exact hinv.attached other hmem
  · exact List.nodup_cons.mpr ⟨hnotMem, hinv.nodup⟩
  · have hcount : server.connected.countP
          ((server.handshakeMessage connection gateway).gatewayOf · = some name) =
        server.connected.countP (server.gatewayOf · = some name) :=
      List.countP_congr fun other hmem => by rw [hold other hmem]
    have hsize : (server.handshakeMessage connection gateway).connectionSizePerGateway name =
        server.connectionSizePerGateway name + if gateway = name then 1 else 0 := by
      rw [SocketServer.handshakeMessage]
      by_cases hname : name = gateway
      · subst hname
        simp
      · simp [Function.update_of_ne hname, Ne.symm hname]
    change _ = ((connection :: server.connected).countP _ : ℤ)
    rw [hsize, List.countP_cons, hcount, hinv.counter, hgateway, if_pos rfl]
    by_cases hname : gateway = name
    · simp [hname]
    · simp [hname]

omit [DecidableEq γ] in
/-- The loss of a connection only moves it. -/
lemma connected_connectionClosed (server : SocketServer κ γ) {closed : κ}
    (hactive : closed ∈ server.active) (hattached : (server.gatewayOf closed).isSome) :
    (server.connectionClosed closed).connected.Perm server.connected := by
  obtain ⟨gateway, hgateway⟩ := Option.isSome_iff_exists.mp hattached
  obtain ⟨attachment, hlookup, -⟩ := Option.map_eq_some_iff.mp hgateway
  have hconnected : (server.connectionClosed closed).connected =
      server.active.erase closed ++ (server.jobs ++ [closed]) := by
    simp only [SocketServer.connectionClosed, hlookup, SocketServer.connected]
  rw [hconnected, ← List.append_assoc]
  refine (List.perm_append_singleton _ _).trans ?_
  exact (List.perm_cons_erase hactive).symm.append_right server.jobs

omit [DecidableEq γ] in
lemma attachments_connectionClosed (server : SocketServer κ γ) (closed : κ) :
    (server.connectionClosed closed).attachments = server.attachments ∧
      (server.connectionClosed closed).deadSessions = server.deadSessions ∧
      (server.connectionClosed closed).connectionSizePerGateway =
        server.connectionSizePerGateway := by
  rw [SocketServer.connectionClosed]
  cases server.attachments.lookup closed with
  | none => exact ⟨rfl, rfl, rfl⟩
  | some attachment => exact ⟨rfl, rfl, rfl⟩

/-- The end of a job keeps the connections counted. -/
lemma Counted.erase {server' : SocketServer κ γ} (hinv : Counted server) {closed : κ} {gateway : γ}
    (hjob : closed ∈ server.jobs) (hgateway : server.gatewayOf closed = some gateway)
    (hactive : server'.active = server.active) (hjobs : server'.jobs = server.jobs.erase closed)
    (hkeep : ∀ connection, server'.gatewayOf connection = server.gatewayOf connection)
    (hsize : server'.connectionSizePerGateway = Function.update server.connectionSizePerGateway
      gateway (server.connectionSizePerGateway gateway - 1)) : Counted server' := by
  have hperm : (closed :: server'.connected).Perm server.connected := by
    rw [SocketServer.connected, hactive, hjobs]
    exact List.perm_middle.symm.trans ((List.perm_cons_erase hjob).symm.append_left _)
  have hmem : ∀ connection ∈ server'.connected, connection ∈ server.connected :=
    fun connection h => hperm.mem_iff.mp (List.mem_cons_of_mem _ h)
  refine ⟨fun connection h => ?_, ?_, fun name => ?_⟩
  · rw [hkeep]
    exact hinv.attached connection (hmem connection h)
  · exact (List.nodup_cons.mp (hperm.nodup_iff.mpr hinv.nodup)).2
  · have hcount := hinv.counter name
    rw [← hperm.countP_eq, List.countP_cons, hgateway] at hcount
    have hkeepCount : server'.connected.countP (server'.gatewayOf · = some name) =
        server'.connected.countP (server.gatewayOf · = some name) :=
      List.countP_congr fun connection _ => by rw [hkeep]
    rw [hkeepCount, hsize]
    by_cases hname : name = gateway
    · subst hname
      rw [Function.update_self, hcount]
      simp
    · rw [Function.update_of_ne hname, hcount]
      simp [Ne.symm hname]

end Connections

/-! ## What a message does -/

/-- The connections and their gateways are the same. -/
structure SameConnections (server server' : SocketServer κ γ) : Prop where
  active : server'.active = server.active
  jobs : server'.jobs = server.jobs
  counter : server'.connectionSizePerGateway = server.connectionSizePerGateway
  gatewayOf : ∀ connection, server'.gatewayOf connection = server.gatewayOf connection

omit [DecidableEq γ] in
lemma SameConnections.refl (server : SocketServer κ γ) : SameConnections server server :=
  ⟨rfl, rfl, rfl, fun _ => rfl⟩

omit [DecidableEq γ] in
lemma SameConnections.trans {server server' server'' : SocketServer κ γ}
    (h : SameConnections server server') (h' : SameConnections server' server'') :
    SameConnections server server'' :=
  ⟨h'.active.trans h.active, h'.jobs.trans h.jobs, h'.counter.trans h.counter,
    fun connection => (h'.gatewayOf connection).trans (h.gatewayOf connection)⟩

/-- The sessions whose closing was dispatched. -/
def closes (dispatched : List (Dispatched κ γ)) : List (γ × Int32) :=
  (dispatched.filter (·.messageType = .Close)).map fun d => (d.gateway, d.session.channelId)

section Messages

variable {server : SocketServer κ γ} {connection : κ} {attachment : ConnectionAttachment κ γ}

omit [DecidableEq γ] in
lemma gatewayOf_of_lookup (hlookup : server.attachments.lookup connection = some attachment) :
    server.gatewayOf connection = some attachment.id := by
  rw [SocketServer.gatewayOf, hlookup, Option.map_some]

/-- What is filed with a connection. -/
lemma filed_of_lookup (hlookup : server.attachments.lookup connection = some attachment)
    (hmem : connection ∈ server.connected) (key : γ × Int32) :
    server.filed (some connection) key =
      if attachment.id = key.1 then attachment.sessions.lookup key.2 else none := by
  rw [SocketServer.filed, if_pos hmem, hlookup, Option.bind_some]

omit [DecidableEq γ] in
/-- Other sessions of a connection leave the connections the same. -/
lemma sameConnections_setSessions
    (hlookup : server.attachments.lookup connection = some attachment)
    (sessions : AList fun _ : Int32 => SessionController κ) :
    SameConnections server (server.setSessions connection attachment sessions) := by
  refine ⟨rfl, rfl, rfl, fun other => ?_⟩
  rw [SocketServer.gatewayOf, SocketServer.setSessions, AList.lookup_insert_ite]
  by_cases hother : other = connection
  · subst hother
    rw [if_pos rfl, gatewayOf_of_lookup hlookup, Option.map_some]
  · rw [if_neg hother, SocketServer.gatewayOf]

/-- What is filed after a connection got other sessions. -/
lemma filed_setSessions (hmem : connection ∈ server.connected)
    (sessions : AList fun _ : Int32 => SessionController κ) (place : Option κ) (key : γ × Int32) :
    (server.setSessions connection attachment sessions).filed place key =
      if place = some connection then
        if attachment.id = key.1 then sessions.lookup key.2 else none
      else server.filed place key := by
  have hlookup := AList.lookup_insert_ite server.attachments connection
  cases place with
  | none => rfl
  | some other =>
    by_cases hother : other = connection
    · subst hother
      have hself : (server.setSessions other attachment sessions).attachments.lookup other =
          some { attachment with sessions := sessions } := (hlookup _ _).trans (if_pos rfl)
      have hmem' : other ∈ (server.setSessions other attachment sessions).connected := hmem
      rw [if_pos rfl, filed_of_lookup hself hmem']
    · have hne : ¬some other = some connection := fun h => hother (Option.some.inj h)
      rw [if_neg hne, SocketServer.filed, SocketServer.filed, SocketServer.setSessions, hlookup,
        if_neg hother]
      rfl

/-- What is filed after the dead session of a channel was taken. -/
lemma filed_take (server : SocketServer κ γ) (gateway : γ) (channel : Int32) (place : Option κ)
    (key : γ × Int32) :
    (server.take gateway channel).2.filed place key =
      if place = none ∧ key = (gateway, channel) then none else server.filed place key := by
  cases place with
  | none =>
    rw [SocketServer.filed, SocketServer.take, AList.lookup_erase_ite]
    simp only [true_and]
    rfl
  | some other =>
    rw [if_neg fun h => nomatch h.1]
    rfl

/-- **A session is opened**: it is filed with the connection. -/
lemma filed_process_open (hlookup : server.attachments.lookup connection = some attachment)
    (hmem : connection ∈ server.connected) {message : ServerMessage} (htype : message.type = .Open)
    (place : Option κ) (key : γ × Int32) :
    (server.process connection message).1.filed place key =
      if place = some connection ∧ key = (attachment.id, message.forwardChannel) then
        some ⟨some connection, message.forwardChannel, message.content⟩
      else server.filed place key := by
  simp only [SocketServer.process, hlookup, htype]
  rw [filed_setSessions hmem, AList.lookup_insert_ite]
  by_cases hplace : place = some connection
  · subst hplace
    rw [if_pos rfl, filed_of_lookup hlookup hmem]
    obtain ⟨gateway, channel⟩ := key
    by_cases hgateway : attachment.id = gateway
    · subst hgateway
      by_cases hchannel : channel = message.forwardChannel
      · subst hchannel
        simp
      · simp [hchannel]
    · have hkey : (gateway, channel) ≠ (attachment.id, message.forwardChannel) :=
        fun h => hgateway (Prod.mk.inj h).1.symm
      simp only [hgateway, if_false, hkey, and_false]
  · rw [if_neg hplace, if_neg fun h => hplace h.1]

/-- **A session is closed** where it is found: with the connection, or else among the dead. -/
lemma filed_process_close (hlookup : server.attachments.lookup connection = some attachment)
    (hmem : connection ∈ server.connected) {message : ServerMessage}
    (htype : message.type = .Close) (place : Option κ) (key : γ × Int32) :
    (server.process connection message).1.filed place key =
      if key = (attachment.id, message.forwardChannel) ∧
          (place = some connection ∨ place = none ∧ server.filed (some connection) key = none) then
        none
      else server.filed place key := by
  have hown := filed_of_lookup hlookup hmem (attachment.id, message.forwardChannel)
  rw [if_pos rfl] at hown
  cases hsession : attachment.sessions.lookup message.forwardChannel with
  | none =>
    rw [hsession] at hown
    have htake : (server.process connection message).1 =
        (server.take attachment.id message.forwardChannel).2 := by
      simp only [SocketServer.process, hlookup, htype, hsession]
      rw [SocketServer.take]
      split
      · next h => rw [← (Prod.mk.inj h).2]
      · next h => rw [← (Prod.mk.inj h).2]
    rw [htake, filed_take]
    by_cases hkey : key = (attachment.id, message.forwardChannel)
    · subst hkey
      cases place with
      | none => rw [if_pos ⟨rfl, rfl⟩, if_pos ⟨rfl, .inr ⟨rfl, hown⟩⟩]
      | some other =>
        rw [if_neg fun h => nomatch h.1]
        split
        · next h =>
          rcases h.2 with hother | hother
          · rw [hother, hown]
          · cases hother.1
        · rfl
    · rw [if_neg fun h => hkey h.2, if_neg fun h => hkey h.1]
  | some controller =>
    rw [hsession] at hown
    have herase : (server.process connection message).1 = server.setSessions connection attachment
        (attachment.sessions.erase message.forwardChannel) := by
      simp only [SocketServer.process, hlookup, htype, hsession]
    rw [herase, filed_setSessions hmem, AList.lookup_erase_ite]
    by_cases hplace : place = some connection
    · subst hplace
      rw [if_pos rfl, filed_of_lookup hlookup hmem]
      obtain ⟨gateway, channel⟩ := key
      by_cases hgateway : attachment.id = gateway
      · subst hgateway
        simp
      · have hkey : (gateway, channel) ≠ (attachment.id, message.forwardChannel) :=
          fun h => hgateway (Prod.mk.inj h).1.symm
        simp [hgateway, hkey]
    · rw [if_neg hplace, if_neg]
      rintro ⟨rfl, hplace' | ⟨-, hnone⟩⟩
      · exact hplace hplace'
      · rw [hown] at hnone
        cases hnone

/-- The closing of a session is dispatched if it is found. -/
lemma closes_process_close (hlookup : server.attachments.lookup connection = some attachment)
    (hmem : connection ∈ server.connected) {message : ServerMessage}
    (htype : message.type = .Close)
    (hchannel : ∀ place session,
      server.filed place (attachment.id, message.forwardChannel) = some session →
        session.channelId = message.forwardChannel) :
    closes (server.process connection message).2 =
      if (server.filed (some connection) (attachment.id, message.forwardChannel)).isSome ∨
          (server.filed none (attachment.id, message.forwardChannel)).isSome then
        [(attachment.id, message.forwardChannel)]
      else [] := by
  have hown := filed_of_lookup hlookup hmem (attachment.id, message.forwardChannel)
  rw [if_pos rfl] at hown
  cases hsession : attachment.sessions.lookup message.forwardChannel with
  | none =>
    rw [hsession] at hown
    cases hdead : server.deadSessions.lookup (attachment.id, message.forwardChannel) with
    | none =>
      have hnone : server.filed none (attachment.id, message.forwardChannel) = none := hdead
      have hout : (server.process connection message).2 = [] := by
        simp only [SocketServer.process, hlookup, htype, hsession, SocketServer.take, hdead]
      rw [hout, hown, hnone]
      rfl
    | some controller =>
      have hsome : server.filed none (attachment.id, message.forwardChannel) = some controller :=
        hdead
      have hout : (server.process connection message).2 =
          [⟨attachment.id, controller.destroy, .Close, 0, 0, none⟩] := by
        simp only [SocketServer.process, hlookup, htype, hsession, SocketServer.take, hdead]
      have hid : controller.destroy.channelId = message.forwardChannel :=
        hchannel none controller hsome
      rw [hout, hown, hsome, if_pos (.inr rfl), closes]
      simp [hid]
  | some controller =>
    rw [hsession] at hown
    have hout : (server.process connection message).2 =
        [⟨attachment.id, controller.destroy, .Close, 0, 0, none⟩] := by
      simp only [SocketServer.process, hlookup, htype, hsession]
    have hid : controller.destroy.channelId = message.forwardChannel :=
      hchannel (some connection) controller hown
    rw [hout, hown, if_pos (.inl rfl), closes]
    simp [hid]

/-- A message of a session that the connection manages changes nothing. -/
lemma process_message_own (hlookup : server.attachments.lookup connection = some attachment)
    (hmem : connection ∈ server.connected) {message : ServerMessage}
    (htype : message.type = .Message)
    (hown : (server.filed (some connection) (attachment.id, message.forwardChannel)).isSome) :
    (server.process connection message).1 = server := by
  obtain ⟨controller, hsession⟩ := Option.isSome_iff_exists.mp hown
  rw [filed_of_lookup hlookup hmem, if_pos rfl] at hsession
  simp only [SocketServer.process, hlookup, htype, hsession]

/-- A message of an unknown session changes nothing that is filed. -/
lemma filed_process_message_unknown
    (hlookup : server.attachments.lookup connection = some attachment)
    (hmem : connection ∈ server.connected) {message : ServerMessage}
    (htype : message.type = .Message)
    (hown : server.filed (some connection) (attachment.id, message.forwardChannel) = none)
    (hdead : server.filed none (attachment.id, message.forwardChannel) = none)
    (place : Option κ) (key : γ × Int32) :
    (server.process connection message).1.filed place key = server.filed place key := by
  have hsession := hown
  rw [filed_of_lookup hlookup hmem, if_pos rfl] at hsession
  have hlookupDead : server.deadSessions.lookup (attachment.id, message.forwardChannel) = none :=
    hdead
  have htake : (server.process connection message).1 =
      (server.take attachment.id message.forwardChannel).2 := by
    simp only [SocketServer.process, hlookup, htype, hsession, SocketServer.take, hlookupDead]
  rw [htake, filed_take]
  split
  · next h => rw [h.1, h.2, hdead]
  · rfl

/-- **A message of a dead session** takes the session over. -/
lemma filed_process_message_dead
    (hlookup : server.attachments.lookup connection = some attachment)
    (hmem : connection ∈ server.connected) {message : ServerMessage}
    (htype : message.type = .Message)
    (hown : server.filed (some connection) (attachment.id, message.forwardChannel) = none)
    {controller : SessionController κ}
    (hdead : server.filed none (attachment.id, message.forwardChannel) = some controller)
    (hid : controller.channelId = message.forwardChannel) (place : Option κ) (key : γ × Int32) :
    (server.process connection message).1.filed place key =
      if key = (attachment.id, message.forwardChannel) then
        if place = some connection then some (controller.bindConnection connection)
        else if place = none then none
        else server.filed place key
      else server.filed place key := by
  have hsession := hown
  rw [filed_of_lookup hlookup hmem, if_pos rfl] at hsession
  have hlookupDead : server.deadSessions.lookup (attachment.id, message.forwardChannel) =
      some controller := hdead
  have hset : (server.process connection message).1 =
      (server.take attachment.id message.forwardChannel).2.setSessions connection attachment
        (attachment.sessions.insert message.forwardChannel
          (controller.bindConnection connection)) := by
    simp only [SocketServer.process, hlookup, htype, hsession, SocketServer.take, hlookupDead]
    rw [← hid]
    rfl
  have hmem' : connection ∈ (server.take attachment.id message.forwardChannel).2.connected := hmem
  rw [hset, filed_setSessions hmem', filed_take, AList.lookup_insert_ite]
  obtain ⟨gateway, channel⟩ := key
  by_cases hplace : place = some connection
  · subst hplace
    rw [if_pos rfl, if_pos rfl, filed_of_lookup hlookup hmem]
    by_cases hgateway : attachment.id = gateway
    · subst hgateway
      simp
    · have hkey : (gateway, channel) ≠ (attachment.id, message.forwardChannel) :=
        fun h => hgateway (Prod.mk.inj h).1.symm
      rw [if_neg hgateway, if_neg hkey, if_neg hgateway]
  · rw [if_neg hplace, if_neg hplace]
    by_cases hkey : (gateway, channel) = (attachment.id, message.forwardChannel)
    · simp only [hkey, and_true, if_true]
    · simp only [hkey, and_false, if_false]

/-- Only the message that closes a session dispatches a closing. -/
lemma closes_process_of_ne (server : SocketServer κ γ) (connection : κ) {message : ServerMessage}
    (htype : message.type ≠ .Close) : closes (server.process connection message).2 = [] := by
  have hdispatch : ∀ (server : SocketServer κ γ) gateway controller,
      closes (server.dispatchMessage gateway controller message) = [] := by
    intro server gateway controller
    rw [SocketServer.dispatchMessage]
    cases message.content with
    | none => rfl
    | some data =>
      dsimp only
      split
      · rfl
      · rfl
  cases hlookup : server.attachments.lookup connection with
  | none =>
    simp only [SocketServer.process, hlookup]
    rfl
  | some attachment =>
    cases hmessage : message.type with
    | Close => exact absurd hmessage htype
    | Open =>
      simp only [SocketServer.process, hlookup, hmessage]
      cases message.content with
      | none => rfl
      | some clientIp => rfl
    | Message =>
      cases hsession : attachment.sessions.lookup message.forwardChannel with
      | some controller =>
        simp only [SocketServer.process, hlookup, hmessage, hsession]
        exact hdispatch _ _ _
      | none =>
        cases hdead : server.deadSessions.lookup (attachment.id, message.forwardChannel) with
        | none =>
          simp only [SocketServer.process, hlookup, hmessage, hsession, SocketServer.take, hdead]
          rfl
        | some controller =>
          simp only [SocketServer.process, hlookup, hmessage, hsession, SocketServer.take, hdead]
          exact hdispatch _ _ _

/-- **A message** leaves the connections the same. -/
lemma sameConnections_process (server : SocketServer κ γ) (connection : κ)
    (message : ServerMessage) :
    SameConnections server (server.process connection message).1 := by
  cases hlookup : server.attachments.lookup connection with
  | none =>
    simp only [SocketServer.process, hlookup]
    exact .refl server
  | some attachment =>
    have htake : SameConnections server (server.take attachment.id message.forwardChannel).2 :=
      ⟨rfl, rfl, rfl, fun _ => rfl⟩
    cases htype : message.type with
    | Open =>
      simp only [SocketServer.process, hlookup, htype]
      exact sameConnections_setSessions hlookup _
    | Close =>
      cases hsession : attachment.sessions.lookup message.forwardChannel with
      | some controller =>
        simp only [SocketServer.process, hlookup, htype, hsession]
        exact sameConnections_setSessions hlookup _
      | none =>
        cases hdead : server.deadSessions.lookup (attachment.id, message.forwardChannel) with
        | none =>
          simp only [SocketServer.process, hlookup, htype, hsession, SocketServer.take, hdead]
          exact htake
        | some controller =>
          simp only [SocketServer.process, hlookup, htype, hsession, SocketServer.take, hdead]
          exact htake
    | Message =>
      cases hsession : attachment.sessions.lookup message.forwardChannel with
      | some controller =>
        simp only [SocketServer.process, hlookup, htype, hsession]
        exact .refl server
      | none =>
        cases hdead : server.deadSessions.lookup (attachment.id, message.forwardChannel) with
        | none =>
          simp only [SocketServer.process, hlookup, htype, hsession, SocketServer.take, hdead]
          exact htake
        | some controller =>
          simp only [SocketServer.process, hlookup, htype, hsession, SocketServer.take, hdead]
          refine htake.trans (sameConnections_setSessions ?_ _)
          exact hlookup

end Messages

/-! ## What the job of a lost connection does -/

/-- **The invariant of the loop** that closes the sessions of a lost connection, between the state
before it and a state in it: the sessions of the connection are the remaining ones, and all else is
as before. -/
structure Closing (server server' : SocketServer κ γ) (closed : κ) (gateway : γ)
    (remaining : List (SessionController κ)) : Prop where
  same : SameConnections server server'
  dead : ∀ key, server'.deadSessions.lookup key = server.deadSessions.lookup key
  others : ∀ other, other ≠ closed →
    server'.attachments.lookup other = server.attachments.lookup other
  nodup : (remaining.map SessionController.channelId).Nodup
  own : ∃ attachment, server'.attachments.lookup closed = some attachment ∧
    attachment.id = gateway ∧
    (∀ session ∈ remaining, attachment.sessions.lookup session.channelId = some session) ∧
    ∀ channel, (attachment.sessions.lookup channel).isSome →
      channel ∈ remaining.map SessionController.channelId

section Closing

variable {server server' : SocketServer κ γ} {closed : κ} {gateway : γ}

/-- The loop closes the next session. -/
lemma Closing.step {session : SessionController κ} {remaining : List (SessionController κ)}
    (h : Closing server server' closed gateway (session :: remaining)) :
    Closing server (SocketServer.notifyClosed closed server' session).1 closed
        gateway remaining ∧
      (SocketServer.notifyClosed closed server' session).2 =
        [⟨gateway, session.destroy, .Close, 0, 0, none⟩] := by
  obtain ⟨attachment, hlookup, rfl, hsessions, hremaining⟩ := h.own
  obtain ⟨hnotMem, hnodup⟩ := List.nodup_cons.mp h.nodup
  have hsession := hsessions session List.mem_cons_self
  have hprocess : SocketServer.notifyClosed closed server' session =
      (server'.setSessions closed attachment (attachment.sessions.erase session.channelId),
        [⟨attachment.id, session.destroy, .Close, 0, 0, none⟩]) := by
    simp only [SocketServer.notifyClosed, SocketServer.process, hlookup,
      SocketServer.createCloseMessage, hsession]
  rw [hprocess]
  refine ⟨⟨h.same.trans (sameConnections_setSessions hlookup _), h.dead, ?_, hnodup, ?_⟩, rfl⟩
  · intro other hother
    rw [← h.others other hother]
    exact AList.lookup_insert_ne hother
  · refine ⟨_, AList.lookup_insert _, rfl, ?_, ?_⟩
    · intro other hother
      rw [AList.lookup_erase_ite, if_neg]
      · exact hsessions other (List.mem_cons_of_mem _ hother)
      · intro heq
        rw [← heq] at hnotMem
        exact hnotMem (List.mem_map_of_mem hother)
    · intro channel hchannel
      rw [AList.lookup_erase_ite] at hchannel
      split at hchannel
      · cases hchannel
      · next hne => exact (List.mem_cons.mp (hremaining channel hchannel)).resolve_left hne

/-- The loop over the dead sessions closes nothing: they are not filed anywhere any more. -/
lemma Closing.idle (h : Closing server server' closed gateway [])
    (hdead : ∀ channel, server.deadSessions.lookup (gateway, channel) = none)
    (session : SessionController κ) :
    Closing server (SocketServer.notifyClosed closed server' session).1 closed
        gateway [] ∧
      (SocketServer.notifyClosed closed server' session).2 = [] := by
  obtain ⟨attachment, hlookup, rfl, -, hremaining⟩ := h.own
  have hsession : attachment.sessions.lookup session.channelId = none := by
    rw [← Option.not_isSome_iff_eq_none]
    exact fun hsome => nomatch hremaining _ hsome
  have hdead' : server'.deadSessions.lookup (attachment.id, session.channelId) = none :=
    (h.dead _).trans (hdead _)
  have hprocess : SocketServer.notifyClosed closed server' session =
      ((server'.take attachment.id session.channelId).2, []) := by
    simp only [SocketServer.notifyClosed, SocketServer.process, hlookup,
      SocketServer.createCloseMessage, hsession, SocketServer.take, hdead']
  rw [hprocess]
  refine ⟨⟨h.same.trans ⟨rfl, rfl, rfl, fun _ => rfl⟩, fun key => ?_, h.others, h.nodup, ?_⟩, rfl⟩
  · rw [← h.dead, SocketServer.take, AList.lookup_erase_ite]
    split
    · next hkey => rw [hkey, hdead']
    · rfl
  · exact ⟨attachment, hlookup, rfl, by simp, hremaining⟩

/-- The loop over the sessions of the connection closes them all. -/
lemma Closing.run {sessions : List (SessionController κ)}
    (h : Closing server server' closed gateway sessions) :
    Closing server (Transducer.run (SocketServer.releaseSession closed gateway true) server'
        sessions).1 closed gateway [] ∧
      (Transducer.run (SocketServer.releaseSession closed gateway true) server' sessions).2 =
        sessions.flatMap fun session => [⟨gateway, session.destroy, .Close, 0, 0, none⟩] :=
  Transducer.run_of_inv (fun server' remaining => Closing server server' closed gateway remaining)
    _ (fun _ _ _ h => h.step) h

/-- The loop over the dead sessions closes none. -/
lemma Closing.run_idle (h : Closing server server' closed gateway [])
    (hdead : ∀ channel, server.deadSessions.lookup (gateway, channel) = none)
    (sessions : List (SessionController κ)) :
    Closing server (Transducer.run (SocketServer.notifyClosed closed) server' sessions).1 closed
        gateway [] ∧
      (Transducer.run (SocketServer.notifyClosed closed) server' sessions).2 = [] := by
  have hnil : (sessions.flatMap fun _ => ([] : List (Dispatched κ γ))) = [] :=
    List.flatMap_eq_nil_iff.mpr fun _ _ => rfl
  rw [← hnil]
  exact Transducer.run_of_inv (fun server' _ => Closing server server' closed gateway []) _
    (fun _ session _ h => h.idle hdead session) h

omit [DecidableEq κ] [DecidableEq γ] in
/-- The closings that the loop dispatches. -/
lemma closes_flatMap (gateway : γ) (sessions : List (SessionController κ)) :
    closes (sessions.flatMap fun session =>
        [(⟨gateway, session.destroy, .Close, 0, 0, none⟩ : Dispatched κ γ)]) =
      (sessions.map SessionController.channelId).map (gateway, ·) := by
  induction sessions with
  | nil => rfl
  | cons session sessions ih =>
    rw [List.map_cons, List.map_cons, ← ih]
    rfl

/-- The loop that leaves the sessions to the table of dead sessions. -/
lemma run_releaseSession_dead (server : SocketServer κ γ) (closed : κ) (gateway : γ)
    (sessions : List (SessionController κ)) :
    let run := Transducer.run (SocketServer.releaseSession closed gateway false) server sessions
    run.2 = [] ∧ SameConnections server run.1 ∧ run.1.attachments = server.attachments ∧
      (∀ key, (run.1.deadSessions.lookup key).isSome ↔ (server.deadSessions.lookup key).isSome ∨
        key.1 = gateway ∧ key.2 ∈ sessions.map SessionController.channelId) ∧
      ((∀ key session, server.deadSessions.lookup key = some session →
          session.channelId = key.2) →
        ∀ key session, run.1.deadSessions.lookup key = some session →
          session.channelId = key.2) := by
  induction sessions generalizing server with
  | nil => exact ⟨rfl, .refl server, rfl, fun key => by simp, fun h => h⟩
  | cons session sessions ih =>
    have hlookup := AList.lookup_insert_ite server.deadSessions
      (gateway, session.destroy.channelId)
    obtain ⟨hout, hsame, hattachments, hdead, hchannel⟩ :=
      ih (server.addDeadSession gateway session.destroy)
    refine ⟨hout, ⟨hsame.active, hsame.jobs, hsame.counter, hsame.gatewayOf⟩, hattachments,
      fun key => ?_, fun h => hchannel fun key other hother => ?_⟩
    · refine (hdead key).trans ?_
      rw [SocketServer.addDeadSession, hlookup, List.map_cons, List.mem_cons]
      by_cases hkey : key = (gateway, session.destroy.channelId)
      · subst hkey
        simp [SessionController.destroy]
      · rw [if_neg hkey]
        have hne : key.1 = gateway → key.2 ≠ session.channelId := by
          rintro rfl heq
          exact hkey (Prod.ext rfl heq)
        constructor
        · exact Or.imp_right fun h => ⟨h.1, .inr h.2⟩
        · exact Or.imp_right fun h => ⟨h.1, h.2.resolve_left (hne h.1)⟩
    · rw [SocketServer.addDeadSession, hlookup] at hother
      split at hother
      · next hkey =>
        obtain rfl := Option.some.inj hother
        rw [hkey]
      · exact h key other hother

/-- What a job leaves as it was, between the state before and the state after. -/
structure Cleaned (server server' : SocketServer κ γ) (closed : κ) (gateway : γ) : Prop where
  active : server'.active = server.active
  jobs : server'.jobs = server.jobs.erase closed
  counter : server'.connectionSizePerGateway = Function.update server.connectionSizePerGateway
    gateway (server.connectionSizePerGateway gateway - 1)
  gatewayOf : ∀ connection, server'.gatewayOf connection = server.gatewayOf connection
  others : ∀ other, other ≠ closed →
    server'.attachments.lookup other = server.attachments.lookup other

/-- After its job a connection has no sessions, and those of the others are as before. -/
lemma Cleaned.filed (h : Cleaned server server' closed gateway) (hnodup : server.connected.Nodup)
    (hjob : closed ∈ server.jobs) (connection : κ) (key : γ × Int32) :
    server'.filed (some connection) key =
      if connection = closed then none else server.filed (some connection) key := by
  have hmem : connection ∈ server'.connected ↔
      connection ≠ closed ∧ connection ∈ server.connected := by
    obtain ⟨-, hjobs, hdisjoint⟩ := List.nodup_append.mp hnodup
    rw [SocketServer.connected, SocketServer.connected, h.active, h.jobs, List.mem_append,
      List.mem_append, hjobs.mem_erase_iff]
    constructor
    · rintro (hactive | ⟨hne, hmem⟩)
      · exact ⟨fun heq => hdisjoint _ hactive _ hjob heq, .inl hactive⟩
      · exact ⟨hne, .inr hmem⟩
    · rintro ⟨hne, hactive | hmem⟩
      · exact .inl hactive
      · exact .inr ⟨hne, hmem⟩
  rw [SocketServer.filed, SocketServer.filed]
  by_cases hclosed : connection = closed
  · rw [if_pos hclosed, if_neg fun hmem' => (hmem.mp hmem').1 hclosed]
  · rw [if_neg hclosed, h.others connection hclosed]
    by_cases hconnected : connection ∈ server.connected
    · rw [if_pos hconnected, if_pos (hmem.mpr ⟨hclosed, hconnected⟩)]
    · rw [if_neg hconnected, if_neg fun hmem' => hconnected (hmem.mp hmem').2]

/-- **The job of a connection that is not the last** leaves its sessions to the dead ones. -/
lemma cleanUp_of_two_le {attachment : ConnectionAttachment κ γ}
    (hlookup : server.attachments.lookup closed = some attachment)
    (hchannel : ∀ channel session, attachment.sessions.lookup channel = some session →
      session.channelId = channel)
    (hsize : ¬server.connectionSizePerGateway attachment.id ≤ 1) :
    (server.cleanUp closed).2 = [] ∧
      Cleaned server (server.cleanUp closed).1 closed attachment.id ∧
      (∀ key, ((server.cleanUp closed).1.deadSessions.lookup key).isSome ↔
        (server.deadSessions.lookup key).isSome ∨
          key.1 = attachment.id ∧ (attachment.sessions.lookup key.2).isSome) ∧
      ((∀ key session, server.deadSessions.lookup key = some session →
          session.channelId = key.2) →
        ∀ key session, (server.cleanUp closed).1.deadSessions.lookup key = some session →
          session.channelId = key.2) := by
  have hnotify : decide (server.connectionSizePerGateway attachment.id - 1 ≤ 0) = false :=
    decide_eq_false (by omega)
  set before : SocketServer κ γ := { server with
    jobs := server.jobs.erase closed
    connectionSizePerGateway := Function.update server.connectionSizePerGateway attachment.id
      (server.connectionSizePerGateway attachment.id - 1) } with hbefore
  obtain ⟨hout, hsame, hattachments, hdead, hid⟩ :=
    run_releaseSession_dead before closed attachment.id attachment.sessions.values
  have hrun : server.cleanUp closed = Transducer.run
      (SocketServer.releaseSession closed attachment.id false) before
      attachment.sessions.values := by
    simp only [SocketServer.cleanUp, hlookup, hnotify]
    rfl
  rw [hrun]
  refine ⟨hout, ⟨hsame.active, hsame.jobs, hsame.counter, hsame.gatewayOf, fun other _ => ?_⟩,
    fun key => ?_, hid⟩
  · rw [hattachments]
  · rw [hdead, AList.map_values_eq_keys hchannel]
    exact or_congr_right (and_congr_right fun _ => AList.lookup_isSome.symm)

/-- **The job of the last connection** closes its sessions, and drops the dead ones. -/
lemma cleanUp_of_le_one {attachment : ConnectionAttachment κ γ}
    (hlookup : server.attachments.lookup closed = some attachment)
    (hchannel : ∀ channel session, attachment.sessions.lookup channel = some session →
      session.channelId = channel)
    (hsize : server.connectionSizePerGateway attachment.id ≤ 1) :
    closes (server.cleanUp closed).2 = attachment.sessions.keys.map (attachment.id, ·) ∧
      Cleaned server (server.cleanUp closed).1 closed attachment.id ∧
      ∀ key, (server.cleanUp closed).1.deadSessions.lookup key =
        if key.1 = attachment.id then none else server.deadSessions.lookup key := by
  have hnotify : decide (server.connectionSizePerGateway attachment.id - 1 ≤ 0) = true :=
    decide_eq_true (by omega)
  have hkeys := AList.map_values_eq_keys hchannel
  set before : SocketServer κ γ := { server with
    jobs := server.jobs.erase closed
    connectionSizePerGateway := Function.update server.connectionSizePerGateway attachment.id
      (server.connectionSizePerGateway attachment.id - 1) } with hbefore
  have hstart : Closing before before closed attachment.id attachment.sessions.values := by
    refine ⟨.refl before, fun _ => rfl, fun _ _ => rfl, ?_, attachment, hlookup, rfl, ?_, ?_⟩
    · rw [hkeys]
      exact attachment.sessions.keys_nodup
    · intro session hsession
      obtain ⟨channel, hsession⟩ := AList.mem_values.mp hsession
      rw [hchannel channel session hsession, hsession]
    · intro channel hsome
      rw [hkeys]
      exact AList.lookup_isSome.mp hsome
  obtain ⟨hclosed, hout⟩ := hstart.run
  set loop := Transducer.run (SocketServer.releaseSession closed attachment.id true) before
    attachment.sessions.values with hloop
  set cleared := loop.1.clearDeadSession attachment.id with hclear
  have hcleared : ∀ key, cleared.2.deadSessions.lookup key =
      if key.1 = attachment.id then none else server.deadSessions.lookup key := by
    intro key
    have hdead := hclosed.dead key
    rw [hclear, SocketServer.clearDeadSession, AList.lookup_filterKeys, hdead]
    by_cases hkey : key.1 = attachment.id
    · simp [hkey]
    · simp only [hkey, if_false, ne_eq, not_false_eq_true, decide_true, if_true]
      rfl
  have hidle : Closing cleared.2 cleared.2 closed attachment.id [] :=
    ⟨.refl _, fun _ => rfl, fun _ _ => rfl, hclosed.nodup, hclosed.own⟩
  obtain ⟨hend, houtDead⟩ :=
    hidle.run_idle (fun channel => (hcleared _).trans (if_pos rfl)) cleared.1
  have hrun : server.cleanUp closed =
      ((Transducer.run (SocketServer.notifyClosed closed) cleared.2 cleared.1).1,
        loop.2 ++ (Transducer.run (SocketServer.notifyClosed closed) cleared.2 cleared.1).2) := by
    simp only [SocketServer.cleanUp, hlookup, hnotify]
    rfl
  rw [hrun]
  refine ⟨?_, ?_, fun key => (hend.dead key).trans (hcleared key)⟩
  · rw [houtDead, List.append_nil, hout, closes_flatMap, hkeys]
  · refine ⟨hend.same.active.trans hclosed.same.active, hend.same.jobs.trans hclosed.same.jobs,
      hend.same.counter.trans hclosed.same.counter, fun connection => ?_, fun other hother => ?_⟩
    · exact (hend.same.gatewayOf connection).trans (hclosed.same.gatewayOf connection)
    · exact (hend.others other hother).trans (hclosed.others other hother)

end Closing

end SrgpGame.Socket
