import SrgpGame.Lib.Runs
import SrgpGame.Socket.Filing

set_option autoImplicit false

/-!
# Is every session closed once?

A session that was opened is to be closed once: when the message that closes it arrives, or when
the last connection of its gateway is lost. This file says when that is what the game server does.

## Main definitions

* `Gateways` — the game server with the sessions that are open.
* `Arrives` — what the gateways keep to.
* `ClosesOnce` — a step closes the sessions that are due, each once.
* `Found` — the condition on a step.

## Main results

* `closesOnce_iff_found` — over whole runs, `ClosesOnce` holds exactly when `Found` does.
* `dead_session_not_closed` — a session that is never closed.

## Implementation notes

`Filed` is the invariant: each open session is filed in one place, with a connection whose job did
not run, or among the dead sessions.
-/

namespace SrgpGame.Socket

open Gateway

variable {κ γ : Type} [DecidableEq κ] [DecidableEq γ]

/-! ## Sessions that are open -/

/-- The game server, with the gateways and channels of the sessions that are open. -/
structure Gateways (κ γ : Type) where
  server : SocketServer κ γ := {}
  opened : List (γ × Int32) := []

namespace Gateways

/-- The sessions that a step is to close: that of a message that closes it, and all of a gateway
whose last connection is lost. -/
def due (gateways : Gateways κ γ) : SocketStep κ γ → List (γ × Int32)
  | .messageArrived connection message =>
    match gateways.server.gatewayOf connection with
    | none => []
    | some gateway =>
      if message.type = .Close ∧ (gateway, message.forwardChannel) ∈ gateways.opened then
        [(gateway, message.forwardChannel)]
      else []
  | .cleanUp connection =>
    match gateways.server.gatewayOf connection with
    | none => []
    | some gateway =>
      if gateways.server.isLast connection then gateways.opened.filter (·.1 = gateway) else []
  | _ => []

/-- The sessions that a step opens. -/
def opens (gateways : Gateways κ γ) : SocketStep κ γ → List (γ × Int32)
  | .messageArrived connection message =>
    match gateways.server.gatewayOf connection with
    | none => []
    | some gateway => if message.type = .Open then [(gateway, message.forwardChannel)] else []
  | _ => []

/-- The game server and the open sessions after a step. -/
def next (gateways : Gateways κ γ) (step : SocketStep κ γ) : Gateways κ γ :=
  ⟨(step.next gateways.server).1,
    gateways.opened.filter (· ∉ gateways.due step) ++ gateways.opens step⟩

end Gateways

/-- **What the gateways keep to**: a connection shakes hands once and is lost once; messages arrive
on active connections; a channel is not opened while it is open; and a message of a session arrives
on the connection that manages it, as long as that is active. -/
def Arrives (gateways : Gateways κ γ) : SocketStep κ γ → Prop
  | .handshakeMessage connection _ => gateways.server.attachments.lookup connection = none
  | .messageArrived connection message =>
    connection ∈ gateways.server.active ∧
      ∀ gateway ∈ gateways.server.gatewayOf connection,
        if message.type = .Open then (gateway, message.forwardChannel) ∉ gateways.opened
        else ∀ other ∈ gateways.server.active, other ≠ connection →
          gateways.server.filed (some other) (gateway, message.forwardChannel) = none
  | .connectionClosed connection => connection ∈ gateways.server.active
  | .cleanUp connection => connection ∈ gateways.server.jobs

/-! ## What should hold, and when it does -/

/-- **Each session is closed once**: the step dispatches the closing of the sessions that are due,
of each once, and of no others. -/
def ClosesOnce (gateways : Gateways κ γ) (step : SocketStep κ γ) : Prop :=
  (closes (step.next gateways.server).2).Perm (gateways.due step)

/-- **The condition on a step**: a message does not close a session of a lost connection whose job
did not run; and when the job of the last connection of a gateway runs, the gateway has no dead
sessions. -/
def Found (gateways : Gateways κ γ) : SocketStep κ γ → Prop
  | .messageArrived connection message =>
    message.type = .Close → ∀ gateway ∈ gateways.server.gatewayOf connection,
      ∀ other ∈ gateways.server.jobs,
        gateways.server.filed (some other) (gateway, message.forwardChannel) = none
  | .cleanUp connection =>
    ∀ gateway ∈ gateways.server.gatewayOf connection,
      gateways.server.connectionSizePerGateway gateway ≤ 1 →
        ∀ key ∈ gateways.server.deadSessions.keys, key.1 ≠ gateway
  | _ => True

instance (gateways : Gateways κ γ) : DecidablePred (Arrives gateways)
  | .handshakeMessage connection _ =>
    inferInstanceAs (Decidable (gateways.server.attachments.lookup connection = none))
  | .messageArrived connection message =>
    inferInstanceAs (Decidable (connection ∈ gateways.server.active ∧
      ∀ gateway ∈ gateways.server.gatewayOf connection,
        if message.type = .Open then (gateway, message.forwardChannel) ∉ gateways.opened
        else ∀ other ∈ gateways.server.active, other ≠ connection →
          gateways.server.filed (some other) (gateway, message.forwardChannel) = none))
  | .connectionClosed connection =>
    inferInstanceAs (Decidable (connection ∈ gateways.server.active))
  | .cleanUp connection => inferInstanceAs (Decidable (connection ∈ gateways.server.jobs))

instance (gateways : Gateways κ γ) : DecidablePred (ClosesOnce gateways) := fun step =>
  inferInstanceAs
    (Decidable ((closes (step.next gateways.server).2).Perm (gateways.due step)))

instance (gateways : Gateways κ γ) : DecidablePred (Found gateways)
  | .messageArrived connection message =>
    inferInstanceAs (Decidable (message.type = .Close →
      ∀ gateway ∈ gateways.server.gatewayOf connection, ∀ other ∈ gateways.server.jobs,
        gateways.server.filed (some other) (gateway, message.forwardChannel) = none))
  | .cleanUp connection =>
    inferInstanceAs (Decidable (∀ gateway ∈ gateways.server.gatewayOf connection,
      gateways.server.connectionSizePerGateway gateway ≤ 1 →
        ∀ key ∈ gateways.server.deadSessions.keys, key.1 ≠ gateway))
  | .handshakeMessage _ _ => inferInstanceAs (Decidable True)
  | .connectionClosed _ => inferInstanceAs (Decidable True)

/-! ## The invariant -/

/-- Each open session is filed in one place, under its channel, and no other session is filed. -/
structure Filed (gateways : Gateways κ γ) : Prop where
  channel : ∀ place key session, gateways.server.filed place key = some session →
    session.channelId = key.2
  located : ∀ key, key ∈ gateways.opened ↔ ∃ place, (gateways.server.filed place key).isSome
  unique : ∀ place place' key, (gateways.server.filed place key).isSome →
    (gateways.server.filed place' key).isSome → place = place'
  nodup : gateways.opened.Nodup

/-! ## What keeps sessions filed -/

section Filed

variable {gateways gateways' : Gateways κ γ}

/-- Sessions that move from place to place stay filed. -/
lemma Filed.move (hinv : Filed gateways) (move : Option κ → γ × Int32 → Option κ)
    (hopened : gateways'.opened = gateways.opened)
    (hchannel : ∀ place key session, gateways'.server.filed place key = some session →
      session.channelId = key.2)
    (hfiled : ∀ place key, (gateways'.server.filed place key).isSome ↔
      ∃ from', (gateways.server.filed from' key).isSome ∧ move from' key = place) :
    Filed gateways' := by
  refine ⟨hchannel, fun key => ?_, fun place place' key h h' => ?_, ?_⟩
  · rw [hopened, hinv.located]
    constructor
    · rintro ⟨place, hplace⟩
      exact ⟨move place key, (hfiled _ key).mpr ⟨place, hplace, rfl⟩⟩
    · rintro ⟨place, hplace⟩
      obtain ⟨from', hfrom, -⟩ := (hfiled place key).mp hplace
      exact ⟨from', hfrom⟩
  · obtain ⟨from₁, h₁, rfl⟩ := (hfiled place key).mp h
    obtain ⟨from₂, h₂, rfl⟩ := (hfiled place' key).mp h'
    rw [hinv.unique from₁ from₂ key h₁ h₂]
  · rw [hopened]
    exact hinv.nodup

/-- Sessions that are removed everywhere are not open any more. -/
lemma Filed.remove (hinv : Filed gateways) (gone : List (γ × Int32))
    (hopened : gateways'.opened = gateways.opened.filter (· ∉ gone))
    (hfiled : ∀ place key, gateways'.server.filed place key =
      if key ∈ gone then none else gateways.server.filed place key) : Filed gateways' := by
  have hsome : ∀ place key, (gateways'.server.filed place key).isSome ↔
      key ∉ gone ∧ (gateways.server.filed place key).isSome := by
    intro place key
    rw [hfiled]
    by_cases hkey : key ∈ gone
    · simp [hkey]
    · simp [hkey]
  refine ⟨fun place key session h => ?_, fun key => ?_, fun place place' key h h' => ?_, ?_⟩
  · rw [hfiled] at h
    split at h
    · cases h
    · exact hinv.channel place key session h
  · rw [hopened, List.mem_filter, hinv.located]
    constructor
    · rintro ⟨⟨place, hplace⟩, hkey⟩
      exact ⟨place, (hsome place key).mpr ⟨of_decide_eq_true hkey, hplace⟩⟩
    · rintro ⟨place, hplace⟩
      obtain ⟨hkey, hplace⟩ := (hsome place key).mp hplace
      exact ⟨⟨place, hplace⟩, decide_eq_true hkey⟩
  · exact hinv.unique place place' key ((hsome place key).mp h).2 ((hsome place' key).mp h').2
  · rw [hopened]
    exact hinv.nodup.filter _

/-- A session that is filed in one place is open. -/
lemma Filed.add (hinv : Filed gateways) {opened : γ × Int32} {session : SessionController κ}
    {place : Option κ} (hid : session.channelId = opened.2) (hnew : opened ∉ gateways.opened)
    (hopened : gateways'.opened = gateways.opened ++ [opened])
    (hfiled : ∀ place' key, gateways'.server.filed place' key =
      if place' = place ∧ key = opened then some session
      else gateways.server.filed place' key) : Filed gateways' := by
  have hsome : ∀ place' key, (gateways'.server.filed place' key).isSome ↔
      (place' = place ∧ key = opened) ∨ (gateways.server.filed place' key).isSome := by
    intro place' key
    rw [hfiled]
    by_cases h : place' = place ∧ key = opened
    · rw [if_pos h]
      exact iff_of_true rfl (.inl h)
    · rw [if_neg h]
      exact (or_iff_right h).symm
  have hnone : ∀ place', ¬(gateways.server.filed place' opened).isSome :=
    fun place' h => hnew ((hinv.located _).mpr ⟨place', h⟩)
  refine ⟨fun place' key other h => ?_, fun key => ?_, fun p p' key h h' => ?_, ?_⟩
  · rw [hfiled] at h
    split at h
    · next hkey =>
      obtain rfl := Option.some.inj h
      rw [hkey.2, hid]
    · exact hinv.channel place' key other h
  · rw [hopened, List.mem_append, List.mem_singleton, hinv.located]
    constructor
    · rintro (⟨place', h⟩ | rfl)
      · exact ⟨place', (hsome _ _).mpr (.inr h)⟩
      · exact ⟨place, (hsome _ _).mpr (.inl ⟨rfl, rfl⟩)⟩
    · rintro ⟨place', h⟩
      rcases (hsome place' key).mp h with ⟨-, rfl⟩ | h
      · exact .inr rfl
      · exact .inl ⟨place', h⟩
  · rcases (hsome p key).mp h with ⟨rfl, rfl⟩ | h
    · exact (((hsome p' _).mp h').resolve_right (hnone p')).1.symm
    · rcases (hsome p' key).mp h' with ⟨rfl, rfl⟩ | h'
      · exact absurd h (hnone p)
      · exact hinv.unique p p' key h h'
  · rw [hopened]
    refine hinv.nodup.append (List.nodup_singleton _) ?_
    exact List.disjoint_singleton.mpr hnew

end Filed

/-! ## Single steps -/

/-- The connections are counted, and the open sessions are filed. -/
structure GatewaysInv (gateways : Gateways κ γ) : Prop where
  counted : Counted gateways.server
  filed : Filed gateways

section Steps

variable {gateways : Gateways κ γ}

/-- A step that leaves the sessions where they are keeps them filed. -/
lemma Filed.congr {gateways' : Gateways κ γ} (hinv : Filed gateways)
    (hopened : gateways'.opened = gateways.opened)
    (hfiled : ∀ place key, gateways'.server.filed place key = gateways.server.filed place key) :
    Filed gateways' := by
  refine hinv.remove [] ?_ fun place key => ?_
  · rw [hopened]
    simp
  · rw [hfiled]
    simp

/-- A step that closes and opens no session. -/
lemma opened_next_of_nil {step : SocketStep κ γ} (hdue : gateways.due step = [])
    (hopens : gateways.opens step = []) : (gateways.next step).opened = gateways.opened := by
  rw [Gateways.next, hdue, hopens]
  simp

/-- **A handshake** keeps the invariant. -/
lemma GatewaysInv.handshakeMessage (hinv : GatewaysInv gateways) {connection : κ} {gateway : γ}
    (hfresh : gateways.server.attachments.lookup connection = none) :
    GatewaysInv (gateways.next (.handshakeMessage connection gateway)) := by
  refine ⟨hinv.counted.handshakeMessage gateway hfresh, ?_⟩
  refine hinv.filed.congr (opened_next_of_nil rfl rfl) fun place key => ?_
  cases place with
  | none => rfl
  | some other =>
    have hlookup := AList.lookup_insert_ite gateways.server.attachments connection other
      (⟨gateway, ∅⟩ : ConnectionAttachment κ γ)
    change (if other ∈ connection :: gateways.server.connected then _ else none) =
      if other ∈ gateways.server.connected then _ else none
    simp only [SocketServer.handshakeMessage, Gateways.next, SocketStep.next, hlookup]
    by_cases hother : other = connection
    · subst hother
      simp [hfresh]
    · simp only [List.mem_cons, hother, false_or, if_false]

/-- **The loss of a connection** keeps the invariant. -/
lemma GatewaysInv.connectionClosed (hinv : GatewaysInv gateways) {closed : κ}
    (hactive : closed ∈ gateways.server.active) :
    GatewaysInv (gateways.next (.connectionClosed closed)) := by
  have hattached := hinv.counted.attached closed (List.mem_append_left _ hactive)
  have hperm := connected_connectionClosed gateways.server hactive hattached
  obtain ⟨hattachments, hdead, hcounter⟩ :=
    attachments_connectionClosed gateways.server closed
  constructor
  · refine hinv.counted.congr hperm (fun connection _ => ?_) hcounter
    exact congrArg (Option.map ConnectionAttachment.id)
      (congrArg (AList.lookup connection) hattachments)
  · refine hinv.filed.congr (opened_next_of_nil rfl rfl) fun place key => ?_
    change (gateways.server.connectionClosed closed).filed place key = _
    cases place with
    | none =>
      rw [SocketServer.filed, SocketServer.filed, hdead]
    | some other =>
      rw [SocketServer.filed, SocketServer.filed, hattachments]
      simp only [hperm.mem_iff]

section Messages

variable {connection : κ} {message : ServerMessage} {gateway : γ}

/-- An active connection has an attachment. -/
lemma GatewaysInv.lookup (hinv : GatewaysInv gateways)
    (hmem : connection ∈ gateways.server.connected) :
    ∃ attachment, gateways.server.attachments.lookup connection = some attachment ∧
      gateways.server.gatewayOf connection = some attachment.id := by
  obtain ⟨gateway, hgateway⟩ := Option.isSome_iff_exists.mp (hinv.counted.attached connection hmem)
  obtain ⟨attachment, hlookup, rfl⟩ := Option.map_eq_some_iff.mp hgateway
  exact ⟨attachment, hlookup, hgateway⟩

/-- A message leaves the connections counted. -/
lemma GatewaysInv.counted_process (hinv : GatewaysInv gateways) (connection : κ)
    (message : ServerMessage) : Counted (gateways.server.process connection message).1 := by
  have hsame := sameConnections_process gateways.server connection message
  refine hinv.counted.congr ?_ (fun other _ => hsame.gatewayOf other) hsame.counter
  rw [SocketServer.connected, hsame.active, hsame.jobs]
  exact .refl _

/-- **A session is opened**: the invariant is kept. -/
lemma GatewaysInv.messageOpen (hinv : GatewaysInv gateways) (htype : message.type = .Open)
    (harrives : Arrives gateways (.messageArrived connection message)) :
    GatewaysInv (gateways.next (.messageArrived connection message)) := by
  refine ⟨hinv.counted_process connection message, ?_⟩
  obtain ⟨hactive, hnew⟩ := harrives
  have hmem : connection ∈ gateways.server.connected := List.mem_append_left _ hactive
  obtain ⟨attachment, hlookup, hgateway⟩ := hinv.lookup hmem
  have hnew := hnew attachment.id hgateway
  rw [if_pos htype] at hnew
  refine hinv.filed.add rfl hnew ?_ (filed_process_open hlookup hmem htype)
  simp only [Gateways.next, Gateways.due, Gateways.opens, hgateway, htype]
  simp

/-- **A message of a session** keeps the invariant, and closes nothing. -/
lemma GatewaysInv.messageMessage (hinv : GatewaysInv gateways) (htype : message.type = .Message)
    (harrives : Arrives gateways (.messageArrived connection message)) :
    GatewaysInv (gateways.next (.messageArrived connection message)) := by
  refine ⟨hinv.counted_process connection message, ?_⟩
  have hmem : connection ∈ gateways.server.connected := List.mem_append_left _ harrives.1
  obtain ⟨attachment, hlookup, hgateway⟩ := hinv.lookup hmem
  have hopened : (gateways.next (.messageArrived connection message)).opened =
      gateways.opened := by
    refine opened_next_of_nil ?_ ?_
    · simp [Gateways.due, hgateway, htype]
    · simp [Gateways.opens, hgateway, htype]
  cases hown : gateways.server.filed (some connection) (attachment.id, message.forwardChannel) with
  | some controller =>
    have hsame := process_message_own hlookup hmem htype (by rw [hown]; rfl)
    refine hinv.filed.congr hopened fun place key => ?_
    exact congrArg (fun server => SocketServer.filed server place key) hsame
  | none =>
    cases hdead : gateways.server.filed none (attachment.id, message.forwardChannel) with
    | none =>
      exact hinv.filed.congr hopened
        (filed_process_message_unknown hlookup hmem htype hown hdead)
    | some controller =>
      have hid := hinv.filed.channel none _ controller hdead
      have hfiled := filed_process_message_dead hlookup hmem htype hown hdead hid
      refine hinv.filed.move (fun place key =>
        if key = (attachment.id, message.forwardChannel) then some connection else place)
        hopened ?_ ?_
      · intro place key session h
        change (gateways.server.process connection message).1.filed place key = _ at h
        rw [hfiled] at h
        split at h
        · next hkey =>
          split at h
          · obtain rfl := Option.some.inj h
            rw [hkey]
            exact hid
          · split at h
            · cases h
            · exact hinv.filed.channel place key session h
        · exact hinv.filed.channel place key session h
      · intro place key
        change ((gateways.server.process connection message).1.filed place key).isSome ↔ _
        rw [hfiled]
        by_cases hkey : key = (attachment.id, message.forwardChannel)
        · rw [if_pos hkey]
          subst hkey
          simp only [if_true]
          constructor
          · intro h
            refine ⟨none, by rw [hdead]; rfl, ?_⟩
            by_contra hne
            rw [if_neg (Ne.symm hne)] at h
            split at h
            · cases h
            · next hplace => exact hplace (hinv.filed.unique place none _ h (by rw [hdead]; rfl))
          · rintro ⟨-, -, rfl⟩
            rw [if_pos rfl]
            rfl
        · rw [if_neg hkey]
          simp only [hkey, if_false, exists_eq_right]

/-- The session that a closing message names is due if it is open. -/
lemma due_close (hgateway : gateways.server.gatewayOf connection = some gateway)
    (htype : message.type = .Close) :
    gateways.due (.messageArrived connection message) =
      if (gateway, message.forwardChannel) ∈ gateways.opened then
        [(gateway, message.forwardChannel)]
      else [] := by
  simp only [Gateways.due, hgateway, htype, true_and]

/-- Where the condition holds of a closing message, its session is found if it is open. -/
lemma GatewaysInv.mem_opened_iff (hinv : GatewaysInv gateways)
    (hgateway : gateways.server.gatewayOf connection = some gateway)
    (htype : message.type = .Close)
    (harrives : Arrives gateways (.messageArrived connection message))
    (hfound : Found gateways (.messageArrived connection message)) :
    (gateway, message.forwardChannel) ∈ gateways.opened ↔
      (gateways.server.filed (some connection) (gateway, message.forwardChannel)).isSome ∨
        (gateways.server.filed none (gateway, message.forwardChannel)).isSome := by
  have hmanaged := harrives.2 gateway hgateway
  rw [if_neg (by rw [htype]; decide)] at hmanaged
  have hjobs := hfound htype gateway hgateway
  rw [hinv.filed.located]
  constructor
  · rintro ⟨place, hplace⟩
    cases place with
    | none => exact .inr hplace
    | some other =>
      by_cases hother : other = connection
      · subst hother
        exact .inl hplace
      · -- a connection that has it is active or waits for its job
        have hmem : other ∈ gateways.server.connected := by
          by_contra hmem
          rw [SocketServer.filed, if_neg hmem] at hplace
          cases hplace
        rcases List.mem_append.mp hmem with hactive | hjob
        · rw [hmanaged other hactive hother] at hplace
          cases hplace
        · rw [hjobs other hjob] at hplace
          cases hplace
  · rintro (h | h)
    · exact ⟨some connection, h⟩
    · exact ⟨none, h⟩

/-- **A closing message** closes its session once exactly if the condition holds. -/
lemma GatewaysInv.closesOnce_close (hinv : GatewaysInv gateways) (htype : message.type = .Close)
    (harrives : Arrives gateways (.messageArrived connection message)) :
    ClosesOnce gateways (.messageArrived connection message) ↔
      Found gateways (.messageArrived connection message) := by
  have hmem : connection ∈ gateways.server.connected := List.mem_append_left _ harrives.1
  obtain ⟨attachment, hlookup, hgateway⟩ := hinv.lookup hmem
  have hcloses := closes_process_close hlookup hmem htype
    (fun place session h => hinv.filed.channel place _ session h)
  have hdue := due_close hgateway htype
  constructor
  · intro hperm htype' gateway hgateway' other hjob
    obtain rfl := Option.some.inj (hgateway.symm.trans hgateway')
    by_contra hsome
    rw [← ne_eq, Option.ne_none_iff_isSome] at hsome
    -- a session of a lost connection is not found, although it is open
    have hopen := (hinv.filed.located _).mpr ⟨some other, hsome⟩
    have hnot : ¬((gateways.server.filed (some connection)
          (attachment.id, message.forwardChannel)).isSome ∨
        (gateways.server.filed none (attachment.id, message.forwardChannel)).isSome) := by
      rintro (h | h)
      · have hsame := Option.some.inj (hinv.filed.unique _ _ _ hsome h)
        obtain ⟨-, -, hdisjoint⟩ := List.nodup_append.mp hinv.counted.nodup
        exact hdisjoint connection harrives.1 other hjob hsame.symm
      · cases hinv.filed.unique _ _ _ hsome h
    rw [if_neg hnot] at hcloses
    rw [ClosesOnce, hdue, if_pos hopen, SocketStep.next, hcloses] at hperm
    exact absurd hperm.length_eq (by simp)
  · intro hfound
    have hopened := hinv.mem_opened_iff hgateway htype harrives hfound
    rw [ClosesOnce, hdue, SocketStep.next, hcloses]
    simp only [hopened]
    exact .refl _

/-- **A closing message** keeps the invariant, if the condition holds. -/
lemma GatewaysInv.messageClose (hinv : GatewaysInv gateways) (htype : message.type = .Close)
    (harrives : Arrives gateways (.messageArrived connection message))
    (hfound : Found gateways (.messageArrived connection message)) :
    GatewaysInv (gateways.next (.messageArrived connection message)) := by
  refine ⟨hinv.counted_process connection message, ?_⟩
  have hmem : connection ∈ gateways.server.connected := List.mem_append_left _ harrives.1
  obtain ⟨attachment, hlookup, hgateway⟩ := hinv.lookup hmem
  have hopened := hinv.mem_opened_iff hgateway htype harrives hfound
  have hdue := due_close hgateway htype
  have hopens : gateways.opens (.messageArrived connection message) = [] := by
    simp [Gateways.opens, hgateway, htype]
  refine hinv.filed.remove (gateways.due (.messageArrived connection message)) ?_ ?_
  · rw [Gateways.next, hopens, List.append_nil]
  · intro place key
    refine (filed_process_close hlookup hmem htype place key).trans ?_
    rw [hdue]
    by_cases hkey : key = (attachment.id, message.forwardChannel)
    · subst hkey
      by_cases hopen : (attachment.id, message.forwardChannel) ∈ gateways.opened
      · rw [if_pos hopen, if_pos List.mem_cons_self]
        split
        · rfl
        · next hplace =>
          -- it is filed in the place where it is found, and in no other
          rw [← Option.not_isSome_iff_eq_none]
          intro hsome
          rcases hopened.mp hopen with h | h
          · exact hplace ⟨rfl, .inl (hinv.filed.unique _ _ _ hsome h)⟩
          · obtain rfl := hinv.filed.unique _ _ _ hsome h
            refine hplace ⟨rfl, .inr ⟨rfl, Option.not_isSome_iff_eq_none.mp fun h' => ?_⟩⟩
            cases hinv.filed.unique _ _ _ hsome h'
      · rw [if_neg hopen, if_neg List.not_mem_nil]
        have hnone : gateways.server.filed place (attachment.id, message.forwardChannel) = none :=
          Option.not_isSome_iff_eq_none.mp fun h =>
            hopen ((hinv.filed.located _).mpr ⟨place, h⟩)
        rw [hnone, ite_self]
    · rw [if_neg fun h => hkey h.1, if_neg]
      split
      · exact fun h => hkey (List.mem_singleton.mp h)
      · exact List.not_mem_nil

/-- **A message** closes the sessions that are due exactly if the condition holds. -/
lemma GatewaysInv.closesOnce_message (hinv : GatewaysInv gateways)
    (harrives : Arrives gateways (.messageArrived connection message)) :
    ClosesOnce gateways (.messageArrived connection message) ↔
      Found gateways (.messageArrived connection message) := by
  by_cases htype : message.type = .Close
  · exact hinv.closesOnce_close htype harrives
  · have hmem : connection ∈ gateways.server.connected := List.mem_append_left _ harrives.1
    obtain ⟨attachment, -, hgateway⟩ := hinv.lookup hmem
    have hdue : gateways.due (.messageArrived connection message) = [] := by
      simp [Gateways.due, hgateway, htype]
    refine iff_of_true ?_ fun h => absurd h htype
    rw [ClosesOnce, hdue, SocketStep.next, closes_process_of_ne _ _ htype]

/-- **A message** keeps the invariant, if the condition holds. -/
lemma GatewaysInv.messageArrived (hinv : GatewaysInv gateways)
    (harrives : Arrives gateways (.messageArrived connection message))
    (hfound : Found gateways (.messageArrived connection message)) :
    GatewaysInv (gateways.next (.messageArrived connection message)) := by
  cases htype : message.type with
  | Open => exact hinv.messageOpen htype harrives
  | Close => exact hinv.messageClose htype harrives hfound
  | Message => exact hinv.messageMessage htype harrives

end Messages

section Jobs

variable {closed : κ} {attachment : ConnectionAttachment κ γ}

/-- What a connection has is a session of its gateway. -/
lemma gatewayOf_of_filed {connection : κ} {key : γ × Int32}
    (h : (gateways.server.filed (some connection) key).isSome) :
    connection ∈ gateways.server.connected ∧
      gateways.server.gatewayOf connection = some key.1 := by
  rw [SocketServer.filed] at h
  split at h
  · next hmem =>
    refine ⟨hmem, ?_⟩
    cases hlookup : gateways.server.attachments.lookup connection with
    | none =>
      rw [hlookup] at h
      cases h
    | some attachment =>
      rw [hlookup, Option.bind_some] at h
      split at h
      · next hid => rw [gatewayOf_of_lookup hlookup, hid]
      · cases h
  · cases h

/-- The sessions of a connection know their channels. -/
lemma GatewaysInv.channel (hinv : GatewaysInv gateways) (hjob : closed ∈ gateways.server.jobs)
    (hlookup : gateways.server.attachments.lookup closed = some attachment) (channel : Int32)
    (session : SessionController κ) (h : attachment.sessions.lookup channel = some session) :
    session.channelId = channel := by
  refine hinv.filed.channel (some closed) (attachment.id, channel) session ?_
  rw [filed_of_lookup hlookup (List.mem_append_right _ hjob), if_pos rfl, h]

/-- The sessions that the job of a connection is to close. -/
lemma GatewaysInv.due_cleanUp (hinv : GatewaysInv gateways) (hjob : closed ∈ gateways.server.jobs)
    (hlookup : gateways.server.attachments.lookup closed = some attachment) :
    gateways.due (.cleanUp closed) =
      if gateways.server.connectionSizePerGateway attachment.id ≤ 1 then
        gateways.opened.filter (·.1 = attachment.id)
      else [] := by
  have hgateway := gatewayOf_of_lookup hlookup
  have hlast := hinv.counted.isLast_iff (List.mem_append_right _ hjob) hgateway
  simp only [Gateways.due, hgateway, hlast]

/-- Where the condition holds of the job of the last connection, the connection has the sessions
that are open on its gateway. -/
lemma GatewaysInv.filed_iff_of_last (hinv : GatewaysInv gateways)
    (hjob : closed ∈ gateways.server.jobs)
    (hlookup : gateways.server.attachments.lookup closed = some attachment)
    (hsize : gateways.server.connectionSizePerGateway attachment.id ≤ 1)
    (hdead : ∀ channel, gateways.server.deadSessions.lookup (attachment.id, channel) = none)
    {place : Option κ} {channel : Int32}
    (h : (gateways.server.filed place (attachment.id, channel)).isSome) : place = some closed := by
  have hgateway := gatewayOf_of_lookup hlookup
  have hlast := (hinv.counted.isLast_iff (List.mem_append_right _ hjob) hgateway).mpr hsize
  rw [SocketServer.isLast, List.all_eq_true] at hlast
  cases place with
  | none =>
    rw [SocketServer.filed, hdead] at h
    cases h
  | some other =>
    obtain ⟨hmem, hother⟩ := gatewayOf_of_filed h
    have hcase := of_decide_eq_true (hlast other hmem)
    rw [hgateway, hother] at hcase
    exact congrArg some (hcase.resolve_right fun hne => hne rfl)

omit [DecidableEq κ] in
/-- A gateway has no dead sessions if none is found. -/
lemma keys_ne_iff {server : SocketServer κ γ} {gateway : γ} :
    (∀ key ∈ server.deadSessions.keys, key.1 ≠ gateway) ↔
      ∀ channel, server.deadSessions.lookup (gateway, channel) = none := by
  constructor
  · intro h channel
    exact AList.lookup_eq_none.mpr fun hmem => h _ hmem rfl
  · rintro h ⟨gateway', channel⟩ hmem rfl
    exact AList.lookup_eq_none.mp (h channel) hmem

/-- **A job** closes the sessions that are due exactly if the condition holds. -/
lemma GatewaysInv.closesOnce_cleanUp (hinv : GatewaysInv gateways)
    (hjob : closed ∈ gateways.server.jobs) :
    ClosesOnce gateways (.cleanUp closed) ↔ Found gateways (.cleanUp closed) := by
  have hmem : closed ∈ gateways.server.connected := List.mem_append_right _ hjob
  obtain ⟨attachment, hlookup, hgateway⟩ := hinv.lookup hmem
  have hdue := hinv.due_cleanUp hjob hlookup
  have hchannel := hinv.channel hjob hlookup
  have hown : ∀ channel, channel ∈ attachment.sessions.keys ↔
      (gateways.server.filed (some closed) (attachment.id, channel)).isSome := by
    intro channel
    rw [filed_of_lookup hlookup hmem, if_pos rfl]
    exact AList.lookup_isSome.symm
  by_cases hsize : gateways.server.connectionSizePerGateway attachment.id ≤ 1
  · rw [if_pos hsize] at hdue
    obtain ⟨hcloses, -, -⟩ := cleanUp_of_le_one hlookup hchannel hsize
    rw [ClosesOnce, hdue, SocketStep.next, hcloses]
    constructor
    · intro hperm gateway hgateway' _
      obtain rfl := Option.some.inj (hgateway.symm.trans hgateway')
      refine keys_ne_iff.mpr fun channel => ?_
      by_contra hdead
      have hfiled : (gateways.server.filed none (attachment.id, channel)).isSome :=
        Option.ne_none_iff_isSome.mp hdead
      -- a dead session is due, but it is not among those that are closed
      have hmemDue : (attachment.id, channel) ∈
          gateways.opened.filter (·.1 = attachment.id) :=
        List.mem_filter.mpr ⟨(hinv.filed.located _).mpr ⟨none, hfiled⟩, by simp⟩
      obtain ⟨channel', hkey, heq⟩ := List.mem_map.mp (hperm.mem_iff.mpr hmemDue)
      obtain ⟨-, rfl⟩ := Prod.mk.inj heq
      cases hinv.filed.unique _ _ _ hfiled ((hown _).mp hkey)
    · intro hfound
      have hdead := keys_ne_iff.mp (hfound attachment.id hgateway hsize)
      have hnodup : (attachment.sessions.keys.map (attachment.id, ·)).Nodup :=
        attachment.sessions.keys_nodup.map fun _ _ h => (Prod.mk.inj h).2
      refine (List.perm_ext_iff_of_nodup hnodup (hinv.filed.nodup.filter _)).mpr fun key => ?_
      rw [List.mem_map, List.mem_filter, hinv.filed.located]
      constructor
      · rintro ⟨channel, hkey, rfl⟩
        exact ⟨⟨some closed, (hown channel).mp hkey⟩, by simp⟩
      · rintro ⟨⟨place, hplace⟩, hid⟩
        obtain ⟨gateway, channel⟩ := key
        obtain rfl : gateway = attachment.id := of_decide_eq_true hid
        obtain rfl := hinv.filed_iff_of_last hjob hlookup hsize hdead hplace
        exact ⟨channel, (hown channel).mpr hplace, rfl⟩
  · rw [if_neg hsize] at hdue
    obtain ⟨hout, -⟩ := cleanUp_of_two_le hlookup hchannel hsize
    refine iff_of_true ?_ fun gateway hgateway' hle => ?_
    · rw [ClosesOnce, hdue, SocketStep.next, hout]
      exact .refl _
    · obtain rfl := Option.some.inj (hgateway.symm.trans hgateway')
      exact absurd hle hsize

/-- What is filed after the job of the last connection: nothing of its gateway. -/
lemma GatewaysInv.filed_cleanUp_last (hinv : GatewaysInv gateways)
    (hjob : closed ∈ gateways.server.jobs)
    (hlookup : gateways.server.attachments.lookup closed = some attachment)
    (hsize : gateways.server.connectionSizePerGateway attachment.id ≤ 1)
    (hdead : ∀ channel, gateways.server.deadSessions.lookup (attachment.id, channel) = none)
    (place : Option κ) (key : γ × Int32) :
    (gateways.server.cleanUp closed).1.filed place key =
      if key.1 = attachment.id then none else gateways.server.filed place key := by
  have hmem : closed ∈ gateways.server.connected := List.mem_append_right _ hjob
  obtain ⟨-, hcleaned, hdeadAfter⟩ :=
    cleanUp_of_le_one hlookup (hinv.channel hjob hlookup) hsize
  cases place with
  | none => exact hdeadAfter key
  | some connection =>
    rw [hcleaned.filed hinv.counted.nodup hjob]
    by_cases hclosed : connection = closed
    · subst hclosed
      rw [if_pos rfl]
      split
      · rfl
      · next hid => rw [filed_of_lookup hlookup hmem, if_neg fun h => hid h.symm]
    · rw [if_neg hclosed]
      split
      · next hid =>
        rw [← Option.not_isSome_iff_eq_none]
        intro hsome
        obtain ⟨gateway, channel⟩ := key
        obtain rfl : gateway = attachment.id := hid
        exact hclosed (Option.some.inj (hinv.filed_iff_of_last hjob hlookup hsize hdead hsome))
      · rfl

/-- **The job of the last connection** keeps the invariant, if no session is dead. -/
lemma GatewaysInv.cleanUpLast (hinv : GatewaysInv gateways)
    (hjob : closed ∈ gateways.server.jobs)
    (hlookup : gateways.server.attachments.lookup closed = some attachment)
    (hsize : gateways.server.connectionSizePerGateway attachment.id ≤ 1)
    (hdead : ∀ channel, gateways.server.deadSessions.lookup (attachment.id, channel) = none) :
    GatewaysInv (gateways.next (.cleanUp closed)) := by
  have hdue := hinv.due_cleanUp hjob hlookup
  rw [if_pos hsize] at hdue
  obtain ⟨-, hcleaned, -⟩ := cleanUp_of_le_one hlookup (hinv.channel hjob hlookup) hsize
  constructor
  · exact hinv.counted.erase hjob (gatewayOf_of_lookup hlookup) hcleaned.active hcleaned.jobs
      hcleaned.gatewayOf hcleaned.counter
  · refine hinv.filed.remove (gateways.due (.cleanUp closed)) (List.append_nil _) ?_
    intro place key
    refine (hinv.filed_cleanUp_last hjob hlookup hsize hdead place key).trans ?_
    rw [hdue]
    by_cases hid : key.1 = attachment.id
    · rw [if_pos hid]
      split
      · rfl
      · next hkey =>
        symm
        rw [← Option.not_isSome_iff_eq_none]
        intro hsome
        exact hkey (List.mem_filter.mpr
          ⟨(hinv.filed.located _).mpr ⟨place, hsome⟩, decide_eq_true hid⟩)
    · have hkey : key ∉ gateways.opened.filter (·.1 = attachment.id) :=
        fun h => hid (of_decide_eq_true (List.mem_filter.mp h).2)
      rw [if_neg hid, if_neg hkey]

/-- **The job of a connection that is not the last** keeps the invariant: its sessions move to the
dead ones. -/
lemma GatewaysInv.cleanUpOther (hinv : GatewaysInv gateways)
    (hjob : closed ∈ gateways.server.jobs)
    (hlookup : gateways.server.attachments.lookup closed = some attachment)
    (hsize : ¬gateways.server.connectionSizePerGateway attachment.id ≤ 1) :
    GatewaysInv (gateways.next (.cleanUp closed)) := by
  have hmem : closed ∈ gateways.server.connected := List.mem_append_right _ hjob
  have hdue := hinv.due_cleanUp hjob hlookup
  rw [if_neg hsize] at hdue
  obtain ⟨-, hcleaned, hdeadAfter, hidAfter⟩ :=
    cleanUp_of_two_le hlookup (hinv.channel hjob hlookup) hsize
  have hafter := hcleaned.filed hinv.counted.nodup hjob
  constructor
  · exact hinv.counted.erase hjob (gatewayOf_of_lookup hlookup) hcleaned.active hcleaned.jobs
      hcleaned.gatewayOf hcleaned.counter
  · refine hinv.filed.move (fun place _ => if place = some closed then none else place)
      (opened_next_of_nil hdue rfl) (fun place key session h => ?_) (fun place key => ?_)
    · cases place with
      | none => exact hidAfter (hinv.filed.channel none) key session h
      | some connection =>
        have hsession : (if connection = closed then none
            else gateways.server.filed (some connection) key) = some session :=
          (hafter connection key).symm.trans h
        split at hsession
        · cases hsession
        · exact hinv.filed.channel _ key session hsession
    · cases place with
      | none =>
        refine (hdeadAfter key).trans ?_
        constructor
        · rintro (h | ⟨hid, h⟩)
          · exact ⟨none, h, rfl⟩
          · refine ⟨some closed, ?_, if_pos rfl⟩
            rwa [filed_of_lookup hlookup hmem, if_pos hid.symm]
        · rintro ⟨place, hplace, heq⟩
          split at heq
          · next hclosed =>
            rw [hclosed, filed_of_lookup hlookup hmem] at hplace
            split at hplace
            · next hid => exact .inr ⟨hid.symm, hplace⟩
            · cases hplace
          · subst heq
            exact .inl hplace
      | some connection =>
        change ((gateways.server.cleanUp closed).1.filed (some connection) key).isSome ↔ _
        rw [hafter]
        by_cases hclosed : connection = closed
        · rw [if_pos hclosed]
          refine iff_of_false (by simp) ?_
          rintro ⟨place, -, heq⟩
          split at heq
          · cases heq
          · next hplace => exact hplace (heq.trans (congrArg some hclosed))
        · rw [if_neg hclosed]
          constructor
          · intro h
            exact ⟨some connection, h, if_neg fun heq => hclosed (Option.some.inj heq)⟩
          · rintro ⟨place, hplace, heq⟩
            split at heq
            · cases heq
            · subst heq
              exact hplace

/-- **A job** keeps the invariant, if the condition holds. -/
lemma GatewaysInv.cleanUp (hinv : GatewaysInv gateways) (hjob : closed ∈ gateways.server.jobs)
    (hfound : Found gateways (.cleanUp closed)) :
    GatewaysInv (gateways.next (.cleanUp closed)) := by
  obtain ⟨attachment, hlookup, hgateway⟩ := hinv.lookup (List.mem_append_right _ hjob)
  by_cases hsize : gateways.server.connectionSizePerGateway attachment.id ≤ 1
  · exact hinv.cleanUpLast hjob hlookup hsize
      (keys_ne_iff.mp (hfound attachment.id hgateway hsize))
  · exact hinv.cleanUpOther hjob hlookup hsize

end Jobs

end Steps

/-! ## Whole runs -/

/-- The invariant holds before any connection shakes hands. -/
lemma gatewaysInv_start : GatewaysInv ({} : Gateways κ γ) := by
  have hfiled : ∀ place key, ({} : SocketServer κ γ).filed place key = none := by
    intro place key
    cases place with
    | none => exact AList.lookup_empty key
    | some connection =>
      have hnotMem : connection ∉ ({} : SocketServer κ γ).connected := List.not_mem_nil
      rw [SocketServer.filed, if_neg hnotMem]
  refine ⟨⟨?_, List.nodup_nil, fun _ => rfl⟩, ⟨?_, fun key => ?_, ?_, List.nodup_nil⟩⟩
  · intro connection hmem
    cases hmem
  · intro place key session h
    rw [hfiled] at h
    cases h
  · refine iff_of_false List.not_mem_nil ?_
    rintro ⟨place, h⟩
    rw [hfiled] at h
    cases h
  · intro place place' key h
    rw [hfiled] at h
    cases h

/-- **A step** closes the sessions that are due exactly if the condition holds. -/
theorem GatewaysInv.closesOnce_iff {gateways : Gateways κ γ} (hinv : GatewaysInv gateways)
    {step : SocketStep κ γ} (harrives : Arrives gateways step) :
    ClosesOnce gateways step ↔ Found gateways step := by
  cases step with
  | handshakeMessage connection gateway => exact iff_of_true (.refl _) trivial
  | messageArrived connection message => exact hinv.closesOnce_message harrives
  | connectionClosed connection => exact iff_of_true (.refl _) trivial
  | cleanUp connection => exact hinv.closesOnce_cleanUp harrives

/-- **A step** keeps the invariant, if the condition holds. -/
theorem GatewaysInv.next {gateways : Gateways κ γ} (hinv : GatewaysInv gateways)
    {step : SocketStep κ γ} (harrives : Arrives gateways step) (hfound : Found gateways step) :
    GatewaysInv (gateways.next step) := by
  cases step with
  | handshakeMessage connection gateway => exact hinv.handshakeMessage harrives
  | messageArrived connection message => exact hinv.messageArrived harrives hfound
  | connectionClosed connection => exact hinv.connectionClosed harrives
  | cleanUp connection => exact hinv.cleanUp harrives hfound

/-- **Every session is closed once exactly if the condition holds**, in every run of gateways that
keep to what they should. -/
theorem closesOnce_iff_found (steps : List (SocketStep κ γ))
    (harrives : Runs.EveryStep Gateways.next Arrives {} steps) :
    Runs.EveryStep Gateways.next ClosesOnce {} steps ↔
      Runs.EveryStep Gateways.next Found {} steps :=
  Runs.everyStep_congr
    (fun gateways rest => GatewaysInv gateways ∧ Runs.EveryStep Gateways.next Arrives gateways rest)
    (fun _ _ _ h hfound => ⟨h.1.next h.2.1 hfound, h.2.2⟩)
    (fun _ _ _ h => h.1.closesOnce_iff h.2.1) ⟨gatewaysInv_start, harrives⟩

/-- Two connections of a gateway. A session of the first is taken over by the second when the first
is lost, and closed there; another session is closed when the second is lost. -/
def takeOver : List (SocketStep ℕ ℕ) :=
  [.handshakeMessage 0 0, .handshakeMessage 1 0, .messageArrived 0 ⟨.Open, 7, 0, 0, some []⟩,
    .connectionClosed 0, .cleanUp 0, .messageArrived 1 ⟨.Message, 7, 1, 0, some [42]⟩,
    .messageArrived 1 ⟨.Close, 7, 0, 0, some []⟩, .messageArrived 1 ⟨.Open, 8, 0, 0, some []⟩,
    .connectionClosed 1, .cleanUp 1]

/-- Every session of `takeOver` is closed once. -/
theorem closesOnce_takeOver : Runs.EveryStep Gateways.next Arrives {} takeOver ∧
    Runs.EveryStep Gateways.next ClosesOnce {} takeOver :=
  ⟨by decide, (closesOnce_iff_found takeOver (by decide)).mpr (by decide)⟩

/-- Two connections of a gateway that are lost one after the other, the first with a session. -/
def lostOneByOne : List (SocketStep ℕ ℕ) :=
  [.handshakeMessage 0 0, .handshakeMessage 1 0, .messageArrived 0 ⟨.Open, 7, 0, 0, some []⟩,
    .connectionClosed 0, .cleanUp 0, .connectionClosed 1, .cleanUp 1]

/-- **A session is never closed**: it was dead when the last connection of its gateway was lost. -/
theorem dead_session_not_closed : Runs.EveryStep Gateways.next Arrives {} lostOneByOne ∧
    ¬Runs.EveryStep Gateways.next ClosesOnce {} lostOneByOne := by
  decide

/-- The message that closes a session comes between the loss of its connection and the job. -/
def closedTooSoon : List (SocketStep ℕ ℕ) :=
  [.handshakeMessage 0 0, .handshakeMessage 1 0, .messageArrived 0 ⟨.Open, 7, 0, 0, some []⟩,
    .connectionClosed 0, .messageArrived 1 ⟨.Close, 7, 0, 0, some []⟩]

example : ¬Runs.EveryStep Gateways.next ClosesOnce {} closedTooSoon := by
  decide

end SrgpGame.Socket
