import SrgpGame.Lib.Runs
import SrgpGame.Binding.ConnectorGroup

set_option autoImplicit false

/-!
# What holds of the gateway whatever happens

The connectors of a group are there with their attachments, and a client is bound to a connector
that shook hands. No step breaks this, whatever the counters are.

## Main definitions

* `Wired` — the invariant.
* `Chosen` — what the choice of a connector leaves, and what it returns.

## Main results

* `Wired.setConnector`, `Wired.setGroup`, `Wired.setClient` — what keeps the invariant.
* `chosen_distribute` — the choice with all its tries.
* `Wired.next`, `wired_run` — the invariant holds in every state.
-/

namespace SrgpGame.Binding

open Runs

variable {κ γ ι δ : Type} [DecidableEq κ] [DecidableEq γ] [DecidableEq ι]

/-- **The invariant of the gateway.** -/
structure Wired (g : GatewayServer κ γ ι δ) : Prop where
  /-- The connectors of a group have attachments that name it. -/
  member : ∀ id connections c, g.groups.lookup id = some connections → c ∈ connections →
    ∃ attachment, g.getAttachment c = some attachment ∧ attachment.gameServerId = id
  nodup : ∀ id connections, g.groups.lookup id = some connections → connections.Nodup
  /-- Clients are bound to connectors that shook hands. -/
  known : ∀ k client c, g.clients.lookup k = some client →
    client.gameConnector = some c → g.isKnown c
  /-- There is no attachment before the handshake. -/
  fresh : ∀ k client, g.clients.lookup k = some client → client.shaken = false →
    client.attachment = none

namespace Wired

variable {g : GatewayServer κ γ ι δ}

lemma empty : Wired (GatewayServer.empty : GatewayServer κ γ ι δ) := by
  constructor <;> intros <;> simp_all [GatewayServer.empty]

lemma member_group (h : Wired g) {id : ι} {c : κ} (hc : c ∈ g.group id) :
    ∃ attachment, g.getAttachment c = some attachment ∧ attachment.gameServerId = id := by
  obtain ⟨connections, hlookup, hmem⟩ := g.mem_group hc
  exact h.member id connections c hlookup hmem

/-- **A connector changes**, and keeps its attachment if it is in a group. -/
lemma setConnector (h : Wired g) {c : κ} {connector : Connector ι δ}
    (hmember : ∀ id connections, g.groups.lookup id = some connections → c ∈ connections →
      ∃ attachment, connector.getAttachment = some attachment ∧ attachment.gameServerId = id)
    (hknown : g.isKnown c → connector.isKnown) : Wired (g.setConnector c connector) := by
  refine ⟨fun id connections c' hlookup hc' => ?_, h.nodup, fun k client c' hlookup hc' => ?_,
    h.fresh⟩
  · rw [g.getAttachment_setConnector]
    split
    · next heq =>
      subst heq
      exact hmember id connections hlookup hc'
    · exact h.member id connections c' hlookup hc'
  · rw [g.isKnown_setConnector]
    have hold := h.known k client c' hlookup hc'
    split
    · next heq => exact hknown (heq ▸ hold)
    · exact hold

/-- **A group changes**: its connectors have attachments that name it. -/
lemma setGroup (h : Wired g) {id : ι} {connections : List κ}
    (hmember : ∀ c ∈ connections,
      ∃ attachment, g.getAttachment c = some attachment ∧ attachment.gameServerId = id)
    (hnodup : connections.Nodup) : Wired (g.setGroup id connections) := by
  have hlookup : ∀ id', (g.setGroup id connections).groups.lookup id' =
      if id' = id then some connections else g.groups.lookup id' :=
    fun id' => g.groups.lookup_insert_ite id id' connections
  refine ⟨fun id' connections' c hgroup hc => ?_, fun id' connections' hgroup => ?_, h.known,
    h.fresh⟩
  · rw [hlookup] at hgroup
    split at hgroup
    · next heq =>
      cases hgroup
      rw [heq]
      exact hmember c hc
    · exact h.member id' connections' c hgroup hc
  · rw [hlookup] at hgroup
    split at hgroup
    · cases hgroup
      exact hnodup
    · exact h.nodup id' connections' hgroup

/-- **A client changes**: it is bound to a connector that shook hands, after its own handshake. -/
lemma setClient (h : Wired g) {k : γ} {client : Client κ ι}
    (hknown : ∀ c, client.gameConnector = some c → g.isKnown c)
    (hfresh : client.shaken = false → client.attachment = none) :
    Wired (g.setClient k client) := by
  have hlookup : ∀ k', (g.setClient k client).clients.lookup k' =
      if k' = k then some client else g.clients.lookup k' :=
    fun k' => g.clients.lookup_insert_ite k k' client
  refine ⟨h.member, h.nodup, fun k' client' c hclient hc => ?_, fun k' client' hclient hs => ?_⟩
  · rw [hlookup] at hclient
    split at hclient
    · cases hclient
      exact hknown c hc
    · exact h.known k' client' c hclient hc
  · rw [hlookup] at hclient
    split at hclient
    · cases hclient
      exact hfresh hs
    · exact h.fresh k' client' hclient hs

lemma incrementSession (h : Wired g) (c : κ) : Wired (g.incrementSession c) := by
  unfold GatewayServer.incrementSession
  cases hlookup : g.connectors.lookup c with
  | none => exact h
  | some connector =>
    refine h.setConnector (fun id connections hgroup hc => ?_) fun hknown => ?_
    · obtain ⟨attachment, hattachment, hid⟩ := h.member id connections c hgroup hc
      rw [GatewayServer.getAttachment, hlookup] at hattachment
      cases connector with
      | opened active dest => cases hattachment
      | shaken active dest attachment' =>
        cases hattachment
        exact ⟨attachment.incrementSession, rfl, hid⟩
      | cleared => cases hattachment
    · rw [GatewayServer.isKnown, hlookup] at hknown
      cases connector <;> exact hknown

end Wired

/-! ## The choice of a connector -/

/-- **What the choice of a connector leaves**: only connectors change, and what is returned shook
hands. -/
structure Chosen (g : GatewayServer κ γ ι δ) (r : Option κ × GatewayServer κ γ ι δ) : Prop where
  wired : Wired r.2
  groups : r.2.groups = g.groups
  clients : r.2.clients = g.clients
  known : ∀ c, r.1 = some c → r.2.isKnown c

namespace GatewayServer

variable {g : GatewayServer κ γ ι δ}

lemma chosen_distributeConnector (h : Wired g) (id : ι) :
    Chosen g (g.distributeConnector id) := by
  have hnone : Chosen g (none, g) := ⟨h, rfl, rfl, fun c hc => by cases hc⟩
  unfold distributeConnector
  cases hget : g.getBinding (g.group id) with
  | error e => exact hnone
  | ok r =>
    cases hgroup : g.group id with
    | nil =>
      rw [hgroup] at hget
      cases hget
      exact hnone
    | cons first rest =>
      rw [hgroup] at hget
      obtain ⟨best, hmin, hbest⟩ := Except.bind_eq_ok.mp hget
      have hmem : best ∈ g.group id := hgroup ▸ mem_of_minFrom hmin
      obtain ⟨attachment, hattachment, -⟩ := h.member_group hmem
      have hknown := g.isKnown_of_getAttachment hattachment
      split at hbest
      · cases hbest
        refine ⟨h.incrementSession best, by simp, by simp, fun c hc => ?_⟩
        cases hc
        simpa using hknown
      · cases hbest
        refine ⟨h, rfl, rfl, fun c hc => ?_⟩
        cases hc
        exact hknown

/-- More tries leave no more than one. -/
lemma chosen_retry {id : ι} {tries : ℕ} {r : Option κ × GatewayServer κ γ ι δ}
    (h : Chosen g r) : Chosen g (retry id tries r) := by
  induction tries generalizing r with
  | zero => exact ⟨h.wired, h.groups, h.clients, fun c hc => by cases hc⟩
  | succ tries ih =>
    obtain ⟨connector, g'⟩ := r
    cases connector with
    | none => exact h
    | some c =>
      unfold retry
      split
      · exact h
      · apply ih
        split
        · have hnext := chosen_distributeConnector h.wired id
          exact ⟨hnext.wired, hnext.groups.trans h.groups, hnext.clients.trans h.clients,
            hnext.known⟩
        · exact h

/-- **The choice with all its tries.** -/
theorem chosen_distribute (h : Wired g) (id : ι) : Chosen g (g.distribute id) :=
  chosen_retry (chosen_distributeConnector h id)

end GatewayServer

/-! ## Steps -/

namespace Wired

variable {g : GatewayServer κ γ ι δ} {k : γ} {client : Client κ ι}

/-- A client changes, but keeps its attachment or loses it. -/
lemma setClient_of_attachment {client' : Client κ ι} (h : Wired g)
    (hlookup : g.clients.lookup k = some client)
    (hattachment : client'.attachment = client.attachment ∨ client'.attachment = none)
    (hshaken : client'.shaken = false → client.shaken = false) :
    Wired (g.setClient k client') := by
  refine h.setClient (fun c hc => ?_) fun hs => ?_
  · rcases hattachment with hsame | hnone
    · refine h.known k client c hlookup ?_
      rwa [Client.gameConnector, hsame] at hc
    · rw [Client.gameConnector, hnone] at hc
      cases hc
  · rcases hattachment with hsame | hnone
    · rw [hsame]
      exact h.fresh k client hlookup (hshaken hs)
    · exact hnone

lemma clearClient (h : Wired g) (k : γ) : Wired (g.clearClient k) := by
  unfold GatewayServer.clearClient
  cases hlookup : g.clients.lookup k with
  | none => exact h
  | some client => exact h.setClient_of_attachment hlookup (.inr rfl) id

lemma rebind (h : Wired g) (hlookup : g.clients.lookup k = some client) :
    Wired (g.rebind k client) := by
  unfold GatewayServer.rebind
  cases hattachment : client.attachment with
  | none => exact h
  | some attachment =>
    show Wired (if g.isBound attachment then g else _)
    split
    · exact h
    · have hchosen := GatewayServer.chosen_distribute h attachment.bindGameServerId
      refine hchosen.wired.setClient hchosen.known fun hs => ?_
      have hnone := h.fresh k client hlookup hs
      rw [hattachment] at hnone
      cases hnone

lemma process (h : Wired g) (hlookup : g.clients.lookup k = some client)
    (type : Gateway.MessageType) : Wired (g.process k client type) := by
  unfold GatewayServer.process
  split
  · exact (h.rebind hlookup).clearClient k
  · exact h.rebind hlookup

lemma runJob (h : Wired g) (k : γ) : Wired (g.runJob k) := by
  unfold GatewayServer.runJob
  cases hlookup : g.clients.lookup k with
  | none => exact h
  | some client =>
    cases hjobs : client.jobs with
    | nil => simpa [hjobs] using h
    | cons type jobs =>
      simp only [hjobs]
      have hpopped : Wired (g.setClient k { client with jobs := jobs }) :=
        h.setClient_of_attachment hlookup (.inl rfl) id
      exact hpopped.process (AList.lookup_insert _) type

lemma clientOpened (h : Wired g) (k : γ) : Wired (g.clientOpened k) := by
  unfold GatewayServer.clientOpened
  split
  · exact h.setClient (fun c hc => by cases hc) fun _ => rfl
  · exact h

lemma clientHandshake (h : Wired g) (serverIdMapping : ι → ι) (k : γ) (msg : ι) :
    Wired (g.clientHandshake serverIdMapping k msg) := by
  unfold GatewayServer.clientHandshake
  cases hlookup : g.clients.lookup k with
  | none => exact h
  | some client =>
    by_cases hdone : client.shaken ∨ client.closed
    · simpa [hdone] using h
    · have hfresh := h.fresh k client hlookup (by simpa using fun hs => hdone (.inl hs))
      simp only [hdone, if_false]
      split
      · exact h.setClient (fun c hc => by cases hc) fun hs => by cases hs
      · exact h.setClient (fun c hc => by simp [Client.gameConnector, hfresh] at hc) fun _ => hfresh

lemma clientMessage (h : Wired g) (k : γ) : Wired (g.clientMessage k) := by
  unfold GatewayServer.clientMessage
  cases hlookup : g.clients.lookup k with
  | none => exact h
  | some client =>
    show Wired (if _ then _ else _)
    split
    · exact h.setClient_of_attachment hlookup (.inl rfl) id
    · exact h

lemma clientClosed (h : Wired g) (k : γ) : Wired (g.clientClosed k) := by
  unfold GatewayServer.clientClosed
  cases hlookup : g.clients.lookup k with
  | none => exact h
  | some client =>
    show Wired (if _ then _ else _)
    split
    · exact h
    · exact h.setClient_of_attachment hlookup (.inl rfl) id

/-- A connector that did not shake hands is in no group. -/
lemma not_mem_of_not_known (h : Wired g) {c : κ} (hc : g.isKnown c = false) {id : ι}
    {connections : List κ} (hgroup : g.groups.lookup id = some connections) : c ∉ connections := by
  intro hmem
  obtain ⟨attachment, hattachment, -⟩ := h.member id connections c hgroup hmem
  have hknown := g.isKnown_of_getAttachment hattachment
  rw [hc] at hknown
  cases hknown

lemma connectorOpened (h : Wired g) (c : κ) (dest : δ) : Wired (g.connectorOpened c dest) := by
  unfold GatewayServer.connectorOpened
  cases hlookup : g.connectors.lookup c with
  | some connector => exact h
  | none =>
    have hnew : g.isKnown c = false := by rw [GatewayServer.isKnown, hlookup]; rfl
    refine h.setConnector (fun id connections hgroup hc => ?_) fun hknown => ?_
    · exact absurd hc (h.not_mem_of_not_known hnew hgroup)
    · rw [hnew] at hknown
      cases hknown

lemma connectorLost (h : Wired g) (c : κ) : Wired (g.connectorLost c) := by
  unfold GatewayServer.connectorLost
  cases hlookup : g.connectors.lookup c with
  | none => exact h
  | some connector =>
    refine h.setConnector (fun id connections hgroup hc => ?_) fun hknown => ?_
    · obtain ⟨attachment, hattachment, hid⟩ := h.member id connections c hgroup hc
      rw [GatewayServer.getAttachment, hlookup] at hattachment
      refine ⟨attachment, ?_, hid⟩
      cases connector <;> exact hattachment
    · rw [GatewayServer.isKnown, hlookup] at hknown
      cases connector <;> exact hknown

lemma nodup_group (h : Wired g) (id : ι) : (g.group id).Nodup := by
  unfold GatewayServer.group
  cases hgroup : g.groups.lookup id with
  | none => exact List.nodup_nil
  | some connections => exact h.nodup id connections hgroup

/-- A connector is removed from its group, and is in no other. -/
lemma removeConnector (h : Wired g) (c : κ) :
    Wired (g.removeConnector c) ∧ ∀ id connections,
      (g.removeConnector c).groups.lookup id = some connections → c ∉ connections := by
  unfold GatewayServer.removeConnector
  cases hattachment : g.getAttachment c with
  | none =>
    refine ⟨h, fun id connections hgroup hc => ?_⟩
    obtain ⟨attachment, hsome, -⟩ := h.member id connections c hgroup hc
    rw [hattachment] at hsome
    cases hsome
  | some attachment =>
    have hid : ∀ id connections, g.groups.lookup id = some connections → c ∈ connections →
        id = attachment.gameServerId := by
      intro id connections hgroup hc
      obtain ⟨attachment', hsome, hid⟩ := h.member id connections c hgroup hc
      rw [hattachment] at hsome
      cases hsome
      exact hid.symm
    simp only
    cases hgroup : g.groups.lookup attachment.gameServerId with
    | none =>
      refine ⟨h, fun id connections hgroup' hc => ?_⟩
      rw [hid id connections hgroup' hc, hgroup] at hgroup'
      cases hgroup'
    | some connections =>
      have hnodup := h.nodup _ _ hgroup
      refine ⟨h.setGroup (fun c' hc' => ?_) (hnodup.erase c), fun id connections' hgroup' hc => ?_⟩
      · exact h.member _ _ c' hgroup (List.mem_of_mem_erase hc')
      · have hset : (g.setGroup attachment.gameServerId (connections.erase c)).groups.lookup id =
            if id = attachment.gameServerId then some (connections.erase c)
            else g.groups.lookup id := g.groups.lookup_insert_ite _ id _
        rw [hset] at hgroup'
        split at hgroup'
        · cases hgroup'
          exact hnodup.not_mem_erase hc
        · next hne => exact hne (hid id connections' hgroup' hc)

lemma connectorClosed (h : Wired g) (c : κ) : Wired (g.connectorClosed c) := by
  obtain ⟨hremoved, hnone⟩ := h.removeConnector c
  unfold GatewayServer.connectorClosed
  cases hlookup : g.connectors.lookup c with
  | none => exact h
  | some connector =>
    show Wired (if _ then _ else _)
    split
    · exact h
    · exact hremoved.setConnector (fun id connections hgroup hc =>
        absurd hc (hnone id connections hgroup)) fun _ => rfl

variable [DecidableEq δ]

lemma connectorHandshake (h : Wired g) (c : κ) (msg : ι) : Wired (g.connectorHandshake c msg) := by
  unfold GatewayServer.connectorHandshake
  cases hlookup : g.connectors.lookup c with
  | none => exact h
  | some connector =>
    cases connector with
    | shaken active dest attachment => exact h
    | cleared => exact h
    | opened active dest =>
      have hnew : g.isKnown c = false := by rw [GatewayServer.isKnown, hlookup]; rfl
      have hshaken : Wired (g.setConnector c (.shaken active dest ⟨msg, 0⟩)) :=
        h.setConnector (fun id connections hgroup hc =>
          absurd hc (h.not_mem_of_not_known hnew hgroup)) fun _ => rfl
      have hother : c ∉ g.group msg := by
        intro hmem
        obtain ⟨connections, hgroup, hc⟩ := g.mem_group hmem
        exact h.not_mem_of_not_known hnew hgroup hc
      refine hshaken.setGroup (fun c' hc' => ?_) ?_
      · rcases GatewayServer.mem_of_mem_addConnection hc' with hold | rfl
        · exact hshaken.member_group hold
        · exact ⟨⟨msg, 0⟩, by rw [g.getAttachment_setConnector, if_pos rfl]; rfl, rfl⟩
      · exact GatewayServer.nodup_addConnection (h.nodup_group msg) hother

/-- **No step breaks the invariant.** -/
theorem next (serverIdMapping : ι → ι) (h : Wired g) (step : GatewayStep κ γ ι δ) :
    Wired (step.next serverIdMapping g) := by
  cases step with
  | connectorOpened c dest => exact h.connectorOpened c dest
  | connectorHandshake c msg => exact h.connectorHandshake c msg
  | connectorLost c => exact h.connectorLost c
  | connectorClosed c => exact h.connectorClosed c
  | clientOpened k => exact h.clientOpened k
  | clientHandshake k msg => exact h.clientHandshake serverIdMapping k msg
  | clientMessage k => exact h.clientMessage k
  | clientClosed k => exact h.clientClosed k
  | runJob k => exact h.runJob k

end Wired

/-- **The invariant holds in every state.** -/
theorem wired_run [DecidableEq δ] (serverIdMapping : ι → ι) (steps : List (GatewayStep κ γ ι δ)) :
    Wired (run (GatewayStep.next serverIdMapping) GatewayServer.empty steps) :=
  forall_inv_run Wired (fun _ step h => h.next serverIdMapping step) .empty steps

end SrgpGame.Binding
