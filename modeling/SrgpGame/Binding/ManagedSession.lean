import Mathlib.Data.List.MinMax
import SrgpGame.Binding.Wired

set_option autoImplicit false

/-!
# The counters of connectors go wrong when a bound client leaves

A connector counts the clients that are bound to it when they are bound, and never counts one off:
nothing calls `decrementSession`. A client leaves its connector when it closes, and when it is bound
to another one because the connector is lost. Besides, the choice goes by the counters alone, so a
connector that is lost and still in its group can be chosen before one that is active.

## Main definitions

* `bound` — the number of clients that are bound to a connector.
* `CountsRight`, `BindsLeast` — the counters are right, and the choice is.
* `KeepsCounts`, `NoLostFirst` — when they stay so.

## Main results

* `getBinding_eq` — what `getBinding` chooses while the counters are right.
* `distribute_eq` — what a client is bound to.
* `countsRight_runJob_iff` — what a job does to the counters.
* `balanced_run_iff` — counters and choice are right throughout a run just if no bound client leaves
  and no lost connector comes first.
-/

namespace SrgpGame.Binding

open Runs

variable {κ γ ι δ : Type} [DecidableEq κ]

namespace GatewayServer

section Counters

variable (g : GatewayServer κ γ ι δ)

/-- The number of clients that are bound to a connector. -/
def bound (c : κ) : ℕ := g.clients.values.countP fun client => client.gameConnector = some c

/-- **The counters are right.** -/
def CountsRight : Prop :=
  ∀ c attachment, g.getAttachment c = some attachment →
    attachment.managedSession.toInt = g.bound c

/-- The connector of the client has a counter. -/
def hasCounter (client : Client κ ι) : Bool :=
  client.gameConnector.any fun c => (g.getAttachment c).isSome

lemma hasCounter_iff {client : Client κ ι} :
    g.hasCounter client ↔
      ∃ c counter, client.gameConnector = some c ∧ g.getAttachment c = some counter := by
  unfold hasCounter
  cases client.gameConnector with
  | none => simp
  | some c => simp [Option.isSome_iff_exists]

lemma isBound_iff {attachment : ClientAttachment κ ι} :
    g.isBound attachment ↔
      ∃ c, attachment.bindGameServerConnector = some c ∧ g.isActive c := by
  unfold isBound
  cases attachment.bindGameServerConnector <;> simp

/-- How a change of one client shows in the number of clients of a connector. -/
lemma bound_setClient [DecidableEq γ] (k : γ) (client : Client κ ι) (c : κ) :
    (g.setClient k client).bound c +
        (if (g.clients.lookup k).bind Client.gameConnector = some c then 1 else 0) =
      g.bound c + if client.gameConnector = some c then 1 else 0 := by
  have hold := g.clients.countP_values_erase k fun client => client.gameConnector = some c
  have hnew := g.clients.countP_values_insert k client fun client => client.gameConnector = some c
  have hany : (g.clients.lookup k).any (fun client => client.gameConnector = some c) ↔
      (g.clients.lookup k).bind Client.gameConnector = some c := by
    cases g.clients.lookup k <;> simp
  simp only [hany, decide_eq_true_eq] at hold hnew
  have hbound : (g.setClient k client).bound c = (g.clients.insert k client).values.countP
      fun client => client.gameConnector = some c := rfl
  rw [hbound, hnew, bound, hold]
  omega

/-- A client that keeps its connector counts as before. -/
lemma bound_setClient_of_eq [DecidableEq γ] {k : γ} {client : Client κ ι}
    (h : (g.clients.lookup k).bind Client.gameConnector = client.gameConnector) :
    (g.setClient k client).bound = g.bound := by
  funext c
  have hset := g.bound_setClient k client c
  rw [h] at hset
  omega

/-- **A client that leaves a counter** puts it wrong. -/
lemma not_countsRight_of_left {g g' : GatewayServer κ γ ι δ} (h : g.CountsRight) {c : κ}
    {attachment : ConnectorAttachment ι}
    (hc : g.getAttachment c = some attachment) (hatt : g'.getAttachment c = some attachment)
    (hbound : g'.bound c + 1 = g.bound c) : ¬g'.CountsRight := by
  intro h'
  have hold := h c attachment hc
  have hnew := h' c attachment hatt
  omega

/-- A client without a connector. -/
lemma bound_clearClient [DecidableEq γ] {k : γ} {client : Client κ ι}
    (hlookup : g.clients.lookup k = some client) (c : κ) :
    (g.clearClient k).bound c + (if client.gameConnector = some c then 1 else 0) = g.bound c := by
  have hset := g.bound_setClient k { client with attachment := none } c
  have hclear : g.clearClient k = g.setClient k { client with attachment := none } := by
    unfold clearClient
    rw [hlookup]
  rw [hlookup] at hset
  rw [hclear]
  exact hset

/-- A client that keeps its connector. -/
lemma CountsRight.setClient [DecidableEq γ] {g : GatewayServer κ γ ι δ} (h : g.CountsRight)
    {k : γ} {client : Client κ ι}
    (hsame : (g.clients.lookup k).bind Client.gameConnector = client.gameConnector) :
    (g.setClient k client).CountsRight := by
  intro c counter hc
  rw [g.bound_setClient_of_eq hsame]
  exact h c counter hc

/-- A connector whose counter is as before, or new. -/
lemma CountsRight.setConnector {g : GatewayServer κ γ ι δ} (h : g.CountsRight) {c : κ}
    {connector : Connector ι δ}
    (hsame : ∀ counter, connector.getAttachment = some counter →
      counter.managedSession.toInt = g.bound c) : (g.setConnector c connector).CountsRight := by
  intro c' counter hc'
  rw [getAttachment_setConnector] at hc'
  split at hc'
  · next heq =>
    rw [heq]
    exact hsame counter hc'
  · exact h c' counter hc'

@[simp] lemma bound_incrementSession (c c' : κ) : (g.incrementSession c).bound c' = g.bound c' := by
  rw [bound, clients_incrementSession, bound]

@[simp] lemma getAttachment_clearClient [DecidableEq γ] (k : γ) (c : κ) :
    (g.clearClient k).getAttachment c = g.getAttachment c := by
  unfold clearClient
  cases g.clients.lookup k <;> rfl

end Counters

/-! ## The choice while the counters are right -/

section Choice

variable {g : GatewayServer κ γ ι δ}

/-- Counters are compared like the numbers of clients. -/
lemma less_eq (h : g.CountsRight) {c c' : κ} {attachment attachment' : ConnectorAttachment ι}
    (hc : g.getAttachment c = some attachment) (hc' : g.getAttachment c' = some attachment') :
    g.less c c' = .ok (decide (g.bound c < g.bound c')) := by
  have hcount := h c attachment hc
  have hcount' := h c' attachment' hc'
  have hlt := Int32.toInt_lt attachment.managedSession
  have hlt' := Int32.toInt_lt attachment'.managedSession
  have hsub : (attachment.managedSession - attachment'.managedSession).toInt =
      attachment.managedSession.toInt - attachment'.managedSession.toInt :=
    Int32.toInt_sub_of_fits (by omega) (by omega)
  have hless : attachment.managedSession - attachment'.managedSession < 0 ↔
      g.bound c < g.bound c' := by
    rw [Int32.lt_zero_iff, hsub]
    omega
  rw [less, hc, hc']
  simp only [hless]

/-- **The loop of `Collections.min`** finds the first element with the fewest clients. -/
lemma minFrom_eq (h : g.CountsRight) {candidate : κ} {rest : List κ}
    (hattached : ∀ c ∈ candidate :: rest, ∃ attachment, g.getAttachment c = some attachment) :
    ∃ best, g.minFrom candidate rest = .ok best ∧
      (candidate :: rest).argmin g.bound = some best := by
  have hloop : ∀ (rest : List κ) (candidate : κ),
      (∀ c ∈ candidate :: rest, ∃ attachment, g.getAttachment c = some attachment) →
        ∃ best, g.minFrom candidate rest = .ok best ∧
          rest.foldl (List.argAux fun c c' => g.bound c < g.bound c') (some candidate) =
            some best := by
    intro rest
    induction rest with
    | nil => exact fun candidate _ => ⟨candidate, rfl, rfl⟩
    | cons next rest ih =>
      intro candidate hattached
      obtain ⟨hcandidate, hnext, hrest⟩ :=
        (List.forall_mem_cons.trans (and_congr_right fun _ => List.forall_mem_cons)).mp hattached
      obtain ⟨attachment, hc⟩ := hnext
      obtain ⟨attachment', hc'⟩ := hcandidate
      have hstep : g.minFrom candidate (next :: rest) =
          g.minFrom (if g.bound next < g.bound candidate then next else candidate) rest := by
        rw [minFrom, less_eq h hc hc']
        simp only [bind, Except.bind, decide_eq_true_eq]
      rw [hstep, List.foldl_cons]
      by_cases hlt : g.bound next < g.bound candidate
      · have haux : List.argAux (fun c c' => g.bound c < g.bound c') (some candidate) next =
            some next := if_pos hlt
        rw [if_pos hlt, haux]
        exact ih next (List.forall_mem_cons.mpr ⟨⟨attachment, hc⟩, hrest⟩)
      · have haux : List.argAux (fun c c' => g.bound c < g.bound c') (some candidate) next =
            some candidate := if_neg hlt
        rw [if_neg hlt, haux]
        exact ih candidate (List.forall_mem_cons.mpr ⟨⟨attachment', hc'⟩, hrest⟩)
  exact hloop rest candidate hattached

/-- What a choice leaves: the counter of an active connector goes up. -/
def afterChoice (g : GatewayServer κ γ ι δ) (best : κ) : GatewayServer κ γ ι δ :=
  if g.isActive best then g.incrementSession best else g

/-- **The choice** falls on the first connector with the fewest clients. -/
theorem getBinding_eq (h : g.CountsRight) {connections : List κ} {best : κ}
    (hattached : ∀ c ∈ connections, ∃ attachment, g.getAttachment c = some attachment)
    (hbest : connections.argmin g.bound = some best) :
    g.getBinding connections = .ok (some best, g.afterChoice best) := by
  cases connections with
  | nil => cases hbest
  | cons first rest =>
    obtain ⟨best', hmin, hargmin⟩ := minFrom_eq h hattached
    obtain rfl : best' = best := Option.some.inj (hargmin.symm.trans hbest)
    obtain ⟨attachment, hattachment⟩ := hattached best' (List.argmin_mem hargmin)
    rw [getBinding, hmin]
    by_cases hactive : g.isActive best' <;>
      simp [afterChoice, hactive, hattachment, bind, Except.bind, pure, Except.pure]

variable [DecidableEq ι] [DecidableEq γ]

lemma distributeConnector_eq (hwired : Wired g) (h : g.CountsRight) {id : ι} {best : κ}
    (hbest : (g.group id).argmin g.bound = some best) :
    g.distributeConnector id = (some best, g.afterChoice best) := by
  have hattached : ∀ c ∈ g.group id, ∃ attachment, g.getAttachment c = some attachment := by
    intro c hc
    obtain ⟨attachment, hattachment, -⟩ := hwired.member_group hc
    exact ⟨attachment, hattachment⟩
  rw [distributeConnector, getBinding_eq h hattached hbest]

/-- **A client is bound** to the first connector with the fewest clients, if it is active. -/
theorem distribute_of_active (hwired : Wired g) (h : g.CountsRight) {id : ι} {best : κ}
    (hbest : (g.group id).argmin g.bound = some best) (hactive : g.isActive best) :
    g.distribute id = (some best, g.incrementSession best) := by
  have hafter : g.afterChoice best = g.incrementSession best := if_pos hactive
  rw [distribute, distributeConnector_eq hwired h hbest, hafter]
  show (if (g.incrementSession best).isActive best then _ else _) = _
  rw [isActive_incrementSession, if_pos hactive]

/-- **Otherwise it is bound to none**, as the tries that follow find the same. -/
theorem distribute_of_not_active (hwired : Wired g) (h : g.CountsRight) {id : ι}
    (hlost : ∀ best, (g.group id).argmin g.bound = some best → ¬g.isActive best) :
    g.distribute id = (none, g) := by
  rw [distribute]
  cases hbest : (g.group id).argmin g.bound with
  | none =>
    have hgroup : g.group id = [] := List.argmin_eq_none.mp hbest
    rw [distributeConnector, hgroup]
    rfl
  | some best =>
    have hinactive := hlost best hbest
    have hafter : g.afterChoice best = g := if_neg hinactive
    have hsame : g.distributeConnector id = (some best, g) := by
      rw [distributeConnector_eq hwired h hbest, hafter]
    have htries : ∀ tries, retry id tries (some best, g) = (none, g) := by
      intro tries
      induction tries with
      | zero => rfl
      | succ tries ih =>
        rw [retry, if_neg hinactive, hsame, ite_self, ih]
    rw [hsame, htries]

end Choice

/-! ## Jobs -/

section Jobs

variable [DecidableEq γ] {g g' : GatewayServer κ γ ι δ} {k : γ} {client : Client κ ι}

/-- The gateway after a client was bound anew, and cleared if it closes. -/
def rebound (g : GatewayServer κ γ ι δ) (k : γ) (client : Client κ ι)
    (attachment : ClientAttachment κ ι) (connector : Option κ) (type : Gateway.MessageType) :
    GatewayServer κ γ ι δ :=
  if type = .Close then (g.bindGameServer k client attachment connector).clearClient k
  else g.bindGameServer k client attachment connector

lemma getAttachment_rebound (g : GatewayServer κ γ ι δ) (k : γ) (client : Client κ ι)
    (attachment : ClientAttachment κ ι) (connector : Option κ) (type : Gateway.MessageType)
    (c : κ) :
    (g.rebound k client attachment connector type).getAttachment c = g.getAttachment c := by
  unfold rebound
  split
  · exact getAttachment_clearClient _ k c
  · rfl

/-- The numbers of clients after a client was bound anew: it counts unless it closes. -/
lemma bound_rebound (hlookup : g.clients.lookup k = some client)
    (attachment : ClientAttachment κ ι) (connector : Option κ) (type : Gateway.MessageType)
    (c : κ) :
    (g.rebound k client attachment connector type).bound c +
        (if client.gameConnector = some c then 1 else 0) =
      g.bound c + if type ≠ .Close ∧ connector = some c then 1 else 0 := by
  have hset : (g.bindGameServer k client attachment connector).bound c +
      (if client.gameConnector = some c then 1 else 0) =
        g.bound c + if connector = some c then 1 else 0 := by
    have hset := g.bound_setClient k { client with
      attachment := some { attachment with bindGameServerConnector := connector } } c
    rw [hlookup] at hset
    exact hset
  unfold rebound
  by_cases hclose : type = .Close
  · have hlookup' : (g.bindGameServer k client attachment connector).clients.lookup k =
        some { client with
          attachment := some { attachment with bindGameServerConnector := connector } } :=
      AList.lookup_insert _
    have hclear : ((g.bindGameServer k client attachment connector).clearClient k).bound c +
        (if connector = some c then 1 else 0) =
          (g.bindGameServer k client attachment connector).bound c :=
      bound_clearClient _ hlookup' c
    have hnone : ¬(type ≠ .Close ∧ connector = some c) := fun h => h.1 hclose
    rw [if_pos hclose, if_neg hnone]
    omega
  · simp only [hclose, ne_eq, not_false_eq_true, true_and]
    exact hset

variable [DecidableEq ι]

/-- **The job of a client does no harm to the counters.** A client whose connector has a counter
must not leave it: it does not close, and the connector is active. Any other client is bound anew if
the first connector with the fewest clients is active: it must not close either, and the counter
must not overflow. -/
def JobKeepsCounts (g : GatewayServer κ γ ι δ) (client : Client κ ι)
    (type : Gateway.MessageType) : Prop :=
  ∀ attachment, client.attachment = some attachment →
    if g.hasCounter client then type ≠ .Close ∧ g.isBound attachment
    else ∀ c, (g.group attachment.bindGameServerId).argmin g.bound = some c → g.isActive c →
      type ≠ .Close ∧ g.bound c + 1 < 2 ^ 31

/-- A client that keeps its connector, if it has one, and is not bound anew. -/
lemma process_of_isBound (hatt : ∀ attachment, client.attachment = some attachment →
    g.isBound attachment) (type : Gateway.MessageType) :
    g.process k client type = if type = .Close then g.clearClient k else g := by
  have hrebind : g.rebind k client = g := by
    unfold rebind
    cases hattachment : client.attachment with
    | none => rfl
    | some attachment => exact if_pos (hatt attachment hattachment)
  rw [process, hrebind]

/-- A client that is bound anew. -/
lemma process_of_not_isBound {attachment : ClientAttachment κ ι}
    (hattachment : client.attachment = some attachment) (hbound : ¬g.isBound attachment)
    {connector : Option κ} (hr : g.distribute attachment.bindGameServerId = (connector, g'))
    (type : Gateway.MessageType) :
    g.process k client type = g'.rebound k client attachment connector type := by
  have hrebind : g.rebind k client = g'.bindGameServer k client attachment connector := by
    unfold rebind
    simp only [hattachment]
    rw [if_neg hbound, hr]
  rw [process, hrebind, rebound]

/-- A client that keeps its connector, if it has one, must not close. -/
lemma countsRight_process_of_isBound (h : g.CountsRight)
    (hlookup : g.clients.lookup k = some client)
    (hatt : ∀ attachment, client.attachment = some attachment → g.isBound attachment)
    (type : Gateway.MessageType) :
    (g.process k client type).CountsRight ↔ (g.hasCounter client → type ≠ .Close) := by
  rw [process_of_isBound hatt]
  by_cases hclose : type = .Close
  · rw [if_pos hclose]
    constructor
    · intro hright hcounter
      obtain ⟨c, counter, hconnector, hc⟩ := g.hasCounter_iff.mp hcounter
      have hbound := g.bound_clearClient hlookup c
      rw [if_pos hconnector] at hbound
      refine absurd hright (not_countsRight_of_left h hc ?_ hbound)
      rw [getAttachment_clearClient, hc]
    · intro hno c attachment hc
      rw [getAttachment_clearClient] at hc
      have hother : client.gameConnector ≠ some c := fun hconnector =>
        hno (g.hasCounter_iff.mpr ⟨c, attachment, hconnector, hc⟩) hclose
      have hbound := g.bound_clearClient hlookup c
      rw [if_neg hother] at hbound
      rw [h c attachment hc, ← hbound]
      rfl
  · rw [if_neg hclose]
    exact iff_of_true h fun _ => hclose

/-- **A client that leaves a lost connector** leaves its counter wrong, wherever it is bound to. -/
lemma not_countsRight_process_of_lost (hwired : Wired g) (h : g.CountsRight)
    (hlookup : g.clients.lookup k = some client) {attachment : ClientAttachment κ ι}
    (hattachment : client.attachment = some attachment) (hbound : ¬g.isBound attachment)
    (hcounter : g.hasCounter client) (type : Gateway.MessageType) :
    ¬(g.process k client type).CountsRight := by
  obtain ⟨c, counter, hconnector, hc⟩ := g.hasCounter_iff.mp hcounter
  have hinactive : ¬g.isActive c := by
    intro hactive
    apply hbound
    rw [Client.gameConnector, hattachment] at hconnector
    exact g.isBound_iff.mpr ⟨c, hconnector, hactive⟩
  -- another connector is chosen, so neither the counter nor the other clients change
  obtain ⟨connector, g', hr, hother, hclients, hatt, hbounds⟩ : ∃ connector g',
      g.distribute attachment.bindGameServerId = (connector, g') ∧ connector ≠ some c ∧
        g'.clients = g.clients ∧ g'.getAttachment c = g.getAttachment c ∧
          g'.bound c = g.bound c := by
    by_cases hbest : ∃ best, (g.group attachment.bindGameServerId).argmin g.bound = some best ∧
        g.isActive best
    · obtain ⟨best, hargmin, hactive⟩ := hbest
      have hne : c ≠ best := fun heq => hinactive (heq ▸ hactive)
      refine ⟨_, _, distribute_of_active hwired h hargmin hactive, ?_, by simp, ?_, by simp⟩
      · exact fun heq => hne (Option.some.inj heq).symm
      · rw [getAttachment_incrementSession, if_neg hne]
    · refine ⟨_, _, distribute_of_not_active hwired h ?_, by simp, rfl, rfl, rfl⟩
      exact fun best hargmin hactive => hbest ⟨best, hargmin, hactive⟩
  rw [process_of_not_isBound hattachment hbound hr]
  have hleft := bound_rebound (hclients ▸ hlookup) attachment connector type c
  rw [if_pos hconnector, if_neg fun hno => hother hno.2, hbounds] at hleft
  refine not_countsRight_of_left h hc ?_ hleft
  rw [getAttachment_rebound, hatt, hc]

/-- A counter that goes up is right for one client more, if it does not overflow. -/
lemma toInt_succ_eq_iff {m : Int32} {n : ℕ} (hm : m.toInt = n) (n' : ℕ) :
    (m + 1).toInt = n' ↔ n' = n + 1 ∧ n + 1 < 2 ^ 31 := by
  have hone : (1 : Int32).toInt = 1 := rfl
  have hlt := Int32.toInt_lt m
  by_cases hfits : n + 1 < 2 ^ 31
  · rw [Int32.toInt_succ_of_fits (by omega)]
    omega
  · have hmax : m.toInt = 2 ^ 31 - 1 := by omega
    have hwrap : (m + 1).toInt = -2 ^ 31 := by
      rw [Int32.toInt_add, hmax, hone]
      decide
    omega

/-- **A client that is bound anew**, and had no counter, must not close, and the counter that goes
up must not overflow. -/
lemma countsRight_process_of_unbound (hwired : Wired g) (h : g.CountsRight)
    (hlookup : g.clients.lookup k = some client) {attachment : ClientAttachment κ ι}
    (hattachment : client.attachment = some attachment) (hbound : ¬g.isBound attachment)
    (hcounter : ¬g.hasCounter client) (type : Gateway.MessageType) :
    (g.process k client type).CountsRight ↔
      ∀ c, (g.group attachment.bindGameServerId).argmin g.bound = some c → g.isActive c →
        type ≠ .Close ∧ g.bound c + 1 < 2 ^ 31 := by
  have hother : ∀ c counter, g.getAttachment c = some counter → client.gameConnector ≠ some c :=
    fun c counter hc hconnector => hcounter (g.hasCounter_iff.mpr ⟨c, counter, hconnector, hc⟩)
  by_cases hbest : ∃ best, (g.group attachment.bindGameServerId).argmin g.bound = some best ∧
      g.isActive best
  · obtain ⟨best, hargmin, hactive⟩ := hbest
    have hr := distribute_of_active hwired h hargmin hactive
    obtain ⟨counter, hcbest, -⟩ := hwired.member_group (List.argmin_mem hargmin)
    have hcount := h best counter hcbest
    have hchosen : (∀ c, (g.group attachment.bindGameServerId).argmin g.bound = some c →
        g.isActive c → type ≠ .Close ∧ g.bound c + 1 < 2 ^ 31) ↔
          type ≠ .Close ∧ g.bound best + 1 < 2 ^ 31 := by
      refine ⟨fun hall => hall best hargmin hactive, fun hone c hc _ => ?_⟩
      obtain rfl : best = c := Option.some.inj (hargmin.symm.trans hc)
      exact hone
    have hbounds : ∀ c, ((g.incrementSession best).rebound k client attachment (some best)
        type).bound c + (if client.gameConnector = some c then 1 else 0) =
          g.bound c + if type ≠ .Close ∧ some best = some c then 1 else 0 := by
      intro c
      rw [bound_rebound (by simpa using hlookup), bound_incrementSession]
    have hatt : ∀ c, ((g.incrementSession best).rebound k client attachment (some best)
        type).getAttachment c =
          if c = best then some counter.incrementSession else g.getAttachment c := by
      intro c
      rw [getAttachment_rebound, getAttachment_incrementSession, hcbest]
      rfl
    have hbestBound := hbounds best
    rw [if_neg (hother best counter hcbest)] at hbestBound
    rw [process_of_not_isBound hattachment hbound hr, hchosen]
    constructor
    · intro hright
      have hnew := hright best counter.incrementSession (by rw [hatt, if_pos rfl])
      obtain ⟨hone, hfits⟩ := (toInt_succ_eq_iff hcount _).mp hnew
      refine ⟨fun hclose => ?_, hfits⟩
      rw [if_neg fun hopen => hopen.1 hclose] at hbestBound
      omega
    · rintro ⟨hopen, hfits⟩ c counter' hc
      rw [hatt] at hc
      by_cases hc' : c = best
      · subst hc'
        rw [if_pos rfl] at hc
        cases hc
        rw [if_pos ⟨hopen, rfl⟩] at hbestBound
        exact (toInt_succ_eq_iff hcount _).mpr ⟨by omega, hfits⟩
      · have hsame := hbounds c
        have hne : ¬(type ≠ .Close ∧ some best = some c) :=
          fun hboth => hc' (Option.some.inj hboth.2).symm
        rw [if_neg hc'] at hc
        rw [if_neg (hother c counter' hc), if_neg hne] at hsame
        rw [h c counter' hc]
        omega
  · have hr : g.distribute attachment.bindGameServerId = (none, g) :=
      distribute_of_not_active hwired h fun best hargmin hactive => hbest ⟨best, hargmin, hactive⟩
    rw [process_of_not_isBound hattachment hbound hr]
    refine iff_of_true (fun c counter hc => ?_) fun c hargmin hactive =>
      absurd ⟨c, hargmin, hactive⟩ hbest
    rw [getAttachment_rebound] at hc
    have hsame := bound_rebound hlookup attachment none type c
    rw [if_neg (hother c counter hc), if_neg (by simp)] at hsame
    rw [h c counter hc]
    omega

/-- **A job** leaves the counters right just if it does no harm to them. -/
theorem countsRight_process_iff (hwired : Wired g) (h : g.CountsRight)
    (hlookup : g.clients.lookup k = some client) (type : Gateway.MessageType) :
    (g.process k client type).CountsRight ↔ g.JobKeepsCounts client type := by
  unfold JobKeepsCounts
  cases hattachment : client.attachment with
  | none =>
    have hnone : ¬g.hasCounter client := by
      rw [hasCounter, Client.gameConnector, hattachment]
      simp
    rw [countsRight_process_of_isBound h hlookup (by simp [hattachment])]
    exact iff_of_true (fun hcounter => absurd hcounter hnone) fun attachment hsome => by cases hsome
  | some attachment =>
    simp only [Option.some.injEq, forall_eq']
    by_cases hbound : g.isBound attachment
    · obtain ⟨c, hconnector, hactive⟩ := g.isBound_iff.mp hbound
      have hgame : client.gameConnector = some c := by
        rw [Client.gameConnector, hattachment]
        exact hconnector
      obtain ⟨counter, hc⟩ := g.exists_getAttachment (hwired.known k client c hlookup hgame) hactive
      have hcounter : g.hasCounter client := g.hasCounter_iff.mpr ⟨c, counter, hgame, hc⟩
      rw [countsRight_process_of_isBound h hlookup (by simpa [hattachment] using hbound),
        if_pos hcounter]
      exact ⟨fun hopen => ⟨hopen hcounter, hbound⟩, fun hopen _ => hopen.1⟩
    · by_cases hcounter : g.hasCounter client
      · rw [if_pos hcounter]
        refine iff_of_false ?_ fun hopen => hbound hopen.2
        exact not_countsRight_process_of_lost hwired h hlookup hattachment hbound hcounter type
      · rw [if_neg hcounter]
        exact countsRight_process_of_unbound hwired h hlookup hattachment hbound hcounter type

/-- **The next job** of a client leaves the counters right just if it does no harm to them. -/
theorem countsRight_runJob_iff (hwired : Wired g) (h : g.CountsRight)
    (hlookup : g.clients.lookup k = some client) {type : Gateway.MessageType}
    {jobs : List Gateway.MessageType} (hjobs : client.jobs = type :: jobs) :
    (g.runJob k).CountsRight ↔ g.JobKeepsCounts client type := by
  have hbound : (g.setClient k { client with jobs := jobs }).bound = g.bound :=
    g.bound_setClient_of_eq (by rw [hlookup]; rfl)
  have hpopped : (g.setClient k { client with jobs := jobs }).CountsRight := by
    intro c counter hc
    rw [hbound]
    exact h c counter hc
  have hwired' : Wired (g.setClient k { client with jobs := jobs }) :=
    hwired.setClient_of_attachment hlookup (.inl rfl) id
  have hrun : g.runJob k = (g.setClient k { client with jobs := jobs }).process k
      { client with jobs := jobs } type := by
    unfold runJob
    simp only [hlookup, hjobs]
  rw [hrun, countsRight_process_iff hwired' hpopped (AList.lookup_insert _)]
  unfold JobKeepsCounts
  rw [hbound]
  rfl

end Jobs

/-! ## Steps -/

section Steps

variable {g : GatewayServer κ γ ι δ}

namespace CountsRight

lemma connectorOpened (h : g.CountsRight) (c : κ) (dest : δ) :
    (g.connectorOpened c dest).CountsRight := by
  unfold GatewayServer.connectorOpened
  split
  · exact h.setConnector fun counter hc => by cases hc
  · exact h

lemma connectorLost (h : g.CountsRight) (c : κ) : (g.connectorLost c).CountsRight := by
  unfold GatewayServer.connectorLost
  split
  · exact h
  · next connector hlookup =>
    refine h.setConnector fun counter hc => h c counter ?_
    rw [getAttachment, hlookup]
    cases connector <;> exact hc

section Clients

variable [DecidableEq γ]

lemma clientOpened (h : g.CountsRight) (k : γ) : (g.clientOpened k).CountsRight := by
  unfold GatewayServer.clientOpened
  split
  · next hlookup => exact h.setClient (by rw [hlookup]; rfl)
  · exact h

lemma clientMessage (h : g.CountsRight) (k : γ) : (g.clientMessage k).CountsRight := by
  unfold GatewayServer.clientMessage
  split
  · exact h
  · next client hlookup =>
    split
    · exact h.setClient (by rw [hlookup]; rfl)
    · exact h

lemma clientClosed (h : g.CountsRight) (k : γ) : (g.clientClosed k).CountsRight := by
  unfold GatewayServer.clientClosed
  split
  · exact h
  · next client hlookup =>
    split
    · exact h
    · exact h.setClient (by rw [hlookup]; rfl)

end Clients

variable [DecidableEq ι]

lemma removeConnector (h : g.CountsRight) (c : κ) : (g.removeConnector c).CountsRight := by
  unfold GatewayServer.removeConnector
  split
  · exact h
  · split
    · exact h
    · exact h

lemma connectorClosed (h : g.CountsRight) (c : κ) : (g.connectorClosed c).CountsRight := by
  unfold GatewayServer.connectorClosed
  split
  · exact h
  · split
    · exact h
    · exact (h.removeConnector c).setConnector fun counter hc => by cases hc

end CountsRight

variable [DecidableEq γ] [DecidableEq ι]

/-- **A step does no harm to the counters.** Only a job can. -/
def KeepsCounts (g : GatewayServer κ γ ι δ) : GatewayStep κ γ ι δ → Prop
  | .runJob k => ∀ client type jobs, g.clients.lookup k = some client →
      client.jobs = type :: jobs → g.JobKeepsCounts client type
  | _ => True

/-- No client is bound to a connector that did not shake hands. -/
lemma bound_eq_zero (hwired : Wired g) {c : κ} (hnew : g.isKnown c = false) : g.bound c = 0 := by
  unfold bound
  rw [List.countP_eq_zero]
  intro client hclient hc
  obtain ⟨k, hlookup⟩ := AList.mem_values.mp hclient
  have hknown := hwired.known k client c hlookup (by simpa using hc)
  rw [hnew] at hknown
  cases hknown

lemma CountsRight.connectorHandshake [DecidableEq δ] (hwired : Wired g) (h : g.CountsRight)
    (c : κ) (msg : ι) : (g.connectorHandshake c msg).CountsRight := by
  unfold GatewayServer.connectorHandshake
  split
  · next active dest hlookup =>
    have hnew : g.isKnown c = false := by rw [isKnown, hlookup]; rfl
    refine h.setConnector fun counter hc => ?_
    cases hc
    rw [bound_eq_zero hwired hnew]
    rfl
  · exact h

lemma CountsRight.clientHandshake (hwired : Wired g) (h : g.CountsRight)
    (serverIdMapping : ι → ι) (k : γ) (msg : ι) :
    (g.clientHandshake serverIdMapping k msg).CountsRight := by
  unfold GatewayServer.clientHandshake
  cases hlookup : g.clients.lookup k with
  | none => exact h
  | some client =>
    by_cases hdone : client.shaken ∨ client.closed
    · simpa [hdone] using h
    · have hfresh := hwired.fresh k client hlookup (by simpa using fun hs => hdone (.inl hs))
      have hnone : client.gameConnector = none := by rw [Client.gameConnector, hfresh]; rfl
      simp only [hdone, if_false]
      split
      · exact h.setClient (by rw [hlookup]; exact hnone)
      · exact h.setClient (by rw [hlookup]; rfl)

/-- **A step** leaves the counters right just if it does no harm to them. -/
theorem countsRight_next_iff [DecidableEq δ] (serverIdMapping : ι → ι) (hwired : Wired g)
    (h : g.CountsRight) (step : GatewayStep κ γ ι δ) :
    (step.next serverIdMapping g).CountsRight ↔ g.KeepsCounts step := by
  cases step with
  | connectorOpened c dest => exact iff_of_true (h.connectorOpened c dest) trivial
  | connectorHandshake c msg => exact iff_of_true (.connectorHandshake hwired h c msg) trivial
  | connectorLost c => exact iff_of_true (h.connectorLost c) trivial
  | connectorClosed c => exact iff_of_true (h.connectorClosed c) trivial
  | clientOpened k => exact iff_of_true (h.clientOpened k) trivial
  | clientHandshake k msg =>
    exact iff_of_true (.clientHandshake hwired h serverIdMapping k msg) trivial
  | clientMessage k => exact iff_of_true (h.clientMessage k) trivial
  | clientClosed k => exact iff_of_true (h.clientClosed k) trivial
  | runJob k =>
    show (g.runJob k).CountsRight ↔ ∀ client type jobs, g.clients.lookup k = some client →
      client.jobs = type :: jobs → g.JobKeepsCounts client type
    cases hlookup : g.clients.lookup k with
    | none =>
      have hidle : g.runJob k = g := by rw [runJob, hlookup]
      rw [hidle]
      exact iff_of_true h fun client type jobs hsome _ => by cases hsome
    | some client =>
      cases hjobs : client.jobs with
      | nil =>
        have hidle : g.runJob k = g := by simp only [runJob, hlookup, hjobs]
        rw [hidle]
        refine iff_of_true h fun client' type jobs hsome hjobs' => ?_
        cases hsome
        rw [hjobs] at hjobs'
        cases hjobs'
      | cons type jobs =>
        rw [countsRight_runJob_iff hwired h hlookup hjobs]
        refine ⟨fun hkeeps client' type' jobs' hsome hjobs' => ?_, fun hall =>
          hall client type jobs rfl hjobs⟩
        cases hsome
        rw [hjobs] at hjobs'
        cases hjobs'
        exact hkeeps

end Steps

/-! ## The choice -/

section Balanced

variable [DecidableEq ι] (g : GatewayServer κ γ ι δ)

/-- **The choice is right**: in a group that has an active connector, one is chosen that is active
and that no active connector has fewer clients than. -/
def BindsLeast : Prop :=
  ∀ id connections, g.groups.lookup id = some connections → (∃ c ∈ connections, g.isActive c) →
    ∃ best g', g.getBinding connections = .ok (some best, g') ∧ best ∈ connections ∧
      g.isActive best ∧ ∀ c ∈ connections, g.isActive c → g.bound best ≤ g.bound c

/-- In a group that has an active connector, the first one with the fewest clients is active. -/
def NoLostFirst : Prop :=
  ∀ id connections, g.groups.lookup id = some connections → (∃ c ∈ connections, g.isActive c) →
    ∀ c, connections.argmin g.bound = some c → g.isActive c

/-- **Counters and choice are right.** -/
def Balanced : Prop := g.CountsRight ∧ g.BindsLeast

variable [DecidableEq γ] {g}

/-- While the counters are right, the choice is right just if no lost connector comes first. -/
theorem bindsLeast_iff (hwired : Wired g) (h : g.CountsRight) : g.BindsLeast ↔ g.NoLostFirst := by
  have hattached : ∀ id connections, g.groups.lookup id = some connections →
      ∀ c ∈ connections, ∃ attachment, g.getAttachment c = some attachment := by
    intro id connections hgroup c hc
    obtain ⟨attachment, hattachment, -⟩ := hwired.member id connections c hgroup hc
    exact ⟨attachment, hattachment⟩
  constructor
  · intro hleast id connections hgroup hactive c hargmin
    obtain ⟨best, g', hget, -, hbest, -⟩ := hleast id connections hgroup hactive
    rw [getBinding_eq h (hattached id connections hgroup) hargmin] at hget
    cases hget
    exact hbest
  · intro hfirst id connections hgroup hactive
    obtain ⟨c, hc, hc'⟩ := hactive
    cases hargmin : connections.argmin g.bound with
    | none =>
      rw [List.argmin_eq_none.mp hargmin] at hc
      cases hc
    | some best =>
      refine ⟨best, _, getBinding_eq h (hattached _ connections hgroup) hargmin,
        List.argmin_mem hargmin, hfirst _ connections hgroup ⟨c, hc, hc'⟩ best hargmin, ?_⟩
      exact fun c' hmem _ => List.le_of_mem_argmin hmem hargmin

end Balanced

end GatewayServer

/-- **The counters of connectors.** In every state of a run the counters are right and so is the
choice, just if no step does harm to the counters and in no state a lost connector comes first. -/
theorem balanced_run_iff {κ γ ι δ : Type} [DecidableEq κ] [DecidableEq γ] [DecidableEq ι]
    [DecidableEq δ] (serverIdMapping : ι → ι) (steps : List (GatewayStep κ γ ι δ)) :
    (∀ pre, pre <+: steps →
        (run (GatewayStep.next serverIdMapping) GatewayServer.empty pre).Balanced) ↔
      EveryStep (GatewayStep.next serverIdMapping) GatewayServer.KeepsCounts GatewayServer.empty
          steps ∧
        ∀ pre, pre <+: steps →
          (run (GatewayStep.next serverIdMapping) GatewayServer.empty pre).NoLostFirst := by
  have hcounts : (∀ pre, pre <+: steps →
      (run (GatewayStep.next serverIdMapping) GatewayServer.empty pre).CountsRight) ↔
        EveryStep (GatewayStep.next serverIdMapping) GatewayServer.KeepsCounts GatewayServer.empty
          steps :=
    forall_prefix_iff Wired GatewayServer.CountsRight
      (fun g step hwired h => ⟨hwired.next serverIdMapping step,
        GatewayServer.countsRight_next_iff serverIdMapping hwired h step⟩)
      .empty (fun c counter hc => by cases hc) steps
  rw [← hcounts]
  constructor
  · intro hall
    refine ⟨fun pre hpre => (hall pre hpre).1, fun pre hpre => ?_⟩
    exact (GatewayServer.bindsLeast_iff (wired_run serverIdMapping pre) (hall pre hpre).1).mp
      (hall pre hpre).2
  · rintro ⟨hright, hfirst⟩ pre hpre
    exact ⟨hright pre hpre, (GatewayServer.bindsLeast_iff (wired_run serverIdMapping pre)
      (hright pre hpre)).mpr (hfirst pre hpre)⟩

/-- One connector of the game server 7, and a client who is bound to it and closes. -/
def clientLeaves : List (GatewayStep ℕ ℕ ℕ Unit) :=
  [.connectorOpened 1 (), .connectorHandshake 1 7, .clientOpened 5, .clientHandshake 5 7, .runJob 5,
    .clientClosed 5, .runJob 5]

/-- Two connectors of the game server 7, the first of which is lost. -/
def firstLost : List (GatewayStep ℕ ℕ ℕ Unit) :=
  [.connectorOpened 1 (), .connectorHandshake 1 7, .connectorOpened 2 (), .connectorHandshake 2 7,
    .connectorLost 1]

/-- **The counter stays at one** when the only client has left, and the lost connector is chosen
although the other one is active. -/
theorem counter_after_close :
    ¬(run (GatewayStep.next id) GatewayServer.empty clientLeaves).CountsRight ∧
      ¬(run (GatewayStep.next id) GatewayServer.empty firstLost).BindsLeast := by
  constructor
  · intro h
    have hone : (1 : Int32).toInt = (0 : ℕ) := h 1 ⟨7, 1⟩ rfl
    exact absurd hone (by decide)
  · intro h
    obtain ⟨best, g', hget, -, hbest, -⟩ := h 7 [1, 2] rfl ⟨2, by decide, rfl⟩
    obtain rfl : best = 1 := by
      cases hget
      rfl
    cases hbest

end SrgpGame.Binding
