import SrgpGame.Session.Admitted

set_option autoImplicit false

/-!
# Who is online can come back

A client that has lost its connection opens another session and shows its token. That should give it
back its player, who is still online. This file says for which runs it does: a player enters on a
controller that is in order and nobody's, and with a token that nobody else has.

## Main definitions

* `GameServer.Live` — a controller is the one of its session.
* `GameServer.Enters`, `TakesOver` — a player enters in order, or is taken over in order.
* `GameServer.Allowed` — the condition on a step.
* `GameServer.Orderly` — the invariant.

## Main results

* `GameServer.Orderly.step` — every allowed step preserves the invariant.
* `GameServer.online_reconnects` — whole runs.
-/

namespace SrgpGame.Session

open Runs

variable {κ : Type} [DecidableEq κ]

namespace GameServer

variable {server server' : GameServer κ}

/-! ## What is wanted, and when -/

/-- **A controller is live**: it is the one of its session. -/
def Live (server : GameServer κ) (c : ℕ) : Prop :=
  ∃ session, (server.controllers c).session = some session ∧ server.cache.lookup session = some c

/-- Somebody online has the controller. -/
def Taken (server : GameServer κ) (ref c : ℕ) : Prop :=
  (server.players ref).online ∧ (server.players ref).messageController = some c

/-- A player is in the cache, or still online. -/
def Held (server : GameServer κ) (ref : ℕ) : Prop :=
  (server.players ref).online ∨ ∃ pid, server.getPlayerByPid pid = some ref

/-- **A player enters in order**: on a live controller that is nobody's and not to be destroyed, and
with a token that nobody else has. -/
def Enters (server : GameServer κ) (c ref : ℕ) (token : String) : Prop :=
  server.Live c ∧ c ∉ server.destroys ∧ (∀ ref', ¬server.Taken ref' c) ∧
    ∀ ref', server.Held ref' → (server.players ref').token = some token → ref' = ref

/-- A session takes over a player on a live controller that is nobody else's. -/
def TakesOver (server : GameServer κ) (c ref : ℕ) : Prop :=
  server.Live c ∧ ∀ ref', server.Taken ref' c → ref' = ref

/-- The player in the cache of the account that was verified on a controller. -/
def playerOf (server : GameServer κ) (c : ℕ) : Option ℕ := do
  let serverId ← (server.controllers c).serverId
  let accountId ← (server.controllers c).accountId
  let pid ← server.accountMapping.lookup (accountId, serverId)
  server.getPlayerByPid pid

/-- The player who is in the cache, or else the next object. -/
def loadRef (server : GameServer κ) (pid : Int32) : ℕ :=
  (server.getPlayerByPid pid).getD server.freshPlayer

/-- **The condition on a step.** Players enter in order, and who has to leave is in the cache. -/
def Allowed (server : GameServer κ) : Action κ → Prop
  | .enter ix => ∀ message ∈ server.enters[ix]?,
      match server.getPlayerByToken message.token with
      | some ref => server.TakesOver message.controller ref
      | none => ∀ ref, server.playerOf message.controller = some ref →
          server.Enters message.controller ref message.token
  | .create ix _ => ∀ message ∈ server.creates[ix]?,
      server.Enters message.controller server.freshPlayer message.token
  | .loaded ix => ∀ load ∈ server.loads[ix]?, ∀ pid row, load.data = some (some (pid, row)) →
      server.Enters load.controller (server.loadRef pid) load.token
  | .leave ref _ => ∃ pid, server.getPlayerByPid pid = some ref
  | _ => True

/-! ## The invariant -/

/-- **The player is found** by his token, and his live controller acts as him. -/
def Found (server : GameServer κ) (ref c : ℕ) (token : String) : Prop :=
  (server.players ref).messageController = some c ∧ (server.players ref).token = some token ∧
    server.tokenMappingPlayer.lookup token = some (server.players ref).id ∧
    (server.controllers c).playerId = some (server.players ref).id ∧ server.Live c ∧
    c ∉ server.destroys

/-- **The invariant**: who is online is found and not frozen, and shares neither his controller nor
his token. -/
structure Orderly (server : GameServer κ) : Prop where
  found : ∀ ref, (server.players ref).online → ∃ c token, server.Found ref c token
  thawed : ∀ ref, (server.players ref).online → (server.players ref).frozen = false
  apart : ∀ ref ref' c, server.Taken ref c → server.Taken ref' c → ref = ref'
  tokens : ∀ ref ref' token, server.Held ref → server.Held ref' →
    (server.players ref).token = some token → (server.players ref').token = some token → ref = ref'
  idle : ∀ pid ref, server.getPlayerByPid pid = some ref → (server.players ref).online = false →
    (server.players ref).messageController = none
  cached : ∀ pid ref, server.getPlayerByPid pid = some ref → (server.players ref).id = pid
  bound : ∀ ref, server.Held ref → ref < server.freshPlayer
  filed : ∀ session c, server.cache.lookup session = some c → c < server.freshController

/-! ## Controllers -/

/-- **Controllers change**, but those of players who are online stay live and know them. -/
lemma Orderly.of_controllers (h : Orderly server) (hplayers : server'.players = server.players)
    (htokens : server'.tokenMappingPlayer = server.tokenMappingPlayer)
    (hcached : server'.cacheAllPlayers = server.cacheAllPlayers)
    (hfresh : server'.freshPlayer = server.freshPlayer)
    (hlive : ∀ ref c, server.Taken ref c → server.Live c → c ∉ server.destroys →
      server'.Live c ∧ c ∉ server'.destroys ∧
        (server'.controllers c).playerId = (server.controllers c).playerId)
    (hfiled : ∀ session c, server'.cache.lookup session = some c → c < server'.freshController) :
    Orderly server' := by
  have hget : ∀ pid, server'.getPlayerByPid pid = server.getPlayerByPid pid := by
    intro pid
    rw [getPlayerByPid, hcached, getPlayerByPid]
  have htaken : ∀ ref c, server'.Taken ref c ↔ server.Taken ref c := by
    intro ref c
    rw [Taken, hplayers, Taken]
  have hheld : ∀ ref, server'.Held ref ↔ server.Held ref := by
    intro ref
    simp only [Held, hplayers, hget]
  exact {
    found := by
      intro ref honline
      rw [hplayers] at honline
      obtain ⟨c, token, hc, htoken, hmapping, hpid, hlive', hdestroys⟩ := h.found ref honline
      obtain ⟨hlive'', hdestroys', hsame⟩ := hlive ref c ⟨honline, hc⟩ hlive' hdestroys
      refine ⟨c, token, ?_⟩
      unfold Found
      rw [hplayers, htokens, hsame]
      exact ⟨hc, htoken, hmapping, hpid, hlive'', hdestroys'⟩
    thawed := hplayers ▸ h.thawed
    apart := by
      intro ref ref' c
      rw [htaken, htaken]
      exact h.apart ref ref' c
    tokens := by
      intro ref ref' token
      rw [hheld, hheld, hplayers]
      exact h.tokens ref ref' token
    idle := by
      intro pid ref
      rw [hget, hplayers]
      exact h.idle pid ref
    cached := by
      intro pid ref
      rw [hget, hplayers]
      exact h.cached pid ref
    bound := by
      intro ref
      rw [hheld, hfresh]
      exact h.bound ref
    filed := hfiled }

/-- Live controllers are known to `CacheMessageController`. -/
lemma Orderly.lt_freshController (h : Orderly server) {c : ℕ} (hlive : server.Live c) :
    c < server.freshController := by
  obtain ⟨session, -, hfiled⟩ := hlive
  exact h.filed session c hfiled

/-- **`getController`.** -/
lemma Orderly.getController (h : Orderly server) (session : κ) :
    Orderly (server.getController session).1 := by
  unfold GameServer.getController
  cases hsession : server.cache.lookup session with
  | some c => exact h
  | none =>
    refine h.of_controllers rfl rfl rfl rfl (fun ref c htaken hlive hdestroys => ?_) ?_
    · have hne := (h.lt_freshController hlive).ne
      obtain ⟨session', hc, hfiled⟩ := hlive
      have hother : session' ≠ session := by
        rintro rfl
        rw [hsession] at hfiled
        cases hfiled
      have hsame : (Function.update server.controllers server.freshController
          { session := some session }) c = server.controllers c := Function.update_of_ne hne _ _
      refine ⟨⟨session', ?_, (AList.lookup_insert_ne hother).trans hfiled⟩, hdestroys, ?_⟩
      · exact (congrArg Controller.session hsame).trans hc
      · exact congrArg Controller.playerId hsame
    · intro session' c hlookup
      rw [AList.lookup_insert_ite] at hlookup
      split_ifs at hlookup
      · obtain rfl := Option.some.inj hlookup
        exact Nat.lt_succ_self _
      · exact (h.filed session' c hlookup).trans (Nat.lt_succ_self _)

/-- **The thread of a connection destroys a controller** that is to be destroyed. -/
lemma Orderly.clear (h : Orderly server) {c : ℕ} (hnot : ∀ ref, ¬server.Taken ref c) :
    Orderly (server.clear c) := by
  unfold GameServer.clear
  split_ifs
  · refine h.of_controllers rfl rfl rfl rfl (fun ref c' htaken hlive hdestroys => ?_) h.filed
    have hne : c' ≠ c := by
      rintro rfl
      exact hnot ref htaken
    have hsame : (Function.update server.controllers c
        { session := none, messagePool := false }) c' = server.controllers c' :=
      Function.update_of_ne hne _ _
    obtain ⟨session, hc, hfiled⟩ := hlive
    exact ⟨⟨session, (congrArg Controller.session hsame).trans hc, hfiled⟩, hdestroys,
      congrArg Controller.playerId hsame⟩
  · exact h

/-! ## One player -/

/-- **One player changes**: all others are found as before, and he is if he is online; he shares
neither his controller nor his token. -/
lemma Orderly.change (h : Orderly server) (ref : ℕ)
    (hplayers : ∀ ref' ≠ ref, server'.players ref' = server.players ref')
    (hget : ∀ pid, ∀ ref' ≠ ref, server'.getPlayerByPid pid = some ref' →
      server.getPlayerByPid pid = some ref')
    (hothers : ∀ ref' ≠ ref, (server.players ref').online → ∀ c token, server.Found ref' c token →
      server'.Found ref' c token)
    (hself : (server'.players ref).online → (server'.players ref).frozen = false ∧
      ∃ c token, server'.Found ref c token ∧ ∀ ref' ≠ ref, ¬server.Taken ref' c)
    (htoken : ∀ token, (server'.players ref).token = some token → ∀ ref' ≠ ref, server.Held ref' →
      (server.players ref').token ≠ some token)
    (hcached : ∀ pid, server'.getPlayerByPid pid = some ref → (server'.players ref).id = pid ∧
      ((server'.players ref).online = false → (server'.players ref).messageController = none))
    (hbound : ref < server'.freshPlayer) (hfresh : server.freshPlayer ≤ server'.freshPlayer)
    (hfiled : ∀ session c, server'.cache.lookup session = some c → c < server'.freshController) :
    Orderly server' := by
  have hheld : ∀ ref' ≠ ref, server'.Held ref' → server.Held ref' := by
    rintro ref' hne (honline | ⟨pid, hpid⟩)
    · rw [hplayers ref' hne] at honline
      exact .inl honline
    · exact .inr ⟨pid, hget pid ref' hne hpid⟩
  have htaken : ∀ ref' ≠ ref, ∀ c, server'.Taken ref' c → server.Taken ref' c := by
    intro ref' hne c htaken
    unfold Taken at htaken
    rw [hplayers ref' hne] at htaken
    exact htaken
  have hfree : ∀ ref' ≠ ref, ∀ c, server'.Taken ref c → ¬server'.Taken ref' c := by
    intro ref' hne c htaken₁ htaken₂
    obtain ⟨-, c', token, hfound, hnot⟩ := hself htaken₁.1
    obtain rfl := Option.some.inj (hfound.1.symm.trans htaken₁.2)
    exact hnot ref' hne (htaken ref' hne c' htaken₂)
  exact {
    found := by
      intro ref' honline
      by_cases heq : ref' = ref
      · rw [heq] at honline ⊢
        obtain ⟨-, c, token, hfound, -⟩ := hself honline
        exact ⟨c, token, hfound⟩
      · rw [hplayers ref' heq] at honline
        obtain ⟨c, token, hfound⟩ := h.found ref' honline
        exact ⟨c, token, hothers ref' heq honline c token hfound⟩
    thawed := by
      intro ref' honline
      by_cases heq : ref' = ref
      · rw [heq] at honline ⊢
        exact (hself honline).1
      · rw [hplayers ref' heq] at honline ⊢
        exact h.thawed ref' honline
    apart := by
      intro ref₁ ref₂ c htaken₁ htaken₂
      by_cases heq₁ : ref₁ = ref
      · by_contra hne
        exact hfree ref₂ (heq₁ ▸ Ne.symm hne) c (heq₁ ▸ htaken₁) htaken₂
      · by_cases heq₂ : ref₂ = ref
        · exact absurd htaken₁ (hfree ref₁ heq₁ c (heq₂ ▸ htaken₂))
        · exact h.apart ref₁ ref₂ c (htaken ref₁ heq₁ c htaken₁) (htaken ref₂ heq₂ c htaken₂)
    tokens := by
      intro ref₁ ref₂ token hheld₁ hheld₂ htoken₁ htoken₂
      by_cases heq₁ : ref₁ = ref
      · by_contra hne
        have heq₂ : ref₂ ≠ ref := heq₁ ▸ Ne.symm hne
        rw [hplayers ref₂ heq₂] at htoken₂
        exact htoken token (heq₁ ▸ htoken₁) ref₂ heq₂ (hheld ref₂ heq₂ hheld₂) htoken₂
      · rw [hplayers ref₁ heq₁] at htoken₁
        by_cases heq₂ : ref₂ = ref
        · exact absurd htoken₁ (htoken token (heq₂ ▸ htoken₂) ref₁ heq₁ (hheld ref₁ heq₁ hheld₁))
        · rw [hplayers ref₂ heq₂] at htoken₂
          exact h.tokens ref₁ ref₂ token (hheld ref₁ heq₁ hheld₁) (hheld ref₂ heq₂ hheld₂) htoken₁
            htoken₂
    idle := by
      intro pid ref' hpid
      by_cases heq : ref' = ref
      · rw [heq] at hpid ⊢
        exact (hcached pid hpid).2
      · rw [hplayers ref' heq]
        exact h.idle pid ref' (hget pid ref' heq hpid)
    cached := by
      intro pid ref' hpid
      by_cases heq : ref' = ref
      · rw [heq] at hpid ⊢
        exact (hcached pid hpid).1
      · rw [hplayers ref' heq]
        exact h.cached pid ref' (hget pid ref' heq hpid)
    bound := by
      intro ref' hheld'
      by_cases heq : ref' = ref
      · rw [heq]
        exact hbound
      · exact (h.bound ref' (hheld ref' heq hheld')).trans_le hfresh
    filed := hfiled }

/-! ## Leaving -/

/-- **What destroying a controller leaves as it is**: all but this controller and its session. -/
structure Destroys (server server' : GameServer κ) (controller : Option ℕ) : Prop where
  players : server'.players = server.players
  tokens : server'.tokenMappingPlayer = server.tokenMappingPlayer
  cached : server'.cacheAllPlayers = server.cacheAllPlayers
  freshPlayer : server'.freshPlayer = server.freshPlayer
  freshController : server'.freshController = server.freshController
  controllers : ∀ c, controller ≠ some c → server'.controllers c = server.controllers c
  destroys : ∀ c ∈ server'.destroys, c ∈ server.destroys ∨ controller = some c
  cache : ∀ session, server'.cache.lookup session = server.cache.lookup session ∨
    server'.cache.lookup session = none ∧
      ∃ c, controller = some c ∧ (server.controllers c).session = some session

lemma Destroys.refl (server : GameServer κ) (controller : Option ℕ) :
    Destroys server server controller :=
  ⟨rfl, rfl, rfl, rfl, rfl, fun _ _ => rfl, fun _ hmem => .inl hmem, fun _ => .inl rfl⟩

lemma destroys_destroy (server : GameServer κ) (c : ℕ) :
    Destroys server (server.destroy c) (some c) ∧ (server.destroy c).cache = server.cache ∧
      ((server.destroy c).controllers c).session = (server.controllers c).session := by
  unfold GameServer.destroy
  split_ifs
  · refine ⟨⟨rfl, rfl, rfl, rfl, rfl, fun _ _ => rfl, fun c' hmem => ?_, fun _ => .inl rfl⟩,
      rfl, rfl⟩
    rcases List.mem_cons.mp hmem with rfl | hold
    · exact .inr rfl
    · exact .inl hold
  · exact ⟨Destroys.refl server (some c), rfl, rfl⟩

/-- The session of a controller that was cleared is null, or what it was. -/
lemma destroys_clear (server : GameServer κ) (c : ℕ) :
    Destroys server (server.clear c) (some c) ∧ (server.clear c).cache = server.cache ∧
      (((server.clear c).controllers c).session = none ∨
        ((server.clear c).controllers c).session = (server.controllers c).session) := by
  unfold GameServer.clear
  split_ifs
  · refine ⟨⟨rfl, rfl, rfl, rfl, rfl, fun c' hne => ?_, fun _ hmem => .inl hmem, fun _ => .inl rfl⟩,
      rfl, .inl ?_⟩
    · exact Function.update_of_ne (fun heq => hne (congrArg some heq.symm)) _ _
    · change (Function.update server.controllers c _ c).session = none
      rw [Function.update_self]
  · exact ⟨Destroys.refl server (some c), rfl, .inr rfl⟩

/-- The session of the controller is taken out of the cache. -/
lemma Destroys.eraseSession {c : ℕ} (h : Destroys server server' (some c))
    (hcache : server'.cache = server.cache)
    (hsession : (server'.controllers c).session = none ∨
      (server'.controllers c).session = (server.controllers c).session) :
    Destroys server (match (server'.controllers c).session with
      | none => server'
      | some session => { server' with cache := server'.cache.erase session }) (some c) := by
  cases hnew : (server'.controllers c).session with
  | none => exact h
  | some session =>
    have hold : (server.controllers c).session = some session := by
      rcases hsession with hnone | hsame
      · rw [hnone] at hnew
        cases hnew
      · rw [← hsame, hnew]
    refine { h with cache := fun session' => ?_ }
    rw [AList.lookup_erase_ite, hcache]
    split_ifs with heq
    · exact .inr ⟨rfl, c, rfl, heq ▸ hold⟩
    · exact .inl rfl

/-- **`CacheMessageController.destroy`.** -/
lemma destroys_destroyController (server : GameServer κ) (early : Bool) (controller : Option ℕ) :
    Destroys server (server.destroyController early controller) controller := by
  cases controller with
  | none => exact Destroys.refl server none
  | some c =>
    simp only [GameServer.destroyController]
    by_cases hearly : (early && server.isActive c) = true
    · obtain ⟨hclear, hcache, hsession⟩ := destroys_clear server c
      rw [if_pos hearly]
      exact hclear.eraseSession hcache hsession
    · obtain ⟨hdestroy, hcache, hsession⟩ := destroys_destroy server c
      rw [if_neg hearly]
      exact hdestroy.eraseSession hcache (.inr hsession)

/-- **What remains when a player has left**, perhaps since he is frozen. -/
structure Leaves (server server' : GameServer κ) (ref : ℕ) (token : String) (frozen : Bool) :
    Prop where
  players : server'.players = Function.update server.players ref
    { server.players ref with frozen := frozen, online := false, messageController := none }
  tokens : server'.tokenMappingPlayer = server.tokenMappingPlayer.erase token
  cached : server'.cacheAllPlayers = server.cacheAllPlayers
  freshPlayer : server'.freshPlayer = server.freshPlayer
  freshController : server'.freshController = server.freshController
  controllers : ∀ c, (server.players ref).messageController ≠ some c →
    server'.controllers c = server.controllers c
  destroys : ∀ c ∈ server'.destroys,
    c ∈ server.destroys ∨ (server.players ref).messageController = some c
  cache : ∀ session, server'.cache.lookup session = server.cache.lookup session ∨
    server'.cache.lookup session = none ∧
      ∃ c, (server.players ref).messageController = some c ∧
        (server.controllers c).session = some session

omit [DecidableEq κ] in
/-- The server when a player who has a token is marked as offline. -/
lemma offline_of_token {ref : ℕ} {token : String}
    (htoken : (server.players ref).token = some token) :
    server.offline ref =
      { server.setPlayer ref { server.players ref with online := false } with
        tokenMappingPlayer := server.tokenMappingPlayer.erase token
        cacheOnlinePlayers := server.cacheOnlinePlayers.erase ref } := by
  have hplayer : ((server.setPlayer ref { server.players ref with online := false }).players
      ref).token = some token := by
    simp only [GameServer.setPlayer, Function.update_self, htoken]
  simp only [GameServer.offline]
  rw [hplayer]
  rfl

omit [DecidableEq κ] in
/-- The player when he is marked as offline. -/
lemma player_offline {ref : ℕ} {token : String} (htoken : (server.players ref).token = some token) :
    (server.offline ref).players ref = { server.players ref with online := false } := by
  rw [offline_of_token htoken]
  exact Function.update_self _ _ _

/-- **`offline`** of a player. -/
lemma leaves_offlinePlayer {ref : ℕ} {token : String} (early : Bool)
    (htoken : (server.players ref).token = some token) :
    Leaves server (server.offlinePlayer ref early) ref token (server.players ref).frozen := by
  have hplayer := player_offline htoken
  have hdestroys := destroys_destroyController (server.offline ref) early
    (server.players ref).messageController
  have heq : server.offlinePlayer ref early =
      ((server.offline ref).destroyController early
        (server.players ref).messageController).setPlayer ref
          { server.players ref with online := false, messageController := none } := by
    simp only [GameServer.offlinePlayer, hplayer, htoken, hdestroys.players]
  have hoffline := offline_of_token htoken
  obtain ⟨hplayers, htokens, hcached, hfresh, hcontrollers, hdestroyed, hcache⟩ :
      (server.offline ref).players = Function.update server.players ref
          { server.players ref with online := false } ∧
        (server.offline ref).tokenMappingPlayer = server.tokenMappingPlayer.erase token ∧
        (server.offline ref).cacheAllPlayers = server.cacheAllPlayers ∧
        ((server.offline ref).freshPlayer = server.freshPlayer ∧
          (server.offline ref).freshController = server.freshController) ∧
        (server.offline ref).controllers = server.controllers ∧
        (server.offline ref).destroys = server.destroys ∧
        (server.offline ref).cache = server.cache := by
    rw [hoffline]
    exact ⟨rfl, rfl, rfl, ⟨rfl, rfl⟩, rfl, rfl, rfl⟩
  rw [heq]
  refine ⟨?_, hdestroys.tokens.trans htokens, hdestroys.cached.trans hcached,
    hdestroys.freshPlayer.trans hfresh.1, hdestroys.freshController.trans hfresh.2, fun c hne => ?_,
    fun c hmem => ?_, fun session => ?_⟩
  · change Function.update ((server.offline ref).destroyController early _).players ref _ = _
    rw [hdestroys.players, hplayers, Function.update_idem]
  · rw [← hcontrollers]
    exact hdestroys.controllers c hne
  · rw [← hdestroyed]
    exact hdestroys.destroys c hmem
  · rw [← hcache, ← hcontrollers]
    exact hdestroys.cache session

/-- **A player leaves**: all others are found as before. -/
lemma Orderly.leave (h : Orderly server) {ref : ℕ} {token : String} {frozen : Bool}
    (hheld : server.Held ref) (htoken : (server.players ref).token = some token)
    (hleaves : Leaves server server' ref token frozen) : Orderly server' := by
  have hself : server'.players ref = { server.players ref with
      frozen := frozen, online := false, messageController := none } := by
    rw [hleaves.players, Function.update_self]
  have hother : ∀ ref' ≠ ref, server'.players ref' = server.players ref' := by
    intro ref' hne
    rw [hleaves.players, Function.update_of_ne hne]
  have hget : ∀ pid, server'.getPlayerByPid pid = server.getPlayerByPid pid := by
    intro pid
    rw [getPlayerByPid, hleaves.cached, getPlayerByPid]
  refine h.change ref hother (fun pid ref' _ hpid => hget pid ▸ hpid) ?_ (fun honline => ?_)
    (fun token' htoken' ref' hne hheld' hsame => ?_) (fun pid hpid => ?_)
    (hleaves.freshPlayer ▸ h.bound ref hheld) hleaves.freshPlayer.ge fun session c hlookup => ?_
  · intro ref' hne honline c token' ⟨hc, htoken', hmapping, hpid, ⟨session, hsession, hfiled⟩,
      hdestroys⟩
    have hdiffers : token' ≠ token := by
      rintro rfl
      exact hne (h.tokens ref' ref token' (.inl honline) hheld htoken' htoken)
    -- the controller that is destroyed is another one, and filed under another session
    have hnot : (server.players ref).messageController ≠ some c ∧
        ∀ c', (server.players ref).messageController = some c' →
          (server.controllers c').session ≠ some session := by
      by_cases hwas : (server.players ref).online
      · obtain ⟨old, -, hold, -, -, -, ⟨oldSession, holdSession, holdFiled⟩, -⟩ := h.found ref hwas
        have hold' : old ≠ c := by
          rintro rfl
          exact hne (h.apart ref' ref old ⟨honline, hc⟩ ⟨hwas, hold⟩)
        rw [hold]
        refine ⟨fun heq => hold' (Option.some.inj heq), fun c' hc' heq => hold' ?_⟩
        obtain rfl := Option.some.inj hc'
        rw [holdSession] at heq
        obtain rfl := Option.some.inj heq
        rw [holdFiled] at hfiled
        exact Option.some.inj hfiled
      · obtain ⟨pid, hcached⟩ := hheld.resolve_left hwas
        rw [h.idle pid ref hcached (Bool.eq_false_iff.mpr hwas)]
        exact ⟨fun hc' => absurd hc'.symm (Option.some_ne_none c),
          fun c' hc' => absurd hc'.symm (Option.some_ne_none c')⟩
    unfold Found
    rw [hother ref' hne, hleaves.tokens, AList.lookup_erase_ite, if_neg hdiffers,
      hleaves.controllers c hnot.1]
    refine ⟨hc, htoken', hmapping, hpid, ⟨session, ?_, ?_⟩, fun hmem => ?_⟩
    · rw [hleaves.controllers c hnot.1]
      exact hsession
    · rcases hleaves.cache session with hsame | ⟨-, c', hc', heq⟩
      · rw [hsame]
        exact hfiled
      · exact absurd heq (hnot.2 c' hc')
    · rcases hleaves.destroys c hmem with hold | heq
      · exact hdestroys hold
      · exact hnot.1 heq
  · rw [hself] at honline
    cases honline
  · rw [hself] at htoken'
    exact hne (h.tokens ref' ref token' hheld' hheld hsame htoken')
  · rw [hself]
    exact ⟨h.cached pid ref (hget pid ▸ hpid), fun _ => rfl⟩
  · rw [hleaves.freshController]
    rcases hleaves.cache session with hsame | ⟨hnone, -⟩
    · exact h.filed session c (hsame ▸ hlookup)
    · rw [hnone] at hlookup
      cases hlookup

/-- **`offline`** of a player who is in the cache, or online. Somebody who has no token is not
online, and nothing changes. -/
lemma Orderly.offlinePlayer (h : Orderly server) {ref : ℕ} (hheld : server.Held ref)
    (early : Bool) : Orderly (server.offlinePlayer ref early) := by
  cases htoken : (server.players ref).token with
  | some token => exact h.leave hheld htoken (leaves_offlinePlayer early htoken)
  | none =>
    have hidle : (server.players ref).online = false := by
      rw [← Bool.not_eq_true]
      intro honline
      obtain ⟨-, token, -, htoken', -⟩ := h.found ref honline
      rw [htoken] at htoken'
      cases htoken'
    have hsame : server.setPlayer ref { server.players ref with online := false } = server := by
      have hplayer : { server.players ref with online := false } = server.players ref := by
        rw [← hidle]
      rw [hplayer, GameServer.setPlayer, Function.update_eq_self]
    have hoffline : server.offline ref = server := by
      simp only [GameServer.offline]
      rw [hsame, htoken]
    simp only [GameServer.offlinePlayer, hoffline, htoken]
    exact h

/-- The controller of a player who is in the cache acts as him. -/
lemma offlineController_eq {ref c : ℕ} {pid : Int32}
    (hcached : server.getPlayerByPid pid = some ref)
    (hpid : (server.controllers c).playerId = some pid) (early : Bool) :
    server.offlineController c early = server.offlinePlayer ref early := by
  simp only [GameServer.offlineController, hpid, Option.bind_some, hcached]

/-- The controller of a player who is in the cache has his id. -/
lemma Orderly.playerId_eq (h : Orderly server) {ref c : ℕ} {pid : Int32}
    (hcached : server.getPlayerByPid pid = some ref)
    (hc : (server.players ref).messageController = some c) :
    (server.controllers c).playerId = some pid := by
  have honline : (server.players ref).online := by
    by_contra hidle
    rw [h.idle pid ref hcached (Bool.eq_false_iff.mpr hidle)] at hc
    cases hc
  obtain ⟨c', token, hc', -, -, hpid, -⟩ := h.found ref honline
  obtain rfl := Option.some.inj (hc'.symm.trans hc)
  rw [hpid, h.cached pid ref hcached]

/-! ## Entering -/

/-- **What changes when who is online is replaced.** -/
structure Replaces (server server' : GameServer κ) (ref : ℕ) : Prop where
  players : server'.players =
    Function.update server.players ref { server.players ref with online := false }
  tokens : ∀ token, server'.tokenMappingPlayer.lookup token =
    if (server.players ref).online ∧ (server.players ref).token = some token then none
    else server.tokenMappingPlayer.lookup token
  cached : server'.cacheAllPlayers = server.cacheAllPlayers
  freshPlayer : server'.freshPlayer = server.freshPlayer
  freshController : server'.freshController = server.freshController
  controllers : server'.controllers = server.controllers
  destroys : ∀ c ∈ server'.destroys, c ∈ server.destroys ∨ server.Taken ref c
  cache : server'.cache = server.cache

/-- Who is online has a token, and his controller is to be destroyed. -/
lemma Orderly.replaces (h : Orderly server) (ref : ℕ) :
    Replaces server (server.replaceLogin ref) ref := by
  by_cases honline : (server.players ref).online
  · obtain ⟨old, token, hold, htoken, -⟩ := h.found ref honline
    obtain ⟨hdestroys, hcache, -⟩ := destroys_destroy server old
    have hcontrollers : (server.destroy old).controllers = server.controllers := by
      unfold GameServer.destroy
      split_ifs
      · rfl
      · rfl
    have htoken' : ((server.destroy old).players ref).token = some token := by
      rw [hdestroys.players, htoken]
    rw [GameServer.replaceLogin, if_pos honline, hold]
    simp only
    rw [offline_of_token htoken']
    refine ⟨?_, fun token' => ?_, hdestroys.cached, hdestroys.freshPlayer,
      hdestroys.freshController, hcontrollers, fun c hmem => ?_, hcache⟩
    · simp only [GameServer.setPlayer, hdestroys.players]
    · change ((server.destroy old).tokenMappingPlayer.erase token).lookup token' = _
      rw [AList.lookup_erase_ite, hdestroys.tokens, htoken]
      by_cases heq : token' = token
      · rw [if_pos heq, if_pos ⟨honline, congrArg some heq.symm⟩]
      · rw [if_neg heq, if_neg fun hwas => heq (Option.some.inj hwas.2).symm]
    · rcases hdestroys.destroys c hmem with hwas | hnew
      · exact .inl hwas
      · exact .inr ⟨honline, hold.trans hnew⟩
  · have hplayer : { server.players ref with online := false } = server.players ref := by
      rw [← Bool.eq_false_iff.mpr honline]
    rw [GameServer.replaceLogin, if_neg honline]
    refine ⟨?_, fun token' => ?_, rfl, rfl, rfl, rfl, fun c hmem => .inl hmem, rfl⟩
    · rw [hplayer, Function.update_eq_self]
    · rw [if_neg fun hwas => honline hwas.1]

/-- **What changes when a player enters.** -/
structure EntersAs (server server' : GameServer κ) (c ref : ℕ) (token : String) : Prop where
  players : server'.players = Function.update server.players ref
    { server.players ref with
      token := some token, messageController := some c, online := true }
  tokens : ∀ token', server'.tokenMappingPlayer.lookup token' =
    if token' = token then some (server.players ref).id
    else if (server.players ref).online ∧ (server.players ref).token = some token' then none
    else server.tokenMappingPlayer.lookup token'
  cached : server'.cacheAllPlayers = server.cacheAllPlayers
  freshPlayer : server'.freshPlayer = server.freshPlayer
  freshController : server'.freshController = server.freshController
  controllers : server'.controllers = Function.update server.controllers c
    { server.controllers c with playerId := some (server.players ref).id }
  destroys : ∀ c' ∈ server'.destroys, c' ∈ server.destroys ∨ server.Taken ref c'
  cache : server'.cache = server.cache

/-- **`enterGame`** of a player: a frozen one is refused, who cannot be online. -/
lemma Orderly.entersAs (h : Orderly server) (c ref : ℕ) (token : String) :
    server.enterGameAs c ref token = server ∨
      (server.players ref).frozen = false ∧
        EntersAs server (server.enterGameAs c ref token) c ref token := by
  have hreplaces := h.replaces ref
  have hplayer : (server.replaceLogin ref).players ref =
      { server.players ref with online := false } := by
    rw [hreplaces.players, Function.update_self]
  by_cases hfrozen : (server.players ref).frozen
  · have hidle : ¬(server.players ref).online := fun honline => by
      rw [h.thawed ref honline] at hfrozen
      cases hfrozen
    have heq : server.replaceLogin ref = server := by
      rw [GameServer.replaceLogin, if_neg hidle]
    refine .inl ?_
    simp only [GameServer.enterGameAs, heq]
    exact if_pos hfrozen
  · refine .inr ⟨Bool.eq_false_iff.mpr hfrozen, ?_⟩
    have heq : server.enterGameAs c ref token =
        ((server.replaceLogin ref).setController c { server.controllers c with
          playerId := some (server.players ref).id }).online c ref token := by
      simp only [GameServer.enterGameAs, hplayer, hreplaces.controllers]
      exact if_neg hfrozen
    rw [heq]
    refine ⟨?_, fun token' => ?_, hreplaces.cached, hreplaces.freshPlayer,
      hreplaces.freshController, ?_, hreplaces.destroys, hreplaces.cache⟩
    · simp only [GameServer.online, GameServer.setPlayer, GameServer.setController, hplayer]
      rw [hreplaces.players, Function.update_idem]
    · simp only [GameServer.online, GameServer.setPlayer, GameServer.setController, hplayer]
      rw [AList.lookup_insert_ite, hreplaces.tokens]
    · simp only [GameServer.online, GameServer.setPlayer, GameServer.setController,
        hreplaces.controllers]

/-- **A player enters in order**: he is found from now on, and all others as before. -/
lemma Orderly.enter (h : Orderly server) {c ref : ℕ} {token : String} (hheld : server.Held ref)
    (hfrozen : (server.players ref).frozen = false) (henters : server.Enters c ref token)
    (has : EntersAs server server' c ref token) : Orderly server' := by
  obtain ⟨⟨session, hsession, hfiled⟩, hdestroys, hfree, hnew⟩ := henters
  have hself : server'.players ref = { server.players ref with
      token := some token, messageController := some c, online := true } := by
    rw [has.players, Function.update_self]
  have hother : ∀ ref' ≠ ref, server'.players ref' = server.players ref' := by
    intro ref' hne
    rw [has.players, Function.update_of_ne hne]
  have hget : ∀ pid, server'.getPlayerByPid pid = server.getPlayerByPid pid := by
    intro pid
    rw [getPlayerByPid, has.cached, getPlayerByPid]
  have hsessions : ∀ c', (server'.controllers c').session = (server.controllers c').session := by
    intro c'
    rw [has.controllers, Function.update_apply]
    split_ifs with heq
    · rw [heq]
    · rfl
  refine h.change ref hother (fun pid ref' _ hpid => hget pid ▸ hpid) ?_
    (fun _ => ⟨by rw [hself, hfrozen], c, token, ?_, fun ref' _ => hfree ref'⟩)
    (fun token' htoken' ref' hne hheld' hsame => ?_) (fun pid hpid => ?_)
    (has.freshPlayer ▸ h.bound ref hheld) has.freshPlayer.ge fun session' c' hlookup => ?_
  · intro ref' hne honline c' token' ⟨hc', htoken', hmapping, hpid,
      ⟨session', hsession', hfiled'⟩, hdestroys'⟩
    have hne' : c' ≠ c := by
      rintro rfl
      exact hfree ref' ⟨honline, hc'⟩
    have hdiffers : token' ≠ token := by
      rintro rfl
      exact hne (hnew ref' (.inl honline) htoken')
    have hold : ¬((server.players ref).online ∧ (server.players ref).token = some token') :=
      fun hhis => hne (h.tokens ref' ref token' (.inl honline) hheld htoken' hhis.2)
    unfold Found
    rw [hother ref' hne, has.tokens, if_neg hdiffers, if_neg hold, has.controllers,
      Function.update_of_ne hne']
    refine ⟨hc', htoken', hmapping, hpid, ⟨session', ?_, has.cache ▸ hfiled'⟩, fun hmem => ?_⟩
    · rw [hsessions, hsession']
    · rcases has.destroys c' hmem with hwas | hhis
      · exact hdestroys' hwas
      · exact hne (h.apart ref' ref c' ⟨honline, hc'⟩ hhis)
  · unfold Found
    rw [hself, has.tokens, if_pos rfl, has.controllers, Function.update_self]
    refine ⟨rfl, rfl, rfl, rfl, ⟨session, ?_, has.cache ▸ hfiled⟩, fun hmem => ?_⟩
    · rw [hsessions, hsession]
    · rcases has.destroys c hmem with hwas | hhis
      · exact hdestroys hwas
      · exact hfree ref hhis
  · rw [hself] at htoken'
    obtain rfl := Option.some.inj htoken'
    exact hne (hnew ref' hheld' hsame)
  · rw [hself]
    exact ⟨h.cached pid ref (hget pid ▸ hpid), fun hidle => absurd hidle.symm Bool.false_ne_true⟩
  · rw [has.freshController]
    exact h.filed session' c' (has.cache ▸ hlookup)

/-! ## Taking over -/

/-- **`reconnection`**: the session of the new controller gets the player's one. -/
lemma Orderly.takeOver (h : Orderly server) {c ref : ℕ} {token : String} {pid : Int32}
    (hcached : server.getPlayerByPid pid = some ref) (htakes : server.TakesOver c ref) :
    Orderly (server.reconnection c ref token) := by
  simp only [GameServer.reconnection]
  split_ifs
  · exact h
  · cases hold : (server.players ref).messageController with
    | none => exact h
    | some old =>
      have honline : (server.players ref).online := by
        by_contra hidle
        rw [h.idle pid ref hcached (Bool.eq_false_iff.mpr hidle)] at hold
        cases hold
      obtain ⟨old', -, hold', -, -, -, ⟨oldSession, holdSession, holdFiled⟩, -⟩ :=
        h.found ref honline
      obtain rfl : old' = old := Option.some.inj (hold'.symm.trans hold)
      obtain ⟨⟨session, hsession, hfiled⟩, hfree⟩ := htakes
      simp only [GameServer.reconnectController, holdSession, hsession]
      refine h.of_controllers rfl rfl rfl rfl (fun ref' c' htaken hlive hdestroys => ?_) ?_
      · by_cases heq : c' = old'
        · refine ⟨⟨session, ?_, ?_⟩, hdestroys, ?_⟩
          · rw [heq]
            simp only [GameServer.setController, Function.update_self]
          · rw [heq]
            exact AList.lookup_insert _
          · rw [heq]
            simp only [GameServer.setController, Function.update_self]
        · -- he is somebody else, so his session is neither of the two
          have hother : ref' ≠ ref := by
            rintro rfl
            exact heq (Option.some.inj (htaken.2.symm.trans hold))
          have hsame : ∀ controller, Function.update server.controllers old' controller c' =
              server.controllers c' := by
            intro controller
            rw [Function.update_of_ne heq]
          obtain ⟨session', hsession', hfiled'⟩ := hlive
          have hnew : session' ≠ session := by
            rintro rfl
            rw [hfiled] at hfiled'
            obtain rfl := Option.some.inj hfiled'
            exact hother (hfree ref' htaken)
          have hold'' : session' ≠ oldSession := by
            rintro rfl
            rw [holdFiled] at hfiled'
            exact heq (Option.some.inj hfiled').symm
          refine ⟨⟨session', ?_, ?_⟩, hdestroys, ?_⟩
          · simp only [GameServer.setController, hsame, hsession']
          · refine (AList.lookup_insert_ne hnew).trans ?_
            rw [AList.lookup_erase_ite, if_neg hold'']
            exact hfiled'
          · simp only [GameServer.setController, hsame]
      · intro session' c' hlookup
        rw [AList.lookup_insert_ite, AList.lookup_erase_ite] at hlookup
        split_ifs at hlookup
        · obtain rfl := Option.some.inj hlookup
          exact h.filed _ _ holdFiled
        · exact h.filed _ _ hlookup

/-! ## Players in the cache -/

/-- **`addPlayer`**: the new object is offline. -/
lemma Orderly.addPlayer (h : Orderly server) (pid : Int32) (row : PlayerRow) :
    Orderly (server.addPlayer pid row).1 := by
  have hself : (server.addPlayer pid row).1.players server.freshPlayer =
      { toPlayerRow := row, id := pid } := Function.update_self _ _ _
  have hother : ∀ ref ≠ server.freshPlayer,
      (server.addPlayer pid row).1.players ref = server.players ref :=
    fun ref hne => Function.update_of_ne hne _ _
  have hget : ∀ pid', (server.addPlayer pid row).1.getPlayerByPid pid' =
      if pid' = pid then some server.freshPlayer else server.getPlayerByPid pid' :=
    fun pid' => AList.lookup_insert_ite _ _ _ _
  refine h.change server.freshPlayer hother (fun pid' ref' hne hpid => ?_) ?_ (fun honline => ?_)
    (fun token htoken => ?_) (fun pid' hpid => ?_) (Nat.lt_succ_self _) (Nat.le_succ _) h.filed
  · rw [hget] at hpid
    split_ifs at hpid
    · exact absurd (Option.some.inj hpid).symm hne
    · exact hpid
  · intro ref' hne _ c token hfound
    unfold Found
    rw [hother ref' hne]
    exact hfound
  · rw [hself] at honline
    cases honline
  · rw [hself] at htoken
    cases htoken
  · rw [hself]
    rw [hget] at hpid
    split_ifs at hpid with heq
    · exact ⟨heq.symm, fun _ => rfl⟩
    · exact absurd (h.bound _ (.inr ⟨pid', hpid⟩)) (lt_irrefl _)

/-- **The cache forgets a player.** -/
lemma Orderly.evict (h : Orderly server) (pid : Int32) :
    Orderly { server with cacheAllPlayers := server.cacheAllPlayers.erase pid } := by
  have hget : ∀ pid' ref, (server.cacheAllPlayers.erase pid).lookup pid' = some ref →
      server.getPlayerByPid pid' = some ref := by
    intro pid' ref hcached
    rw [AList.lookup_erase_ite] at hcached
    split_ifs at hcached
    exact hcached
  have hheld : ∀ ref, ((server.players ref).online ∨
      ∃ pid', (server.cacheAllPlayers.erase pid).lookup pid' = some ref) → server.Held ref := by
    rintro ref (honline | ⟨pid', hcached⟩)
    · exact .inl honline
    · exact .inr ⟨pid', hget pid' ref hcached⟩
  exact {
    found := h.found
    thawed := h.thawed
    apart := h.apart
    tokens := fun ref ref' token hheld₁ hheld₂ =>
      h.tokens ref ref' token (hheld ref hheld₁) (hheld ref' hheld₂)
    idle := fun pid' ref hcached => h.idle pid' ref (hget pid' ref hcached)
    cached := fun pid' ref hcached => h.cached pid' ref (hget pid' ref hcached)
    bound := fun ref hheld' => h.bound ref (hheld ref hheld')
    filed := h.filed }

/-- **The state of a player changes**, who need not leave. -/
lemma Orderly.setFrozen (h : Orderly server) {pid : Int32} {ref : ℕ} {frozen : Bool}
    (hpid : server.getPlayerByPid pid = some ref)
    (hstays : (server.players ref).online → frozen = false) :
    Orderly (server.setPlayer ref { server.players ref with frozen := frozen }) := by
  have hself : (server.setPlayer ref { server.players ref with frozen := frozen }).players ref =
      { server.players ref with frozen := frozen } := Function.update_self _ _ _
  have hother : ∀ ref' ≠ ref, (server.setPlayer ref
      { server.players ref with frozen := frozen }).players ref' = server.players ref' :=
    fun ref' hne => Function.update_of_ne hne _ _
  refine h.change ref hother (fun _ _ _ hpid' => hpid') ?_ (fun honline => ?_)
    (fun token htoken ref' hne hheld hsame => ?_) (fun pid' hpid' => ?_)
    (h.bound ref (.inr ⟨pid, hpid⟩)) le_rfl h.filed
  · intro ref' hne _ c token hfound
    unfold Found
    rw [hother ref' hne]
    exact hfound
  · rw [hself] at honline
    obtain ⟨c, token, hfound⟩ := h.found ref honline
    refine ⟨by rw [hself, hstays honline], c, token, ?_, fun ref' hne htaken => ?_⟩
    · unfold Found
      rw [hself]
      exact hfound
    · exact hne (h.apart ref' ref c htaken ⟨honline, hfound.1⟩)
  · rw [hself] at htoken
    exact hne (h.tokens ref' ref token hheld (.inr ⟨pid, hpid⟩) hsame htoken)
  · rw [hself]
    exact ⟨h.cached pid' ref hpid', h.idle pid' ref hpid'⟩

/-! ## Requests -/

/-- **A player enters in order**, or is refused. -/
lemma Orderly.enterGameAs (h : Orderly server) {c ref : ℕ} {token : String}
    (hheld : server.Held ref) (henters : server.Enters c ref token) :
    Orderly (server.enterGameAs c ref token) := by
  rcases h.entersAs c ref token with heq | ⟨hfrozen, has⟩
  · rw [heq]
    exact h
  · exact h.enter hheld hfrozen henters has

/-- **`enterGame`.** -/
lemma Orderly.enterGame (h : Orderly server) {c : ℕ} {token : String}
    (hallowed : match server.getPlayerByToken token with
      | some ref => server.TakesOver c ref
      | none => ∀ ref, server.playerOf c = some ref → server.Enters c ref token) :
    Orderly (server.enterGame c token) := by
  unfold GameServer.enterGame
  cases htoken : server.getPlayerByToken token with
  | some ref =>
    obtain ⟨pid, -, hcached⟩ := Option.bind_eq_some_iff.mp htoken
    rw [htoken] at hallowed
    exact h.takeOver hcached hallowed
  | none =>
    rw [htoken] at hallowed
    cases hserver : (server.controllers c).serverId with
    | none => exact h
    | some serverId =>
      cases haccount : (server.controllers c).accountId with
      | none => exact h
      | some accountId =>
        simp only
        split_ifs
        · exact h
        · cases hplayer : (server.accountMapping.lookup (accountId, serverId)).bind
              server.getPlayerByPid with
          | some ref =>
            have hof : server.playerOf c = some ref := by
              simp only [playerOf, hserver, haccount, Option.bind_eq_bind, Option.bind_some]
              exact hplayer
            obtain ⟨pid, -, hcached⟩ := Option.bind_eq_some_iff.mp hplayer
            exact h.enterGameAs (.inr ⟨pid, hcached⟩) (hallowed ref hof)
          | none => exact { h with }

/-- A player who enters in order also does when he has been added. -/
lemma Enters.addPlayer {c : ℕ} {token : String} (henters : server.Enters c server.freshPlayer token)
    (pid : Int32) (row : PlayerRow) :
    (server.addPlayer pid row).1.Enters c server.freshPlayer token := by
  obtain ⟨hlive, hdestroys, hfree, hnew⟩ := henters
  have hsame : ∀ ref' ≠ server.freshPlayer,
      (server.addPlayer pid row).1.players ref' = server.players ref' :=
    fun ref' hne => Function.update_of_ne hne _ _
  refine ⟨hlive, hdestroys, fun ref' htaken => ?_, fun ref' hheld htoken => ?_⟩
  · by_cases heq : ref' = server.freshPlayer
    · have honline := htaken.1
      rw [heq] at honline
      change (Function.update server.players server.freshPlayer
        { toPlayerRow := row, id := pid } server.freshPlayer).online = true at honline
      rw [Function.update_self] at honline
      cases honline
    · unfold Taken at htaken
      rw [hsame ref' heq] at htaken
      exact hfree ref' htaken
  · by_contra hne
    rw [hsame ref' hne] at htoken
    refine hne (hnew ref' ?_ htoken)
    rcases hheld with honline | ⟨pid', hcached⟩
    · rw [hsame ref' hne] at honline
      exact .inl honline
    · change (server.cacheAllPlayers.insert pid server.freshPlayer).lookup pid' =
        some ref' at hcached
      rw [AList.lookup_insert_ite] at hcached
      split_ifs at hcached
      · exact absurd (Option.some.inj hcached).symm hne
      · exact .inr ⟨pid', hcached⟩

omit [DecidableEq κ] in
/-- The new object is in the cache. -/
lemma held_addPlayer (server : GameServer κ) (pid : Int32) (row : PlayerRow) :
    (server.addPlayer pid row).1.Held server.freshPlayer :=
  .inr ⟨pid, AList.lookup_insert _⟩

/-- **`createPlayer`.** -/
lemma Orderly.createPlayer (h : Orderly server) {message : GameMessage} (pid : Int32)
    (henters : server.Enters message.controller server.freshPlayer message.token) :
    Orderly (server.createPlayer message pid) := by
  have h' : Orderly { server with
      playerDAO := server.playerDAO.insert pid testAccount
      history := { server.history with
        created := (message.controller, pid) :: server.history.created } } :=
    { h with }
  exact (h'.addPlayer pid testAccount).enterGameAs (held_addPlayer _ pid testAccount)
    (Enters.addPlayer henters pid testAccount)

/-- **`load`.** -/
lemma Orderly.load (h : Orderly server) (pid : Int32) (row : PlayerRow) :
    Orderly (server.load pid row).1 := by
  unfold GameServer.load
  cases server.getPlayerByPid pid with
  | some ref => exact h
  | none => exact h.addPlayer pid row

/-- **`loadSuc`.** -/
lemma Orderly.loadSuc (h : Orderly server) {message : GameMessage} {pid : Int32} {row : PlayerRow}
    (henters : server.Enters message.controller (server.loadRef pid) message.token) :
    Orderly (server.loadSuc message (some (pid, row))) := by
  simp only [GameServer.loadSuc]
  unfold loadRef at henters
  unfold GameServer.load
  cases hcached : server.getPlayerByPid pid with
  | some ref =>
    rw [hcached] at henters
    exact h.enterGameAs (.inr ⟨pid, hcached⟩) henters
  | none =>
    rw [hcached] at henters
    exact (h.addPlayer pid row).enterGameAs (held_addPlayer server pid row)
      (Enters.addPlayer henters pid row)

/-- **`verifySuc`.** -/
lemma Orderly.verifySuc (h : Orderly server) (verify : Verify) (accountId token : String)
    (admin : Int32) : Orderly (server.verifySuc verify accountId token admin) := by
  unfold GameServer.verifySuc
  split_ifs
  · exact h
  · refine h.of_controllers rfl rfl rfl rfl (fun ref c _ hlive hdestroys => ?_) h.filed
    obtain ⟨session, hsession, hfiled⟩ := hlive
    have hsame : ∀ controller : Controller κ,
        controller.session = (server.controllers verify.controller).session →
        controller.playerId = (server.controllers verify.controller).playerId →
        (Function.update server.controllers verify.controller controller c).session =
            (server.controllers c).session ∧
          (Function.update server.controllers verify.controller controller c).playerId =
            (server.controllers c).playerId := by
      intro controller hsession' hpid
      rw [Function.update_apply]
      split_ifs with heq
      · rw [heq]
        exact ⟨hsession', hpid⟩
      · exact ⟨rfl, rfl⟩
    have hsame' := hsame { server.controllers verify.controller with
      admin := some admin
      serverId := some verify.serverId
      accountId := some accountId
      token := some verify.token } rfl rfl
    exact ⟨⟨session, hsame'.1.trans hsession, hfiled⟩, hdestroys, hsame'.2⟩

/-- **The state of a player is changed.** -/
lemma Orderly.changeState (h : Orderly server) (pid : Int32) (frozen early : Bool) :
    Orderly (server.changeState pid frozen early) := by
  simp only [GameServer.changeState]
  cases hcached : server.getPlayerByPid pid with
  | none => exact h
  | some ref =>
    obtain ⟨changed, hchanged⟩ : ∃ changed, changed =
        { server.setPlayer ref { server.players ref with frozen := frozen } with
          playerDAO := server.playerDAO.insert pid
            { server.players ref with frozen := frozen }.toPlayerRow } := ⟨_, rfl⟩
    simp only [← hchanged]
    by_cases hleaves : ((server.players ref).online && frozen) = true
    · rw [if_pos hleaves]
      obtain ⟨honline, -⟩ := Bool.and_eq_true_iff.mp hleaves
      obtain ⟨c, token, hc, htoken, -⟩ := h.found ref honline
      have hself : changed.players ref = { server.players ref with frozen := frozen } := by
        rw [hchanged]
        exact Function.update_self _ _ _
      have hpid : (changed.controllers c).playerId = some pid := by
        rw [hchanged]
        exact h.playerId_eq hcached hc
      have hcached' : changed.getPlayerByPid pid = some ref := by
        rw [hchanged]
        exact hcached
      have hgone := leaves_offlinePlayer early
        (show (changed.players ref).token = some token by rw [hself, htoken])
      rw [hc]
      simp only [offlineController_eq hcached' hpid early]
      refine @Orderly.leave _ _ _ _ h _ _ frozen (.inr ⟨pid, hcached⟩) htoken ?_
      have hplayers := hgone.players
      have hcontrollers := hgone.controllers
      have hdestroys := hgone.destroys
      have hcache := hgone.cache
      rw [hself] at hplayers hcontrollers hdestroys hcache
      subst hchanged
      exact { hgone with
        players := hplayers.trans (Function.update_idem _ _ _)
        controllers := hcontrollers
        destroys := hdestroys
        cache := hcache }
    · rw [if_neg hleaves, hchanged]
      have hset := @Orderly.setFrozen _ _ _ h _ _ frozen hcached fun honline => by
        rw [← Bool.not_eq_true]
        exact fun hfrozen => hleaves (Bool.and_eq_true_iff.mpr ⟨honline, hfrozen⟩)
      exact { hset with }

/-! ## Runs -/

/-- **Every allowed step preserves the invariant.** -/
theorem Orderly.step (h : Orderly server) {action : Action κ} (hallowed : server.Allowed action) :
    Orderly (server.step action) := by
  cases action with
  | connect session =>
    have h' : Orderly { server with active := Function.update server.active session true } :=
      { h with }
    exact h'.getController session
  | disconnect session =>
    have h' : Orderly { server with active := Function.update server.active session false } :=
      { h with }
    exact h'.getController session
  | verifySign session token serverId =>
    have h' := h.getController session
    simp only [GameServer.step]
    split_ifs
    · exact { h' with }
    · exact h'
  | enterGame session token =>
    have h' := h.getController session
    simp only [GameServer.step]
    split_ifs
    · exact { h' with }
    · exact h'
  | createPlayer session token =>
    have h' := h.getController session
    simp only [GameServer.step]
    split_ifs
    · exact { h' with }
    · exact h'
  | verified ix accountId token admin =>
    simp only [GameServer.step]
    cases server.verifies[ix]? with
    | none => exact h
    | some verify =>
      have h' : Orderly { server with verifies := server.verifies.eraseIdx ix } :=
        { h with }
      exact h'.verifySuc verify accountId token admin
  | enter ix =>
    simp only [Allowed] at hallowed
    simp only [GameServer.step]
    cases hmessage : server.enters[ix]? with
    | none => exact h
    | some message =>
      have h' : Orderly { server with enters := server.enters.eraseIdx ix } :=
        { h with }
      exact h'.enterGame (hallowed message hmessage)
  | create ix pid =>
    simp only [Allowed] at hallowed
    simp only [GameServer.step]
    cases hmessage : server.creates[ix]? with
    | none => exact h
    | some message =>
      simp only
      split_ifs
      · exact h
      · have h' : Orderly { server with creates := server.creates.eraseIdx ix } :=
          { h with }
        exact h'.createPlayer pid (hallowed message hmessage)
  | read ix pid =>
    simp only [GameServer.step]
    cases server.loads[ix]? with
    | none => exact h
    | some load =>
      simp only
      split
      · exact { h with }
      · split_ifs
        · exact h
        · exact { h with }
  | loaded ix =>
    simp only [Allowed] at hallowed
    simp only [GameServer.step]
    cases hload : server.loads[ix]? with
    | none => exact h
    | some load =>
      simp only
      have h' : Orderly { server with loads := server.loads.eraseIdx ix } :=
        { h with }
      cases hdata : load.data with
      | none => exact h
      | some data =>
        cases data with
        | none => exact h'
        | some found => exact h'.loadSuc (hallowed load hload found.1 found.2 hdata)
  | loadOther pid =>
    simp only [GameServer.step]
    cases server.playerDAO.lookup pid with
    | none => exact h
    | some row => exact h.load pid row
  | evict pid =>
    simp only [GameServer.step]
    cases server.getPlayerByPid pid with
    | none => exact h
    | some ref =>
      have h' : Orderly { server with cacheAllPlayers := server.cacheAllPlayers.erase pid } :=
        h.evict pid
      exact { h' with }
  | timeOut ix early =>
    simp only [GameServer.step]
    cases server.timeOuts[ix]? with
    | none => exact h
    | some ref =>
      have h' : Orderly { server with timeOuts := server.timeOuts.eraseIdx ix } :=
        { h with }
      simp only
      split_ifs with honline
      · exact h'.offlinePlayer (.inl honline) early
      · exact h'
  | piOffline pid early =>
    simp only [GameServer.step]
    cases hcached : server.getPlayerByPid pid with
    | none => exact h
    | some ref => exact h.offlinePlayer (.inr ⟨pid, hcached⟩) early
  | leave ref early =>
    obtain ⟨pid, hcached⟩ := hallowed
    simp only [GameServer.step]
    split_ifs
    · cases hc : (server.players ref).messageController with
      | none => exact h
      | some c =>
        simp only [offlineController_eq hcached (h.playerId_eq hcached hc) early]
        exact h.offlinePlayer (.inr ⟨pid, hcached⟩) early
    · exact h
  | setClosed closed => exact { h with }
  | changeState pid frozen early => exact h.changeState pid frozen early
  | clear ix =>
    simp only [GameServer.step]
    cases hc : server.destroys[ix]? with
    | none => exact h
    | some c =>
      have h' : Orderly { server with destroys := server.destroys.eraseIdx ix } :=
        h.of_controllers rfl rfl rfl rfl (fun ref c _ hlive hnot =>
          ⟨hlive, fun hmem => hnot (List.mem_of_mem_eraseIdx hmem), rfl⟩) h.filed
      have hfree : ∀ ref, ¬server.Taken ref c := by
        rintro ref ⟨honline, hhis⟩
        obtain ⟨c', -, hc', -, -, -, -, hnot⟩ := h.found ref honline
        obtain rfl := Option.some.inj (hc'.symm.trans hhis)
        exact hnot (List.mem_of_getElem? hc)
      exact h'.clear hfree

/-- The server is orderly when it has started. -/
lemma orderly_boot (rows : AList fun _ : Int32 => PlayerRow) :
    Orderly (boot rows : GameServer κ) := by
  unfold boot
  refine List.foldlRecOn rows.entries _ ?_ fun server h row _ => h.addPlayer row.1 row.2
  exact {
    found := fun _ honline => absurd honline Bool.false_ne_true
    thawed := fun _ honline => absurd honline Bool.false_ne_true
    apart := fun _ _ _ htaken => absurd htaken.1 Bool.false_ne_true
    tokens := fun _ _ _ _ _ htoken => absurd htoken.symm (Option.some_ne_none _)
    idle := fun _ _ _ _ => rfl
    cached := fun _ _ hcached => absurd hcached.symm (Option.some_ne_none _)
    bound := by
      rintro ref (honline | ⟨pid, hcached⟩)
      · exact absurd honline Bool.false_ne_true
      · exact absurd hcached.symm (Option.some_ne_none _)
    filed := fun _ _ hfiled => absurd hfiled.symm (Option.some_ne_none _) }

/-- **Who is online can come back.** In every allowed run, a player who is online and in the cache
is not frozen, has a token and a session that acts as him; and any session with a live controller,
if it shows this token while the server is open, acts as him when the request is executed. -/
theorem online_reconnects (rows : AList fun _ : Int32 => PlayerRow) (actions : List (Action κ))
    (hallowed : EveryStep GameServer.step Allowed (boot rows) actions) {pid : Int32} {ref : ℕ}
    (hcached : (run GameServer.step (boot rows) actions).getPlayerByPid pid = some ref)
    (honline : ((run GameServer.step (boot rows) actions).players ref).online) :
    ((run GameServer.step (boot rows) actions).players ref).frozen = false ∧
      (∃ session, (run GameServer.step (boot rows) actions).ActsAs session pid) ∧
      ∃ token, ((run GameServer.step (boot rows) actions).players ref).token = some token ∧
        ((run GameServer.step (boot rows) actions).closed = false → ∀ session c,
          (run GameServer.step (boot rows) actions).cache.lookup session = some c →
          ((run GameServer.step (boot rows) actions).controllers c).session = some session →
          ((run GameServer.step (boot rows) actions).enterGame c token).ActsAs session pid) := by
  have h : Orderly (run GameServer.step (boot rows) actions) :=
    state_inv_run Orderly (fun _ _ h hallowed => h.step hallowed) (orderly_boot rows) hallowed
  generalize run GameServer.step (boot rows) actions = server at *
  obtain ⟨old, token, hold, htoken, hmapping, hpid, ⟨oldSession, holdSession, holdFiled⟩, -⟩ :=
    h.found ref honline
  have hid := h.cached pid ref hcached
  rw [hid] at hmapping hpid
  refine ⟨h.thawed ref honline, ⟨oldSession, old, holdFiled, hpid⟩, token, htoken, ?_⟩
  intro hopen session c hfiled hsession
  have hfound : server.getPlayerByToken token = some ref := by
    rw [getPlayerByToken, hmapping, Option.bind_some, hcached]
  refine ⟨old, ?_⟩
  simp only [GameServer.enterGame, hfound, GameServer.reconnection, hopen, hold, Bool.false_and,
    Bool.false_eq_true, if_false, GameServer.reconnectController, holdSession, hsession]
  refine ⟨AList.lookup_insert _, ?_⟩
  simp only [GameServer.setController, Function.update_self, hpid]

/-- The first player enters on session 1, and there is a second session. -/
def firstSession : List (Action ℕ) :=
  [.connect 1, .verifySign 1 "t" 1, .verified 0 "a" "t" 0, .enterGame 1 "t", .enter 0, .connect 2]

lemma allowed_firstSession :
    EveryStep GameServer.step Allowed (boot onePlayer) firstSession := by
  refine ⟨trivial, trivial, trivial, trivial, fun message hmessage => ?_, trivial, trivial⟩
  -- nobody is online, or has a token
  obtain rfl : message = ⟨0, "t"⟩ := (Option.mem_some.mp hmessage).symm
  intro ref href
  obtain rfl : ref = 0 := by
    have hzero : some 0 = some ref := href
    exact (Option.some.inj hzero).symm
  refine ⟨⟨1, by decide, by decide⟩, by decide, fun ref' htaken => ?_, fun ref' _ htoken => ?_⟩
  · cases ref' with
    | zero => exact Bool.false_ne_true htaken.1
    | succ n => exact Bool.false_ne_true htaken.1
  · cases ref' with
    | zero => exact absurd htoken.symm (Option.some_ne_none _)
    | succ n => exact absurd htoken.symm (Option.some_ne_none _)

/-- The player can come back on the second session. -/
theorem online_reconnects_firstSession :
    ((run GameServer.step (boot onePlayer) firstSession).players 0).frozen = false ∧
      (∃ session, (run GameServer.step (boot onePlayer) firstSession).ActsAs session 7) ∧
      ∃ token, ((run GameServer.step (boot onePlayer) firstSession).players 0).token = some token ∧
        ((run GameServer.step (boot onePlayer) firstSession).closed = false → ∀ session c,
          (run GameServer.step (boot onePlayer) firstSession).cache.lookup session = some c →
          ((run GameServer.step (boot onePlayer) firstSession).controllers c).session =
            some session →
          ((run GameServer.step (boot onePlayer) firstSession).enterGame c
            token).ActsAs session 7) :=
  online_reconnects onePlayer firstSession allowed_firstSession (by decide) (by decide)

end GameServer

end SrgpGame.Session
