import SrgpGame.Session.GameServer

set_option autoImplicit false

/-!
# Who acts as a player

The requests of a session are executed for the player whose id its controller has. This file says
how a session comes to act as a player: in every run, in whatever order the messages of clients, the
answers of the login service, the loads and the timeouts come.

## Main definitions

* `GameServer.ActsAs` — a session acts as a player.
* `GameServer.Admitted` — the player's account was confirmed on a controller, or he was created on
  it.
* `GameServer.Shown` — a session showed a token.
* `GameServer.Traced` — the invariant.

## Main results

* `GameServer.Traced.step` — every step preserves the invariant.
* `GameServer.actsAs_admitted` — whole runs.
-/

namespace SrgpGame.Session

open Runs

variable {κ : Type}

/-! ## What is wanted -/

/-- A table says that a player has an account. -/
def HasAccount (rows : AList fun _ : Int32 => PlayerRow) (pid : Int32) (accountId : String)
    (serverId : Int32) : Prop :=
  ∃ row, rows.lookup pid = some row ∧ row.accountId = accountId ∧ row.serverId = serverId

/-- **A player is admitted** on a controller: the login service has confirmed his account on it, or
he was created on it. -/
def Admits (history : History κ) (rows : AList fun _ : Int32 => PlayerRow) (c : ℕ) (pid : Int32) :
    Prop :=
  (c, pid) ∈ history.created ∨
    ∃ accountId serverId, HasAccount rows pid accountId serverId ∧
      (c, accountId, serverId) ∈ history.verified

/-- A token led to a player who entered on the controller. -/
def Leads (history : History κ) (token : String) (c : ℕ) : Prop :=
  ∃ pid, (∃ c', (c', pid, token) ∈ history.entered) ∧ ∃ token', (c, pid, token') ∈ history.entered

/-! ## The history grows -/

/-- **The history grows**, and players keep their accounts. -/
structure Extends (history history' : History κ)
    (rows rows' : AList fun _ : Int32 => PlayerRow) : Prop where
  verified : history.verified ⊆ history'.verified
  created : history.created ⊆ history'.created
  entered : history.entered ⊆ history'.entered
  opened : history.opened ⊆ history'.opened
  given : history.given ⊆ history'.given
  rows : ∀ pid accountId serverId, HasAccount rows pid accountId serverId →
    HasAccount rows' pid accountId serverId

variable {history history' : History κ} {rows rows' : AList fun _ : Int32 => PlayerRow}

lemma Admits.mono {c : ℕ} {pid : Int32} (h : Admits history rows c pid)
    (hext : Extends history history' rows rows') : Admits history' rows' c pid := by
  rcases h with hcreated | ⟨accountId, serverId, hrow, hverified⟩
  · exact .inl (hext.created hcreated)
  · exact .inr ⟨accountId, serverId, hext.rows _ _ _ hrow, hext.verified hverified⟩

lemma Leads.mono {c : ℕ} {token : String} (h : Leads history token c)
    (hext : Extends history history' rows rows') : Leads history' token c := by
  obtain ⟨pid, ⟨c', hthere⟩, token', hhere⟩ := h
  exact ⟨pid, ⟨c', hext.entered hthere⟩, token', hext.entered hhere⟩

namespace GameServer

/-- **A session acts as a player.** -/
def ActsAs [DecidableEq κ] (server : GameServer κ) (session : κ) (pid : Int32) : Prop :=
  ∃ c, server.cache.lookup session = some c ∧ (server.controllers c).playerId = some pid

/-- The player is admitted on the controller. -/
abbrev Admitted (server : GameServer κ) (c : ℕ) (pid : Int32) : Prop :=
  Admits server.history server.playerDAO c pid

/-- **The session has its controller** since it was made for it, or since the session showed a token
that led to a player of the controller. -/
def Shown (server : GameServer κ) (session : κ) (c : ℕ) : Prop :=
  (session, c) ∈ server.history.opened ∨
    ∃ token, (session, c, token) ∈ server.history.given ∧ Leads server.history token c

/-! ## The invariant -/

/-- What a controller knows was confirmed on it, and its player was admitted. -/
def Traces (history : History κ) (rows : AList fun _ : Int32 => PlayerRow) (c : ℕ)
    (controller : Controller κ) : Prop :=
  (∀ accountId serverId, controller.accountId = some accountId →
      controller.serverId = some serverId → (c, accountId, serverId) ∈ history.verified) ∧
    ∀ pid, controller.playerId = some pid → Admits history rows c pid

/-- **The invariant**: everything that the server knows has its reason in the history. -/
structure Traced [DecidableEq κ] (server : GameServer κ) : Prop where
  controller : ∀ c, Traces server.history server.playerDAO c (server.controllers c)
  player : ∀ ref c, (server.players ref).messageController = some c →
    ∃ token, (c, (server.players ref).id, token) ∈ server.history.entered
  cached : ∀ pid ref, server.cacheAllPlayers.lookup pid = some ref →
    ref < server.freshPlayer ∧ (server.players ref).id = pid ∧
      HasAccount server.playerDAO pid (server.players ref).accountId (server.players ref).serverId
  account : ∀ account pid, server.accountMapping.lookup account = some pid →
    HasAccount server.playerDAO pid account.1 account.2
  token : ∀ token pid, server.tokenMappingPlayer.lookup token = some pid →
    ∃ c, (c, pid, token) ∈ server.history.entered
  load : ∀ load ∈ server.loads,
    (load.controller, load.accountId, load.serverId) ∈ server.history.verified ∧
      ∀ pid row, load.data = some (some (pid, row)) →
        row.accountId = load.accountId ∧ row.serverId = load.serverId ∧
          HasAccount server.playerDAO pid row.accountId row.serverId
  entered : ∀ c pid token, (c, pid, token) ∈ server.history.entered → server.Admitted c pid
  filed : ∀ session c, server.cache.lookup session = some c →
    (session, c) ∈ server.history.opened ∨ ∃ token, (session, c, token) ∈ server.history.given
  given : ∀ session c token, (session, c, token) ∈ server.history.given →
    Leads server.history token c

/-! ## One thing changes -/

variable [DecidableEq κ] {server : GameServer κ}

/-- **The history of the server grows**, by entries that have their reasons. -/
lemma Traced.extend (h : Traced server) (history : History κ)
    (rows : AList fun _ : Int32 => PlayerRow)
    (hext : Extends server.history history server.playerDAO rows)
    (hentered : ∀ c pid token, (c, pid, token) ∈ history.entered →
      (c, pid, token) ∈ server.history.entered ∨ Admits history rows c pid)
    (hgiven : ∀ session c token, (session, c, token) ∈ history.given →
      (session, c, token) ∈ server.history.given ∨ Leads history token c) :
    Traced { server with history := history, playerDAO := rows } where
  controller := fun c =>
    ⟨fun accountId serverId haccount hserver =>
      hext.verified ((h.controller c).1 accountId serverId haccount hserver),
      fun pid hpid => ((h.controller c).2 pid hpid).mono hext⟩
  player := fun ref c hc => (h.player ref c hc).imp fun _ hmem => hext.entered hmem
  cached := fun pid ref hlookup =>
    (h.cached pid ref hlookup).imp_right fun hid => hid.imp_right (hext.rows _ _ _)
  account := fun account pid hlookup => hext.rows _ _ _ (h.account account pid hlookup)
  token := fun token pid hlookup => (h.token token pid hlookup).imp fun _ hmem => hext.entered hmem
  load := fun load hload =>
    ⟨hext.verified (h.load load hload).1, fun pid row hdata =>
      ((h.load load hload).2 pid row hdata).imp_right fun hrow => hrow.imp_right (hext.rows _ _ _)⟩
  entered := by
    intro c pid token hmem
    rcases hentered c pid token hmem with hold | hnew
    · exact (h.entered c pid token hold).mono hext
    · exact hnew
  filed := fun session c hlookup =>
    (h.filed session c hlookup).imp (fun hmem => hext.opened hmem)
      fun hmem => hmem.imp fun _ hmem => hext.given hmem
  given := by
    intro session c token hmem
    rcases hgiven session c token hmem with hold | hnew
    · exact (h.given session c token hold).mono hext
    · exact hnew

/-- **A controller changes.** -/
lemma Traced.setController (h : Traced server) (c : ℕ) (controller : Controller κ)
    (hcontroller : Traces server.history server.playerDAO c controller) :
    Traced (server.setController c controller) := by
  refine ⟨fun c' => ?_, h.player, h.cached, h.account, h.token, h.load, h.entered, h.filed, h.given⟩
  change Traces server.history server.playerDAO c'
    (Function.update server.controllers c controller c')
  rw [Function.update_apply]
  split_ifs with hc
  · rw [hc]
    exact hcontroller
  · exact h.controller c'

/-- **A player in memory changes**, and keeps his id and account. -/
lemma Traced.setPlayer (h : Traced server) (ref : ℕ) (player : PlayerVO)
    (hid : player.id = (server.players ref).id)
    (haccount : player.accountId = (server.players ref).accountId)
    (hserver : player.serverId = (server.players ref).serverId)
    (hcontroller : ∀ c, player.messageController = some c →
      (server.players ref).messageController = some c ∨
        ∃ token, (c, player.id, token) ∈ server.history.entered) :
    Traced (server.setPlayer ref player) := by
  refine ⟨h.controller, fun ref' c hc => ?_, fun pid ref' hlookup => ?_, h.account, h.token, h.load,
    h.entered, h.filed, h.given⟩
  · change (Function.update server.players ref player ref').messageController = some c at hc
    change ∃ token, (c, (Function.update server.players ref player ref').id, token) ∈ _
    rw [Function.update_apply] at hc ⊢
    split_ifs at hc ⊢ with href
    · rcases hcontroller c hc with hold | hnew
      · rw [hid]
        exact h.player ref c hold
      · exact hnew
    · exact h.player ref' c hc
  · obtain ⟨hlt, hpid, hrow⟩ := h.cached pid ref' hlookup
    change _ ∧ (Function.update server.players ref player ref').id = pid ∧ HasAccount _ pid
      (Function.update server.players ref player ref').accountId
      (Function.update server.players ref player ref').serverId
    rw [Function.update_apply]
    split_ifs with href
    · rw [hid, haccount, hserver, ← href]
      exact ⟨hlt, hpid, hrow⟩
    · exact ⟨hlt, hpid, hrow⟩

/-- A session loses its controller. -/
lemma Traced.eraseSession (h : Traced server) (session : κ) :
    Traced { server with cache := server.cache.erase session } := by
  refine { h with filed := fun session' c hlookup => ?_ }
  rw [AList.lookup_erase_ite] at hlookup
  split_ifs at hlookup
  exact h.filed session' c hlookup

/-- **A session gets a controller.** -/
lemma Traced.insertSession (h : Traced server) (session : κ) (c : ℕ)
    (hc : (session, c) ∈ server.history.opened ∨
      ∃ token, (session, c, token) ∈ server.history.given) :
    Traced { server with cache := server.cache.insert session c } := by
  refine { h with filed := fun session' c' hlookup => ?_ }
  rw [AList.lookup_insert_ite] at hlookup
  split_ifs at hlookup with hsession
  · obtain rfl := Option.some.inj hlookup
    rw [hsession]
    exact hc
  · exact h.filed session' c' hlookup

/-- A token is forgotten. -/
lemma Traced.eraseToken (h : Traced server) (token : String) :
    Traced { server with tokenMappingPlayer := server.tokenMappingPlayer.erase token } := by
  refine { h with token := fun token' pid hlookup => ?_ }
  rw [AList.lookup_erase_ite] at hlookup
  split_ifs at hlookup
  exact h.token token' pid hlookup

/-- **A token is of a player** who entered with it. -/
lemma Traced.insertToken (h : Traced server) {c : ℕ} (token : String) (pid : Int32)
    (hentered : (c, pid, token) ∈ server.history.entered) :
    Traced { server with
      tokenMappingPlayer := server.tokenMappingPlayer.insert token pid } := by
  refine { h with token := fun token' pid' hlookup => ?_ }
  rw [AList.lookup_insert_ite] at hlookup
  split_ifs at hlookup with htoken
  · obtain rfl := Option.some.inj hlookup
    rw [htoken]
    exact ⟨c, hentered⟩
  · exact h.token token' pid' hlookup

/-- **Loads** begin and end. -/
lemma Traced.setLoads (h : Traced server) {loads : List Load}
    (hloads : ∀ load ∈ loads, load ∈ server.loads ∨
      (load.controller, load.accountId, load.serverId) ∈ server.history.verified ∧
        ∀ pid row, load.data = some (some (pid, row)) →
          row.accountId = load.accountId ∧ row.serverId = load.serverId ∧
            HasAccount server.playerDAO pid row.accountId row.serverId) :
    Traced { server with loads := loads } := by
  refine { h with load := fun load hload => ?_ }
  rcases hloads load hload with hold | hnew
  · exact h.load load hold
  · exact hnew

/-! ## Controllers -/

omit [DecidableEq κ] in
/-- A controller that knows nothing. -/
lemma traces_none (history : History κ) (rows : AList fun _ : Int32 => PlayerRow) (c : ℕ)
    {controller : Controller κ} (haccount : controller.accountId = none)
    (hplayer : controller.playerId = none) : Traces history rows c controller := by
  refine ⟨fun accountId serverId h => ?_, fun pid h => ?_⟩
  · rw [haccount] at h
    cases h
  · rw [hplayer] at h
    cases h

lemma Traced.clear (h : Traced server) (c : ℕ) : Traced (server.clear c) := by
  unfold GameServer.clear
  split_ifs
  · exact h.setController c _ (traces_none _ _ _ rfl rfl)
  · exact h

lemma Traced.destroy (h : Traced server) (c : ℕ) : Traced (server.destroy c) := by
  unfold GameServer.destroy
  split_ifs
  · exact { h with }
  · exact h

/-- **`getController`.** -/
lemma Traced.getController (h : Traced server) (session : κ) :
    Traced (server.getController session).1 := by
  unfold GameServer.getController
  cases server.cache.lookup session with
  | some c => exact h
  | none =>
    have hopened := h.extend { server.history with
        opened := (session, server.freshController) :: server.history.opened } server.playerDAO
      ⟨fun _ hmem => hmem, fun _ hmem => hmem, fun _ hmem => hmem,
        fun _ hmem => List.mem_cons_of_mem _ hmem, fun _ hmem => hmem, fun _ _ _ hrow => hrow⟩
      (fun _ _ _ hmem => .inl hmem) fun _ _ _ hmem => .inl hmem
    have hmade := hopened.setController server.freshController { session := some session }
      (traces_none _ _ _ rfl rfl)
    have hfiled := hmade.insertSession session server.freshController (.inl List.mem_cons_self)
    exact { hfiled with }

/-- **`reconnection`** of controllers, if the token led to a player of the old one. -/
lemma Traced.reconnectController (h : Traced server) (new : ℕ) {old : ℕ} {token : String}
    (hleads : Leads server.history token old) :
    Traced (server.reconnectController new old token) := by
  unfold GameServer.reconnectController
  cases (server.controllers old).session with
  | none => exact h
  | some oldSession =>
    simp only
    generalize (server.controllers new).session = newSession
    have hmoved := h.setController old { server.controllers old with session := newSession }
      (h.controller old)
    have herased := hmoved.eraseSession oldSession
    cases newSession with
    | none => exact { herased with }
    | some session =>
      have hgiven := herased.extend { server.history with
          given := (session, old, token) :: server.history.given } server.playerDAO
        ⟨fun _ hmem => hmem, fun _ hmem => hmem, fun _ hmem => hmem, fun _ hmem => hmem,
          fun _ hmem => List.mem_cons_of_mem _ hmem, fun _ _ _ hrow => hrow⟩
        (fun _ _ _ hmem => .inl hmem) fun session' c token' hmem => by
          rcases List.mem_cons.mp hmem with heq | hold
          · cases heq
            exact .inr hleads
          · exact .inl hold
      have hfiled := hgiven.insertSession session old (.inr ⟨token, List.mem_cons_self⟩)
      exact { hfiled with }

/-- **`destroy`** of a controller. -/
lemma Traced.destroyController (h : Traced server) (early : Bool) (controller : Option ℕ) :
    Traced (server.destroyController early controller) := by
  cases controller with
  | none => exact h
  | some c =>
    have hdestroyed : Traced (if early && server.isActive c then server.clear c
        else server.destroy c) := by
      split_ifs
      · exact h.clear c
      · exact h.destroy c
    simp only [GameServer.destroyController]
    split
    · exact hdestroyed
    · exact hdestroyed.eraseSession _

/-! ## Online and offline -/

/-- **`online`**, for a player who is admitted. -/
lemma Traced.online (h : Traced server) {c ref : ℕ} {token : String}
    (hadmitted : server.Admitted c (server.players ref).id) :
    Traced (server.online c ref token) := by
  have hentered := h.extend { server.history with
      entered := (c, (server.players ref).id, token) :: server.history.entered } server.playerDAO
    ⟨fun _ hmem => hmem, fun _ hmem => hmem, fun _ hmem => List.mem_cons_of_mem _ hmem,
      fun _ hmem => hmem, fun _ hmem => hmem, fun _ _ _ hrow => hrow⟩
    (fun c' pid token' hmem => by
      rcases List.mem_cons.mp hmem with heq | hold
      · cases heq
        exact .inr hadmitted
      · exact .inl hold)
    fun _ _ _ hmem => .inl hmem
  have hplayer := hentered.setPlayer ref { server.players ref with
      token := some token
      messageController := some c
      online := true } rfl rfl rfl
    fun c' hc' => .inr ⟨token, by cases hc'; exact List.mem_cons_self⟩
  have htoken := hplayer.insertToken token (server.players ref).id (c := c) List.mem_cons_self
  exact { htoken with }

/-- **`offline`** of `CachePlayer`. -/
lemma Traced.offline (h : Traced server) (ref : ℕ) : Traced (server.offline ref) := by
  have hplayer := h.setPlayer ref { server.players ref with online := false } rfl rfl rfl
    fun _ hc => .inl hc
  simp only [GameServer.offline]
  split
  · exact hplayer
  · exact { hplayer.eraseToken _ with }

/-- **`offline`** of a player. -/
lemma Traced.offlinePlayer (h : Traced server) (ref : ℕ) (early : Bool) :
    Traced (server.offlinePlayer ref early) := by
  have hoffline := h.offline ref
  simp only [GameServer.offlinePlayer]
  split
  · exact hoffline
  · exact (hoffline.destroyController early _).setPlayer ref _ rfl rfl rfl fun _ hc => by cases hc

/-- **`offline`** of a controller. -/
lemma Traced.offlineController (h : Traced server) (c : ℕ) (early : Bool) :
    Traced (server.offlineController c early) := by
  unfold GameServer.offlineController
  split
  · exact h.destroyController early _
  · exact h.offlinePlayer _ early

/-! ## Entering the game -/

omit [DecidableEq κ] in
lemma players_destroy (c : ℕ) : (server.destroy c).players = server.players := by
  unfold GameServer.destroy
  split_ifs
  · rfl
  · rfl

omit [DecidableEq κ] in
/-- What the history says does not depend on what is to be destroyed. -/
lemma admitted_destroy (c : ℕ) {c' : ℕ} {pid : Int32} :
    (server.destroy c).Admitted c' pid ↔ server.Admitted c' pid := by
  unfold GameServer.destroy
  split_ifs
  · exact Iff.rfl
  · exact Iff.rfl

omit [DecidableEq κ] in
lemma id_offline (ref ref' : ℕ) :
    ((server.offline ref).players ref').id = (server.players ref').id := by
  have hset : ((server.setPlayer ref { server.players ref with online := false }).players ref').id =
      (server.players ref').id := by
    simp only [GameServer.setPlayer, Function.update_apply]
    split_ifs with href
    · rw [href]
    · rfl
  simp only [GameServer.offline]
  split
  · exact hset
  · exact hset

omit [DecidableEq κ] in
lemma admitted_offline (ref : ℕ) {c : ℕ} {pid : Int32} :
    (server.offline ref).Admitted c pid ↔ server.Admitted c pid := by
  simp only [GameServer.offline]
  split
  · exact Iff.rfl
  · exact Iff.rfl

/-- Who is online is replaced. -/
lemma Traced.replaceLogin (h : Traced server) {c ref : ℕ}
    (hadmitted : server.Admitted c (server.players ref).id) :
    Traced (server.replaceLogin ref) ∧
      (server.replaceLogin ref).Admitted c ((server.replaceLogin ref).players ref).id := by
  unfold GameServer.replaceLogin
  split_ifs
  · cases (server.players ref).messageController with
    | none =>
      refine ⟨h.offline ref, ?_⟩
      rw [id_offline, admitted_offline]
      exact hadmitted
    | some old =>
      refine ⟨(h.destroy old).offline ref, ?_⟩
      rw [id_offline, admitted_offline, admitted_destroy, players_destroy]
      exact hadmitted
  · exact ⟨h, hadmitted⟩

/-- **`enterGame`** of a player who is admitted. -/
lemma Traced.enterGameAs (h : Traced server) {c ref : ℕ} {token : String}
    (hadmitted : server.Admitted c (server.players ref).id) :
    Traced (server.enterGameAs c ref token) := by
  obtain ⟨h', hadmitted'⟩ := h.replaceLogin hadmitted
  simp only [GameServer.enterGameAs]
  split_ifs
  · exact h'
  · have hcontroller := h'.setController c { (server.replaceLogin ref).controllers c with
        playerId := some ((server.replaceLogin ref).players ref).id }
      ⟨(h'.controller c).1, fun pid hpid => by
        obtain rfl := Option.some.inj hpid
        exact hadmitted'⟩
    exact hcontroller.online hadmitted'

/-- **`reconnection`**: the token led to the player. -/
lemma Traced.reconnection (h : Traced server) (c : ℕ) {ref : ℕ} {token : String}
    (htoken : server.getPlayerByToken token = some ref) :
    Traced (server.reconnection c ref token) := by
  obtain ⟨pid, hpid, hcached⟩ := Option.bind_eq_some_iff.mp htoken
  simp only [GameServer.reconnection]
  split_ifs
  · exact h
  · cases hold : (server.players ref).messageController with
    | none => exact h
    | some old =>
      have hhere := h.player ref old hold
      rw [(h.cached pid ref hcached).2.1] at hhere
      exact h.reconnectController c ⟨pid, h.token token pid hpid, hhere⟩

/-- **`enterGame`.** -/
lemma Traced.enterGame (h : Traced server) (c : ℕ) (token : String) :
    Traced (server.enterGame c token) := by
  unfold GameServer.enterGame
  cases htoken : server.getPlayerByToken token with
  | some ref => exact h.reconnection c htoken
  | none =>
    cases hserver : (server.controllers c).serverId with
    | none => exact h
    | some serverId =>
      cases haccount : (server.controllers c).accountId with
      | none => exact h
      | some accountId =>
        have hverified := (h.controller c).1 accountId serverId haccount hserver
        simp only
        split_ifs
        · exact h
        · cases hplayer : (server.accountMapping.lookup (accountId, serverId)).bind
              server.getPlayerByPid with
          | some ref =>
            obtain ⟨pid, hpid, hcached⟩ := Option.bind_eq_some_iff.mp hplayer
            refine h.enterGameAs (.inr ⟨accountId, serverId, ?_, hverified⟩)
            rw [(h.cached pid ref hcached).2.1]
            exact h.account _ pid hpid
          | none =>
            apply h.setLoads
            intro load hload
            rcases List.mem_append.mp hload with hold | hnew
            · exact .inl hold
            · obtain rfl := List.mem_singleton.mp hnew
              exact .inr ⟨hverified, fun _ _ hdata => by cases hdata⟩

/-- **`addPlayer`**, for a row of the table. -/
lemma Traced.addPlayer (h : Traced server) {pid : Int32} {row : PlayerRow}
    (hrow : HasAccount server.playerDAO pid row.accountId row.serverId) :
    Traced (server.addPlayer pid row).1 ∧
      ((server.addPlayer pid row).1.players (server.addPlayer pid row).2).id = pid := by
  have hnew : (Function.update server.players server.freshPlayer
      { toPlayerRow := row, id := pid }) server.freshPlayer = { toPlayerRow := row, id := pid } :=
    Function.update_self _ _ _
  refine ⟨{ h with
    player := fun ref c hc => ?_
    cached := fun pid' ref hlookup => ?_
    account := fun account pid' hlookup => ?_ }, congrArg PlayerVO.id hnew⟩
  · change (Function.update server.players server.freshPlayer _ ref).messageController =
      some c at hc
    change ∃ token, (c, (Function.update server.players server.freshPlayer _ ref).id, token) ∈ _
    by_cases href : ref = server.freshPlayer
    · rw [href, hnew] at hc
      cases hc
    · rw [Function.update_of_ne href] at hc ⊢
      exact h.player ref c hc
  · change (server.cacheAllPlayers.insert pid server.freshPlayer).lookup pid' = some ref at hlookup
    change ref < server.freshPlayer + 1 ∧
      (Function.update server.players server.freshPlayer _ ref).id = pid' ∧ HasAccount _ pid'
        (Function.update server.players server.freshPlayer _ ref).accountId
        (Function.update server.players server.freshPlayer _ ref).serverId
    rw [AList.lookup_insert_ite] at hlookup
    split_ifs at hlookup with hpid
    · obtain rfl := Option.some.inj hlookup
      rw [hnew, hpid]
      exact ⟨Nat.lt_succ_self _, rfl, hrow⟩
    · obtain ⟨hlt, hid, hrow'⟩ := h.cached pid' ref hlookup
      rw [Function.update_of_ne hlt.ne]
      exact ⟨hlt.trans (Nat.lt_succ_self _), hid, hrow'⟩
  · change (server.accountMapping.insert (row.accountId, row.serverId) pid).lookup account =
      some pid' at hlookup
    rw [AList.lookup_insert_ite] at hlookup
    split_ifs at hlookup with haccount
    · obtain rfl := Option.some.inj hlookup
      rw [haccount]
      exact hrow
    · exact h.account account pid' hlookup

/-- **`load`**, for a row of the table. -/
lemma Traced.loadPlayer (h : Traced server) {pid : Int32} {row : PlayerRow}
    (hrow : HasAccount server.playerDAO pid row.accountId row.serverId) :
    Traced (server.load pid row).1 ∧
      ((server.load pid row).1.players (server.load pid row).2).id = pid := by
  unfold GameServer.load
  cases hcached : server.getPlayerByPid pid with
  | some ref => exact ⟨h, (h.cached pid ref hcached).2.1⟩
  | none => exact h.addPlayer hrow

/-- **`loadSuc`**, for the row that was read for the account that was verified. -/
lemma Traced.loadSuc (h : Traced server) {message : GameMessage} {accountId : String}
    {serverId : Int32} {data : Option (Int32 × PlayerRow)}
    (hverified : (message.controller, accountId, serverId) ∈ server.history.verified)
    (hdata : ∀ pid row, data = some (pid, row) → row.accountId = accountId ∧
      row.serverId = serverId ∧ HasAccount server.playerDAO pid row.accountId row.serverId) :
    Traced (server.loadSuc message data) := by
  cases data with
  | none => exact h
  | some read =>
    obtain ⟨pid, row⟩ := read
    obtain ⟨rfl, rfl, hrow⟩ := hdata pid row rfl
    obtain ⟨hloaded, hid⟩ := h.loadPlayer hrow
    have hsame : (server.load pid row).1.Admitted message.controller pid ↔
        server.Admitted message.controller pid := by
      unfold GameServer.load
      split
      · exact Iff.rfl
      · exact Iff.rfl
    have hadmitted : (server.load pid row).1.Admitted message.controller
        ((server.load pid row).1.players (server.load pid row).2).id := by
      rw [hid]
      exact hsame.mpr (.inr ⟨row.accountId, row.serverId, hrow, hverified⟩)
    exact hloaded.enterGameAs hadmitted

/-- **`createPlayer`**, with an id that no player has. -/
lemma Traced.createPlayer (h : Traced server) (message : GameMessage) {pid : Int32}
    (hnew : server.playerDAO.lookup pid = none) : Traced (server.createPlayer message pid) := by
  have hcreated := h.extend { server.history with
      created := (message.controller, pid) :: server.history.created }
    (server.playerDAO.insert pid testAccount)
    ⟨fun _ hmem => hmem, fun _ hmem => List.mem_cons_of_mem _ hmem, fun _ hmem => hmem,
      fun _ hmem => hmem, fun _ hmem => hmem,
      fun pid' accountId serverId ⟨row, hrow, haccount⟩ => by
        refine ⟨row, ?_, haccount⟩
        rw [AList.lookup_insert_ite, if_neg]
        · exact hrow
        · rintro rfl
          rw [hnew] at hrow
          cases hrow⟩
    (fun _ _ _ hmem => .inl hmem) fun _ _ _ hmem => .inl hmem
  have hrow : HasAccount (server.playerDAO.insert pid testAccount) pid testAccount.accountId
      testAccount.serverId := ⟨testAccount, AList.lookup_insert _, rfl, rfl⟩
  obtain ⟨hadded, hid⟩ := hcreated.addPlayer hrow
  exact hadded.enterGameAs ((congrArg (Admits _ _ message.controller) hid).mpr
    (.inl List.mem_cons_self))

/-- **`verifySuc`.** -/
lemma Traced.verifySuc (h : Traced server) (verify : Verify) (accountId token : String)
    (admin : Int32) : Traced (server.verifySuc verify accountId token admin) := by
  unfold GameServer.verifySuc
  split_ifs
  · exact h
  · have hverified := h.extend { server.history with
        verified := (verify.controller, accountId, verify.serverId) :: server.history.verified }
      server.playerDAO
      ⟨fun _ hmem => List.mem_cons_of_mem _ hmem, fun _ hmem => hmem, fun _ hmem => hmem,
        fun _ hmem => hmem, fun _ hmem => hmem, fun _ _ _ hrow => hrow⟩
      (fun _ _ _ hmem => .inl hmem) fun _ _ _ hmem => .inl hmem
    have hcontroller := hverified.setController verify.controller
      { server.controllers verify.controller with
        admin := some admin
        serverId := some verify.serverId
        accountId := some accountId
        token := some verify.token }
      ⟨fun accountId' serverId' haccount hserver => by
        cases haccount
        cases hserver
        exact List.mem_cons_self, (hverified.controller verify.controller).2⟩
    exact { hcontroller with }

/-- The state of a player is changed: he keeps his account. -/
lemma Traced.changeState (h : Traced server) (pid : Int32) (frozen early : Bool) :
    Traced (server.changeState pid frozen early) := by
  unfold GameServer.changeState
  cases hcached : server.getPlayerByPid pid with
  | none => exact h
  | some ref =>
    obtain ⟨-, hid, haccount⟩ := h.cached pid ref hcached
    have hrows := h.extend server.history
      (server.playerDAO.insert pid { (server.players ref).toPlayerRow with frozen := frozen })
      ⟨fun _ hmem => hmem, fun _ hmem => hmem, fun _ hmem => hmem, fun _ hmem => hmem,
        fun _ hmem => hmem, fun pid' accountId serverId hrow => by
          unfold HasAccount
          rw [AList.lookup_insert_ite]
          split_ifs with hpid
          · obtain ⟨row, hlookup, hold⟩ := hrow
            obtain ⟨row', hlookup', hnew⟩ := haccount
            rw [hpid, hlookup'] at hlookup
            cases hlookup
            exact ⟨_, rfl, hnew.1.symm.trans hold.1, hnew.2.symm.trans hold.2⟩
          · exact hrow⟩
      (fun _ _ _ hmem => .inl hmem) fun _ _ _ hmem => .inl hmem
    have hsaved := hrows.setPlayer ref { server.players ref with frozen := frozen } rfl rfl rfl
      fun _ hc => .inl hc
    simp only
    split_ifs
    · split
      · exact hsaved
      · exact hsaved.offlineController _ early
    · exact hsaved

/-! ## Runs -/

/-- A load reads the row of a player with the account. -/
lemma Traced.read (h : Traced server) (ix : ℕ) (pid : Int32) :
    Traced (server.step (.read ix pid)) := by
  simp only [GameServer.step]
  cases hix : server.loads[ix]? with
  | none => exact h
  | some load =>
    have hmem := List.mem_of_getElem? hix
    have hset : ∀ data, (∀ pid row, data = some (some (pid, row)) → row.accountId = load.accountId ∧
        row.serverId = load.serverId ∧
          HasAccount server.playerDAO pid row.accountId row.serverId) →
        Traced { server with loads := server.loads.set ix { load with data := data } } := by
      intro data hdata
      apply h.setLoads
      intro load' hload'
      rcases List.mem_or_eq_of_mem_set hload' with hold | rfl
      · exact .inl hold
      · exact .inr ⟨(h.load load hmem).1, hdata⟩
    simp only
    split
    · next row hfits =>
      obtain ⟨hrow, hfits⟩ := Option.filter_eq_some_iff.mp hfits
      rw [Bool.and_eq_true, decide_eq_true_eq, decide_eq_true_eq] at hfits
      apply hset
      intro pid' row' hdata
      cases hdata
      exact ⟨hfits.1, hfits.2, row, hrow, rfl, rfl⟩
    · split_ifs
      · exact h
      · exact hset _ fun _ _ hdata => by cases hdata

/-- **Every step preserves the invariant.** -/
theorem Traced.step (h : Traced server) (action : Action κ) : Traced (server.step action) := by
  cases action with
  | connect session =>
    have hactive : Traced { server with active := Function.update server.active session true } :=
      { h with }
    exact hactive.getController session
  | disconnect session =>
    have hactive : Traced { server with active := Function.update server.active session false } :=
      { h with }
    exact hactive.getController session
  | verifySign session token serverId =>
    have hmade := h.getController session
    simp only [GameServer.step]
    split_ifs
    · exact { hmade with }
    · exact hmade
  | enterGame session token =>
    have hmade := h.getController session
    simp only [GameServer.step]
    split_ifs
    · exact { hmade with }
    · exact hmade
  | createPlayer session token =>
    have hmade := h.getController session
    simp only [GameServer.step]
    split_ifs
    · exact { hmade with }
    · exact hmade
  | verified ix accountId token admin =>
    simp only [GameServer.step]
    split
    · exact h
    · have htaken : Traced { server with verifies := server.verifies.eraseIdx ix } := { h with }
      exact htaken.verifySuc _ accountId token admin
  | enter ix =>
    simp only [GameServer.step]
    split
    · exact h
    · have htaken : Traced { server with enters := server.enters.eraseIdx ix } := { h with }
      exact htaken.enterGame _ _
  | create ix pid =>
    simp only [GameServer.step]
    split
    · exact h
    · split_ifs with hnew
      · exact h
      · have htaken : Traced { server with creates := server.creates.eraseIdx ix } := { h with }
        exact htaken.createPlayer _ (Option.not_isSome_iff_eq_none.mp hnew)
  | read ix pid => exact h.read ix pid
  | loaded ix =>
    simp only [GameServer.step]
    cases hix : server.loads[ix]? with
    | none => exact h
    | some load =>
      simp only
      cases hdata : load.data with
      | none => exact h
      | some data =>
        obtain ⟨hverified, hread⟩ := h.load load (List.mem_of_getElem? hix)
        have htaken : Traced { server with loads := server.loads.eraseIdx ix } :=
          h.setLoads fun load' hload' => .inl (List.mem_of_mem_eraseIdx hload')
        exact htaken.loadSuc hverified fun pid row heq => hread pid row (by rw [hdata, heq])
  | loadOther pid =>
    simp only [GameServer.step]
    cases hrow : server.playerDAO.lookup pid with
    | none => exact h
    | some row => exact (h.loadPlayer ⟨row, hrow, rfl, rfl⟩).1
  | evict pid =>
    simp only [GameServer.step]
    split
    · exact h
    · refine { h with cached := fun pid' ref hlookup => ?_ }
      rw [AList.lookup_erase_ite] at hlookup
      split_ifs at hlookup
      exact h.cached pid' ref hlookup
  | timeOut ix early =>
    simp only [GameServer.step]
    split
    · exact h
    · have htaken : Traced { server with timeOuts := server.timeOuts.eraseIdx ix } := { h with }
      split_ifs
      · exact htaken.offlinePlayer _ early
      · exact htaken
  | piOffline pid early =>
    simp only [GameServer.step]
    split
    · exact h
    · exact h.offlinePlayer _ early
  | leave ref early =>
    simp only [GameServer.step]
    split_ifs
    · split
      · exact h
      · exact h.offlineController _ early
    · exact h
  | setClosed closed => exact { h with }
  | changeState pid frozen early => exact h.changeState pid frozen early
  | clear ix =>
    simp only [GameServer.step]
    split
    · exact h
    · have htaken : Traced { server with destroys := server.destroys.eraseIdx ix } := { h with }
      exact htaken.clear _

lemma traced_boot (rows : AList fun _ : Int32 => PlayerRow) :
    Traced (boot rows : GameServer κ) := by
  have hfold : ∀ (entries : List (Sigma fun _ : Int32 => PlayerRow)) (server : GameServer κ),
      (∀ entry ∈ entries, HasAccount server.playerDAO entry.1 entry.2.accountId entry.2.serverId) →
      Traced server →
      Traced (entries.foldl (fun server row => (server.addPlayer row.1 row.2).1) server) := by
    intro entries
    induction entries with
    | nil => exact fun _ _ h => h
    | cons entry entries ih =>
      intro server hrows h
      obtain ⟨hrow, hrows⟩ := List.forall_mem_cons.mp hrows
      exact ih _ hrows (h.addPlayer hrow).1
  apply hfold
  · intro entry hentry
    exact ⟨entry.2, AList.mem_lookup_iff.mpr hentry, rfl, rfl⟩
  · exact {
      controller := fun c => traces_none _ _ _ rfl rfl
      player := fun ref c hc => by cases hc
      cached := fun pid ref hlookup => by cases hlookup
      account := fun account pid hlookup => by cases hlookup
      token := fun token pid hlookup => by cases hlookup
      load := fun load hload => by cases hload
      entered := fun c pid token hmem => by cases hmem
      filed := fun session c hlookup => by cases hlookup
      given := fun session c token hmem => by cases hmem }

/-- **Nobody acts as another's player.** In every run from the start of the server, if a session
acts as a player, then the login service has confirmed the player's account on the controller of the
session, or the player was created on it; and the controller was made for the session, or the
session showed a token that led to a player who had entered on it. -/
theorem actsAs_admitted (rows : AList fun _ : Int32 => PlayerRow) (actions : List (Action κ))
    (session : κ) (pid : Int32)
    (hacts : (run GameServer.step (boot rows) actions).ActsAs session pid) :
    ∃ c, (run GameServer.step (boot rows) actions).cache.lookup session = some c ∧
      (run GameServer.step (boot rows) actions).Admitted c pid ∧
      (run GameServer.step (boot rows) actions).Shown session c := by
  have h : Traced (run GameServer.step (boot rows) actions) :=
    forall_inv_run Traced (fun _ action h => h.step action) (traced_boot rows) actions
  obtain ⟨c, hfiled, hpid⟩ := hacts
  refine ⟨c, hfiled, (h.controller c).2 pid hpid, ?_⟩
  rcases h.filed session c hfiled with hopened | ⟨token, hgiven⟩
  · exact .inl hopened
  · exact .inr ⟨token, hgiven, h.given session c token hgiven⟩

/-- A player of server 1. -/
def onePlayer : AList fun _ : Int32 => PlayerRow :=
  AList.insert 7 { accountId := "a", serverId := 1, frozen := false } ∅

/-- He enters on session 1, and a second session shows his token. -/
def secondSession : List (Action ℕ) :=
  [.connect 1, .verifySign 1 "t" 1, .verified 0 "a" "t" 0, .enterGame 1 "t", .enter 0, .connect 2,
    .enterGame 2 "t", .enter 0]

/-- The second session was let in by the token. -/
theorem actsAs_admitted_secondSession :
    ∃ c, (run GameServer.step (boot onePlayer) secondSession).cache.lookup 2 = some c ∧
      (run GameServer.step (boot onePlayer) secondSession).Admitted c 7 ∧
      (run GameServer.step (boot onePlayer) secondSession).Shown 2 c :=
  actsAs_admitted onePlayer secondSession 2 7 ⟨0, by decide, by decide⟩

end GameServer

end SrgpGame.Session
