import SrgpGame.Lib.Machine
import SrgpGame.Lib.Runs
import Mathlib.Data.Finset.Erase
import Mathlib.Data.Finset.Insert

set_option autoImplicit false

/-!
# How players come and go

A client opens a session, has its account verified by the login service, and enters the game. Its
player is then online: he can be found by his token, and requests of his session are executed for
him. Another session that shows the token takes his controller over. Players go offline when they
are silent for too long, when they are banned, or when the server closes; and the cache forgets
those nobody asked for.

## Main definitions

* `Controller`, `PlayerVO` — the objects in memory.
* `History` — what happened to accounts, players and sessions.
* `GameServer` — the objects with `CacheMessageController` and `CachePlayer`, the table of players,
  what is on the way, and the history.
* `GameServer.getController`, `reconnectController`, `destroyController` —
  `CacheMessageController`.
* `GameServer.online`, `offline` — `CachePlayer`.
* `GameServer.enterGame`, `enterGameAs`, `reconnection`, `verifySuc`, `createPlayer`, `load`,
  `loadSuc`, `offlinePlayer`, `offlineController` — `PlayerBOImpl`.
* `GameServer.step` — what happens.

## Design notes

Players and controllers are objects, held by reference: the cache may forget a player who is still
online, and a second object of him may be loaded. The game thread executes one request after the
other; what is handed over to it, to the loader of players and to the threads of connections is on
the way, and may be executed in any order. The answers of the login service, what the database gives
for an id, and the times at which the caches forget come from outside. `early` says that the thread
of a connection was faster than the game thread.
-/

namespace SrgpGame.Session

/-! ## Objects -/

/-- `MessageController`, with its attributes. -/
structure Controller (κ : Type) where
  session : Option κ
  /-- Whether the pool of messages is there, which is null after `destroy`. -/
  messagePool : Bool := true
  admin : Option Int32 := none
  serverId : Option Int32 := none
  accountId : Option String := none
  token : Option String := none
  playerId : Option Int32 := none

/-- A row of the table of players. -/
structure PlayerRow where
  accountId : String
  serverId : Int32
  frozen : Bool

/-- `PlayerVO`. -/
structure PlayerVO extends PlayerRow where
  id : Int32
  token : Option String := none
  online : Bool := false
  messageController : Option ℕ := none

/-- A message with its token, from a session with this controller. -/
structure GameMessage where
  controller : ℕ
  token : String
  deriving DecidableEq

/-- A verification on the way. -/
structure Verify extends GameMessage where
  serverId : Int32
  deriving DecidableEq

/-- A load on the way, for a player who enters the game; `data` is what was read. -/
structure Load extends GameMessage where
  serverId : Int32
  accountId : String
  data : Option (Option (Int32 × PlayerRow))

/-- **The history.** -/
structure History (κ : Type) where
  /-- The accounts that the login service confirmed on a controller. -/
  verified : List (ℕ × String × Int32)
  /-- The players who were created on a controller. -/
  created : List (ℕ × Int32)
  /-- The players who entered on a controller, with their tokens. -/
  entered : List (ℕ × Int32 × String)
  /-- The controllers that were made for a session. -/
  opened : List (κ × ℕ)
  /-- The controllers that a session took over, with the token it showed. -/
  given : List (κ × ℕ × String)

/-- **The game server.** -/
structure GameServer (κ : Type) where
  /-- The objects of players, by reference, and the next reference. -/
  players : ℕ → PlayerVO
  freshPlayer : ℕ
  /-- The controllers, by reference, and the next reference. -/
  controllers : ℕ → Controller κ
  freshController : ℕ
  /-- The sessions that are active. -/
  active : κ → Bool
  /-- `CacheMessageController`. -/
  cache : AList fun _ : κ => ℕ
  cacheAllPlayers : AList fun _ : Int32 => ℕ
  cacheOnlinePlayers : Finset ℕ
  tokenMappingPlayer : AList fun _ : String => Int32
  /-- `accountIdAndServerIdMappingPlayer`. -/
  accountMapping : AList fun _ : String × Int32 => Int32
  playerDAO : AList fun _ : Int32 => PlayerRow
  /-- `CacheServerState`. -/
  closed : Bool
  /-- The requests for the game thread. -/
  enters : List GameMessage
  creates : List GameMessage
  verifies : List Verify
  loads : List Load
  /-- The players of whom the cache has told the game thread that it forgot them. -/
  timeOuts : List ℕ
  /-- The controllers that the threads of connections are to destroy. -/
  destroys : List ℕ
  history : History κ

namespace GameServer

variable {κ : Type}

/-- A player in memory changes. -/
def setPlayer (server : GameServer κ) (ref : ℕ) (player : PlayerVO) : GameServer κ :=
  { server with players := Function.update server.players ref player }

/-- A controller changes. -/
def setController (server : GameServer κ) (c : ℕ) (controller : Controller κ) : GameServer κ :=
  { server with controllers := Function.update server.controllers c controller }

/-- `getPlayerByPid`. -/
def getPlayerByPid (server : GameServer κ) (pid : Int32) : Option ℕ :=
  server.cacheAllPlayers.lookup pid

/-- `getPlayerByToken`. -/
def getPlayerByToken (server : GameServer κ) (token : String) : Option ℕ :=
  (server.tokenMappingPlayer.lookup token).bind server.getPlayerByPid

/-! ## Controllers -/

/-- The session of the controller is active. -/
def isActive (server : GameServer κ) (c : ℕ) : Bool :=
  (server.controllers c).session.any server.active

/-- What the thread of the connection does to destroy a controller; a second time it throws. -/
def clear (server : GameServer κ) (c : ℕ) : GameServer κ :=
  if (server.controllers c).messagePool then
    server.setController c { session := none, messagePool := false }
  else server

/-- `destroy` of a controller: the thread of the connection will do it. -/
def destroy (server : GameServer κ) (c : ℕ) : GameServer κ :=
  if server.isActive c then { server with destroys := c :: server.destroys } else server

variable [DecidableEq κ]

/-- **`CacheMessageController.getController`**: a session without a controller gets one. -/
def getController (server : GameServer κ) (session : κ) : GameServer κ × ℕ :=
  match server.cache.lookup session with
  | some c => (server, c)
  | none =>
    let c := server.freshController
    ({ server.setController c { session := some session } with
        freshController := c + 1
        cache := server.cache.insert session c
        history := { server.history with
          opened := (session, c) :: server.history.opened } }, c)

/-- **`CacheMessageController.reconnection`**: the old controller gets the session of the new one.
A null session makes it throw, the old one at once, the new one at the end. -/
def reconnectController (server : GameServer κ) (new old : ℕ) (token : String) : GameServer κ :=
  match (server.controllers old).session with
  | none => server
  | some oldSession =>
    let session := (server.controllers new).session
    let server :=
      { server.setController old { server.controllers old with session := session } with
        active := Function.update server.active oldSession false
        cache := server.cache.erase oldSession }
    match session with
    | none => server
    | some session =>
      { server with
        cache := server.cache.insert session old
        history := { server.history with
          given := (session, old, token) :: server.history.given } }

/-- **`CacheMessageController.destroy`**. -/
def destroyController (server : GameServer κ) (early : Bool) : Option ℕ → GameServer κ
  | none => server
  | some c =>
    let server := if early && server.isActive c then server.clear c else server.destroy c
    match (server.controllers c).session with
    | none => server
    | some session => { server with cache := server.cache.erase session }

/-! ## Online and offline -/

/-- **`CachePlayer.online`**, with a new token and controller. -/
def online (server : GameServer κ) (c ref : ℕ) (token : String) : GameServer κ :=
  let player := { server.players ref with
    token := some token
    messageController := some c
    online := true }
  { server.setPlayer ref player with
    tokenMappingPlayer := server.tokenMappingPlayer.insert token player.id
    cacheOnlinePlayers := insert ref server.cacheOnlinePlayers
    history := { server.history with
      entered := (c, player.id, token) :: server.history.entered } }

/-- **`CachePlayer.offline`**. Without a token it throws when the player is marked. -/
def offline (server : GameServer κ) (ref : ℕ) : GameServer κ :=
  let server := server.setPlayer ref { server.players ref with online := false }
  match (server.players ref).token with
  | none => server
  | some token =>
    { server with
      tokenMappingPlayer := server.tokenMappingPlayer.erase token
      cacheOnlinePlayers := server.cacheOnlinePlayers.erase ref }

/-- **`offline`** of a player: his controller is destroyed. -/
def offlinePlayer (server : GameServer κ) (ref : ℕ) (early : Bool) : GameServer κ :=
  let server := server.offline ref
  match (server.players ref).token with
  | none => server
  | some _ =>
    let server := server.destroyController early (server.players ref).messageController
    server.setPlayer ref { server.players ref with messageController := none }

/-- **`offline`** of a controller: its player goes offline. -/
def offlineController (server : GameServer κ) (c : ℕ) (early : Bool) : GameServer κ :=
  match (server.controllers c).playerId.bind server.getPlayerByPid with
  | none => server.destroyController early (some c)
  | some ref => server.offlinePlayer ref early

/-! ## Entering the game -/

/-- Who is online is replaced: his controller is destroyed. -/
def replaceLogin (server : GameServer κ) (ref : ℕ) : GameServer κ :=
  if (server.players ref).online then
    let server := match (server.players ref).messageController with
      | none => server
      | some old => server.destroy old
    server.offline ref
  else server

/-- **`enterGame`** of a player; a frozen one is refused. -/
def enterGameAs (server : GameServer κ) (c ref : ℕ) (token : String) : GameServer κ :=
  let server := server.replaceLogin ref
  if (server.players ref).frozen then server
  else
    (server.setController c { server.controllers c with
      playerId := some (server.players ref).id }).online c ref token

/-- **`reconnection`**. A closed server lets administrators in. -/
def reconnection (server : GameServer κ) (c ref : ℕ) (token : String) : GameServer κ :=
  let messageController := (server.players ref).messageController
  let admin := (messageController.bind fun old => (server.controllers old).admin).getD 0
  if server.closed && admin < 1 then server
  else
    match messageController with
    | none => server
    | some old => server.reconnectController c old token

/-- **`enterGame`**: by the token if somebody online has it, else by the account that was
verified. -/
def enterGame (server : GameServer κ) (c : ℕ) (token : String) : GameServer κ :=
  match server.getPlayerByToken token with
  | some ref => server.reconnection c ref token
  | none =>
    match (server.controllers c).serverId, (server.controllers c).accountId with
    | some serverId, some accountId =>
      if serverId ≤ 0 ∨ accountId = "" then server
      else
        match (server.accountMapping.lookup (accountId, serverId)).bind server.getPlayerByPid with
        | some ref => server.enterGameAs c ref token
        | none => { server with loads := server.loads ++ [⟨⟨c, token⟩, serverId, accountId, none⟩] }
    | _, _ => server

/-- `addPlayer` of a new object: the server, and its reference. -/
def addPlayer (server : GameServer κ) (pid : Int32) (row : PlayerRow) : GameServer κ × ℕ :=
  let ref := server.freshPlayer
  ({ server.setPlayer ref { toPlayerRow := row, id := pid } with
      freshPlayer := ref + 1
      cacheAllPlayers := server.cacheAllPlayers.insert pid ref
      accountMapping := server.accountMapping.insert (row.accountId, row.serverId) pid }, ref)

/-- **`load`**: a player who is in the cache is not built again. -/
def load (server : GameServer κ) (pid : Int32) (row : PlayerRow) : GameServer κ × ℕ :=
  match server.getPlayerByPid pid with
  | some ref => (server, ref)
  | none => server.addPlayer pid row

/-- **`loadSuc`**: the player enters; there may be none. -/
def loadSuc (server : GameServer κ) (message : GameMessage) :
    Option (Int32 × PlayerRow) → GameServer κ
  | none => server
  | some (pid, row) =>
    let (server, ref) := server.load pid row
    server.enterGameAs message.controller ref message.token

/-- The account of `createPlayer`, which does not ask for the one that was verified. -/
def testAccount : PlayerRow := { accountId := "wqerqewr", serverId := 20180828, frozen := false }

/-- **`createPlayer`**, with the id that the database gives. -/
def createPlayer (server : GameServer κ) (message : GameMessage) (pid : Int32) : GameServer κ :=
  let (server, ref) := { server with
    playerDAO := server.playerDAO.insert pid testAccount
    history := { server.history with
      created := (message.controller, pid) :: server.history.created } }.addPlayer pid testAccount
  server.enterGameAs message.controller ref message.token

/-- **`verifySuc`**, with the answer of the login service. -/
def verifySuc (server : GameServer κ) (verify : Verify) (accountId token : String)
    (admin : Int32) : GameServer κ :=
  if token = "" ∨ token ≠ verify.token then server
  else
    { server.setController verify.controller { server.controllers verify.controller with
        admin := some admin
        serverId := some verify.serverId
        accountId := some accountId
        token := some verify.token } with
      history := { server.history with
        verified :=
          (verify.controller, accountId, verify.serverId) :: server.history.verified } }

/-- `checkToken`, when a message arrives. -/
def checkToken (server : GameServer κ) (message : GameMessage) : Bool :=
  (server.controllers message.controller).token.all (· = message.token)

/-- The state of a player is changed; a frozen one has to leave. -/
def changeState (server : GameServer κ) (pid : Int32) (frozen early : Bool) : GameServer κ :=
  match server.getPlayerByPid pid with
  | none => server
  | some ref =>
    let player := { server.players ref with frozen := frozen }
    let server := { server.setPlayer ref player with
      playerDAO := server.playerDAO.insert pid player.toPlayerRow }
    if player.online && frozen then
      match player.messageController with
      | none => server
      | some c => server.offlineController c early
    else server

/-! ## What happens -/

/-- What happens. -/
inductive Action (κ : Type) where
  /-- A session is opened, or closed. -/
  | connect (session : κ)
  | disconnect (session : κ)
  /-- The messages of clients. -/
  | verifySign (session : κ) (token : String) (serverId : Int32)
  | enterGame (session : κ) (token : String)
  | createPlayer (session : κ) (token : String)
  /-- The login service confirms an account. -/
  | verified (ix : ℕ) (accountId token : String) (admin : Int32)
  /-- The game thread executes a request. -/
  | enter (ix : ℕ)
  | create (ix : ℕ) (pid : Int32)
  /-- A load reads the row of a player, or that there is none. -/
  | read (ix : ℕ) (pid : Int32)
  | loaded (ix : ℕ)
  /-- A player is loaded for another reason. -/
  | loadOther (pid : Int32)
  /-- The cache forgets a player, and tells the game thread. -/
  | evict (pid : Int32)
  | timeOut (ix : ℕ) (early : Bool)
  /-- A player was silent for too long. -/
  | piOffline (pid : Int32) (early : Bool)
  /-- A player has to leave since the server closes. -/
  | leave (ref : ℕ) (early : Bool)
  | setClosed (closed : Bool)
  | changeState (pid : Int32) (frozen early : Bool)
  /-- The thread of a connection destroys a controller. -/
  | clear (ix : ℕ)

/-- **What happens to the server**; what cannot happen changes nothing. -/
def step (server : GameServer κ) : Action κ → GameServer κ
  | .connect session =>
    ({ server with active := Function.update server.active session true }.getController session).1
  | .disconnect session =>
    ({ server with active := Function.update server.active session false }.getController session).1
  | .verifySign session token serverId =>
    let (server, c) := server.getController session
    if server.checkToken ⟨c, token⟩ then
      { server with verifies := server.verifies ++ [⟨⟨c, token⟩, serverId⟩] }
    else server
  | .enterGame session token =>
    let (server, c) := server.getController session
    if server.checkToken ⟨c, token⟩ then { server with enters := server.enters ++ [⟨c, token⟩] }
    else server
  | .createPlayer session token =>
    let (server, c) := server.getController session
    if server.checkToken ⟨c, token⟩ then { server with creates := server.creates ++ [⟨c, token⟩] }
    else server
  | .verified ix accountId token admin =>
    match server.verifies[ix]? with
    | none => server
    | some verify =>
      { server with verifies := server.verifies.eraseIdx ix }.verifySuc verify accountId token admin
  | .enter ix =>
    match server.enters[ix]? with
    | none => server
    | some message =>
      { server with enters := server.enters.eraseIdx ix }.enterGame message.controller message.token
  | .create ix pid =>
    match server.creates[ix]? with
    | none => server
    | some message =>
      if (server.playerDAO.lookup pid).isSome then server
      else { server with creates := server.creates.eraseIdx ix }.createPlayer message pid
  | .read ix pid =>
    match server.loads[ix]? with
    | none => server
    | some load =>
      let fits (row : PlayerRow) : Bool :=
        row.accountId = load.accountId && row.serverId = load.serverId
      match (server.playerDAO.lookup pid).filter fits with
      | some row =>
        { server with loads := server.loads.set ix { load with data := some (some (pid, row)) } }
      | none =>
        if server.playerDAO.values.any fits then server
        else { server with loads := server.loads.set ix { load with data := some none } }
  | .loaded ix =>
    match server.loads[ix]? with
    | none => server
    | some load =>
      match load.data with
      | none => server
      | some data =>
        { server with loads := server.loads.eraseIdx ix }.loadSuc load.toGameMessage data
  | .loadOther pid =>
    match server.playerDAO.lookup pid with
    | none => server
    | some row => (server.load pid row).1
  | .evict pid =>
    match server.getPlayerByPid pid with
    | none => server
    | some ref =>
      { server with
        cacheAllPlayers := server.cacheAllPlayers.erase pid
        timeOuts := server.timeOuts ++ [ref] }
  | .timeOut ix early =>
    match server.timeOuts[ix]? with
    | none => server
    | some ref =>
      let server := { server with timeOuts := server.timeOuts.eraseIdx ix }
      if (server.players ref).online then server.offlinePlayer ref early else server
  | .piOffline pid early =>
    match server.getPlayerByPid pid with
    | none => server
    | some ref => server.offlinePlayer ref early
  | .leave ref early =>
    if ref ∈ server.cacheOnlinePlayers then
      match (server.players ref).messageController with
      | none => server
      | some c => server.offlineController c early
    else server
  | .setClosed closed => { server with closed := closed }
  | .changeState pid frozen early => server.changeState pid frozen early
  | .clear ix =>
    match server.destroys[ix]? with
    | none => server
    | some c => { server with destroys := server.destroys.eraseIdx ix }.clear c

/-- **The server when it has started**: all players of the table are in the cache. -/
def boot (rows : AList fun _ : Int32 => PlayerRow) : GameServer κ :=
  rows.entries.foldl (fun server row => (server.addPlayer row.1 row.2).1)
    { players := fun _ => { toPlayerRow := testAccount, id := 0 }
      freshPlayer := 0
      controllers := fun _ => { session := none }
      freshController := 0
      active := fun _ => false
      cache := ∅
      cacheAllPlayers := ∅
      cacheOnlinePlayers := ∅
      tokenMappingPlayer := ∅
      accountMapping := ∅
      playerDAO := rows
      closed := false
      enters := []
      creates := []
      verifies := []
      loads := []
      timeOuts := []
      destroys := []
      history := ⟨[], [], [], [], []⟩ }

end GameServer

end SrgpGame.Session
