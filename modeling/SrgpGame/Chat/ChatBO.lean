import SrgpGame.Core.Codes
import SrgpGame.Lib.Method

set_option autoImplicit false

/-!
# Chat

Players write to a channel, which keeps its last messages for those who ask for them later, or to
one player. A channel is one object of the server, whoever writes to it.

## Main definitions

* `ChatType` — the channels, with `cacheMsg` and `getBroadcastTarget`.
* `Surroundings` — what the methods read of the players and guilds.
* `ChatServer` — what the methods change.
* `chat`, `getCacheChat`, `privateMsg` — the methods of `ChatBOImpl`.

## Design notes

`pushed` has what was sent to the clients. The friend list of a player is here the list of those he
wrote to last. A command of a tester does nothing to the chat. What is logged or saved is left out.
-/

namespace SrgpGame.Chat

open EStateM

/-! ## Players, guilds and messages -/

/-- `ChatType`: the channels. -/
inductive ChatType where
  | cmd
  | guild
  | world
  | worldEvt
  | sys
  deriving DecidableEq, Repr

namespace ChatType

def value : ChatType → Int32
  | cmd => 0
  | guild => 2
  | world => 3
  | worldEvt => 4
  | sys => 99

def chatCd : ChatType → Int64
  | cmd => 0
  | guild => 5000
  | world => 30000
  | worldEvt => 0
  | sys => 0

/-- `Enums.get`. -/
def get (type : Int32) : Option ChatType :=
  [cmd, guild, world, worldEvt, sys].find? fun cType => cType.value = type

end ChatType

/-- What is read of a `PlayerVO`. -/
structure PlayerVO where
  id : Int32
  name : String
  banChat : Bool
  lastChatTime : ChatType → Option Int64
  isOnline : Bool
  blackList : List Int32

/-- What is read of a `GuildVO`. -/
structure GuildVO where
  name : String
  level : Int32
  memberRights : AList fun _ : Int32 => Int32

/-- What the methods read. -/
structure Surroundings where
  isRelease : Bool
  /-- `CacheWord`. -/
  replaceDirtyWords : String → String
  currentTimeMillis : Int64
  /-- `CacheGuild.getGuildMemberVO`: the guild of a player. -/
  guildID : Int32 → Option Int32
  getGuildByID : Int32 → Option GuildVO
  /-- The players in memory. -/
  getPlayerByPid : Int32 → Option PlayerVO
  onlinePlayers : List PlayerVO
  nearChatFriendLimit : Int32

/-- The guild that a message shows: its name, its level and the right of the player. -/
structure GuildMsg where
  name : String
  level : Int32
  right : Option Int32
  deriving DecidableEq, Repr

/-- A message as it is shown; one to a player has no channel. -/
structure ChatMsg where
  playerId : Int32
  playerName : String
  guild : Option GuildMsg
  msg : String
  type : Option Int32
  deriving DecidableEq, Repr

/-- `ChatMsgVO`: a message for a player who is not online. -/
structure ChatMsgVO where
  playerId : Int32
  msg : String
  deriving DecidableEq, Repr

/-- What the methods change. -/
structure ChatServer where
  /-- The messages that a channel keeps, oldest first. -/
  cacheMsg : ChatType → List ChatMsg
  /-- `nearCharPlayer` of a player: whom he was in contact with last. -/
  nearCharPlayer : Int32 → List Int32
  /-- `CacheChatInfo`. -/
  privateMsg : Int32 → List ChatMsgVO
  /-- The messages sent, with their receivers. -/
  pushed : List (Int32 × ChatMsg)

/-- A server that just started. -/
def ChatServer.empty : ChatServer := ⟨fun _ => [], fun _ => [], fun _ => [], []⟩

variable (env : Surroundings)

/-- The guild of a player, if it exists. -/
def guildOf (pid : Int32) : Option GuildVO :=
  (env.guildID pid).bind env.getGuildByID

/-- `getChatMsg`. -/
def getChatMsg (pvo : PlayerVO) (type : Option Int32) (msg : String) : ChatMsg where
  playerId := pvo.id
  playerName := pvo.name
  guild := (guildOf env pvo.id).map fun guildVO =>
    ⟨guildVO.name, guildVO.level, guildVO.memberRights.lookup pvo.id⟩
  msg := msg
  type := type

/-! ## Channels -/

namespace ChatType

/-- The number of messages at which a channel forgets the oldest one. A channel without a number
keeps nothing. -/
def cacheSize : ChatType → Option ℕ
  | guild => some 50
  | world => some 100
  | _ => none

/-- A message is added to the list of a channel. -/
def addMsg (size : ℕ) (cached : List ChatMsg) (msg : ChatMsg) : List ChatMsg :=
  let cached := cached ++ [msg]
  if size ≤ cached.length then cached.drop 1 else cached

/-- `cacheMsg`. -/
def cacheMsg (cType : ChatType) (msg : ChatMsg) (server : ChatServer) : ChatServer :=
  match cType.cacheSize with
  | none => server
  | some size =>
    { server with cacheMsg := fun c =>
        if c = cType then addMsg size (server.cacheMsg c) msg else server.cacheMsg c }

/-- `checkChatCd`. -/
def checkChatCd (cType : ChatType) (lastChatTime : Int64) : Bool :=
  lastChatTime + cType.chatCd ≤ env.currentTimeMillis

/-- `getBroadcastTarget`. -/
def getBroadcastTarget (cType : ChatType) (pvo : PlayerVO) : Except Thrown (List PlayerVO) :=
  match cType with
  | cmd => .ok []
  | guild => do
    CodeGuild.notJoinGuild.throwIfTrue (env.guildID pvo.id = none)
    match guildOf env pvo.id with
    | none => CodeGuild.notJoinGuild.throwException
    | some guildVO =>
      return (guildVO.memberRights.keys.filterMap env.getPlayerByPid).filter PlayerVO.isOnline
  | world => .ok env.onlinePlayers
  | worldEvt => .ok env.onlinePlayers
  | sys => .ok env.onlinePlayers

end ChatType

/-- `broadcastMsg`, not to the player himself. -/
def broadcastMsg (message : ChatMsg) (self : PlayerVO) (players : List PlayerVO)
    (server : ChatServer) : ChatServer :=
  let targets := players.filter fun target => self.id ∉ target.blackList ∧ target.id ≠ self.id
  { server with pushed := server.pushed ++ targets.map fun target => (target.id, message) }

/-- What begins the commands of testers. -/
def cmdPre : String := "/cmd"

/-- `exeCmd`, up to the command itself. Behind the prefix a character is skipped. -/
def exeCmd (msg : String) : Except Thrown Unit :=
  if msg = cmdPre then .error .indexOutOfBounds else .ok ()

/-- A message that is not a command is written to a channel. The channel keeps it before the targets
are looked up. -/
def write (pvo : PlayerVO) (type : Int32) (msg : String) : EStateM Thrown ChatServer Unit :=
  match ChatType.get type with
  | none => throw (.logic CodeChat.chatTypeError.get)
  | some cType => do
    ofExcept fun _ => (pvo.lastChatTime cType).elim (.ok ()) fun lastChatTime =>
      CodeChat.chatCD.throwIfTrue (cType.checkChatCd env lastChatTime)
    let parent := getChatMsg env pvo (some type) msg
    modify (cType.cacheMsg parent)
    let target ← ofExcept fun _ => cType.getBroadcastTarget env pvo
    modify (broadcastMsg parent pvo target)

/-- **`chat`**. A player gets back what he wrote. -/
def chat (pvo : PlayerVO) (type : Int32) (msg : String) : EStateM Thrown ChatServer ChatMsg :=
  if pvo.banChat ∨ msg = "" then
    pure (getChatMsg env pvo (some type) msg)
  else if env.isRelease = false ∧ msg.startsWith cmdPre then do
    ofExcept fun _ => exeCmd msg
    pure (getChatMsg env pvo (some type) msg)
  else do
    write env pvo type (env.replaceDirtyWords msg)
    pure (getChatMsg env pvo (some type) (env.replaceDirtyWords msg))

/-- **`getCacheChat`**. The player who asks does not matter. -/
def getCacheChat (_pvo : PlayerVO) (type : Int32) (server : ChatServer) :
    Except Thrown (List ChatMsg) :=
  match ChatType.get type with
  | none => .error (.logic CodeChat.chatTypeError.get)
  | some cType => .ok (server.cacheMsg cType)

/-! ## Messages to a player -/

/-- `addNearChat`. What is removed is what has the id as its index. -/
def addNearChat (pid tgtPid : Int32) : EStateM Thrown ChatServer Unit := do
  let removed ← ofExcept fun server =>
    if tgtPid < 0 ∨ (server.nearCharPlayer pid).length ≤ tgtPid.toInt then .error .indexOutOfBounds
    else .ok ((server.nearCharPlayer pid).eraseIdx tgtPid.toInt.toNat)
  let added := tgtPid :: removed
  let kept := if env.nearChatFriendLimit.toInt < added.length then added.dropLast else added
  modify fun server => { server with
    nearCharPlayer := fun p => if p = pid then kept else server.nearCharPlayer p }

/-- `cacheChatMsg`. -/
def cacheChatMsg (pvo : PlayerVO) (targetPlayerId : Int32) (msg : String) (server : ChatServer) :
    ChatServer :=
  { server with privateMsg := fun p =>
      if p = targetPlayerId then server.privateMsg p ++ [⟨pvo.id, msg⟩] else server.privateMsg p }

/-- A message reaches a player in memory. -/
def sendPrivate (pvo tgtPlayer : PlayerVO) (targetPlayerId : Int32) (msg : String) :
    EStateM Thrown ChatServer Unit := do
  ofExcept fun _ => CodeFriend.inMyBlackList.throwIfTrue (pvo.id ∈ tgtPlayer.blackList)
  addNearChat env tgtPlayer.id pvo.id
  if tgtPlayer.isOnline then
    modify fun server => { server with
      pushed := server.pushed ++ [(tgtPlayer.id, getChatMsg env pvo none msg)] }
  else
    modify (cacheChatMsg pvo targetPlayerId msg)

/-- **`privateMsg`**. -/
def privateMsg (pvo : PlayerVO) (targetPlayerId : Int32) (msg : String) :
    EStateM Thrown ChatServer ChatMsg := do
  ofExcept fun _ => CodeChat.chatBan.throwIfTrue pvo.banChat
  let msg := env.replaceDirtyWords msg
  (match env.getPlayerByPid targetPlayerId with
    | some tgtPlayer => sendPrivate env pvo tgtPlayer targetPlayerId msg
    | none => modify (cacheChatMsg pvo targetPlayerId msg))
  addNearChat env pvo.id targetPlayerId
  pure (getChatMsg env pvo none msg)

end SrgpGame.Chat
