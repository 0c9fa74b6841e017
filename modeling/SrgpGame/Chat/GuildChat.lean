import SrgpGame.Chat.ChatBO
import SrgpGame.Lib.Recent
import SrgpGame.Lib.Runs

set_option autoImplicit false

/-!
# Does guild chat stay in the guild?

The messages to the guild channel are pushed to the members of the guild. But all guilds share the
messages that the channel keeps, so that what one guild writes is seen by another until it is
forgotten.

## Main definitions

* `ChatEvent` — what players do.
* `Comparable` — two histories that a member of a guild is not to tell apart.
* `SameRecent` — nothing differs, or it is forgotten.

## Main results

* `cacheMsg_guild_run` — the channel keeps the last 49 messages of all guilds.
* `guildChat_private_iff` — when a guild cannot tell what another guild wrote.
-/

namespace SrgpGame.Chat

open EStateM

/-! ## Histories -/

/-- What a player does, and what is read then. -/
inductive ChatEvent where
  | chat (env : Surroundings) (pvo : PlayerVO) (type : Int32) (msg : String)
  | privateMsg (env : Surroundings) (pvo : PlayerVO) (targetPlayerId : Int32) (msg : String)

/-- The server after a player did something, whether it was accepted or not. -/
def step (server : ChatServer) : ChatEvent → ChatServer
  | .chat env pvo type msg => (chat env pvo type msg).finalState server
  | .privateMsg env pvo targetPlayerId msg =>
    (privateMsg env pvo targetPlayerId msg).finalState server

/-- **What an event adds to the guild channel**: a message that is no command, if the player may
write now. He need not be in a guild. -/
def guildMsg : ChatEvent → Option ChatMsg
  | .chat env pvo type msg =>
    if pvo.banChat ∨ msg = "" ∨ (env.isRelease = false ∧ msg.startsWith cmdPre) ∨
        ChatType.get type ≠ some .guild ∨
        (pvo.lastChatTime .guild).any (ChatType.guild.checkChatCd env) then none
    else some (getChatMsg env pvo (some type) (env.replaceDirtyWords msg))
  | .privateMsg _ _ _ _ => none

/-- What a history adds to the guild channel. -/
def guildMsgs (events : List ChatEvent) : List ChatMsg := events.filterMap guildMsg

/-- A member of a guild writes to the guild channel. -/
def fromGuild (guildID : Int32) : ChatEvent → Bool
  | .chat env pvo type _ => ChatType.get type = some .guild ∧ env.guildID pvo.id = some guildID
  | .privateMsg _ _ _ _ => false

/-- **Two histories that are not to be told apart** by a member of guild `B`: they differ only in
what the members of guild `A` wrote to the guild channel. -/
structure Comparable (env : Surroundings) (viewer : PlayerVO) (A B : Int32)
    (h₁ h₂ : List ChatEvent) : Prop where
  other : A ≠ B
  member : env.guildID viewer.id = some B
  same : h₁.filter (fun event => !fromGuild A event) = h₂.filter fun event => !fromGuild A event

/-- **Nothing differs, or it is forgotten**: the same was written to the guild channel, or there
are 49 messages that were written last in both histories. -/
def SameRecent (h₁ h₂ : List ChatEvent) : Prop :=
  guildMsgs h₁ = guildMsgs h₂ ∨
    ∃ recent, 49 ≤ recent.length ∧ recent <:+ guildMsgs h₁ ∧ recent <:+ guildMsgs h₂

/-! ## What the channel keeps -/

variable {env : Surroundings} {pvo : PlayerVO} {server : ChatServer}

/-- A message to another channel leaves the guild channel. -/
lemma cacheMsg_guild {cType : ChatType} (msg : ChatMsg) :
    (cType.cacheMsg msg server).cacheMsg .guild =
      if cType = .guild then Recent.push 50 (server.cacheMsg .guild) msg
      else server.cacheMsg .guild := by
  cases cType <;> rfl

/-- Whether the waiting time of a channel is over, as the code understands it. -/
lemma chatCD_eq (cType : ChatType) :
    ((pvo.lastChatTime cType).elim (.ok ()) fun lastChatTime =>
      CodeChat.chatCD.throwIfTrue (cType.checkChatCd env lastChatTime)) =
      if (pvo.lastChatTime cType).any (cType.checkChatCd env) then
        CodeChat.chatCD.throwException
      else .ok () := by
  cases pvo.lastChatTime cType with
  | none => rfl
  | some lastChatTime => rfl

/-- What is written reaches the guild channel if it is meant for it and may be written now. -/
lemma cacheMsg_write (type : Int32) (msg : String) :
    ((write env pvo type msg).finalState server).cacheMsg .guild =
      if ChatType.get type ≠ some .guild ∨
          (pvo.lastChatTime .guild).any (ChatType.guild.checkChatCd env) then
        server.cacheMsg .guild
      else Recent.push 50 (server.cacheMsg .guild) (getChatMsg env pvo (some type) msg) := by
  unfold write
  cases htype : ChatType.get type with
  | none =>
    rw [if_pos (.inl (Option.some_ne_none _).symm)]
    rfl
  | some cType =>
    dsimp only
    rw [finalState_ofExcept_bind, chatCD_eq]
    have hcached : ∀ server : ChatServer, ((do
        let target ← ofExcept fun _ => cType.getBroadcastTarget env pvo
        modify (broadcastMsg (getChatMsg env pvo (some type) msg) pvo target) :
          EStateM Thrown ChatServer Unit).finalState server).cacheMsg = server.cacheMsg := by
      intro server
      rw [finalState_ofExcept_bind]
      cases cType.getBroadcastTarget env pvo <;> rfl
    by_cases hguild : cType = .guild
    · subst hguild
      by_cases hcd : (pvo.lastChatTime .guild).any (ChatType.guild.checkChatCd env)
      · rw [if_pos hcd, if_pos (.inr hcd)]
        rfl
      · rw [if_neg hcd, if_neg (by simp [hcd])]
        dsimp only
        rw [finalState_modify_bind, hcached, cacheMsg_guild, if_pos rfl]
    · have hother : some cType ≠ some ChatType.guild ∨
          (pvo.lastChatTime .guild).any (ChatType.guild.checkChatCd env) :=
        .inl fun heq => hguild (Option.some.inj heq)
      rw [if_pos hother]
      split
      · next hok =>
        rw [finalState_modify_bind, hcached, cacheMsg_guild, if_neg hguild]
      · rfl

/-- Contacts do not reach the channels. -/
lemma cacheMsg_addNearChat (pid tgtPid : Int32) (server : ChatServer) :
    ((addNearChat env pid tgtPid).finalState server).cacheMsg = server.cacheMsg := by
  unfold addNearChat
  rw [finalState_ofExcept_bind]
  split <;> rfl

/-- Messages to a player do not reach the channels. -/
lemma cacheMsg_privateMsg (targetPlayerId : Int32) (msg : String) :
    ((privateMsg env pvo targetPlayerId msg).finalState server).cacheMsg = server.cacheMsg := by
  refine finalState_bind_of_leaves (fun s => by rw [finalState_ofExcept]) (fun _ => ?_) server
  refine finalState_bind_of_leaves ?_ (fun _ => ?_)
  · intro s
    cases env.getPlayerByPid targetPlayerId with
    | none => rfl
    | some tgtPlayer =>
      refine finalState_bind_of_leaves (fun s => by rw [finalState_ofExcept]) (fun _ => ?_) s
      refine finalState_bind_of_leaves (cacheMsg_addNearChat _ _) (fun _ s => ?_)
      split <;> rfl
  · exact finalState_bind_of_leaves (cacheMsg_addNearChat _ _) fun _ _ => rfl

/-- **An event adds its message to the guild channel**, and changes nothing else there. -/
lemma cacheMsg_step (event : ChatEvent) :
    (step server event).cacheMsg .guild =
      (guildMsg event).elim (server.cacheMsg .guild) (Recent.push 50 (server.cacheMsg .guild)) := by
  cases event with
  | privateMsg env pvo targetPlayerId msg =>
    exact congrFun (cacheMsg_privateMsg targetPlayerId msg) .guild
  | chat env pvo type msg =>
    have hreply : ∀ (x : EStateM Thrown ChatServer Unit) (reply : ChatMsg),
        (do x; pure reply : EStateM Thrown ChatServer ChatMsg).finalState server =
          x.finalState server := by
      intro x reply
      rw [finalState_bind, finalState]
      cases x.run server <;> rfl
    rw [step, chat, guildMsg]
    by_cases hsilent : pvo.banChat ∨ msg = ""
    · rw [if_pos hsilent, if_pos (or_assoc.mp (.inl hsilent))]
      rfl
    · rw [if_neg hsilent]
      by_cases hcommand : env.isRelease = false ∧ msg.startsWith cmdPre
      · rw [if_pos hcommand, hreply, finalState_ofExcept,
          if_pos (or_assoc.mp (.inr (.inl hcommand)))]
        rfl
      · rw [if_neg hcommand, hreply, cacheMsg_write]
        simp only [or_assoc.symm.trans (or_iff_right hsilent), or_iff_right hcommand]
        split
        · rfl
        · rfl

/-- **The guild channel keeps the last 49 messages** of all guilds. -/
theorem cacheMsg_guild_run (events : List ChatEvent) :
    (Runs.run step .empty events).cacheMsg .guild = (guildMsgs events).rtake 49 := by
  have hrun : ∀ server : ChatServer, (Runs.run step server events).cacheMsg .guild =
      (guildMsgs events).foldl (Recent.push 50) (server.cacheMsg .guild) := by
    induction events with
    | nil => exact fun _ => rfl
    | cons event events ih =>
      intro server
      rw [Runs.run_cons, ih, cacheMsg_step]
      unfold guildMsgs
      rw [List.filterMap_cons]
      cases guildMsg event <;> rfl
  rw [hrun]
  exact Recent.foldl_push 49 _

/-! ## What another guild sees -/

/-- **When guild chat stays in the guild**: two histories that a member of another guild is not to
tell apart show him the same just if nothing differs or what differs is forgotten. -/
theorem guildChat_private_iff (env : Surroundings) (viewer : PlayerVO) (A B : Int32)
    (h₁ h₂ : List ChatEvent) :
    (Comparable env viewer A B h₁ h₂ →
        getCacheChat viewer ChatType.guild.value (Runs.run step .empty h₁) =
          getCacheChat viewer ChatType.guild.value (Runs.run step .empty h₂)) ↔
      (Comparable env viewer A B h₁ h₂ → SameRecent h₁ h₂) := by
  refine imp_congr_right fun _ => ?_
  have hget : ∀ server : ChatServer,
      getCacheChat viewer ChatType.guild.value server = .ok (server.cacheMsg .guild) :=
    fun _ => rfl
  rw [hget, hget, cacheMsg_guild_run, cacheMsg_guild_run, Except.ok.injEq]
  exact Recent.rtake_eq_rtake_iff

/-- Two players in guilds with their numbers. -/
def twoGuilds : Surroundings where
  isRelease := true
  replaceDirtyWords msg := msg
  currentTimeMillis := 0
  guildID := some
  getGuildByID _ := some ⟨"guild", 1, ∅⟩
  getPlayerByPid _ := none
  onlinePlayers := []
  nearChatFriendLimit := 10

/-- A player who never wrote. -/
def player (id : Int32) : PlayerVO := ⟨id, "player", false, fun _ => none, true, []⟩

/-- What a member of guild 1 writes to his guild is seen by a member of guild 2. -/
theorem not_guildChat_private :
    Comparable twoGuilds (player 2) 1 2 [.chat twoGuilds (player 1) 2 "attack"] [] ∧
      getCacheChat (player 2) 2
          (Runs.run step .empty [.chat twoGuilds (player 1) 2 "attack"]) ≠
        getCacheChat (player 2) 2 (Runs.run step .empty []) := by
  refine ⟨⟨by decide, rfl, rfl⟩, ?_⟩
  have hseen : getCacheChat (player 2) 2
      (Runs.run step .empty [.chat twoGuilds (player 1) 2 "attack"]) =
        .ok [getChatMsg twoGuilds (player 1) (some 2) "attack"] := rfl
  rw [hseen]
  intro h
  cases h

end SrgpGame.Chat
