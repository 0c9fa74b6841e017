import SrgpGame.Chat.ChatBO
import SrgpGame.Lib.Runs

set_option autoImplicit false

/-!
# Whom a player was in contact with last

A message between two players moves each to the front of the list of the other. What is removed is
the element at the index that the id is, not the id. In an empty list there is no such element, so
that nobody ever gets onto one.

## Main definitions

* `listen`, `getAllPrivateMsg` — the methods of `ChatBOImpl` about cached messages.
* `NearChatEvent` — what players do.
* `contacts` — who is to be moved to the front of whose list.
* `NearChatRight` — what is wanted of a step for a player.

## Main results

* `nearCharPlayer_step` — an empty list stays empty.
* `nearChatRight_iff` — a run is right just if no step has a contact for the player.
-/

namespace SrgpGame.Chat

open EStateM Runs

/-! ## Cached messages -/

section Methods

variable (env : Surroundings)

/-- `listen`, when a player enters the game. The messages are read from the last to the first. -/
def listen (player : PlayerVO) : EStateM Thrown ChatServer Unit := do
  let server ← get
  each (fun vo => addNearChat env player.id vo.playerId) (server.privateMsg player.id).reverse

/-- `getAllPrivateMsg`: the cached messages are shown and forgotten. -/
def getAllPrivateMsg (pvo : PlayerVO) : EStateM Thrown ChatServer (List ChatMsgVO) := do
  let server ← get
  set { server with privateMsg := fun p => if p = pvo.id then [] else server.privateMsg p }
  pure (server.privateMsg pvo.id)

end Methods

/-! ## Runs -/

/-- What a player does, and what is read then. -/
inductive NearChatEvent where
  | privateMsg (env : Surroundings) (pvo : PlayerVO) (targetPlayerId : Int32) (msg : String)
  | enterGame (env : Surroundings) (player : PlayerVO)
  | getAllPrivateMsg (pvo : PlayerVO)

/-- The limit is read from a table that does not change. -/
def Surroundings.withLimit (env : Surroundings) (limit : Int32) : Surroundings :=
  { env with nearChatFriendLimit := limit }

/-- What the event runs. The answer to the player does not matter here. -/
def NearChatEvent.exec (limit : Int32) : NearChatEvent → EStateM Thrown ChatServer Unit
  | .privateMsg env pvo targetPlayerId msg => do
    let _ ← Chat.privateMsg (env.withLimit limit) pvo targetPlayerId msg
  | .enterGame env player => listen (env.withLimit limit) player
  | .getAllPrivateMsg pvo => do
    let _ ← Chat.getAllPrivateMsg pvo

/-- **The contacts of an event**: whose list is to have whom at its front, in the order of the
calls. A message that is refused is no contact. -/
def contacts (server : ChatServer) : NearChatEvent → List (Int32 × Int32)
  | .privateMsg env pvo targetPlayerId _ =>
    if pvo.banChat then []
    else match env.getPlayerByPid targetPlayerId with
      | none => [(pvo.id, targetPlayerId)]
      | some tgtPlayer =>
        if pvo.id ∈ tgtPlayer.blackList then []
        else [(tgtPlayer.id, pvo.id), (pvo.id, targetPlayerId)]
  | .enterGame _ player =>
    (server.privateMsg player.id).reverse.map fun vo => (player.id, vo.playerId)
  | .getAllPrivateMsg _ => []

/-- The contacts that concern the list of the player `pid`. -/
def contactsOf (pid : Int32) (server : ChatServer) (event : NearChatEvent) : List Int32 :=
  ((contacts server event).filter fun contact => contact.1 = pid).map Prod.snd

/-- The server, and all contacts of a player so far, the last one first. -/
structure Tracked where
  server : ChatServer
  partners : List Int32

/-- The state after an event, whether it was accepted or not. -/
def NearChatEvent.step (limit pid : Int32) (tracked : Tracked) (event : NearChatEvent) :
    Tracked where
  server := (event.exec limit).finalState tracked.server
  partners := (contactsOf pid tracked.server event).reverse ++ tracked.partners

/-- A player has an empty list; the lists of the others and the cached messages are any. -/
def Tracked.start (pid : Int32) (server : ChatServer) : Tracked where
  server := { server with
    nearCharPlayer := fun p => if p = pid then [] else server.nearCharPlayer p }
  partners := []

/-- **The list of a player as it is meant**: everybody once, who was in contact last first, and not
more than the limit. -/
def recentPartners (limit : Int32) (partners : List Int32) : List Int32 :=
  partners.eraseDups.take limit.toInt.toNat

/-- **A step is right for a player**: a contact of his is not answered with an exception of
`addNearChat`, and his list is as it is meant. -/
def NearChatRight (limit pid : Int32) (tracked : Tracked) (event : NearChatEvent) : Prop :=
  (contactsOf pid tracked.server event ≠ [] →
    ¬Throws (· = .indexOutOfBounds) (event.exec limit) tracked.server) ∧
  (event.step limit pid tracked).server.nearCharPlayer pid =
    recentPartners limit (event.step limit pid tracked).partners

/-- No step has a contact for the player: what he writes and what is written to him is refused or
waits for him, and nothing waits when he enters. -/
def NoContact (pid : Int32) (tracked : Tracked) (event : NearChatEvent) : Prop :=
  contactsOf pid tracked.server event = []

instance (pid : Int32) (tracked : Tracked) (event : NearChatEvent) :
    Decidable (NoContact pid tracked event) :=
  inferInstanceAs (Decidable (contactsOf pid tracked.server event = []))

/-! ## An empty list stays empty -/

/-- The list of a player is empty. -/
def Alone (pid : Int32) (server : ChatServer) : Prop := server.nearCharPlayer pid = []

section Alone

variable {env : Surroundings} {pid : Int32} {server : ChatServer}

/-- **From an empty list nothing can be removed by its index.** -/
lemma run_addNearChat_of_alone (tgtPid : Int32) (halone : Alone pid server) :
    (addNearChat env pid tgtPid).run server = .error .indexOutOfBounds server := by
  have hindex : tgtPid < 0 ∨ ([] : List Int32).length ≤ tgtPid.toInt := by
    by_cases hneg : tgtPid < 0
    · exact .inl hneg
    · have hnonneg : 0 ≤ tgtPid.toInt := by
        simpa using Int32.le_iff_toInt_le.mp (Int32.not_lt.mp hneg)
      exact .inr (by simpa using hnonneg)
  unfold addNearChat
  rw [run_bind, run_ofExcept, show server.nearCharPlayer pid = [] from halone, if_pos hindex]

/-- An empty list stays empty, whoever is added to whatever list. -/
lemma alone_addNearChat (owner tgtPid : Int32) (halone : Alone pid server) :
    Alone pid ((addNearChat env owner tgtPid).finalState server) := by
  by_cases howner : owner = pid
  · subst howner
    rw [finalState_eq_of_error (run_addNearChat_of_alone tgtPid halone)]
    exact halone
  · unfold addNearChat
    rw [finalState_ofExcept_bind]
    split
    · show (if pid = owner then _ else server.nearCharPlayer pid) = []
      rw [if_neg (Ne.symm howner)]
      exact halone
    · exact halone

lemma alone_sendPrivate (pvo tgtPlayer : PlayerVO) (targetPlayerId : Int32) (msg : String)
    (halone : Alone pid server) :
    Alone pid ((sendPrivate env pvo tgtPlayer targetPlayerId msg).finalState server) := by
  refine finalState_bind_of_keeps (P := Alone pid) ?_ fun _ s hs => ?_
  · rw [finalState_ofExcept]
    exact halone
  · refine finalState_bind_of_keeps (alone_addNearChat _ _ hs) fun _ s hs => ?_
    split
    · exact hs
    · exact hs

lemma alone_privateMsg (pvo : PlayerVO) (targetPlayerId : Int32) (msg : String)
    (halone : Alone pid server) :
    Alone pid ((privateMsg env pvo targetPlayerId msg).finalState server) := by
  refine finalState_bind_of_keeps (P := Alone pid) ?_ fun _ s hs => ?_
  · rw [finalState_ofExcept]
    exact halone
  · refine finalState_bind_of_keeps (P := Alone pid) ?_ fun _ s hs => ?_
    · cases env.getPlayerByPid targetPlayerId with
      | none => exact hs
      | some tgtPlayer => exact alone_sendPrivate pvo tgtPlayer targetPlayerId _ hs
    · exact finalState_bind_of_keeps (alone_addNearChat _ _ hs) fun _ _ hs => hs

/-- **An empty list stays empty**, whatever the players do. -/
lemma alone_exec (limit : Int32) (event : NearChatEvent) (halone : Alone pid server) :
    Alone pid ((event.exec limit).finalState server) := by
  cases event with
  | privateMsg env pvo targetPlayerId msg =>
    exact finalState_bind_of_keeps (alone_privateMsg pvo targetPlayerId msg halone)
      fun _ _ hs => hs
  | enterGame env player =>
    exact finalState_each_of_keeps (fun _ _ hs => alone_addNearChat _ _ hs) halone
  | getAllPrivateMsg pvo => exact halone

end Alone

/-! ## A contact throws -/

section Throwing

variable {env : Surroundings} {pid limit : Int32} {server : ChatServer}

/-- `addNearChat` throws nothing else. -/
lemma onlyThrows_addNearChat (owner tgtPid : Int32) :
    OnlyThrows (· = .indexOutOfBounds) (addNearChat env owner tgtPid) := by
  refine OnlyThrows.bind (OnlyThrows.ofExcept fun s e he => ?_) fun _ => OnlyThrows.modify _
  split at he
  · exact (Except.error.inj he).symm
  · cases he

lemma throws_addNearChat (tgtPid : Int32) (halone : Alone pid server) :
    Throws (· = .indexOutOfBounds) (addNearChat env pid tgtPid) server :=
  ⟨_, _, run_addNearChat_of_alone tgtPid halone, rfl⟩

/-- What is accepted throws nothing else. -/
lemma onlyThrows_sendPrivate {pvo tgtPlayer : PlayerVO} (targetPlayerId : Int32) (msg : String)
    (haccepted : pvo.id ∉ tgtPlayer.blackList) :
    OnlyThrows (· = .indexOutOfBounds) (sendPrivate env pvo tgtPlayer targetPlayerId msg) := by
  refine OnlyThrows.bind (OnlyThrows.ofExcept fun s e he => ?_) fun _ => ?_
  · rw [ICode.throwIfTrue, if_neg (by simpa using haccepted)] at he
    cases he
  · refine OnlyThrows.bind (onlyThrows_addNearChat _ _) fun _ => ?_
    exact OnlyThrows.ite (OnlyThrows.modify _) (OnlyThrows.modify _)

/-- A message is not received by a player with an empty list. -/
lemma throws_sendPrivate {pvo tgtPlayer : PlayerVO} (targetPlayerId : Int32) (msg : String)
    (haccepted : pvo.id ∉ tgtPlayer.blackList) (halone : Alone tgtPlayer.id server) :
    Throws (· = .indexOutOfBounds) (sendPrivate env pvo tgtPlayer targetPlayerId msg) server := by
  unfold sendPrivate
  rw [throws_ofExcept_bind_of_ok (a := ()) (by simp [ICode.throwIfTrue, haccepted]), throws_bind]
  exact .inl (throws_addNearChat _ halone)

/-- A method that throws nothing else, and then a contact for an empty list that it leaves. -/
lemma throws_bind_addNearChat {α β : Type} {x : EStateM Thrown ChatServer α} (tgtPid : Int32)
    {rest : α → Unit → EStateM Thrown ChatServer β}
    (hx : OnlyThrows (· = .indexOutOfBounds) x) (halone : Alone pid (x.finalState server)) :
    Throws (· = .indexOutOfBounds) (x >>= fun a => addNearChat env pid tgtPid >>= rest a)
      server := by
  rw [throws_bind]
  cases hrun : x.run server with
  | ok a s' =>
    rw [finalState_eq_of_ok hrun] at halone
    exact .inr ⟨a, s', rfl, throws_bind.mpr (.inl (throws_addNearChat tgtPid halone))⟩
  | error e s' => exact .inl ⟨e, s', hrun, hx hrun⟩

/-- **A message that is a contact throws**, whichever of the two lists is empty. -/
lemma throws_privateMsg (pvo : PlayerVO) (targetPlayerId : Int32) (msg : String)
    (halone : Alone pid server)
    (hcontact : contactsOf pid server (.privateMsg env pvo targetPlayerId msg) ≠ []) :
    Throws (· = .indexOutOfBounds) (privateMsg (env.withLimit limit) pvo targetPlayerId msg)
      server := by
  rw [contactsOf, contacts] at hcontact
  have hban : pvo.banChat = false := by
    cases hban : pvo.banChat with
    | false => rfl
    | true => simp [hban] at hcontact
  rw [if_neg (by simp [hban])] at hcontact
  unfold privateMsg
  rw [throws_ofExcept_bind_of_ok (a := ()) (by simp [ICode.throwIfTrue, hban])]
  have htargets : (env.withLimit limit).getPlayerByPid targetPlayerId =
      env.getPlayerByPid targetPlayerId := rfl
  rw [htargets]
  cases htarget : env.getPlayerByPid targetPlayerId with
  | none =>
    obtain rfl : pvo.id = pid := by
      by_contra hne
      simp [htarget, hne] at hcontact
    exact throws_bind_addNearChat targetPlayerId (OnlyThrows.modify _) halone
  | some tgtPlayer =>
    have haccepted : pvo.id ∉ tgtPlayer.blackList := by
      intro hblack
      simp [htarget, hblack] at hcontact
    by_cases hreceiver : tgtPlayer.id = pid
    · subst hreceiver
      exact throws_bind.mpr (.inl (throws_sendPrivate _ _ haccepted halone))
    · obtain rfl : pvo.id = pid := by
        by_contra hne
        simp [htarget, haccepted, hreceiver, hne] at hcontact
      exact throws_bind_addNearChat targetPlayerId (onlyThrows_sendPrivate _ _ haccepted)
        (alone_sendPrivate _ _ _ _ halone)

/-- Whoever enters with messages waiting for him throws. -/
lemma throws_listen (player : PlayerVO) (halone : Alone player.id server)
    (hwaiting : server.privateMsg player.id ≠ []) :
    Throws (· = .indexOutOfBounds) (listen env player) server := by
  unfold listen
  rw [throws_get_bind]
  obtain ⟨vo, vos, hvos⟩ := List.exists_cons_of_ne_nil (List.reverse_ne_nil_iff.mpr hwaiting)
  rw [hvos, each, throws_bind]
  exact .inl (throws_addNearChat vo.playerId halone)

/-- **A contact of a player with an empty list throws.** -/
lemma throws_exec (event : NearChatEvent) (halone : Alone pid server)
    (hcontact : contactsOf pid server event ≠ []) :
    Throws (· = .indexOutOfBounds) (event.exec limit) server := by
  cases event with
  | privateMsg env pvo targetPlayerId msg =>
    exact throws_bind.mpr (.inl (throws_privateMsg pvo targetPlayerId msg halone hcontact))
  | enterGame env player =>
    rw [contactsOf, contacts] at hcontact
    obtain rfl : player.id = pid := by
      by_contra hne
      simp [List.filter_map, Function.comp_def, hne] at hcontact
    refine throws_listen player halone fun hnone => ?_
    simp [hnone] at hcontact
  | getAllPrivateMsg pvo => exact absurd rfl hcontact

end Throwing

/-! ## Runs from an empty list -/

/-- A player has an empty list and never had a contact. -/
def NeverContacted (pid : Int32) (tracked : Tracked) : Prop :=
  Alone pid tracked.server ∧ tracked.partners = []

lemma neverContacted_start (pid : Int32) (server : ChatServer) :
    NeverContacted pid (.start pid server) :=
  ⟨if_pos rfl, rfl⟩

/-- **A step without a contact** keeps it so. -/
lemma NeverContacted.step {pid : Int32} {tracked : Tracked} (limit : Int32) {event : NearChatEvent}
    (h : NeverContacted pid tracked) (hno : NoContact pid tracked event) :
    NeverContacted pid (event.step limit pid tracked) := by
  obtain ⟨halone, hpartners⟩ := h
  refine ⟨alone_exec limit event halone, ?_⟩
  rw [NearChatEvent.step, hpartners, show contactsOf pid tracked.server event = [] from hno]
  rfl

/-- **A step is right just if it has no contact.** -/
lemma nearChatRight_step_iff {pid : Int32} {tracked : Tracked} (limit : Int32)
    (event : NearChatEvent) (h : NeverContacted pid tracked) :
    NearChatRight limit pid tracked event ↔ NoContact pid tracked event := by
  constructor
  · rintro ⟨hreturns, -⟩
    by_contra hcontact
    exact hreturns hcontact (throws_exec event h.1 hcontact)
  · intro hno
    refine ⟨fun hcontact => absurd hno hcontact, ?_⟩
    obtain ⟨halone, hpartners⟩ := h.step limit hno
    rw [halone, hpartners]
    exact List.take_nil.symm

/-- **When the lists of near chats are as they are meant**: in a run that starts with an empty list
of a player, every step is right for him just if no step has a contact for him. -/
theorem nearChatRight_iff (limit pid : Int32) (server : ChatServer) (events : List NearChatEvent) :
    EveryStep (NearChatEvent.step limit pid) (NearChatRight limit pid) (.start pid server) events ↔
      EveryStep (NearChatEvent.step limit pid) (NoContact pid) (.start pid server) events :=
  everyStep_congr (fun tracked _ => NeverContacted pid tracked)
    (fun _ _ _ h hno => h.step limit hno) (fun _ event _ h => nearChatRight_step_iff limit event h)
    (neverContacted_start pid server)

/-- Player 1, who writes to player 2. Nobody else is in memory. -/
def writer : PlayerVO := ⟨1, "a", false, fun _ => none, true, []⟩

def nobodyElse : Surroundings where
  isRelease := true
  replaceDirtyWords := id
  currentTimeMillis := 0
  guildID := fun _ => none
  getGuildByID := fun _ => none
  getPlayerByPid := fun _ => none
  onlinePlayers := [writer]
  nearChatFriendLimit := 20

/-- The first message of a player is answered with an exception, and so is every later one. -/
theorem not_nearChatRight :
    ¬∀ (limit pid : Int32) (server : ChatServer) (events : List NearChatEvent),
      EveryStep (NearChatEvent.step limit pid) (NearChatRight limit pid) (.start pid server)
        events := by
  intro hall
  obtain ⟨⟨hreturns, -⟩, -⟩ := hall 20 1 .empty [.privateMsg nobodyElse writer 2 "hi"]
  have hcontact : contactsOf 1 (Tracked.start 1 .empty).server
      (.privateMsg nobodyElse writer 2 "hi") ≠ [] := by decide
  exact hreturns hcontact (throws_exec _ (neverContacted_start 1 .empty).1 hcontact)

end SrgpGame.Chat
