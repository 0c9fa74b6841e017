import SrgpGame.Session.Admitted
import SrgpGame.Login.Verify

set_option autoImplicit false

/-!
# The login service and a game server together

A client logs in, sends the sign that it got to a game server with its token, and the game server
asks the login service about the sign. This file has the two together, and says what it takes to act
as a player: that a login of his account set the token that the client sent.

## Main definitions

* `Platform` — the login service, a game server, and the verifications on the way between them.
* `Platform.step` — what happens.
* `Platform.Confirms` — the invariant.

## Main results

* `Platform.Confirms.step` — every step preserves the invariant.
* `Platform.actsAs_loggedIn` — whole runs.

## Design notes

The sign is chosen when it is sent to the login service. A closed game server keeps the answers for
others than administrators to itself, which is one of the things that may happen. Servers that use
the old login service are left out.
-/

namespace SrgpGame.Session

open Runs Login

/-! ## The platform -/

/-- A verification in the login service, which has read the sign. -/
structure Post where
  verify : Verify
  token : String
  accountId : String

/-- An answer of the login service. -/
structure Answer where
  verify : Verify
  attach : Attach

/-- A sign that the login service accepted: what for, when, and the tokens that had been set. -/
structure Confirmation extends Answer where
  time : ℤ
  stored : List Stored

/-- **The platform.** -/
structure Platform (κ : Type) where
  login : LoginService
  game : GameServer κ
  posts : List Post
  answers : List Answer
  /-- The history of the signs that were accepted. -/
  confirmed : List Confirmation

namespace Platform

variable {κ : Type} [DecidableEq κ]

/-- What happens. -/
inductive Action (κ : Type) where
  | login (action : LoginService.Action)
  /-- Anything else than an answer of the login service. -/
  | game (action : GameServer.Action κ)
  /-- A sign is sent to the login service, which reads it. -/
  | post (ix : ℕ) (sign : String)
  /-- The login service looks at the token. -/
  | check (ix : ℕ)
  /-- The game thread has the answer. -/
  | answer (ix : ℕ)

/-- **What happens to the platform**; `appId` and `openId` are those of the game. -/
def step (env : SignEnv) (appId openId : String) (platform : Platform κ) : Action κ → Platform κ
  | .login action => { platform with login := platform.login.step env action }
  | .game action =>
    match action with
    | .verified _ _ _ _ => platform
    | action => { platform with game := platform.game.step action }
  | .post ix sign =>
    match platform.game.verifies[ix]? with
    | none => platform
    | some verify =>
      match platform.login.readSign env appId openId sign with
      | .error _ => platform
      | .ok (token, accountId) =>
        { platform with posts := platform.posts ++ [⟨verify, token, accountId⟩] }
  | .check ix =>
    match platform.posts[ix]? with
    | none => platform
    | some post =>
      let platform := { platform with posts := platform.posts.eraseIdx ix }
      match platform.login.checkToken env appId openId post.token post.accountId with
      | .error _ => platform
      | .ok attach =>
        { platform with
          answers := platform.answers ++ [⟨post.verify, attach⟩]
          confirmed := ⟨⟨post.verify, attach⟩, platform.login.now, platform.login.stored⟩ ::
            platform.confirmed }
  | .answer ix =>
    match platform.answers[ix]? with
    | none => platform
    | some answer =>
      { platform with
        answers := platform.answers.eraseIdx ix
        game := platform.game.step (.verified (platform.game.verifies.idxOf answer.verify)
          answer.attach.accountId answer.attach.token answer.attach.admin) }

/-- The platform when it has started. -/
def start (login : LoginService) (rows : AList fun _ : Int32 => PlayerRow) : Platform κ where
  login := login
  game := GameServer.boot rows
  posts := []
  answers := []
  confirmed := []

end Platform

/-! ## What the game server has from the login service -/

namespace GameServer

variable {κ : Type} (server : GameServer κ)

/-- The accounts that were verified. -/
def verified : List (ℕ × String × Int32) := server.history.verified

@[simp] lemma verified_setPlayer (ref : ℕ) (player : PlayerVO) :
    (server.setPlayer ref player).verified = server.verified := rfl

@[simp] lemma verified_setController (c : ℕ) (controller : Controller κ) :
    (server.setController c controller).verified = server.verified := rfl

@[simp] lemma verified_clear (c : ℕ) : (server.clear c).verified = server.verified := by
  unfold GameServer.clear
  split_ifs
  · rfl
  · rfl

@[simp] lemma verified_destroy (c : ℕ) : (server.destroy c).verified = server.verified := by
  unfold GameServer.destroy
  split_ifs
  · rfl
  · rfl

@[simp] lemma verified_online (c ref : ℕ) (token : String) :
    (server.online c ref token).verified = server.verified := rfl

@[simp] lemma verified_offline (ref : ℕ) : (server.offline ref).verified = server.verified := by
  simp only [GameServer.offline]
  split
  · rfl
  · rfl

@[simp] lemma verified_replaceLogin (ref : ℕ) :
    (server.replaceLogin ref).verified = server.verified := by
  unfold GameServer.replaceLogin
  split_ifs
  · cases (server.players ref).messageController with
    | none => simp only [verified_offline]
    | some old => simp only [verified_offline, verified_destroy]
  · rfl

@[simp] lemma verified_enterGameAs (c ref : ℕ) (token : String) :
    (server.enterGameAs c ref token).verified = server.verified := by
  simp only [GameServer.enterGameAs]
  split_ifs
  · exact verified_replaceLogin server ref
  · exact verified_replaceLogin server ref

@[simp] lemma verified_addPlayer (pid : Int32) (row : PlayerRow) :
    (server.addPlayer pid row).1.verified = server.verified := rfl

@[simp] lemma verified_load (pid : Int32) (row : PlayerRow) :
    (server.load pid row).1.verified = server.verified := by
  unfold GameServer.load
  cases server.getPlayerByPid pid with
  | none => rfl
  | some ref => rfl

@[simp] lemma verified_loadSuc (message : GameMessage) (data : Option (Int32 × PlayerRow)) :
    (server.loadSuc message data).verified = server.verified := by
  cases data with
  | none => rfl
  | some found => simp only [GameServer.loadSuc, verified_enterGameAs, verified_load]

@[simp] lemma verified_createPlayer (message : GameMessage) (pid : Int32) :
    (server.createPlayer message pid).verified = server.verified := by
  simp only [GameServer.createPlayer, verified_enterGameAs, verified_addPlayer]
  rfl

variable [DecidableEq κ]

@[simp] lemma verified_getController (session : κ) :
    (server.getController session).1.verified = server.verified := by
  unfold GameServer.getController
  cases server.cache.lookup session with
  | none => rfl
  | some c => rfl

@[simp] lemma verified_reconnectController (new old : ℕ) (token : String) :
    (server.reconnectController new old token).verified = server.verified := by
  simp only [GameServer.reconnectController]
  cases (server.controllers old).session with
  | none => rfl
  | some oldSession =>
    cases (server.controllers new).session with
    | none => rfl
    | some session => rfl

@[simp] lemma verified_destroyController (early : Bool) (controller : Option ℕ) :
    (server.destroyController early controller).verified = server.verified := by
  cases controller with
  | none => rfl
  | some c =>
    have hbranch : (if early && server.isActive c then server.clear c
        else server.destroy c).verified = server.verified := by
      split_ifs
      · exact verified_clear server c
      · exact verified_destroy server c
    simp only [GameServer.destroyController]
    split
    · exact hbranch
    · exact hbranch

@[simp] lemma verified_offlinePlayer (ref : ℕ) (early : Bool) :
    (server.offlinePlayer ref early).verified = server.verified := by
  simp only [GameServer.offlinePlayer]
  split
  · exact verified_offline server ref
  · simp only [verified_setPlayer, verified_destroyController, verified_offline]

@[simp] lemma verified_offlineController (c : ℕ) (early : Bool) :
    (server.offlineController c early).verified = server.verified := by
  simp only [GameServer.offlineController]
  split
  · exact verified_destroyController server early (some c)
  · exact verified_offlinePlayer server _ early

@[simp] lemma verified_reconnection (c ref : ℕ) (token : String) :
    (server.reconnection c ref token).verified = server.verified := by
  simp only [GameServer.reconnection]
  split_ifs
  · rfl
  · cases (server.players ref).messageController with
    | none => rfl
    | some old => exact verified_reconnectController server c old token

@[simp] lemma verified_enterGame (c : ℕ) (token : String) :
    (server.enterGame c token).verified = server.verified := by
  unfold GameServer.enterGame
  cases server.getPlayerByToken token with
  | some ref => exact verified_reconnection server c ref token
  | none =>
    cases (server.controllers c).serverId with
    | none => rfl
    | some serverId =>
      cases (server.controllers c).accountId with
      | none => rfl
      | some accountId =>
        simp only
        split_ifs
        · rfl
        · cases (server.accountMapping.lookup (accountId, serverId)).bind
              server.getPlayerByPid with
          | none => rfl
          | some ref => exact verified_enterGameAs server c ref token

@[simp] lemma verified_changeState (pid : Int32) (frozen early : Bool) :
    (server.changeState pid frozen early).verified = server.verified := by
  simp only [GameServer.changeState]
  cases server.getPlayerByPid pid with
  | none => rfl
  | some ref =>
    simp only
    split_ifs
    · cases (server.players ref).messageController with
      | none => rfl
      | some c => exact verified_offlineController _ c early
    · rfl

omit [DecidableEq κ] in
/-- The server has no account verified when it has started. -/
lemma verified_boot (rows : AList fun _ : Int32 => PlayerRow) :
    (boot rows : GameServer κ).verified = [] := by
  unfold boot
  refine List.foldlRecOn (motive := fun server : GameServer κ => server.verified = [])
    rows.entries _ rfl ?_
  intro server h row _
  exact h

/-- **Nothing but an answer of the login service** verifies an account. -/
theorem verified_step (action : Action κ)
    (hother : ∀ ix accountId token admin, action ≠ .verified ix accountId token admin) :
    (server.step action).verified = server.verified := by
  cases action with
  | connect session => exact verified_getController _ session
  | disconnect session => exact verified_getController _ session
  | verifySign session token serverId =>
    simp only [GameServer.step]
    split_ifs
    · exact verified_getController server session
    · exact verified_getController server session
  | enterGame session token =>
    simp only [GameServer.step]
    split_ifs
    · exact verified_getController server session
    · exact verified_getController server session
  | createPlayer session token =>
    simp only [GameServer.step]
    split_ifs
    · exact verified_getController server session
    · exact verified_getController server session
  | verified ix accountId token admin => exact absurd rfl (hother ix accountId token admin)
  | enter ix =>
    simp only [GameServer.step]
    cases server.enters[ix]? with
    | none => rfl
    | some message => exact verified_enterGame _ _ _
  | create ix pid =>
    simp only [GameServer.step]
    cases server.creates[ix]? with
    | none => rfl
    | some message =>
      simp only
      split_ifs
      · rfl
      · exact verified_createPlayer _ message pid
  | read ix pid =>
    simp only [GameServer.step]
    cases server.loads[ix]? with
    | none => rfl
    | some load =>
      simp only
      split
      · rfl
      · split_ifs
        · rfl
        · rfl
  | loaded ix =>
    simp only [GameServer.step]
    cases server.loads[ix]? with
    | none => rfl
    | some load =>
      simp only
      cases load.data with
      | none => rfl
      | some data => exact verified_loadSuc _ _ data
  | loadOther pid =>
    simp only [GameServer.step]
    cases server.playerDAO.lookup pid with
    | none => rfl
    | some row => exact verified_load server pid row
  | evict pid =>
    simp only [GameServer.step]
    cases server.getPlayerByPid pid with
    | none => rfl
    | some ref => rfl
  | timeOut ix early =>
    simp only [GameServer.step]
    cases server.timeOuts[ix]? with
    | none => rfl
    | some ref =>
      simp only
      split_ifs
      · exact verified_offlinePlayer _ ref early
      · rfl
  | piOffline pid early =>
    simp only [GameServer.step]
    cases server.getPlayerByPid pid with
    | none => rfl
    | some ref => exact verified_offlinePlayer server ref early
  | leave ref early =>
    simp only [GameServer.step]
    split_ifs
    · cases (server.players ref).messageController with
      | none => rfl
      | some c => exact verified_offlineController server c early
    · rfl
  | setClosed closed => rfl
  | changeState pid frozen early => exact verified_changeState server pid frozen early
  | clear ix =>
    simp only [GameServer.step]
    cases server.destroys[ix]? with
    | none => rfl
    | some c => exact verified_clear _ c

/-- **An answer verifies one account**, with the token of the message. -/
theorem verified_step_verified (ix : ℕ) (accountId token : String) (admin : Int32) :
    (server.step (.verified ix accountId token admin)).verified = server.verified ∨
      ∃ verify, server.verifies[ix]? = some verify ∧ token = verify.token ∧
        (server.step (.verified ix accountId token admin)).verified =
          (verify.controller, accountId, verify.serverId) :: server.verified := by
  simp only [GameServer.step]
  cases server.verifies[ix]? with
  | none => exact .inl rfl
  | some verify =>
    simp only [GameServer.verifySuc]
    split_ifs with hrefused
    · exact .inl rfl
    · refine .inr ⟨verify, rfl, ?_, rfl⟩
      by_contra hne
      exact hrefused (.inr hne)

end GameServer

namespace Platform

variable {κ : Type} {platform : Platform κ}

/-! ## The invariant -/

/-- **A confirmation is in order**: the account had no later token than that of the client, which
was set less than two days before. -/
def Current (confirmation : Confirmation) : Prop :=
  ∃ entry, confirmation.stored.find? (fun entry => entry.uid = confirmation.attach.accountId) =
      some entry ∧
    entry.token = confirmation.attach.token ∧ entry.time ≤ confirmation.time ∧
      confirmation.time < entry.time + timeout

/-- **The invariant**: what the game server has from the login service was confirmed. -/
structure Confirms [DecidableEq κ] (platform : Platform κ) : Prop where
  traced : platform.game.Traced
  mirrors : platform.login.Mirrors
  current : ∀ confirmation ∈ platform.confirmed,
    Current confirmation ∧ confirmation.stored <:+ platform.login.stored
  answered : ∀ answer ∈ platform.answers,
    ∃ confirmation ∈ platform.confirmed, confirmation.toAnswer = answer
  verified : ∀ c accountId serverId, (c, accountId, serverId) ∈ platform.game.verified →
    ∃ confirmation ∈ platform.confirmed, confirmation.verify.controller = c ∧
      confirmation.verify.serverId = serverId ∧ confirmation.attach.accountId = accountId ∧
        confirmation.attach.token = confirmation.verify.token

/-- **What the login service finds current** is the last token of the account. -/
lemma current_of_checkToken {env : SignEnv} {login : LoginService} {appId openId token : String}
    {accountId : String} {attach : Attach} (h : login.Mirrors) (verify : Verify)
    (hok : login.checkToken env appId openId token accountId = .ok attach) :
    Current ⟨⟨verify, attach⟩, login.now, login.stored⟩ := by
  simp only [LoginService.checkToken] at hok
  cases hget : login.getToken accountId with
  | none =>
    simp only [hget] at hok
    cases hok
  | some useToken =>
    simp only [hget] at hok
    by_cases htoken : token = useToken
    · rw [if_pos htoken] at hok
      by_cases hfits : (!env.fitsLog accountId (appId ++ openId)) = true
      · rw [if_pos hfits] at hok
        cases hok
      rw [if_neg hfits] at hok
      obtain rfl := Except.ok.inj hok
      have hredis := (h.redis accountId).resolve_right fun hgone => by
        rw [LoginService.getToken, hgone.1] at hget
        cases hget
      obtain ⟨entry, hlast, huse, htime⟩ := (LoginService.getToken_eq_some_iff hredis).mp hget
      exact ⟨entry, hlast, huse.trans htoken.symm,
        h.past entry (List.mem_of_find?_eq_some hlast), htime⟩
    · rw [if_neg htoken] at hok
      cases hok

/-- The tokens that were set stay. -/
lemma stored_suffix_step (env : SignEnv) (login : LoginService) (action : LoginService.Action) :
    login.stored <:+ (login.step env action).stored := by
  cases action with
  | login msg =>
    simp only [LoginService.step]
    cases login.login env msg with
    | error e => exact List.suffix_rfl
    | ok uid => exact List.suffix_rfl
  | loginverificationCode accountId =>
    simp only [LoginService.step]
    cases login.loginverificationCode env accountId with
    | error e => exact List.suffix_rfl
    | ok result => exact List.suffix_rfl
  | proceed ix =>
    simp only [LoginService.step, LoginService.proceed]
    cases login.logins[ix]? with
    | none => exact List.suffix_rfl
    | some request =>
      simp only
      cases request.stage with
      | fetch => exact List.suffix_rfl
      | erase => exact List.suffix_rfl
      | number => exact List.suffix_rfl
      | store token => exact List.suffix_cons _ _
  | tables database accountFreeze accountAdmin appIds => exact List.suffix_rfl
  | elapse millis => exact List.suffix_rfl

variable [DecidableEq κ]

/-- Something else happens to the game server. -/
lemma Confirms.game (h : Confirms platform) {action : GameServer.Action κ}
    (hother : ∀ ix accountId token admin, action ≠ .verified ix accountId token admin) :
    Confirms { platform with game := platform.game.step action } where
  traced := h.traced.step action
  mirrors := h.mirrors
  current := h.current
  answered := h.answered
  verified := fun c accountId serverId hmem =>
    h.verified c accountId serverId (GameServer.verified_step platform.game action hother ▸ hmem)

/-- **Every step preserves the invariant.** -/
theorem Confirms.step (h : Confirms platform) (env : SignEnv) (appId openId : String)
    (action : Action κ) : Confirms (platform.step env appId openId action) := by
  cases action with
  | login action =>
    exact {
      traced := h.traced
      mirrors := LoginService.mirrors_step env h.mirrors action
      current := fun confirmation hmem => ⟨(h.current confirmation hmem).1,
        (h.current confirmation hmem).2.trans (stored_suffix_step env platform.login action)⟩
      answered := h.answered
      verified := h.verified }
  | game action =>
    cases action with
    | verified ix accountId token admin => exact h
    | _ => exact h.game fun _ _ _ _ heq => by cases heq
  | post ix sign =>
    simp only [Platform.step]
    cases platform.game.verifies[ix]? with
    | none => exact h
    | some verify =>
      simp only
      cases platform.login.readSign env appId openId sign with
      | error e => exact h
      | ok read => exact { h with }
  | check ix =>
    simp only [Platform.step]
    cases platform.posts[ix]? with
    | none => exact h
    | some post =>
      simp only
      cases hcheck : platform.login.checkToken env appId openId post.token post.accountId with
      | error e => exact { h with }
      | ok attach =>
        exact {
          traced := h.traced
          mirrors := h.mirrors
          current := by
            intro confirmation hmem
            rcases List.mem_cons.mp hmem with rfl | hold
            · exact ⟨current_of_checkToken h.mirrors post.verify hcheck, List.suffix_rfl⟩
            · exact h.current confirmation hold
          answered := by
            intro answer hmem
            rcases List.mem_append.mp hmem with hold | hnew
            · obtain ⟨confirmation, hconf, heq⟩ := h.answered answer hold
              exact ⟨confirmation, List.mem_cons_of_mem _ hconf, heq⟩
            · obtain rfl := List.mem_singleton.mp hnew
              exact ⟨_, List.mem_cons_self, rfl⟩
          verified := by
            intro c accountId serverId hmem
            obtain ⟨confirmation, hconf, hall⟩ := h.verified c accountId serverId hmem
            exact ⟨confirmation, List.mem_cons_of_mem _ hconf, hall⟩ }
  | answer ix =>
    simp only [Platform.step]
    cases hanswer : platform.answers[ix]? with
    | none => exact h
    | some answer =>
      obtain ⟨confirmation, hconf, rfl⟩ := h.answered answer (List.mem_of_getElem? hanswer)
      simp only
      exact {
        traced := h.traced.step (.verified _ _ _ _)
        mirrors := h.mirrors
        current := h.current
        answered := fun answer hmem => h.answered answer (List.mem_of_mem_eraseIdx hmem)
        verified := by
          intro c accountId serverId hmem
          rcases GameServer.verified_step_verified platform.game
            (platform.game.verifies.idxOf confirmation.verify) confirmation.attach.accountId
            confirmation.attach.token confirmation.attach.admin with
            hsame | ⟨verify, hverify, htoken, hnew⟩
          · exact h.verified c accountId serverId (hsame ▸ hmem)
          · have hadded := hnew ▸ hmem
            rcases List.mem_cons.mp hadded with heq | hold
            · obtain rfl : verify = confirmation.verify := by
                obtain ⟨hlt, hget⟩ := List.getElem?_eq_some_iff.mp hverify
                rw [← hget, List.getElem_idxOf]
              obtain ⟨rfl, rfl, rfl⟩ : c = confirmation.verify.controller ∧
                  accountId = confirmation.attach.accountId ∧
                    serverId = confirmation.verify.serverId := by
                simpa using heq
              exact ⟨confirmation, hconf, rfl, rfl, rfl, htoken⟩
            · exact h.verified c accountId serverId hold }

/-- **What it takes to act as a player.** In every run of the platform: if a session acts as a
player who was not created on its controller, then the login service accepted a sign for his account
that was sent for this controller, when the account had no later token than the one the client sent,
set less than two days before. -/
theorem actsAs_loggedIn (env : SignEnv) (appId openId : String) (database : Database)
    (accountFreeze accountAdmin : List String) (appIds : List AppId) (tokenLong : Int64) (now : ℤ)
    (rows : AList fun _ : Int32 => PlayerRow) (actions : List (Action κ)) {platform : Platform κ}
    (hplatform : platform = run (step env appId openId) (Platform.start (LoginService.start database
      accountFreeze accountAdmin appIds tokenLong now) rows) actions)
    {session : κ} {pid : Int32} (hacts : platform.game.ActsAs session pid) :
    ∃ c, platform.game.cache.lookup session = some c ∧ platform.game.Shown session c ∧
      ((c, pid) ∈ platform.game.history.created ∨
        ∃ confirmation ∈ platform.confirmed, confirmation.verify.controller = c ∧
          HasAccount platform.game.playerDAO pid confirmation.attach.accountId
            confirmation.verify.serverId ∧
          confirmation.attach.token = confirmation.verify.token ∧ Current confirmation ∧
          confirmation.stored <:+ platform.login.stored) := by
  have hstart : Confirms (Platform.start (LoginService.start database accountFreeze accountAdmin
      appIds tokenLong now) rows : Platform κ) := {
    traced := GameServer.traced_boot rows
    mirrors := ⟨fun _ => .inl rfl, fun _ hmem => absurd hmem List.not_mem_nil⟩
    current := fun _ hmem => absurd hmem List.not_mem_nil
    answered := fun _ hmem => absurd hmem List.not_mem_nil
    verified := fun c accountId serverId hmem => by
      rw [Platform.start, GameServer.verified_boot] at hmem
      cases hmem }
  have h : Confirms platform := hplatform ▸
    forall_inv_run Confirms (fun _ action h => h.step env appId openId action) hstart actions
  obtain ⟨c, hfiled, hpid⟩ := hacts
  have hshown : platform.game.Shown session c := by
    rcases h.traced.filed session c hfiled with hopened | ⟨token, hgiven⟩
    · exact .inl hopened
    · exact .inr ⟨token, hgiven, h.traced.given session c token hgiven⟩
  refine ⟨c, hfiled, hshown, ?_⟩
  rcases (h.traced.controller c).2 pid hpid with hcreated | ⟨accountId, serverId, hrow, hverified⟩
  · exact .inl hcreated
  · obtain ⟨confirmation, hconf, hc, rfl, rfl, htoken⟩ := h.verified c accountId serverId hverified
    obtain ⟨hcurrent, hsuffix⟩ := h.current confirmation hconf
    exact .inr ⟨confirmation, hconf, hc, hrow, htoken, hcurrent, hsuffix⟩

/-- A player logs in, enters, and acts. -/
def signedIn : List (Action ℕ) :=
  [.login (.login ⟨"ab", "", "", none⟩), .login (.proceed 0), .login (.proceed 0),
    .login (.proceed 0), .game (.connect 1), .game (.verifySign 1 "1" 1), .post 0 "k1&ab", .check 0,
    .answer 0, .game (.enterGame 1 "1"), .game (.enter 0)]

/-- The platform after this. -/
def afterSignedIn : Platform ℕ :=
  run (step LoginService.plainEnv "a" "o") (Platform.start (LoginService.start
    ⟨[⟨1, "ab", 0, "0"⟩], [], [], 1, 0, 0⟩ [] [] [⟨"a", "o", "k"⟩] 0 0)
    (AList.insert 7 { accountId := "ab", serverId := 1, frozen := false } ∅)) signedIn

/-- The session that acts as the player showed a sign of the login service. -/
theorem actsAs_loggedIn_signedIn :
    ∃ c, afterSignedIn.game.cache.lookup 1 = some c ∧ afterSignedIn.game.Shown 1 c ∧
      ((c, 7) ∈ afterSignedIn.game.history.created ∨
        ∃ confirmation ∈ afterSignedIn.confirmed, confirmation.verify.controller = c ∧
          HasAccount afterSignedIn.game.playerDAO 7 confirmation.attach.accountId
            confirmation.verify.serverId ∧
          confirmation.attach.token = confirmation.verify.token ∧ Current confirmation ∧
          confirmation.stored <:+ afterSignedIn.login.stored) :=
  actsAs_loggedIn LoginService.plainEnv "a" "o" ⟨[⟨1, "ab", 0, "0"⟩], [], [], 1, 0, 0⟩ [] []
    [⟨"a", "o", "k"⟩] 0 0 (AList.insert 7 { accountId := "ab", serverId := 1, frozen := false } ∅)
    signedIn rfl ⟨0, by decide, by decide⟩

end Platform

end SrgpGame.Session
