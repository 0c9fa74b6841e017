import Mathlib.Data.List.Nodup
import SrgpGame.Lib.Runs
import SrgpGame.Context.MessageController

set_option autoImplicit false

/-!
# Is every request accepted once?

A controller accepts a request when its id is above the last one. Each session of a client has a
controller of its own, so a request that was accepted on one session may arrive again on another.
This file says when no id is accepted twice on the sessions of a player, and when the last id of the
player's controller never decreases.

## Main definitions

* `Requests` — the sessions with the history of the accepted ids.
* `AcceptsOnce` — no id was accepted twice, and the player's last id does not decrease.
* `NotElsewhere` — the condition on a step.

## Main results

* `acceptsOnce_iff_notElsewhere` — over whole runs, `AcceptsOnce` holds exactly when `NotElsewhere`
  does.
* `accepted_again` — a request that is accepted twice.

## Implementation notes

`AcceptInv` is the invariant: what a controller accepted is not above its last id. It is why a
controller accepts no id twice, whatever arrives again.
-/

namespace SrgpGame.Context

variable {κ μ : Type} [DecidableEq κ]

/-! ## The history of accepted requests -/

/-- The sessions of a client, with the ids of all requests that were accepted. -/
structure Requests (κ μ : Type) where
  sessions : PlayerSessions κ μ
  /-- All ids that were accepted. -/
  accepted : List Int32
  /-- The ids that the controller of a session accepted. -/
  acceptedOn : κ → List Int32

namespace Requests

/-- The ids that a step accepts: that of the request, if it is not dropped and its controller finds
it valid. -/
def acceptedBy (sessions : PlayerSessions κ μ) : SessionStep κ μ → List Int32
  | .message session cix six =>
    if sessions.isActive session ∧
        ((sessions.getController session).validate (sessions.isActive session) cix six).2 then
      [cix]
    else []
  | _ => []

/-- The ids that the controller of a session accepted, after a step. A reconnect moves the player's
controller to the new session. -/
def acceptedOnAfter (requests : Requests κ μ) : SessionStep κ μ → κ → List Int32
  | .message session cix six => Function.update requests.acceptedOn session
      (requests.acceptedOn session ++ acceptedBy requests.sessions (.message session cix six))
  | .reconnect session =>
    Function.update (Function.update requests.acceptedOn requests.sessions.player []) session
      (requests.acceptedOn requests.sessions.player)
  | _ => requests.acceptedOn

/-- The sessions and the history after a step. -/
def next (requests : Requests κ μ) (step : SessionStep κ μ) : Requests κ μ :=
  ⟨step.next requests.sessions, requests.accepted ++ acceptedBy requests.sessions step,
    requests.acceptedOnAfter step⟩

/-- The last id that the controller of a session accepted. -/
def lastOn (requests : Requests κ μ) (session : κ) : Int32 :=
  (requests.sessions.getController session).lastClientMessageId

/-- The last id that the player's controller accepted. -/
def lastClientMessageId (requests : Requests κ μ) : Int32 :=
  requests.lastOn requests.sessions.player

/-- A player who has just entered the game. -/
def enterGame (session : κ) : Requests κ μ := ⟨.enterGame session, [], fun _ => []⟩

end Requests

/-! ## What should hold, and when it does -/

/-- **Each id is accepted once.** After the step no id was accepted twice, and the last id of the
player's controller has not decreased. -/
def AcceptsOnce (requests : Requests κ μ) (step : SessionStep κ μ) : Prop :=
  (requests.next step).accepted.Nodup ∧
    requests.lastClientMessageId ≤ (requests.next step).lastClientMessageId

/-- **The condition on a step**: a request that is above the last id of its controller is not one
that another controller accepted; and at a reconnect the controller of the new session has a last id
that is not below the player's. -/
def NotElsewhere (requests : Requests κ μ) : SessionStep κ μ → Prop
  | .message session cix _ =>
    requests.sessions.isActive session → requests.lastOn session < cix →
      cix ∈ requests.accepted → cix ∈ requests.acceptedOn session
  | .reconnect session => requests.lastClientMessageId ≤ requests.lastOn session
  | _ => True

/-! ## The invariant -/

/-- No id was accepted twice, and what a controller accepted is not above its last id. -/
structure AcceptInv (requests : Requests κ μ) : Prop where
  nodup : requests.accepted.Nodup
  below : ∀ session, ∀ cix ∈ requests.acceptedOn session, cix ≤ requests.lastOn session

section Steps

variable {requests : Requests κ μ}

omit [DecidableEq κ] in
/-- The last id of a controller after a request. -/
lemma lastClientMessageId_validate (controller : MessageController κ μ) (isActive : Bool)
    (cix six : Int32) :
    (controller.validate isActive cix six).1.lastClientMessageId =
      if controller.lastClientMessageId < cix then cix else controller.lastClientMessageId := by
  unfold MessageController.validate MessageController.discardServerMessage
  by_cases h : controller.lastClientMessageId < cix
  · have hmax : max controller.lastClientMessageId cix = cix := if_pos (Int32.le_of_lt h)
    cases isActive <;> simp [h, hmax]
  · simp [h]

omit [DecidableEq κ] in
/-- A request is valid just if its id is above the last one. -/
lemma validate_valid (controller : MessageController κ μ) (isActive : Bool) (cix six : Int32) :
    (controller.validate isActive cix six).2 = true ↔ controller.lastClientMessageId < cix := by
  unfold MessageController.validate
  by_cases h : controller.lastClientMessageId < cix
  · simp [h]
  · simp [h]

omit [DecidableEq κ] in
/-- An answer leaves the last id as it is. -/
lemma lastClientMessageId_sendMessage (controller : MessageController κ μ) (isActive : Bool)
    (content : μ) : (controller.sendMessage isActive content).1.lastClientMessageId =
      controller.lastClientMessageId := by
  cases isActive <;> rfl

/-- What a request accepts. -/
lemma acceptedBy_message (requests : Requests κ μ) (session : κ) (cix six : Int32) :
    Requests.acceptedBy requests.sessions (.message session cix six : SessionStep κ μ) =
      if requests.sessions.isActive session ∧ requests.lastOn session < cix then [cix]
      else [] := by
  unfold Requests.acceptedBy Requests.lastOn
  simp only [validate_valid]

/-- The last ids after a request: that of its controller becomes its id if it is accepted. -/
lemma lastOn_message (requests : Requests κ μ) (session : κ) (cix six : Int32) (other : κ) :
    (requests.next (.message session cix six)).lastOn other =
      if other = session ∧ requests.sessions.isActive session ∧ requests.lastOn session < cix then
        cix
      else requests.lastOn other := by
  change ((if requests.sessions.isActive session then _ else _ :
    PlayerSessions κ μ).getController other).lastClientMessageId = _
  by_cases hactive : requests.sessions.isActive session = true
  · rw [if_pos hactive, PlayerSessions.getController_put]
    by_cases hother : other = session
    · subst hother
      rw [if_pos rfl, lastClientMessageId_validate]
      simp only [hactive, true_and]
      rfl
    · rw [if_neg hother, if_neg fun h => hother h.1]
      rfl
  · rw [if_neg hactive, if_neg fun h => hactive h.2.1]
    rfl

/-- The last ids after an answer are what they were. -/
lemma lastOn_send (requests : Requests κ μ) (session : κ) (content : μ) (other : κ) :
    (requests.next (.send session content)).lastOn other = requests.lastOn other := by
  rw [Requests.lastOn, Requests.next, SessionStep.next]
  cases hlookup : requests.sessions.cache.lookup session with
  | none => rfl
  | some controller =>
    have hget := PlayerSessions.getController_of_lookup hlookup
    change ((requests.sessions.put session _).getController other).lastClientMessageId = _
    rw [PlayerSessions.getController_put]
    split_ifs with hother
    · rw [lastClientMessageId_sendMessage, hother, Requests.lastOn, hget]
    · rfl

/-- The last ids after a session was opened are what they were. -/
lemma lastOn_opened (requests : Requests κ μ) (session other : κ) :
    (requests.next (.opened session)).lastOn other = requests.lastOn other := by
  change ((requests.sessions.put session _).getController other).lastClientMessageId = _
  rw [PlayerSessions.getController_put]
  split_ifs with hother
  · rw [hother]
    rfl
  · rfl

/-- The last id of the new session after a reconnect is what it was. -/
lemma lastOn_reconnect_self (requests : Requests κ μ) (session : κ) :
    (requests.next (.reconnect session)).lastOn session = requests.lastOn session := by
  change ((requests.sessions.reconnection session).getController session).lastClientMessageId = _
  rw [PlayerSessions.getController_reconnection, if_pos rfl]
  rfl

/-- A request that meets the condition was not accepted before: its own controller accepted no id
above its last one. -/
lemma AcceptInv.notMem_accepted {session : κ} {cix six : Int32} (hinv : AcceptInv requests)
    (hcond : NotElsewhere requests (.message session cix six : SessionStep κ μ))
    (hactive : requests.sessions.isActive session = true)
    (hvalid : requests.lastOn session < cix) : cix ∉ requests.accepted := by
  intro hmem
  have hbelow := hinv.below session cix (hcond hactive hvalid hmem)
  exact Int32.lt_irrefl (Int32.lt_of_le_of_lt hbelow hvalid)

/-- A request that meets the condition keeps the invariant. -/
lemma AcceptInv.message {session : κ} {cix six : Int32} (hinv : AcceptInv requests)
    (hcond : NotElsewhere requests (.message session cix six : SessionStep κ μ)) :
    AcceptInv (requests.next (.message session cix six)) := by
  have haccepted := acceptedBy_message requests session cix six
  constructor
  · change (requests.accepted ++ Requests.acceptedBy _ _).Nodup
    rw [haccepted]
    split_ifs with h
    · exact List.nodup_append'.mpr ⟨hinv.nodup, List.nodup_singleton cix,
        List.disjoint_singleton.mpr (hinv.notMem_accepted hcond h.1 h.2)⟩
    · rw [List.append_nil]
      exact hinv.nodup
  · intro other old hold
    change old ∈ Function.update requests.acceptedOn session _ other at hold
    rw [lastOn_message]
    by_cases hother : other = session
    · subst hother
      rw [Function.update_self, haccepted] at hold
      split_ifs at hold with h
      · rw [if_pos ⟨rfl, h⟩]
        obtain hold | hold := List.mem_append.mp hold
        · exact Int32.le_trans (hinv.below other old hold) (Int32.le_of_lt h.2)
        · exact Int32.le_of_eq (List.mem_singleton.mp hold)
      · rw [List.append_nil] at hold
        rw [if_neg fun hand => h hand.2]
        exact hinv.below other old hold
    · rw [Function.update_of_ne hother] at hold
      rw [if_neg fun hand => hother hand.1]
      exact hinv.below other old hold

/-- A reconnect to a controller with a last id that is not lower keeps the invariant. -/
lemma AcceptInv.reconnect {session : κ} (hinv : AcceptInv requests)
    (hcond : NotElsewhere requests (.reconnect session : SessionStep κ μ)) :
    AcceptInv (requests.next (.reconnect session)) := by
  constructor
  · change (requests.accepted ++ []).Nodup
    rw [List.append_nil]
    exact hinv.nodup
  · intro other old hold
    change old ∈ Function.update (Function.update requests.acceptedOn requests.sessions.player [])
      session _ other at hold
    by_cases hother : other = session
    · subst hother
      rw [Function.update_self] at hold
      rw [lastOn_reconnect_self]
      exact Int32.le_trans (hinv.below _ old hold) hcond
    · rw [Function.update_of_ne hother] at hold
      by_cases hplayer : other = requests.sessions.player
      · rw [hplayer, Function.update_self] at hold
        cases hold
      · rw [Function.update_of_ne hplayer] at hold
        change old ≤ ((requests.sessions.reconnection session).getController
          other).lastClientMessageId
        rw [PlayerSessions.getController_reconnection, if_neg hother, if_neg hplayer]
        exact hinv.below other old hold

/-- A step that accepts nothing and changes no last id keeps the invariant. -/
lemma AcceptInv.congr (hinv : AcceptInv requests) {next : Requests κ μ}
    (haccepted : next.accepted = requests.accepted ++ [])
    (hon : next.acceptedOn = requests.acceptedOn)
    (hlast : ∀ other, next.lastOn other = requests.lastOn other) : AcceptInv next := by
  constructor
  · rw [haccepted, List.append_nil]
    exact hinv.nodup
  · intro other old hold
    rw [hon] at hold
    rw [hlast]
    exact hinv.below other old hold

/-- **A step that meets the condition** keeps the invariant. -/
theorem AcceptInv.next {step : SessionStep κ μ} (hinv : AcceptInv requests)
    (hcond : NotElsewhere requests step) : AcceptInv (requests.next step) := by
  cases step with
  | opened session => exact hinv.congr rfl rfl (lastOn_opened requests session)
  | message session cix six => exact hinv.message hcond
  | reconnect session => exact hinv.reconnect hcond
  | send session content => exact hinv.congr rfl rfl (lastOn_send requests session content)
  | lost session => exact hinv.congr rfl rfl fun _ => rfl

/-- The player stays on his session, unless he reconnects. -/
lemma player_next {step : SessionStep κ μ} (h : ∀ session, step ≠ .reconnect session) :
    (requests.next step).sessions.player = requests.sessions.player := by
  cases step with
  | opened session => rfl
  | message session cix six =>
    change (if requests.sessions.isActive session then _ else _ : PlayerSessions κ μ).player = _
    split_ifs
    · rfl
    · rfl
  | reconnect session => exact absurd rfl (h session)
  | send session content =>
    change (SessionStep.next requests.sessions (.send session content)).player = _
    rw [SessionStep.next]
    cases requests.sessions.cache.lookup session with
    | none => rfl
    | some controller => rfl
  | lost session => rfl

/-- **Where the invariant holds, a step accepts once exactly when it meets the condition.** -/
theorem AcceptInv.acceptsOnce_iff {step : SessionStep κ μ} (hinv : AcceptInv requests) :
    AcceptsOnce requests step ↔ NotElsewhere requests step := by
  refine ⟨fun h => ?_, fun hcond => ⟨(hinv.next hcond).nodup, ?_⟩⟩
  · obtain ⟨hnodup, hlast⟩ := h
    cases step with
    | opened session => trivial
    | message session cix six =>
      intro hactive hvalid hmem
      change (requests.accepted ++ Requests.acceptedBy _ _).Nodup at hnodup
      rw [acceptedBy_message, if_pos ⟨hactive, hvalid⟩] at hnodup
      exact absurd hmem (List.disjoint_singleton.mp (List.nodup_append'.mp hnodup).2.2)
    | reconnect session =>
      change _ ≤ (requests.next (.reconnect session)).lastOn session at hlast
      rw [lastOn_reconnect_self] at hlast
      exact hlast
    | send session content => trivial
    | lost session => trivial
  · rw [Requests.lastClientMessageId, Requests.lastClientMessageId]
    cases step with
    | opened session =>
      rw [player_next (by simp), lastOn_opened]
      exact Int32.le_rfl
    | message session cix six =>
      rw [player_next (by simp), lastOn_message]
      split_ifs with h
      · rw [h.1]
        exact Int32.le_of_lt h.2.2
      · exact Int32.le_rfl
    | reconnect session =>
      change _ ≤ (requests.next (.reconnect session)).lastOn session
      rw [lastOn_reconnect_self]
      exact hcond
    | send session content =>
      rw [player_next (by simp), lastOn_send]
      exact Int32.le_rfl
    | lost session => exact Int32.le_rfl

end Steps

/-! ## Whole runs -/

/-- A player who has just entered the game satisfies the invariant. -/
lemma acceptInv_enterGame (session : κ) :
    AcceptInv (Requests.enterGame session : Requests κ μ) :=
  ⟨List.nodup_nil, fun _ _ h => absurd h List.not_mem_nil⟩

/-- **Over a whole run every id is accepted once and the player's last id never decreases, exactly
when every step meets the condition.** The run starts when the player enters the game; the steps
are any, on any sessions. -/
theorem acceptsOnce_iff_notElsewhere (session : κ) (steps : List (SessionStep κ μ)) :
    Runs.EveryStep Requests.next AcceptsOnce (Requests.enterGame session) steps ↔
      Runs.EveryStep Requests.next NotElsewhere (Requests.enterGame session) steps :=
  Runs.everyStep_congr (fun requests _ => AcceptInv requests)
    (fun _ _ _ hinv hcond => hinv.next hcond) (fun _ _ _ hinv => hinv.acceptsOnce_iff)
    (acceptInv_enterGame session)

/-- A client whose requests 3 and 5 were accepted on its session 0, that opens the session 1, sends
the request 3 once more and takes up the player's session there. -/
def resend : List (SessionStep ℕ Unit) :=
  [.message 0 3 0, .message 0 5 0, .opened 1, .message 1 3 0, .reconnect 1]

/-- **A request is accepted again**, and the reconnect lowers the player's last id from 5 to 3. -/
theorem accepted_again :
    ¬Runs.EveryStep Requests.next AcceptsOnce (Requests.enterGame 0) resend ∧
      (Runs.run Requests.next (Requests.enterGame 0) resend).accepted = [3, 5, 3] ∧
      (Runs.run Requests.next (Requests.enterGame 0) resend).lastClientMessageId = 3 := by
  refine ⟨?_, rfl, rfl⟩
  rintro ⟨-, -, -, ⟨hnodup, -⟩, -⟩
  have hsame : ([3, 5, 3] : List Int32).Nodup := hnodup
  exact absurd hsame (by decide)

end SrgpGame.Context
