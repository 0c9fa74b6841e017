import SrgpGame.Lib.Runs
import SrgpGame.Lib.Consecutive
import SrgpGame.Context.MessageController

set_option autoImplicit false

/-!
# The pool as a window

The pool of the player's controller is the window of a reliable channel: it should hold the answers
that were sent and not acknowledged, whichever acknowledgements come and however often the client
reconnects. It does, as long as the numbers of the answers do not overflow.

## Main definitions

* `Window` — the sessions with the history of the player's answers and the highest acknowledgement.
* `PoolExact` — the pool is what was sent beyond the highest acknowledgement, in consecutive order.

## Main results

* `poolExact_run` — `PoolExact` holds after every run with fewer than `2 ^ 31` answers.
* `pool_overflows` — it fails after `2 ^ 31` answers.

## Implementation notes

An acknowledgement counts when it comes with a valid request on the player's session while that is
active, and it counts no further than the last answer that was sent.
-/

namespace SrgpGame.Context

variable {κ μ : Type} [DecidableEq κ]

/-! ## The history of answers -/

/-- The sessions of a client, with all answers that the player's controller sent, and the highest
acknowledgement that counted. -/
structure Window (κ μ : Type) where
  sessions : PlayerSessions κ μ
  sent : List (ServerMessage μ)
  acked : Int32

namespace Window

/-- The player's controller. -/
def controller (window : Window κ μ) : MessageController κ μ :=
  window.sessions.getController window.sessions.player

/-- The answers that the player's controller hands to the connection in a step. -/
def handedOut (sessions : PlayerSessions κ μ) : SessionStep κ μ → List (ServerMessage μ)
  | .send session content =>
    if session = sessions.player then
      ((sessions.getController session).sendMessage (sessions.isActive session) content).2
    else []
  | _ => []

/-- The id of the last answer that was sent, zero if there is none. -/
def lastSent (window : Window κ μ) : Int32 :=
  (window.sent.getLast?.map ServerMessage.lastServerMessageId).getD 0

/-- The highest acknowledgement after a step. -/
def ackedAfter (window : Window κ μ) : SessionStep κ μ → Int32
  | .message session cix six =>
    if session = window.sessions.player ∧ window.controller.lastClientMessageId < cix ∧
        window.sessions.isActive session then
      max window.acked (min six window.lastSent)
    else window.acked
  | _ => window.acked

/-- The sessions and the history after a step. -/
def next (window : Window κ μ) (step : SessionStep κ μ) : Window κ μ :=
  ⟨step.next window.sessions, window.sent ++ handedOut window.sessions step,
    window.ackedAfter step⟩

/-- A player who has just entered the game. -/
def enterGame (session : κ) : Window κ μ := ⟨.enterGame session, [], 0⟩

end Window

/-- **The pool is exact**: it holds the answers that were sent beyond the highest acknowledgement,
and their ids are consecutive. -/
def PoolExact (window : Window κ μ) : Prop :=
  window.controller.messagePool =
      window.sent.filter (fun message => window.acked < message.lastServerMessageId) ∧
    window.controller.messagePool.IsChain fun a b =>
      b.lastServerMessageId.toInt = a.lastServerMessageId.toInt + 1

/-! ## The invariant -/

/-- The number of an answer. -/
def ServerMessage.num (message : ServerMessage μ) : ℤ := message.lastServerMessageId.toInt

/-- **The invariant**: the answers are numbered from one on, the controller knows the last number,
and its pool is the history without as many answers as were acknowledged. -/
structure WindowInv (window : Window κ μ) : Prop where
  filed : window.sessions.cache.lookup window.sessions.player = some window.controller
  numbered : window.sent.Consecutive ServerMessage.num 0
  last : window.controller.lastReceivedMessageId.toInt = window.sent.length
  ackedLow : 0 ≤ window.acked.toInt
  ackedHigh : window.acked.toInt ≤ window.sent.length
  pool : window.controller.messagePool = window.sent.drop window.acked.toInt.toNat

/-- **The invariant makes the pool exact.** -/
theorem WindowInv.poolExact {window : Window κ μ} (hinv : WindowInv window) : PoolExact window := by
  constructor
  · have hfilter := hinv.numbered.filter_eq_drop window.acked.toInt
    rw [sub_zero] at hfilter
    rw [hinv.pool, ← hfilter]
    exact List.filter_congr fun message _ => decide_eq_decide.mpr Int32.lt_iff_toInt_lt.symm
  · rw [hinv.pool]
    exact (hinv.numbered.drop _).isChain

section Steps

variable {window : Window κ μ}

/-- The id of the last answer is the number of answers. -/
lemma WindowInv.toInt_lastSent (hinv : WindowInv window) :
    window.lastSent.toInt = window.sent.length := by
  unfold Window.lastSent
  cases hsent : window.sent using List.reverseRecOn with
  | nil => rfl
  | append_singleton messages message _ =>
    have hnum := hinv.numbered
    rw [hsent, List.Consecutive.append_singleton] at hnum
    have hlast := hnum.2
    rw [List.getLast?_concat, Option.map_some, Option.getD_some, List.length_append,
      List.length_singleton]
    simp only [ServerMessage.num] at hlast
    push_cast
    omega

/-- A step that leaves the player's controller filed, with its pool and its last number, and sends
and acknowledges nothing, keeps the invariant. -/
lemma WindowInv.congr {window' : Window κ μ} (hinv : WindowInv window)
    {controller : MessageController κ μ}
    (hfiled : window'.sessions.cache.lookup window'.sessions.player = some controller)
    (hlast : controller.lastReceivedMessageId = window.controller.lastReceivedMessageId)
    (hpool : controller.messagePool = window.controller.messagePool)
    (hsent : window'.sent = window.sent) (hacked : window'.acked = window.acked) :
    WindowInv window' := by
  have hcontroller : window'.controller = controller :=
    PlayerSessions.getController_of_lookup hfiled
  refine ⟨?_, ?_, ?_, ?_, ?_, ?_⟩
  · rw [hcontroller]
    exact hfiled
  · rw [hsent]
    exact hinv.numbered
  · rw [hcontroller, hlast, hsent]
    exact hinv.last
  · rw [hacked]
    exact hinv.ackedLow
  · rw [hacked, hsent]
    exact hinv.ackedHigh
  · rw [hcontroller, hpool, hsent, hacked]
    exact hinv.pool

/-- The window that an acknowledgement leaves. -/
lemma drop_dropWhile {messages : List (ServerMessage μ)}
    (hnumbered : messages.Consecutive ServerMessage.num 0) {acked : ℤ} (six : Int32)
    (hlow : 0 ≤ acked) :
    (messages.drop acked.toNat).dropWhile (fun message => ¬six < message.lastServerMessageId) =
      messages.drop (max acked (min six.toInt messages.length)).toNat := by
  have hpred : (fun message : ServerMessage μ =>
      decide (¬six < message.lastServerMessageId)) =
        fun message => decide (¬six.toInt < message.num) := by
    funext message
    exact decide_eq_decide.mpr (not_congr Int32.lt_iff_toInt_lt)
  rw [hpred, (hnumbered.drop acked.toNat).dropWhile_eq_drop, List.drop_drop]
  by_cases hsix : six.toInt ≤ messages.length
  · congr 1
    omega
  · rw [List.drop_eq_nil_of_le (by omega), List.drop_eq_nil_of_le (by omega)]

omit [DecidableEq κ] in
/-- A request keeps the number of the last answer. -/
lemma lastReceivedMessageId_validate (controller : MessageController κ μ) (isActive : Bool)
    (cix six : Int32) : (controller.validate isActive cix six).1.lastReceivedMessageId =
      controller.lastReceivedMessageId := by
  unfold MessageController.validate MessageController.discardServerMessage
  by_cases h : controller.lastClientMessageId < cix
  · cases isActive <;> simp [h]
  · simp [h]

omit [DecidableEq κ] in
/-- The pool after a request. -/
lemma messagePool_validate (controller : MessageController κ μ) (isActive : Bool)
    (cix six : Int32) : (controller.validate isActive cix six).1.messagePool =
      if controller.lastClientMessageId < cix ∧ isActive then
        controller.messagePool.dropWhile fun message => ¬six < message.lastServerMessageId
      else controller.messagePool := by
  unfold MessageController.validate MessageController.discardServerMessage
  by_cases h : controller.lastClientMessageId < cix
  · cases isActive <;> simp [h]
  · simp [h]

/-- **A valid request** on the player's active session keeps the invariant, whatever it
acknowledges. -/
lemma WindowInv.messageValid (hinv : WindowInv window) {cix six : Int32}
    (hactive : window.sessions.isActive window.sessions.player = true)
    (hvalid : window.controller.lastClientMessageId < cix) :
    WindowInv (window.next (.message window.sessions.player cix six)) := by
  have hsent : (window.next (.message window.sessions.player cix six)).sent = window.sent :=
    List.append_nil _
  have hsessions : (window.next (.message window.sessions.player cix six)).sessions =
      window.sessions.put window.sessions.player (window.controller.validate
        (window.sessions.isActive window.sessions.player) cix six).1 := if_pos hactive
  have hfiled := window.sessions.lookup_put window.sessions.player window.sessions.player
    (window.controller.validate (window.sessions.isActive window.sessions.player) cix six).1
  rw [if_pos rfl] at hfiled
  have hlast := lastReceivedMessageId_validate window.controller
    (window.sessions.isActive window.sessions.player) cix six
  have hpool := messagePool_validate window.controller
    (window.sessions.isActive window.sessions.player) cix six
  rw [if_pos ⟨hvalid, hactive⟩, hinv.pool, drop_dropWhile hinv.numbered six hinv.ackedLow]
    at hpool
  have hacked : (window.next (.message window.sessions.player cix six)).acked =
      max window.acked (min six window.lastSent) := if_pos ⟨rfl, hvalid, hactive⟩
  have hackedInt : (max window.acked (min six window.lastSent)).toInt =
      max window.acked.toInt (min six.toInt window.sent.length) := by
    rw [Int32.toInt_max, Int32.toInt_min, hinv.toInt_lastSent]
  have hcontroller : (window.next (.message window.sessions.player cix six)).controller =
      (window.controller.validate (window.sessions.isActive window.sessions.player) cix six).1 := by
    rw [Window.controller, hsessions]
    exact PlayerSessions.getController_of_lookup hfiled
  have hlow := hinv.ackedLow
  have hhigh := hinv.ackedHigh
  refine ⟨?_, ?_, ?_, ?_, ?_, ?_⟩
  · rw [hcontroller, hsessions]
    exact hfiled
  · rw [hsent]
    exact hinv.numbered
  · rw [hsent, hcontroller, hlast]
    exact hinv.last
  · rw [hacked, hackedInt]
    omega
  · rw [hacked, hackedInt, hsent]
    omega
  · rw [hacked, hackedInt, hsent, hcontroller]
    exact hpool

/-- **A request** keeps the invariant. -/
lemma WindowInv.message (hinv : WindowInv window) (session : κ) (cix six : Int32) :
    WindowInv (window.next (.message session cix six)) := by
  have hsent : (window.next (.message session cix six)).sent = window.sent :=
    List.append_nil _
  by_cases hactive : window.sessions.isActive session = true
  · have hsessions : (window.next (.message session cix six)).sessions =
        window.sessions.put session ((window.sessions.getController session).validate
          (window.sessions.isActive session) cix six).1 := if_pos hactive
    have hfiled := window.sessions.lookup_put session window.sessions.player
      ((window.sessions.getController session).validate (window.sessions.isActive session)
        cix six).1
    by_cases hplayer : session = window.sessions.player
    · subst hplayer
      by_cases hvalid : window.controller.lastClientMessageId < cix
      · exact hinv.messageValid hactive hvalid
      · rw [if_pos rfl] at hfiled
        have hpool := messagePool_validate window.controller
          (window.sessions.isActive window.sessions.player) cix six
        rw [if_neg fun h => hvalid h.1] at hpool
        refine hinv.congr ?_ (lastReceivedMessageId_validate _ _ _ _) hpool hsent
          (if_neg fun h => hvalid h.2.1)
        rw [hsessions]
        exact hfiled
    · rw [if_neg (Ne.symm hplayer)] at hfiled
      refine hinv.congr ?_ rfl rfl hsent (if_neg fun h => hplayer h.1)
      rw [hsessions]
      exact hfiled.trans hinv.filed
  · have hsessions : (window.next (.message session cix six)).sessions = window.sessions :=
      if_neg hactive
    refine hinv.congr ?_ rfl rfl hsent (if_neg fun h => hactive h.2.2)
    rw [hsessions]
    exact hinv.filed

/-- **A reconnect** keeps the invariant: the controller moves with its pool. -/
lemma WindowInv.reconnect (hinv : WindowInv window) (session : κ) :
    WindowInv (window.next (.reconnect session)) := by
  have hfiled := window.sessions.lookup_reconnection session session
  rw [if_pos rfl] at hfiled
  exact hinv.congr hfiled rfl rfl (List.append_nil _) rfl

/-- **An opened session** keeps the invariant. -/
lemma WindowInv.opened (hinv : WindowInv window) (session : κ) :
    WindowInv (window.next (.opened session)) := by
  have hfiled := window.sessions.lookup_put session window.sessions.player
    (window.sessions.getController session)
  by_cases hplayer : session = window.sessions.player
  · subst hplayer
    rw [if_pos rfl] at hfiled
    exact hinv.congr hfiled rfl rfl (List.append_nil _) rfl
  · rw [if_neg (Ne.symm hplayer)] at hfiled
    exact hinv.congr (hfiled.trans hinv.filed) rfl rfl (List.append_nil _) rfl

/-- **A lost connection** keeps the invariant. -/
lemma WindowInv.lost (hinv : WindowInv window) (session : κ) :
    WindowInv (window.next (.lost session)) :=
  hinv.congr hinv.filed rfl rfl (List.append_nil _) rfl

/-- **An answer to another session** keeps the invariant. -/
lemma WindowInv.sendOther (hinv : WindowInv window) {session : κ} (content : μ)
    (hplayer : session ≠ window.sessions.player) :
    WindowInv (window.next (.send session content)) := by
  have hsent : (window.next (.send session content)).sent = window.sent := by
    have hnone : Window.handedOut window.sessions (.send session content) = [] := if_neg hplayer
    rw [Window.next, hnone, List.append_nil]
  cases hlookup : window.sessions.cache.lookup session with
  | none =>
    have hnext : (window.next (.send session content)).sessions = window.sessions := by
      simp only [Window.next, SessionStep.next, hlookup]
    refine hinv.congr ?_ rfl rfl hsent rfl
    rw [hnext]
    exact hinv.filed
  | some controller =>
    have hnext : (window.next (.send session content)).sessions = window.sessions.put session
        (controller.sendMessage (window.sessions.isActive session) content).1 := by
      simp only [Window.next, SessionStep.next, hlookup]
    refine hinv.congr ?_ rfl rfl hsent rfl
    rw [hnext, PlayerSessions.lookup_put]
    exact (if_neg hplayer.symm).trans hinv.filed

/-- The player's controller and the history after an answer to the player. -/
lemma WindowInv.next_send (hinv : WindowInv window) (content : μ) :
    window.next (.send window.sessions.player content) =
      ⟨window.sessions.put window.sessions.player (window.controller.sendMessage
          (window.sessions.isActive window.sessions.player) content).1,
        window.sent ++ (window.controller.sendMessage
          (window.sessions.isActive window.sessions.player) content).2,
        window.acked⟩ := by
  have hsessions : (SessionStep.send window.sessions.player content).next window.sessions =
      window.sessions.put window.sessions.player (window.controller.sendMessage
        (window.sessions.isActive window.sessions.player) content).1 := by
    simp only [SessionStep.next, hinv.filed]
  have hsent : Window.handedOut window.sessions (.send window.sessions.player content) =
      (window.controller.sendMessage
        (window.sessions.isActive window.sessions.player) content).2 := if_pos rfl
  rw [Window.next, hsessions, hsent]
  rfl

/-- **An answer to the player** keeps the invariant, as long as its number fits. -/
lemma WindowInv.sendPlayer (hinv : WindowInv window) (content : μ)
    (hfits : (window.next (.send window.sessions.player content)).sent.length < 2 ^ 31) :
    WindowInv (window.next (.send window.sessions.player content)) := by
  have hnext := hinv.next_send content
  have hfiled := window.sessions.lookup_put window.sessions.player window.sessions.player
    (window.controller.sendMessage (window.sessions.isActive window.sessions.player) content).1
  rw [if_pos rfl] at hfiled
  cases hactive : window.sessions.isActive window.sessions.player with
  | false =>
    rw [hnext] at hfits ⊢
    rw [hactive] at hfiled ⊢
    exact hinv.congr hfiled rfl rfl (List.append_nil _) rfl
  | true =>
    rw [hactive] at hfiled hnext
    rw [hnext] at hfits ⊢
    set message : ServerMessage μ := ⟨window.controller.lastClientMessageId,
      window.controller.lastReceivedMessageId + 1, content⟩ with hmessage
    have hlength : (window.sent ++ [message]).length = window.sent.length + 1 :=
      List.length_append
    have hlast := hinv.last
    have hfits' : window.sent.length + 1 < 2 ^ 31 := by
      rw [← hlength]
      exact hfits
    have hid : (window.controller.lastReceivedMessageId + 1).toInt = window.sent.length + 1 := by
      rw [Int32.toInt_succ_of_fits (by omega), hlast]
    have hcontroller := PlayerSessions.getController_of_lookup hfiled
    have hlow := hinv.ackedLow
    have hhigh := hinv.ackedHigh
    refine ⟨?_, ?_, ?_, hlow, ?_, ?_⟩
    · exact hfiled.trans (congrArg some hcontroller.symm)
    · refine List.Consecutive.append_singleton.mpr ⟨hinv.numbered, ?_⟩
      change (window.controller.lastReceivedMessageId + 1).toInt = _
      omega
    · refine (congrArg (fun c => c.lastReceivedMessageId.toInt) hcontroller).trans ?_
      change (window.controller.lastReceivedMessageId + 1).toInt =
        ((window.sent ++ [message]).length : ℤ)
      rw [hlength, hid]
      push_cast
      rfl
    · change window.acked.toInt ≤ ((window.sent ++ [message]).length : ℤ)
      rw [hlength]
      push_cast
      omega
    · refine (congrArg MessageController.messagePool hcontroller).trans ?_
      change window.controller.messagePool ++ [message] =
        (window.sent ++ [message]).drop window.acked.toInt.toNat
      rw [hinv.pool, List.drop_append_of_le_length (by omega)]

/-- **Every step** keeps the invariant, as long as the numbers of the answers fit. -/
theorem WindowInv.next (hinv : WindowInv window) (step : SessionStep κ μ)
    (hfits : (window.next step).sent.length < 2 ^ 31) : WindowInv (window.next step) := by
  cases step with
  | opened session => exact hinv.opened session
  | message session cix six => exact hinv.message session cix six
  | reconnect session => exact hinv.reconnect session
  | send session content =>
    by_cases hplayer : session = window.sessions.player
    · subst hplayer
      exact hinv.sendPlayer content hfits
    · exact hinv.sendOther content hplayer
  | lost session => exact hinv.lost session

end Steps

/-! ## Whole runs -/

/-- A player who has just entered the game satisfies the invariant. -/
lemma windowInv_enterGame (session : κ) : WindowInv (Window.enterGame session : Window κ μ) := by
  have hfiled : (Window.enterGame session : Window κ μ).sessions.cache.lookup session =
      some { session := session } := AList.lookup_insert _
  have hcontroller : (Window.enterGame session : Window κ μ).controller = { session := session } :=
    PlayerSessions.getController_of_lookup hfiled
  refine ⟨?_, trivial, ?_, le_rfl, le_rfl, ?_⟩
  · rw [hcontroller]
    exact hfiled
  · rw [hcontroller]
    rfl
  · rw [hcontroller]
    rfl

/-- The history only grows. -/
lemma Window.length_sent_le_run (window : Window κ μ) (steps : List (SessionStep κ μ)) :
    window.sent.length ≤ (Runs.run Window.next window steps).sent.length := by
  induction steps generalizing window with
  | nil => exact le_rfl
  | cons step steps ih =>
    have hstep : window.sent.length ≤ (window.next step).sent.length := by
      rw [Window.next, List.length_append]
      exact Nat.le_add_right _ _
    exact hstep.trans (ih _)

/-- **The invariant holds after every run** whose answers are numbered without overflow. -/
theorem WindowInv.run {window : Window κ μ} (hinv : WindowInv window)
    (steps : List (SessionStep κ μ))
    (hfits : (Runs.run Window.next window steps).sent.length < 2 ^ 31) :
    WindowInv (Runs.run Window.next window steps) := by
  induction steps generalizing window with
  | nil => exact hinv
  | cons step steps ih =>
    have hstep := Window.length_sent_le_run (window.next step) steps
    exact ih (hinv.next step (hstep.trans_lt hfits)) hfits

/-- **The pool is exact after every run** in which fewer than `2 ^ 31` answers were sent. -/
theorem poolExact_run (session : κ) (steps : List (SessionStep κ μ))
    (hfits : (Runs.run Window.next (Window.enterGame session) steps).sent.length < 2 ^ 31) :
    PoolExact (Runs.run Window.next (Window.enterGame session) steps) :=
  ((windowInv_enterGame session).run steps hfits).poolExact

/-- Three answers, the acknowledgement of the second, a reconnect to the session 1, an answer there,
and acknowledgements that are too low and too high. -/
def exchange : List (SessionStep ℕ Unit) :=
  [.send 0 (), .send 0 (), .send 0 (), .message 0 1 2, .opened 1, .reconnect 1, .send 1 (),
    .message 1 2 1, .message 1 3 100, .send 1 ()]

/-- The pool is exact after `exchange`. -/
theorem poolExact_exchange :
    (Runs.run Window.next (Window.enterGame 0) exchange).sent.length < 2 ^ 31 ∧
      PoolExact (Runs.run Window.next (Window.enterGame 0) exchange) :=
  ⟨by decide, poolExact_run 0 exchange (by decide)⟩

/-! ## Overflow -/

/-- The number of answers wraps. -/
lemma toInt_add_one_of_last {id : Int32} (hid : id.toInt = 2 ^ 31 - 1) :
    (id + 1).toInt = -2 ^ 31 := by
  rw [Int32.toInt_add, hid]
  rfl

/-- What a session sends before the numbers overflow. -/
lemma run_send (n : ℕ) (hn : n < 2 ^ 31) :
    let window := Runs.run Window.next (Window.enterGame 0) (List.replicate n (.send 0 ()))
    WindowInv window ∧ window.sessions.player = 0 ∧ window.sessions.isActive 0 = true ∧
      window.sent.length = n ∧ window.acked = 0 := by
  induction n with
  | zero => exact ⟨windowInv_enterGame 0, rfl, rfl, rfl, rfl⟩
  | succ n ih =>
    obtain ⟨hinv, hplayer, hactive, hlength, hacked⟩ := ih (by omega)
    rw [List.replicate_succ', Runs.run_append, Runs.run_cons, Runs.run_nil]
    set window := Runs.run Window.next (Window.enterGame 0) (List.replicate n (.send 0 ()))
    have hnext := hinv.next_send ()
    rw [hplayer, hactive] at hnext
    have hsent : (window.next (.send 0 ())).sent.length = n + 1 := by
      rw [hnext]
      exact List.length_append.trans (congrArg (· + 1) hlength)
    refine ⟨hinv.next _ (hsent.trans_lt hn), ?_, ?_, hsent, ?_⟩
    · rw [hnext]
      exact hplayer
    · rw [hnext]
      exact hactive
    · rw [hnext]
      exact hacked

/-- An answer whose id wraps does not leave an exact pool. -/
lemma WindowInv.not_poolExact_send {window : Window ℕ Unit} (hinv : WindowInv window)
    (hplayer : window.sessions.player = 0) (hactive : window.sessions.isActive 0 = true)
    (hlength : window.sent.length = 2 ^ 31 - 1) (hacked : window.acked = 0) :
    ¬PoolExact (window.next (.send 0 ())) := by
  rintro ⟨hpool, -⟩
  have hnext := hinv.next_send ()
  rw [hplayer, hactive] at hnext
  have hcontroller : (window.next (.send 0 ())).controller =
      (window.controller.sendMessage true ()).1 := by
    rw [hnext]
    refine (congrArg _ hplayer).trans ?_
    exact PlayerSessions.getController_of_lookup
      ((window.sessions.lookup_put 0 0 _).trans (if_pos rfl))
  have hacked' : (window.next (.send 0 ())).acked = 0 := by
    rw [hnext]
    exact hacked
  set message : ServerMessage Unit := ⟨window.controller.lastClientMessageId,
    window.controller.lastReceivedMessageId + 1, ()⟩
  have hmem : message ∈ (window.next (.send 0 ())).controller.messagePool := by
    rw [hcontroller]
    exact List.mem_append_right _ (List.mem_singleton.mpr rfl)
  have hid : message.lastServerMessageId.toInt = -2 ^ 31 := by
    apply toInt_add_one_of_last
    rw [hinv.last, hlength]
    norm_num
  rw [hpool] at hmem
  have hbeyond := (List.mem_filter.mp hmem).2
  rw [hacked', decide_eq_true_iff, Int32.lt_iff_toInt_lt, hid] at hbeyond
  exact absurd hbeyond (by decide)

/-- **The pool overflows**: the answer number `2 ^ 31` has a negative id, so that the pool holds an
answer which is not beyond the highest acknowledgement. -/
theorem pool_overflows : ¬PoolExact
    (Runs.run Window.next (Window.enterGame 0) (List.replicate (2 ^ 31) (.send 0 ()))) := by
  have hlast : 2 ^ 31 = 2 ^ 31 - 1 + 1 := by norm_num
  obtain ⟨hinv, hplayer, hactive, hlength, hacked⟩ := run_send (2 ^ 31 - 1) (by norm_num)
  rw [hlast, List.replicate_succ', Runs.run_append, Runs.run_cons, Runs.run_nil]
  exact hinv.not_poolExact_send hplayer hactive hlength hacked

end SrgpGame.Context
