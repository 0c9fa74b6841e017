import Mathlib.Data.Finmap
import Mathlib.Data.List.TakeWhile
import SrgpGame.Lib.Reader
import SrgpGame.Context.Window
import SrgpGame.Util.Decimal

set_option autoImplicit false

/-!
# Answers that are sent again

A client that comes back gets the answers that it has not acknowledged as JSON objects, which are
made of the contents of the messages in the pool. An answer is sent as bytes or as a map. Of both
the content has a flag first, but that of a map has its number `c` behind the flag, and the
JSON object only then; what is made of the content takes away the flag only.

## Main definitions

* `Json`, `passedOver` — what is used of fastjson.
* `Answer.content` — the contents that the two methods `sendMessage` write.
* `getAllServerMessage` — reads the JSON objects of the pool.
* `Resent` — it gives the JSON objects that were sent, in order, with their ids.

## Main results

* `resent_run` — after every run this is so if every answer in the pool that was sent as a map has a
  `c` whose bytes the parser passes over.

## Design notes

The messages of the pool are answers, whose contents are computed; `getAllServerMessage` looks at
the contents only. A value that is `null` is not in a map. The original map, which `sendMessage`
takes apart, is not looked at again.
-/

namespace SrgpGame.Context

variable {κ V : Type} [DecidableEq κ]

/-! ## JSON -/

/-- A map of names to values. -/
abbrev JsonMap (V : Type) : Type := Finmap fun _ : String => V

/-- What `getAllServerMessage` can throw. -/
inductive Unreadable where
  | indexOutOfBounds
  | jsonException
  | nullPointer
  deriving DecidableEq, Repr

/-- What is used of Java's objects and of fastjson. -/
structure Json (V : Type) where
  ofString : String → V
  ofInt : Int32 → V
  /-- `Object.toString`. -/
  toString : V → String
  /-- The cast to `Map`. -/
  asMap : V → Option (JsonMap V)
  /-- `Character.digit`. -/
  digit : Char → Option ℕ
  /-- `JSONObject.toJSONString`, as UTF-8. -/
  toJSONString : JsonMap V → List UInt8
  /-- `JSON.parseObject`; nothing is `null`. -/
  parseObject : List UInt8 → Except Unreadable (Option (JsonMap V))

/-- What the lexer is in. -/
inductive Skipping where
  | text
  | lineComment
  | blockComment
  deriving DecidableEq

/-- Whether `nextToken` passes over all the bytes: blanks, control characters and comments. A
comment ends at the character 26, too. -/
def skips : Skipping → List UInt8 → Bool
  | .text, [] => true
  | .lineComment, [] | .blockComment, [] => false
  | .text, [b] => b ≤ 32 || b == 127
  | .text, a :: b :: bytes =>
    if a = 47 ∧ b = 47 then skips .lineComment bytes
    else if a = 47 ∧ b = 42 then skips .blockComment bytes
    else (a ≤ 32 || a == 127) && skips .text (b :: bytes)
  | .lineComment, b :: bytes =>
    if b = 10 ∨ b = 26 then skips .text bytes else b < 128 && skips .lineComment bytes
  | .blockComment, [b] => b == 26
  | .blockComment, a :: b :: bytes =>
    if a = 42 ∧ b = 47 then skips .text bytes
    else if a = 26 then skips .text (b :: bytes)
    else a < 128 && skips .blockComment (b :: bytes)

/-- Whether the parser passes over bytes at the beginning, where a byte order mark may stand. -/
def passedOver (bytes : List UInt8) : Bool :=
  if bytes.take 3 = [239, 187, 191] then skips .text (bytes.drop 3) else skips .text bytes

/-- **Parsing inverts printing** a map. In front of it, four bytes that the parser passes over make
no difference. -/
structure Json.Lawful (json : Json V) (map : JsonMap V) : Prop where
  parse_print : json.parseObject (json.toJSONString map) = .ok (some map)
  skipped : ∀ bytes, bytes.length = 4 → passedOver bytes = true →
    json.parseObject (bytes ++ json.toJSONString map) = json.parseObject (json.toJSONString map)

/-! ## Sending -/

/-- What is sent. -/
inductive Answer (V : Type) where
  /-- Bytes, and whether they are compressed. -/
  | bytes (compress : Bool) (data : List UInt8)
  /-- A map, and the number `c` of the answer. -/
  | map (compress : Bool) (c : Int32) (dmap : JsonMap V)

variable (json : Json V)

/-- The content of the message. -/
def Answer.content : Answer V → List UInt8
  | .bytes compress data => [if compress then 1 else 0] ++ data
  | .map compress c dmap =>
    [if compress then 1 else 0] ++ (intLE c ++ json.toJSONString dmap)

/-- `sendMessage(compress, byte[])`, if there is a buffer for the content. -/
def ofBytes (compress : Bool) (data : List UInt8) : Option (Answer V) :=
  if data.length + 1 < 2 ^ 31 then some (.bytes compress data) else none

/-- **`sendMessage(compress, Map)`**: nothing is sent if there is an exception. -/
def ofMap (compress : Bool) (data : JsonMap V) : Option (Answer V) := do
  let co := json.toString (← data.lookup "co")
  let c ← Util.parseInt json.digit (json.toString (← data.lookup "c")).toList
  let dmap ← (match data.lookup "d" with
    | none => some ∅
    | some d => json.asMap d)
  let dmap := dmap.insert "co" (json.ofString co)
  if (json.toJSONString dmap).length + 5 < 2 ^ 31 then some (.map compress c dmap) else none

/-- An answer that one of the methods sends, of bytes that are a JSON object, or of a map. -/
def Produced (answer : Answer V) : Prop :=
  (∃ compress data map, ofBytes compress data = some answer ∧
      json.parseObject data = .ok (some map)) ∨
    ∃ compress data, ofMap json compress data = some answer

/-- The JSON object of an answer. -/
def IsBody (answer : Answer V) (body : JsonMap V) : Prop :=
  match answer with
  | .bytes _ data => json.parseObject data = .ok (some body)
  | .map _ _ dmap => dmap = body

/-! ## Reading -/

/-- A JSON object with the ids of its message. -/
def withIds (message : ServerMessage (Answer V)) (body : JsonMap V) : JsonMap V :=
  (body.insert "si" (json.ofInt message.lastServerMessageId)).insert "ci"
    (json.ofInt message.lastClientMessageId)

/-- What is made of a message. -/
def readMessage (message : ServerMessage (Answer V)) : Except Unreadable (JsonMap V) :=
  match message.content.content json with
  | [] => .error .indexOutOfBounds
  | _ :: bytes => do
    match ← json.parseObject bytes with
    | none => .error .nullPointer
    | some map => .ok (withIds json message map)

/-- **`getAllServerMessage`**. -/
def getAllServerMessage (messagePool : List (ServerMessage (Answer V))) :
    Except Unreadable (List (JsonMap V)) :=
  messagePool.mapM (readMessage json)

/-- **The answers are sent again as they were**: nothing is thrown, and there is for each of them,
in order, its JSON object with the ids. -/
def Resent (messagePool : List (ServerMessage (Answer V))) : Prop :=
  ∃ maps, getAllServerMessage json messagePool = .ok maps ∧
    List.Forall₂ (fun message map => ∃ body, IsBody json message.content body ∧
      map = withIds json message body) messagePool maps

/-- An answer that can be read: one of bytes, or one with a number that the parser passes over. -/
def Readable (answer : Answer V) : Prop :=
  match answer with
  | .bytes _ _ => True
  | .map _ c _ => passedOver (intLE c) = true

/-- What is assumed of an answer: one of the methods sends it, and fastjson reads its JSON
object. -/
def Sendable (answer : Answer V) : Prop :=
  Produced json answer ∧ ∀ compress c dmap, answer = .map compress c dmap → json.Lawful dmap

/-! ## One message -/

variable {json}

/-- A map is sent as a map. -/
lemma exists_of_ofMap {compress : Bool} {data : JsonMap V} {answer : Answer V}
    (h : ofMap json compress data = some answer) : ∃ c dmap, answer = .map compress c dmap := by
  simp only [ofMap, Option.bind_eq_bind, Option.bind_eq_some_iff] at h
  obtain ⟨co, -, c, -, i, -, d, -, h⟩ := h
  split_ifs at h
  exact ⟨i, _, (Option.some.inj h).symm⟩

/-- The JSON object of an answer of bytes. -/
lemma Sendable.parseObject {compress : Bool} {data : List UInt8}
    (h : Sendable json (.bytes compress data)) :
    ∃ map, json.parseObject data = .ok (some map) := by
  obtain ⟨⟨compress', data', map, hbytes, hparse⟩ | ⟨compress', data', hmap⟩, -⟩ := h
  · rw [ofBytes] at hbytes
    split_ifs at hbytes
    obtain ⟨-, rfl⟩ := Answer.bytes.inj (Option.some.inj hbytes)
    exact ⟨map, hparse⟩
  · obtain ⟨c, dmap, heq⟩ := exists_of_ofMap hmap
    cases heq

/-- **A message is read** as it was sent if its answer is readable. -/
lemma readMessage_of_readable {message : ServerMessage (Answer V)}
    (hsendable : Sendable json message.content) (hreadable : Readable message.content) :
    ∃ body, IsBody json message.content body ∧
      readMessage json message = .ok (withIds json message body) := by
  rw [readMessage]
  cases hcontent : message.content with
  | bytes compress data =>
    rw [hcontent] at hsendable
    obtain ⟨map, hparse⟩ := hsendable.parseObject
    refine ⟨map, hparse, ?_⟩
    simp only [Answer.content, List.singleton_append, hparse]
    rfl
  | map compress c dmap =>
    rw [hcontent] at hsendable hreadable
    have hlawful := hsendable.2 compress c dmap rfl
    have hparse := hlawful.skipped (intLE c) (length_intLE c) hreadable
    rw [hlawful.parse_print] at hparse
    refine ⟨dmap, rfl, ?_⟩
    simp only [Answer.content, List.singleton_append, hparse]
    rfl

/-- **A pool is sent again as it was** if its answers are readable. -/
lemma resent_of_readable {messagePool : List (ServerMessage (Answer V))}
    (hsendable : ∀ message ∈ messagePool, Sendable json message.content)
    (hreadable : ∀ message ∈ messagePool, Readable message.content) :
    Resent json messagePool := by
  induction messagePool with
  | nil => exact ⟨[], rfl, .nil⟩
  | cons message messages ih =>
    rw [List.forall_mem_cons] at hsendable hreadable
    obtain ⟨body, hbody, hread⟩ := readMessage_of_readable hsendable.1 hreadable.1
    obtain ⟨maps, hget, hmaps⟩ := ih hsendable.2 hreadable.2
    rw [getAllServerMessage] at hget
    refine ⟨withIds json message body :: maps, ?_, .cons ⟨body, hbody, rfl⟩ hmaps⟩
    rw [getAllServerMessage, List.mapM_cons, hread, hget]
    rfl

/-! ## Whole runs -/

section Runs

variable {μ : Type} {window : Window κ μ}

/-- **The pool is the end of the history**: the player's controller is filed, and its pool has the
answers that were sent last. -/
structure PoolKept (window : Window κ μ) : Prop where
  filed : window.sessions.cache.lookup window.sessions.player = some window.controller
  pool : window.controller.messagePool <:+ window.sent

/-- A step that leaves the player's controller filed, with a pool that is the end of what was
sent. -/
lemma PoolKept.of_lookup {controller : MessageController κ μ}
    (hfiled : window.sessions.cache.lookup window.sessions.player = some controller)
    (hpool : controller.messagePool <:+ window.sent) : PoolKept window := by
  have hcontroller : window.controller = controller :=
    PlayerSessions.getController_of_lookup hfiled
  refine ⟨?_, ?_⟩
  · rw [hcontroller]
    exact hfiled
  · rw [hcontroller]
    exact hpool

lemma poolKept_enterGame (session : κ) : PoolKept (Window.enterGame session : Window κ μ) :=
  .of_lookup (AList.lookup_insert _) List.nil_suffix

omit [DecidableEq κ] in
/-- What a request leaves of a pool is the end of it. -/
lemma messagePool_validate_suffix (controller : MessageController κ μ) (isActive : Bool)
    (cix six : Int32) :
    (controller.validate isActive cix six).1.messagePool <:+ controller.messagePool := by
  rw [messagePool_validate]
  split_ifs
  · exact List.dropWhile_suffix _
  · exact List.suffix_rfl

/-- A step that files a controller, with a pool that is the end of what was sent if it is the
player's. -/
lemma PoolKept.of_put (hkept : PoolKept window) {next : Window κ μ} (session : κ)
    {controller : MessageController κ μ}
    (hcache : next.sessions.cache = (window.sessions.put session controller).cache)
    (hsame : next.sessions.player = window.sessions.player)
    (hold : window.sessions.player ≠ session → window.controller.messagePool <:+ next.sent)
    (hnew : window.sessions.player = session → controller.messagePool <:+ next.sent) :
    PoolKept next := by
  have hfiled := window.sessions.lookup_put session window.sessions.player controller
  by_cases hplayer : window.sessions.player = session
  · rw [if_pos hplayer] at hfiled
    refine .of_lookup ?_ (hnew hplayer)
    rw [hcache, hsame]
    exact hfiled
  · rw [if_neg hplayer] at hfiled
    refine .of_lookup ?_ (hold hplayer)
    rw [hcache, hsame]
    exact hfiled.trans hkept.filed

/-- What the player's controller sends is the end of the history. -/
lemma PoolKept.sendMessage (hkept : PoolKept window) (content : μ) :
    (window.controller.sendMessage (window.sessions.isActive window.sessions.player)
        content).1.messagePool <:+
      (window.next (.send window.sessions.player content)).sent := by
  change _ <:+
    window.sent ++ Window.handedOut window.sessions (.send window.sessions.player content)
  rw [Window.handedOut, if_pos rfl]
  change _ <:+ window.sent ++ (window.controller.sendMessage _ content).2
  cases window.sessions.isActive window.sessions.player with
  | true =>
    obtain ⟨early, hearly⟩ := hkept.pool
    refine ⟨early, ?_⟩
    rw [← hearly]
    exact (List.append_assoc _ _ _).symm
  | false =>
    change window.controller.messagePool <:+ window.sent ++ []
    rw [List.append_nil]
    exact hkept.pool

/-- **Every step** keeps the pool the end of the history. -/
lemma PoolKept.next (hkept : PoolKept window) (step : SessionStep κ μ) :
    PoolKept (window.next step) := by
  have hstill : window.controller.messagePool <:+ window.sent ++ [] := by
    rw [List.append_nil]
    exact hkept.pool
  cases step with
  | opened session =>
    refine hkept.of_put session rfl rfl (fun _ => hstill) fun hplayer => ?_
    subst hplayer
    exact hstill
  | message session cix six =>
    by_cases hactive : window.sessions.isActive session = true
    · have hsessions : (window.next (.message session cix six)).sessions =
          window.sessions.put session ((window.sessions.getController session).validate
            (window.sessions.isActive session) cix six).1 := if_pos hactive
      have hsame : (window.next (.message session cix six)).sessions.player =
          window.sessions.player := by
        rw [hsessions]
        rfl
      refine hkept.of_put session (congrArg _ hsessions) hsame (fun _ => hstill) fun hplayer => ?_
      subst hplayer
      exact (messagePool_validate_suffix _ _ cix six).trans hstill
    · have hsessions : (window.next (.message session cix six)).sessions = window.sessions :=
        if_neg hactive
      refine .of_lookup ?_ hstill
      rw [hsessions]
      exact hkept.filed
  | reconnect session =>
    have hfiled := window.sessions.lookup_reconnection session session
    rw [if_pos rfl] at hfiled
    exact .of_lookup hfiled hstill
  | lost session => exact .of_lookup hkept.filed hstill
  | send session content =>
    have hother : window.sessions.player ≠ session →
        window.controller.messagePool <:+ (window.next (.send session content)).sent := by
      intro hplayer
      change _ <:+ window.sent ++ Window.handedOut window.sessions (.send session content)
      rw [Window.handedOut, if_neg hplayer.symm]
      exact hstill
    cases hlookup : window.sessions.cache.lookup session with
    | none =>
      have hsessions : (window.next (.send session content)).sessions = window.sessions := by
        simp only [Window.next, SessionStep.next, hlookup]
      have hplayer : window.sessions.player ≠ session := by
        rintro rfl
        rw [hkept.filed] at hlookup
        cases hlookup
      refine .of_lookup ?_ (hother hplayer)
      rw [hsessions]
      exact hkept.filed
    | some controller =>
      have hsessions : (window.next (.send session content)).sessions =
          window.sessions.put session
            (controller.sendMessage (window.sessions.isActive session) content).1 := by
        simp only [Window.next, SessionStep.next, hlookup]
      have hsame : (window.next (.send session content)).sessions.player =
          window.sessions.player := by
        rw [hsessions]
        rfl
      refine hkept.of_put session (congrArg _ hsessions) hsame hother fun hplayer => ?_
      subst hplayer
      rw [hkept.filed] at hlookup
      obtain rfl := Option.some.inj hlookup
      exact hkept.sendMessage content

/-- What is in the history after a step was there, or is sent in the step. -/
lemma mem_sent_next {step : SessionStep κ μ} {message : ServerMessage μ}
    (h : message ∈ (window.next step).sent) :
    message ∈ window.sent ∨ ∃ session, step = .send session message.content := by
  obtain h | h := List.mem_append.mp h
  · exact .inl h
  · cases step with
    | send session content =>
      right
      refine ⟨session, ?_⟩
      rw [Window.handedOut] at h
      split_ifs at h
      · rw [MessageController.sendMessage] at h
        split_ifs at h
        · rw [List.mem_singleton] at h
          rw [h]
          rfl
        · exact absurd h List.not_mem_nil
      · exact absurd h List.not_mem_nil
    | opened session => exact absurd h List.not_mem_nil
    | message session cix six => exact absurd h List.not_mem_nil
    | reconnect session => exact absurd h List.not_mem_nil
    | lost session => exact absurd h List.not_mem_nil

end Runs

/-- The step sends nothing, or an answer that is sendable. -/
def SendsAnswers (json : Json V) (step : SessionStep κ (Answer V)) : Prop :=
  ∀ session answer, step = .send session answer → Sendable json answer

/-- **After every run** of the sessions of a client, the pool has the answers that were sent last,
and they are sent again as they were if each of them is readable. -/
theorem resent_run (session : κ) (steps : List (SessionStep κ (Answer V)))
    (hsteps : ∀ step ∈ steps, SendsAnswers json step)
    (hreadable :
      ∀ message ∈ (Runs.run Window.next (Window.enterGame session) steps).controller.messagePool,
        Readable message.content) :
    (Runs.run Window.next (Window.enterGame session) steps).controller.messagePool <:+
        (Runs.run Window.next (Window.enterGame session) steps).sent ∧
      Resent json
        (Runs.run Window.next (Window.enterGame session) steps).controller.messagePool := by
  have hkept : PoolKept (Runs.run Window.next (Window.enterGame session) steps) :=
    Runs.forall_inv_run PoolKept (fun _ step h => h.next step) (poolKept_enterGame session) steps
  have hsent : ∀ (steps : List (SessionStep κ (Answer V))) (window : Window κ (Answer V)),
      (∀ step ∈ steps, SendsAnswers json step) →
      (∀ message ∈ window.sent, Sendable json message.content) →
      ∀ message ∈ (Runs.run Window.next window steps).sent, Sendable json message.content := by
    intro steps
    induction steps with
    | nil => exact fun window _ hwindow => hwindow
    | cons step steps ih =>
      intro window hsteps hwindow
      rw [List.forall_mem_cons] at hsteps
      refine ih (window.next step) hsteps.2 fun message hmem => ?_
      obtain hmem | ⟨session, hstep⟩ := mem_sent_next hmem
      · exact hwindow message hmem
      · exact hsteps.1 session message.content hstep
  have hall := hsent steps (Window.enterGame session) hsteps fun _ h => absurd h List.not_mem_nil
  exact ⟨hkept.pool,
    resent_of_readable (fun message hmem => hall message (hkept.pool.subset hmem)) hreadable⟩

/-! ## Two runs -/

/-- Values that are texts or numbers. -/
inductive PlainValue where
  | text (s : String)
  | int (i : Int32)
  deriving DecidableEq

/-- `{"co":"1"}` -/
def coOne : JsonMap PlainValue := (∅ : JsonMap PlainValue).insert "co" (.text "1")

/-- The bytes of it. -/
def coOneBytes : List UInt8 := [123, 34, 99, 111, 34, 58, 34, 49, 34, 125]

/-- fastjson, as far as this object goes, with four bytes in front of it or without. -/
def plainJson : Json PlainValue where
  ofString := .text
  ofInt := .int
  toString
    | .text s => s
    | .int i => String.ofList (Util.renderInt i)
  asMap _ := none
  digit := Util.asciiDigit
  toJSONString map := if map = coOne then coOneBytes else []
  parseObject bytes :=
    if bytes = coOneBytes ∨ passedOver (bytes.take 4) ∧ bytes.drop 4 = coOneBytes then
      .ok (some coOne)
    else .error .jsonException

/-- It is parsed and printed as assumed. -/
lemma lawful_coOne : plainJson.Lawful coOne where
  parse_print := by decide
  skipped bytes hlength hskipped := by
    refine if_pos (.inr ⟨?_, List.drop_left' hlength⟩)
    exact (congrArg _ (List.take_left' hlength)).trans hskipped

/-- The answer with the code `1` and a number, as a map. -/
def coOneMap (c : Int32) : JsonMap PlainValue :=
  ((∅ : JsonMap PlainValue).insert "co" (.text "1")).insert "c" (.int c)

lemma sendable_coOne_five : Sendable plainJson (.map false 5 coOne) := by
  refine ⟨.inr ⟨false, coOneMap 5, rfl⟩, fun compress c dmap heq => ?_⟩
  obtain ⟨-, -, rfl⟩ := Answer.map.inj heq
  exact lawful_coOne

/-- An answer as a map with a number of control characters is sent again. -/
theorem resent_five :
    Resent plainJson (Runs.run Window.next (Window.enterGame 0)
      [.send 0 (.map false 5 coOne)]).controller.messagePool := by
  refine (resent_run 0 [.send 0 (.map false 5 coOne)] ?_ ?_).2
  · intro step hstep session answer heq
    obtain rfl := List.mem_singleton.mp hstep
    obtain ⟨-, rfl⟩ := SessionStep.send.inj heq
    exact sendable_coOne_five
  · intro message hmem
    have hpool : (Runs.run Window.next (Window.enterGame 0)
        [.send 0 (Answer.map false 5 coOne)]).controller.messagePool =
        [⟨-1, 1, .map false 5 coOne⟩] := rfl
    rw [hpool, List.mem_singleton] at hmem
    rw [hmem]
    exact (show passedOver (intLE 5) = true by decide)

/-- **Not every answer**: of the answer with the number 101 the content goes on behind the flag with
the letter `e`. -/
theorem not_resent_hundredOne :
    ofMap plainJson false (coOneMap 101) = some (.map false 101 coOne) ∧
      plainJson.Lawful coOne ∧
      ¬Resent plainJson (Runs.run Window.next (Window.enterGame 0)
        [.send 0 (.map false 101 coOne)]).controller.messagePool := by
  refine ⟨rfl, lawful_coOne, ?_⟩
  rintro ⟨maps, hget, -⟩
  have hthrown : getAllServerMessage plainJson (Runs.run Window.next (Window.enterGame 0)
      [.send 0 (Answer.map false 101 coOne)]).controller.messagePool =
      .error .jsonException := by
    decide
  rw [hthrown] at hget
  cases hget

end SrgpGame.Context
