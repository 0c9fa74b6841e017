import SrgpGame.Lib.Incremental
import SrgpGame.Lib.Utf8
import SrgpGame.Gateway.ByteBuf

set_option autoImplicit false

/-!
# The message decoder

A connection of the gateway begins with a handshake, the name of a server behind its length. Then
come frames, each behind its length. The decoder is called with whatever has arrived, and keeps what
it cannot decode yet.

## Main definitions

* `MessageDecoder` — what the subclasses of `MessageDecoder` supply.
* `doHandshake`, `decodable`, `decode` — the methods of `MessageDecoder`.
* `callDecode`, `channelRead` — how `ByteToMessageDecoder` calls `decode`.
* `parse` — the same as an incremental parser.

## Main results

* `channelRead_eq_feed` — reading from the channel is feeding the incremental parser.

## Design notes

What a call does is recorded in events: the handshake, and each frame with the bytes that were
readable before and after it. An exception ends a call; the events before it are emitted all the
same, and later calls go on with the bytes that are left. When the connection is closed there is one
more call, without new bytes. The bytes of a handshake that is not valid UTF-8 become an unspecified
string, `malformed`.
-/

namespace SrgpGame.Gateway

open ByteBuf

variable {μ : Type}

/-- What a subclass of `MessageDecoder` supplies. -/
structure MessageDecoder (μ : Type) where
  /-- A frame is not looked at before as many bytes have arrived. -/
  packageHeaderSize : ℕ
  /-- Decodes a frame. -/
  doDecode : Read μ
  /-- A frame that is decoded takes some bytes. -/
  shrinks : ∀ {buffer message rest}, doDecode.run buffer = .ok message rest →
    rest.length < buffer.length

/-! ## Events -/

/-- A frame that was decoded, or threw. -/
structure Frame (μ : Type) where
  /-- The bytes that were readable before. -/
  readable : List UInt8
  /-- The bytes that are left. -/
  rest : List UInt8
  result : Except Failure μ

/-- What happens in a call of `decode`. -/
inductive Event (μ : Type) where
  | handshake (id : String)
  /-- The handshake threw. -/
  | refused (failure : Failure)
  | frame (frame : Frame μ)

/-- What the decoder passes on. -/
inductive Decoded (μ : Type) where
  | handshake (id : String)
  | message (message : μ)
  deriving DecidableEq, Repr

/-- What is passed on of an event. -/
def Event.emitted : Event μ → List (Decoded μ)
  | .handshake id => [.handshake id]
  | .refused _ => []
  | .frame ⟨_, _, .ok message⟩ => [.message message]
  | .frame ⟨_, _, .error _⟩ => []

/-- What a call of `decode` leaves, and what happened. -/
structure Decoding (μ : Type) where
  /-- Whether the handshake is done. -/
  handshake : Bool
  /-- The bytes that are left. -/
  rest : List UInt8
  events : List (Event μ)
  threw : Bool

/-! ## The handshake -/

/-- `ByteBuf.readCharSequence`, for UTF-8. -/
def readCharSequence (malformed : List UInt8 → String) (length : Int32) : Read String := do
  if length < 0 then throw .indexOutOfBounds
  return Utf8.decode malformed (← readBytes length.toInt.toNat)

/-- Reads the handshake, `none` if it has not arrived. -/
def doHandshake (malformed : List UInt8 → String) : Read (Option String) := do
  let position ← get
  if position.length < 4 then return none
  let length ← readIntLE
  if ((← get).length : ℤ) < length.toInt then
    set position
    return none
  return some (← readCharSequence malformed length)

/-! ## Frames -/

namespace MessageDecoder

/-- Whether a frame has arrived. -/
def decodable (decoder : MessageDecoder μ) (buffer : List UInt8) : Bool :=
  if buffer.length < decoder.packageHeaderSize then false
  else
    let length := ofIntLE (buffer.take 4)
    !(decide (length ≤ 0) || decide (((buffer.drop 4).length : ℤ) < length.toInt))

/-- The loop over the frames that have arrived, in at most `fuel` rounds. -/
def decodeFrames (decoder : MessageDecoder μ) : ℕ → List UInt8 → Decoding μ
  | 0, buffer => ⟨true, buffer, [], false⟩
  | fuel + 1, buffer =>
    if decoder.decodable buffer then
      match decoder.doDecode.run buffer with
      | .ok message rest =>
        let decoding := decodeFrames decoder fuel rest
        { decoding with events := .frame ⟨buffer, rest, .ok message⟩ :: decoding.events }
      | .error failure rest => ⟨true, rest, [.frame ⟨buffer, rest, .error failure⟩], true⟩
    else ⟨true, buffer, [], false⟩

/-- `MessageDecoder.decode`: the handshake, if it is not done, and the frames. -/
def decode (decoder : MessageDecoder μ) (malformed : List UInt8 → String) (handshake : Bool)
    (buffer : List UInt8) : Decoding μ :=
  if handshake then decoder.decodeFrames buffer.length buffer
  else
    match (doHandshake malformed).run buffer with
    | .error failure rest => ⟨false, rest, [.refused failure], true⟩
    | .ok none rest => ⟨false, rest, [], false⟩
    | .ok (some id) rest =>
      let decoding := decoder.decodeFrames rest.length rest
      { decoding with events := .handshake id :: decoding.events }

/-- `ByteToMessageDecoder.callDecode`: calls `decode` as long as there are bytes and it takes
some. -/
def callDecode (decoder : MessageDecoder μ) (malformed : List UInt8 → String) :
    ℕ → Bool × List UInt8 → (Bool × List UInt8) × List (Event μ)
  | 0, state => (state, [])
  | fuel + 1, (handshake, buffer) =>
    if buffer.isEmpty then ((handshake, buffer), [])
    else
      let decoding := decoder.decode malformed handshake buffer
      if decoding.threw ∨ decoding.rest.length = buffer.length then
        ((decoding.handshake, decoding.rest), decoding.events)
      else
        let (state, events) :=
          callDecode decoder malformed fuel (decoding.handshake, decoding.rest)
        (state, decoding.events ++ events)

/-- `ByteToMessageDecoder.channelRead`: a chunk arrives. The state is whether the handshake is done,
and the bytes that are kept. -/
def channelRead (decoder : MessageDecoder μ) (malformed : List UInt8 → String)
    (state : Bool × List UInt8) (chunk : List UInt8) : (Bool × List UInt8) × List (Event μ) :=
  decoder.callDecode malformed ((state.2 ++ chunk).length + 1) (state.1, state.2 ++ chunk)

/-- What happens when the chunks of a stream arrive on a new connection. -/
def run (decoder : MessageDecoder μ) (malformed : List UInt8 → String)
    (chunks : List (List UInt8)) : (Bool × List UInt8) × List (Event μ) :=
  Transducer.run (decoder.channelRead malformed) (false, []) chunks

/-! ## The incremental parser -/

/-- One step of decoding: the handshake, or a frame. -/
def parse (decoder : MessageDecoder μ) (malformed : List UInt8 → String) :
    Bool → List UInt8 → Progress Bool UInt8 (Event μ)
  | false, buffer =>
    match (doHandshake malformed).run buffer with
    | .error failure rest => .stop false rest [.refused failure]
    | .ok none _ => .wait
    | .ok (some id) rest => .step true rest [.handshake id]
  | true, buffer =>
    if decoder.decodable buffer then
      match decoder.doDecode.run buffer with
      | .ok message rest => .step true rest [.frame ⟨buffer, rest, .ok message⟩]
      | .error failure rest => .stop true rest [.frame ⟨buffer, rest, .error failure⟩]
    else .wait

end MessageDecoder

/-- A string is read from as many bytes as there are. -/
lemma run_readCharSequence (malformed : List UInt8 → String) {length : Int32} {buffer : List UInt8}
    (hlength : length.toInt ≤ buffer.length) :
    (readCharSequence malformed length).run buffer =
      if length < 0 then .error .indexOutOfBounds buffer
      else .ok (Utf8.decode malformed (buffer.take length.toInt.toNat))
        (buffer.drop length.toInt.toNat) := by
  have hread : (readBytes length.toInt.toNat).run buffer =
      .ok (buffer.take length.toInt.toNat) (buffer.drop length.toInt.toNat) :=
    run_readBytes_of_le (by omega)
  by_cases hneg : length < 0
  · rw [if_pos hneg, readCharSequence, if_pos hneg]
    rfl
  · rw [if_neg hneg, readCharSequence, if_neg hneg, EStateM.run_bind, hread]
    rfl

/-- What the handshake finds. -/
lemma run_doHandshake (malformed : List UInt8 → String) (buffer : List UInt8) :
    (doHandshake malformed).run buffer =
      if buffer.length < 4 then .ok none buffer
      else if ((buffer.drop 4).length : ℤ) < (ofIntLE (buffer.take 4)).toInt then .ok none buffer
      else if ofIntLE (buffer.take 4) < 0 then .error .indexOutOfBounds (buffer.drop 4)
      else .ok (some (Utf8.decode malformed
          ((buffer.drop 4).take (ofIntLE (buffer.take 4)).toInt.toNat)))
        ((buffer.drop 4).drop (ofIntLE (buffer.take 4)).toInt.toNat) := by
  by_cases hlength : buffer.length < 4
  · simp [doHandshake, hlength]
  · have hint := run_readIntLE_of_le (not_lt.mp hlength)
    rw [if_neg hlength]
    by_cases hrest : ((buffer.drop 4).length : ℤ) < (ofIntLE (buffer.take 4)).toInt
    · rw [if_pos hrest]
      simp only [doHandshake, EStateM.run_bind, EStateM.run_get, hlength, if_false, hint, hrest,
        if_true]
      rfl
    · have hread := run_readCharSequence malformed (not_lt.mp hrest)
      rw [if_neg hrest]
      simp only [doHandshake, EStateM.run_bind, EStateM.run_get, hlength, if_false, hint, hrest,
        hread]
      by_cases hneg : ofIntLE (buffer.take 4) < 0
      · rw [if_pos hneg, if_pos hneg]
      · rw [if_neg hneg, if_neg hneg]
        rfl

/-- A handshake that has not arrived leaves the bytes. -/
lemma rest_of_doHandshake_none {malformed : List UInt8 → String} {buffer rest : List UInt8}
    (h : (doHandshake malformed).run buffer = .ok none rest) : rest = buffer := by
  rw [run_doHandshake] at h
  split at h
  · cases h
    rfl
  · split at h
    · cases h
      rfl
    · split at h
      · cases h
      · cases h

/-- A handshake takes some bytes. -/
lemma length_of_doHandshake_some {malformed : List UInt8 → String} {buffer rest : List UInt8}
    {id : String} (h : (doHandshake malformed).run buffer = .ok (some id) rest) :
    rest.length < buffer.length := by
  rw [run_doHandshake] at h
  split at h
  · cases h
  · split at h
    · cases h
    · split at h
      · cases h
      · cases h
        rw [List.length_drop, List.length_drop]
        omega

section Parse

variable {decoder : MessageDecoder μ} {malformed : List UInt8 → String}

namespace MessageDecoder

/-- Nothing is parsed from no bytes. -/
lemma parse_nil (hsize : 0 < decoder.packageHeaderSize) (handshake : Bool) :
    decoder.parse malformed handshake [] = .wait := by
  cases handshake with
  | false =>
    have hrun : (doHandshake malformed).run [] = .ok none [] := by
      rw [run_doHandshake]
      rfl
    rw [parse, hrun]
  | true =>
    have hdecodable : decoder.decodable [] = false := if_pos hsize
    rw [parse, hdecodable, if_neg Bool.false_ne_true]

/-- A step of parsing takes some bytes. -/
lemma parse_shrinks {handshake : Bool} {buffer : List UInt8} {state : Bool} {rest : List UInt8}
    {out : List (Event μ)} (h : decoder.parse malformed handshake buffer = .step state rest out) :
    rest.length < buffer.length := by
  cases handshake with
  | false =>
    rw [parse] at h
    split at h
    · cases h
    · cases h
    · next hrun =>
      cases h
      exact length_of_doHandshake_some hrun
  | true =>
    rw [parse] at h
    split at h
    · split at h
      · next hrun =>
        cases h
        exact decoder.shrinks hrun
      · cases h
    · cases h

/-- The loop over the frames parses them one by one. -/
lemma drain_true (fuel : ℕ) (buffer : List UInt8) :
    Incremental.drain (decoder.parse malformed) fuel true buffer =
      (((decoder.decodeFrames fuel buffer).handshake, (decoder.decodeFrames fuel buffer).rest),
        (decoder.decodeFrames fuel buffer).events) := by
  induction fuel generalizing buffer with
  | zero => rfl
  | succ fuel ih =>
    rw [Incremental.drain, decodeFrames, parse]
    by_cases hdecodable : decoder.decodable buffer
    · rw [if_pos hdecodable, if_pos hdecodable]
      cases decoder.doDecode.run buffer with
      | ok message rest =>
        dsimp only
        rw [ih]
        rfl
      | error failure rest => rfl
    · rw [if_neg hdecodable, if_neg hdecodable]

lemma handshake_decodeFrames (fuel : ℕ) (buffer : List UInt8) :
    (decoder.decodeFrames fuel buffer).handshake = true := by
  induction fuel generalizing buffer with
  | zero => rfl
  | succ fuel ih =>
    rw [decodeFrames]
    split
    · split
      · exact ih _
      · rfl
    · rfl

/-- After the loop there is no frame left, unless it threw. -/
lemma decodeFrames_done {fuel : ℕ} {buffer : List UInt8} (hfuel : buffer.length ≤ fuel)
    (hsize : 0 < decoder.packageHeaderSize)
    (hthrew : (decoder.decodeFrames fuel buffer).threw = false) :
    decoder.decodable (decoder.decodeFrames fuel buffer).rest = false := by
  induction fuel generalizing buffer with
  | zero =>
    obtain rfl := List.eq_nil_of_length_eq_zero (Nat.le_zero.mp hfuel)
    exact if_pos hsize
  | succ fuel ih =>
    rw [decodeFrames] at hthrew ⊢
    by_cases hdecodable : decoder.decodable buffer
    · rw [if_pos hdecodable] at hthrew ⊢
      cases hrun : decoder.doDecode.run buffer with
      | ok message rest =>
        rw [hrun] at hthrew
        have hrest := decoder.shrinks hrun
        exact ih (by omega) hthrew
      | error failure rest =>
        rw [hrun] at hthrew
        cases hthrew
    · rw [if_neg hdecodable]
      exact Bool.eq_false_of_not_eq_true hdecodable

/-- A call of `decode` parses as much as there is. -/
lemma drain_eq_decode (hsize : 0 < decoder.packageHeaderSize) (handshake : Bool)
    (buffer : List UInt8) :
    Incremental.drain (decoder.parse malformed) buffer.length handshake buffer =
      (((decoder.decode malformed handshake buffer).handshake,
          (decoder.decode malformed handshake buffer).rest),
        (decoder.decode malformed handshake buffer).events) := by
  cases handshake with
  | true => exact drain_true _ _
  | false =>
    cases buffer with
    | nil =>
      rw [decode, if_neg Bool.false_ne_true, run_doHandshake]
      rfl
    | cons byte bytes =>
      rw [List.length_cons, Incremental.drain, decode, if_neg Bool.false_ne_true, parse]
      cases hrun : (doHandshake malformed).run (byte :: bytes) with
      | error failure rest => rfl
      | ok id rest =>
        cases id with
        | none =>
          rw [rest_of_doHandshake_none hrun]
        | some id =>
          have hrest := length_of_doHandshake_some hrun
          rw [List.length_cons] at hrest
          have hdrain : Incremental.drain (decoder.parse malformed) bytes.length true rest =
              Incremental.drain (decoder.parse malformed) rest.length true rest :=
            Incremental.drain_of_le (parse_nil hsize) (fun _ _ _ _ _ h => parse_shrinks h)
              (Nat.le_of_lt_succ hrest)
          dsimp only
          rw [hdrain, drain_true]
          rfl

/-- After a call of `decode` that did not throw, there is nothing to parse. -/
lemma parse_decode (hsize : 0 < decoder.packageHeaderSize) {handshake : Bool}
    {buffer : List UInt8} (hthrew : (decoder.decode malformed handshake buffer).threw = false) :
    decoder.parse malformed (decoder.decode malformed handshake buffer).handshake
      (decoder.decode malformed handshake buffer).rest = .wait := by
  have hframes : ∀ rest, (decoder.decodeFrames rest.length rest).threw = false →
      decoder.parse malformed (decoder.decodeFrames rest.length rest).handshake
        (decoder.decodeFrames rest.length rest).rest = .wait := by
    intro rest hthrew
    have hdone := decodeFrames_done le_rfl hsize hthrew
    rw [handshake_decodeFrames, parse, hdone, if_neg Bool.false_ne_true]
  rw [decode] at hthrew ⊢
  cases handshake with
  | true => exact hframes buffer hthrew
  | false =>
    rw [if_neg Bool.false_ne_true] at hthrew ⊢
    cases hrun : (doHandshake malformed).run buffer with
    | error failure rest =>
      rw [hrun] at hthrew
      cases hthrew
    | ok id rest =>
      rw [hrun] at hthrew
      cases id with
      | none =>
        obtain rfl := rest_of_doHandshake_none hrun
        dsimp only
        rw [parse, hrun]
      | some id => exact hframes rest hthrew

/-- Where there is nothing to parse, `decode` does nothing. -/
lemma decode_of_wait {handshake : Bool} {buffer : List UInt8}
    (h : decoder.parse malformed handshake buffer = .wait) :
    decoder.decode malformed handshake buffer = ⟨handshake, buffer, [], false⟩ := by
  cases handshake with
  | false =>
    rw [parse] at h
    rw [decode, if_neg Bool.false_ne_true]
    cases hrun : (doHandshake malformed).run buffer with
    | error failure rest =>
      rw [hrun] at h
      cases h
    | ok id rest =>
      cases id with
      | none => rw [rest_of_doHandshake_none hrun]
      | some id =>
        rw [hrun] at h
        cases h
  | true =>
    rw [parse] at h
    rw [decode, if_pos rfl]
    cases buffer with
    | nil => rfl
    | cons byte bytes =>
      rw [List.length_cons, decodeFrames]
      by_cases hdecodable : decoder.decodable (byte :: bytes)
      · rw [if_pos hdecodable] at h
        split at h
        · cases h
        · cases h
      · rw [if_neg hdecodable]

/-- **The calls of `decode` parse as much as there is**, in as many rounds as there may be. -/
lemma callDecode_eq_drain (hsize : 0 < decoder.packageHeaderSize) (fuel : ℕ) (handshake : Bool)
    (buffer : List UInt8) :
    decoder.callDecode malformed (fuel + 1) (handshake, buffer) =
      Incremental.drain (decoder.parse malformed) buffer.length handshake buffer := by
  rw [drain_eq_decode hsize, callDecode]
  by_cases hempty : buffer.isEmpty
  · obtain rfl := List.isEmpty_iff.mp hempty
    rw [if_pos hempty, decode_of_wait (parse_nil hsize handshake)]
  · rw [if_neg hempty]
    dsimp only
    by_cases hlast : (decoder.decode malformed handshake buffer).threw ∨
        (decoder.decode malformed handshake buffer).rest.length = buffer.length
    · rw [if_pos hlast]
    · have hthrew : (decoder.decode malformed handshake buffer).threw = false :=
        Bool.eq_false_of_not_eq_true fun h => hlast (.inl h)
      -- another round finds nothing to parse
      have hround : decoder.callDecode malformed fuel
          ((decoder.decode malformed handshake buffer).handshake,
            (decoder.decode malformed handshake buffer).rest) =
          (((decoder.decode malformed handshake buffer).handshake,
            (decoder.decode malformed handshake buffer).rest), []) := by
        cases fuel with
        | zero => rfl
        | succ fuel =>
          rw [callDecode, decode_of_wait (parse_decode hsize hthrew)]
          simp
      rw [if_neg hlast, hround, List.append_nil]

/-- **Reading from the channel feeds the incremental parser.** -/
theorem channelRead_eq_feed (hsize : 0 < decoder.packageHeaderSize) :
    decoder.channelRead malformed = Incremental.feed (decoder.parse malformed) := by
  funext state chunk
  exact callDecode_eq_drain hsize _ state.1 (state.2 ++ chunk)

/-! ## Units of the stream -/

/-- The handshake with a name. -/
def handshake (name : List UInt8) : List UInt8 := intLE (Int32.ofNat name.length) ++ name

/-- **The handshake is a unit** of the stream. -/
lemma isUnit_handshake {name : List UInt8} (hname : name.length < 2 ^ 31) :
    Incremental.IsUnit (decoder.parse malformed) Event.emitted false true (handshake name)
      [.handshake (Utf8.decode malformed name)] := by
  have hlen := Int32.toInt_ofNat_of_lt hname
  have hneg : ¬Int32.ofNat name.length < 0 := by
    rw [Int32.lt_iff_toInt_lt, Int32.toInt_zero, hlen]
    omega
  refine ⟨?_, fun p hbegins hne => ?_, fun rest => ?_⟩
  · rw [handshake]
    exact List.append_ne_nil_of_left_ne_nil (List.ne_nil_of_length_eq_add_one (length_intLE _)) _
  · have hrun : (doHandshake malformed).run p = .ok none p := by
      rw [run_doHandshake]
      by_cases hlength : p.length < 4
      · rw [if_pos hlength]
      · obtain ⟨htake, hdrop⟩ := take_drop_of_prefix hbegins (not_lt.mp hlength)
        have hlt : (p.drop 4).length < name.length := by
          refine lt_of_le_of_ne hdrop.length_le fun heq => hne ?_
          rw [← List.take_append_drop 4 p, htake, hdrop.eq_of_length heq, handshake]
        rw [if_neg hlength, htake, ofIntLE_intLE, hlen, if_pos (by exact_mod_cast hlt)]
    rw [parse, hrun]
  · have hrun : (doHandshake malformed).run (handshake name ++ rest) =
        .ok (some (Utf8.decode malformed name)) rest := by
      have hlength : ¬(handshake name ++ rest).length < 4 := by
        rw [handshake, List.length_append, List.length_append, length_intLE]
        omega
      have htake : (handshake name ++ rest).take 4 = intLE (Int32.ofNat name.length) := by
        rw [handshake, List.append_assoc, List.take_left' (length_intLE _)]
      have hdrop : (handshake name ++ rest).drop 4 = name ++ rest := by
        rw [handshake, List.append_assoc, List.drop_left' (length_intLE _)]
      rw [run_doHandshake, if_neg hlength, htake, hdrop, ofIntLE_intLE, hlen, if_neg hneg,
        Int.toNat_natCast, List.take_left, List.drop_left, if_neg]
      rw [List.length_append]
      push_cast
      omega
    exact ⟨_, by rw [parse, hrun], rfl⟩

/-- When a frame has arrived. -/
lemma decodable_iff {buffer : List UInt8} :
    decoder.decodable buffer = true ↔ decoder.packageHeaderSize ≤ buffer.length ∧
      0 < (ofIntLE (buffer.take 4)).toInt ∧
      (ofIntLE (buffer.take 4)).toInt ≤ (buffer.drop 4).length := by
  rw [decodable]
  by_cases hheader : buffer.length < decoder.packageHeaderSize
  · simp [hheader]
  · simp [hheader, Int32.le_iff_toInt_le, not_lt.mp hheader]

/-- **A frame is a unit** of the stream, if the decoder reads it as a message. -/
lemma isUnit_frame (hheader : 4 ≤ decoder.packageHeaderSize) {length : Int32} {body : List UInt8}
    {message : μ} (hlength : length.toInt = body.length) (hpos : 0 < body.length)
    (hsize : decoder.packageHeaderSize ≤ 4 + body.length)
    (hreads : Reads decoder.doDecode (intLE length ++ body) message) :
    Incremental.IsUnit (decoder.parse malformed) Event.emitted true true (intLE length ++ body)
      [.message message] := by
  refine ⟨?_, fun p hbegins hne => ?_, fun rest => ?_⟩
  · exact List.append_ne_nil_of_left_ne_nil (List.ne_nil_of_length_eq_add_one (length_intLE _)) _
  · have hdecodable : ¬decoder.decodable p = true := by
      rw [decodable_iff]
      rintro ⟨hheader', -, hlong⟩
      obtain ⟨htake, hdrop⟩ := take_drop_of_prefix hbegins (hheader.trans hheader')
      rw [htake, ofIntLE_intLE, hlength] at hlong
      have heq : (p.drop 4).length = body.length :=
        le_antisymm hdrop.length_le (by exact_mod_cast hlong)
      apply hne
      rw [← List.take_append_drop 4 p, htake, hdrop.eq_of_length heq]
    rw [parse, if_neg hdecodable]
  · have hdecodable : decoder.decodable (intLE length ++ body ++ rest) = true := by
      rw [decodable_iff, List.append_assoc, List.take_left' (length_intLE _),
        List.drop_left' (length_intLE _), ofIntLE_intLE, hlength, List.length_append,
        List.length_append, length_intLE]
      refine ⟨by omega, by omega, ?_⟩
      push_cast
      omega
    have hrun := hreads rest
    refine ⟨[.frame ⟨intLE length ++ body ++ rest, rest, .ok message⟩], ?_, rfl⟩
    rw [parse, if_pos hdecodable, hrun]

end MessageDecoder

end Parse

end SrgpGame.Gateway
