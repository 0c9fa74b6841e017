import SrgpGame.Lib.Machine
import SrgpGame.Gateway.Message
import SrgpGame.Gateway.MessageDecoder

set_option autoImplicit false

/-!
# Messages between gateway and game server as frames

A `ServerMessage` is written as a frame: its length, its type, the channel of its client, the ids of
the last messages, and its content. This file proves that the frames are read back as the messages,
however the stream of them is cut into chunks.

## Main definitions

* `ServerMessageEncoder.write` — writes a message.
* `ServerMessageDecoder` — reads it.
* `ServerMessage.received` — a message as it is received.

## Main results

* `decode_written` — a handshake and messages that are written are received in any chunks.

## Implementation notes

A content that is `null` is written like one without bytes, and received as such.
-/

namespace SrgpGame.Gateway

open ByteBuf

/-! ## Writing -/

/-- The bytes of the content. -/
def ServerMessage.bytes (message : ServerMessage) : List UInt8 := message.content.getD []

/-- `Message.getDataLength`. -/
def ServerMessage.getDataLength (message : ServerMessage) : ℕ := message.bytes.length

/-- A message as it is received: its content is not `null`. -/
def ServerMessage.received (message : ServerMessage) : ServerMessage :=
  { message with content := some message.bytes }

namespace ServerMessageEncoder

/-- The bytes of a message. -/
def encode (message : ServerMessage) : List UInt8 :=
  let len := Int32.ofNat message.getDataLength
  intLE (len + 13) ++ ([message.type.ordinal.toInt8.toUInt8] ++ (intLE message.forwardChannel ++
    (intLE message.lastClientMessageId ++ (intLE message.lastServerMessageId ++
      if 0 < len then message.bytes else []))))

/-- Allocates the buffer, which throws if its size is not an `int`, and writes the message. -/
def write (message : ServerMessage) : Except Failure (List UInt8) :=
  if message.getDataLength + 17 < 2 ^ 31 then .ok (encode message) else .error .illegalArgument

/-- Writes messages one after another. -/
def writeAll : List ServerMessage → Except Failure (List UInt8)
  | [] => .ok []
  | message :: messages => do return (← write message) ++ (← writeAll messages)

end ServerMessageEncoder

/-! ## Reading -/

namespace ServerMessageDecoder

def packageHeaderSize : ℕ := 8

/-- Reads one message. -/
def doDecode : Read ServerMessage := do
  let length ← readIntLE
  let messageType ← readByte
  let sessionId ← readIntLE
  let sId ← readIntLE
  let rId ← readIntLE
  let dataLength := length - 13
  let data ← (if 0 < dataLength then readBytes dataLength.toInt.toNat else pure [])
  -- a buffer of negative size cannot be allocated
  if dataLength < 0 then throw .illegalArgument
  return ⟨MessageType.get messageType.toInt32, sessionId, sId, rId, some data⟩

/-- A frame that is decoded takes some bytes. -/
lemma takes_doDecode : Takes 4 doDecode := by
  refine Takes.readIntLE.bind fun length => ?_
  refine Takes.readByte.zero.bind fun messageType => ?_
  refine Takes.readIntLE.zero.bind fun sessionId => ?_
  refine Takes.readIntLE.zero.bind fun sId => ?_
  refine Takes.readIntLE.zero.bind fun rId => ?_
  refine Takes.bind (.ite (.readBytes _) (.pure [])) fun data => ?_
  split
  · exact (Takes.throw _).bind fun _ => .pure _
  · exact .pure _

/-- The data of a frame are read behind its fixed fields. -/
lemma reads_data {message : ServerMessage} (hsize : message.getDataLength < 2 ^ 31) :
    Reads (if 0 < Int32.ofNat message.getDataLength then
        readBytes (Int32.ofNat message.getDataLength).toInt.toNat else pure [])
      (if 0 < Int32.ofNat message.getDataLength then message.bytes else []) message.bytes := by
  have hlen := Int32.toInt_ofNat_of_lt hsize
  by_cases hpos : 0 < Int32.ofNat message.getDataLength
  · rw [if_pos hpos, if_pos hpos]
    exact reads_readBytes (by rw [hlen, Int.toNat_natCast]; rfl)
  · have hnil : message.bytes = [] := by
      rw [Int32.lt_iff_toInt_lt, Int32.toInt_zero, hlen] at hpos
      exact List.eq_nil_of_length_eq_zero (by simpa [ServerMessage.getDataLength] using hpos)
    rw [if_neg hpos, if_neg hpos, hnil]
    exact Reads.pure []

/-- **A frame is read** as the message that was written. -/
theorem reads_encode {message : ServerMessage} (hsize : message.getDataLength < 2 ^ 31) :
    Reads doDecode (ServerMessageEncoder.encode message) message.received := by
  have htype : MessageType.get message.type.ordinal.toInt8.toUInt8.toInt8.toInt32 =
      message.type := by
    cases message.type <;> rfl
  have hneg : ¬Int32.ofNat message.getDataLength < 0 := by
    rw [Int32.lt_zero_iff, Int32.toInt_ofNat_of_lt hsize]
    omega
  refine (reads_readIntLE _).bind ?_
  refine (reads_readByte _).bind ?_
  refine (reads_readIntLE _).bind ?_
  refine (reads_readIntLE _).bind ?_
  refine (reads_readIntLE _).bind ?_
  rw [Int32.add_sub_cancel]
  intro rest
  dsimp only
  rw [EStateM.run_bind, reads_data hsize rest]
  dsimp only
  rw [if_neg hneg, htype]
  rfl

end ServerMessageDecoder

/-- The decoder of the messages between gateway and game server. -/
def ServerMessageDecoder : MessageDecoder ServerMessage where
  packageHeaderSize := ServerMessageDecoder.packageHeaderSize
  doDecode := ServerMessageDecoder.doDecode
  shrinks := ServerMessageDecoder.takes_doDecode.shrinks

/-! ## The stream of messages -/

section Stream

variable (malformed : List UInt8 → String)

/-- A message that is written is a unit of the stream. -/
lemma isUnit_encode {message : ServerMessage} (hsize : message.getDataLength + 17 < 2 ^ 31) :
    Incremental.IsUnit (ServerMessageDecoder.parse malformed) Event.emitted true true
      (ServerMessageEncoder.encode message) [.message message.received] := by
  have hlen : (Int32.ofNat message.getDataLength).toInt = message.getDataLength :=
    Int32.toInt_ofNat_of_lt (by omega)
  have hthirteen : (13 : Int32).toInt = 13 := rfl
  have hlength : (Int32.ofNat message.getDataLength + 13).toInt = message.getDataLength + 13 := by
    rw [Int32.toInt_add_of_fits (by omega) (by omega), hlen, hthirteen]
  have hdata : (if 0 < Int32.ofNat message.getDataLength then message.bytes else []).length =
      message.getDataLength := by
    split
    · rfl
    · next hpos =>
      rw [Int32.lt_iff_toInt_lt, Int32.toInt_zero, hlen] at hpos
      simp only [List.length_nil]
      omega
  have hreads : Reads ServerMessageDecoder.doDecode (ServerMessageEncoder.encode message)
      message.received := ServerMessageDecoder.reads_encode (by omega)
  refine MessageDecoder.isUnit_frame ?_ ?_ ?_ ?_ hreads
  · change 4 ≤ 8
    decide
  · simp only [List.length_append, length_intLE, hdata, List.length_singleton]
    rw [hlength]
    push_cast
    omega
  · simp
  · change 8 ≤ _
    simp only [List.length_append, length_intLE, hdata, List.length_singleton]
    omega

/-- Messages that are written are units of the stream. -/
lemma units_writeAll {messages : List ServerMessage} {stream : List UInt8}
    (hstream : ServerMessageEncoder.writeAll messages = .ok stream) :
    ∃ us, us.flatten = stream ∧ Incremental.Units (ServerMessageDecoder.parse malformed)
      Event.emitted true us (messages.map fun message => .message message.received) := by
  induction messages generalizing stream with
  | nil =>
    obtain rfl := Except.ok.inj hstream
    exact ⟨[], rfl, .nil true⟩
  | cons message messages ih =>
    obtain ⟨bytes, hwrite, hrest⟩ := Except.bind_eq_ok.mp hstream
    obtain ⟨stream', hwriteAll, hpure⟩ := Except.bind_eq_ok.mp hrest
    obtain rfl := Except.ok.inj hpure
    obtain ⟨us, rfl, hunits⟩ := ih hwriteAll
    rw [ServerMessageEncoder.write] at hwrite
    split at hwrite
    · next hsize =>
      obtain rfl := Except.ok.inj hwrite
      exact ⟨ServerMessageEncoder.encode message :: us, rfl,
        .cons (isUnit_encode malformed hsize) hunits⟩
    · cases hwrite

/-- **Messages are received as they were written**, behind a handshake, whatever the chunks in which
they arrive. -/
theorem decode_written {name : List UInt8} (hname : name.length < 2 ^ 31)
    {messages : List ServerMessage} {stream : List UInt8}
    (hstream : ServerMessageEncoder.writeAll messages = .ok stream) {chunks : List (List UInt8)}
    (hchunks : chunks.flatten = MessageDecoder.handshake name ++ stream) :
    (ServerMessageDecoder.run malformed chunks).2.flatMap Event.emitted =
      .handshake (Utf8.decode malformed name) ::
        messages.map fun message => .message message.received := by
  obtain ⟨us, rfl, hunits⟩ := units_writeAll malformed hstream
  have hhandshake : Incremental.IsUnit (ServerMessageDecoder.parse malformed) Event.emitted false
      true (MessageDecoder.handshake name) [.handshake (Utf8.decode malformed name)] :=
    MessageDecoder.isUnit_handshake hname
  rw [MessageDecoder.run, MessageDecoder.channelRead_eq_feed (by decide)]
  exact ((Incremental.Units.cons hhandshake hunits).run_feed
    (MessageDecoder.parse_nil (by decide)) hchunks).1

/-- Two messages, the second without content. -/
def twoMessages : List ServerMessage :=
  [⟨.Open, 7, 0, 0, some [49, 50]⟩, ⟨.Message, 7, 1, 2, none⟩]

/-- They are received when every byte arrives alone. -/
theorem decode_twoMessages :
    (ServerMessageDecoder.run (fun _ => "") ((MessageDecoder.handshake [103, 49] ++
        twoMessages.flatMap ServerMessageEncoder.encode).map fun byte => [byte])).2.flatMap
      Event.emitted =
      [.handshake (Utf8.decode (fun _ => "") [103, 49]), .message ⟨.Open, 7, 0, 0, some [49, 50]⟩,
        .message ⟨.Message, 7, 1, 2, some []⟩] :=
  decode_written (fun _ => "") (by decide) (rfl : ServerMessageEncoder.writeAll twoMessages = _)
    (by decide)

end Stream

end SrgpGame.Gateway
