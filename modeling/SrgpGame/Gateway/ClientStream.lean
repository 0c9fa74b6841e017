import SrgpGame.Lib.Machine
import SrgpGame.Gateway.ClientCodec

set_option autoImplicit false

/-!
# Messages to the clients as frames

A message for a client holds the ids of the last messages, a flag that says whether its data is
compressed, and the data. It is written as a frame, and long data that is not compressed is
compressed first. This file proves that the decoder of the clients' frames reads the messages back,
however the stream of them is cut into chunks.

## Main definitions

* `ClientMessageEncoder.encode`, `ClientMessageEncoder.write` — write a message.
* `Message.received` — a message as it is received.

## Main results

* `decode_clientWritten` — a handshake and messages that are written are received in any chunks,
  and nothing is left.

## Implementation notes

Compression is a parameter like decompression: the zlib or the custom format, and the bytes.
-/

namespace SrgpGame.Gateway

open ByteBuf

/-! ## The content of a message -/

namespace Message

def lastClientMessageId (message : Message) : Int32 := ofIntLE (message.content.take 4)

def lastServerMessageId (message : Message) : Int32 := ofIntLE ((message.content.drop 4).take 4)

/-- Whether the data is compressed. -/
def compressed (message : Message) : Bool := ((message.content.drop 8).headD 0).toInt8 ≠ 0

/-- The payload. -/
def data (message : Message) : List UInt8 := message.content.drop 9

/-- **A message as it is received**: with its ids and its payload, or the decompression of it if it
was compressed already. -/
def received (decompress : Bool → List UInt8 → Except Failure (List UInt8)) (zipOrCustom : Bool)
    (message : Message) : Message where
  content :=
    intLE message.lastClientMessageId ++ intLE message.lastServerMessageId ++
      if message.compressed then (decompress zipOrCustom message.data).toOption.getD []
      else message.data

/-- What is compressed already has a decompression, which fits into a message. -/
def Decompresses (decompress : Bool → List UInt8 → Except Failure (List UInt8))
    (zipOrCustom : Bool) (message : Message) : Prop :=
  message.compressed = true →
    ∃ data, decompress zipOrCustom message.data = .ok data ∧ data.length + 8 < 2 ^ 31

end Message

/-! ## Writing -/

namespace ClientMessageEncoder

variable (compress : Bool → List UInt8 → Except Failure (List UInt8)) (zipOrGzip : Bool)

/-- `Message.getDataLength`. -/
def getDataLength : Read ℕ := do
  return (← get).length

/-- `Message.rawBytes`. -/
def rawBytes : Read (List UInt8) := do
  readBytes (← getDataLength)

/-- The data to write, and whether it is compressed: long data that is not compressed yet is. -/
def payload (compressed : Bool) : Read (Bool × List UInt8) := do
  if !compressed && decide (100000 ≤ (← getDataLength)) then
    match compress zipOrGzip (← rawBytes) with
    | .error failure => throw failure
    | .ok data => return (true, data)
  else return (compressed, ← rawBytes)

/-- The frame of some data: its length, two flags, and the data. -/
def frame (compressed : Bool) (data : List UInt8) : List UInt8 :=
  intLE (Int32.ofNat data.length + 2) ++ ([0] ++ ([if compressed then 1 else 0] ++ data))

/-- **`encode`**, on the content of the message. The sizes of the buffers are `int`s. -/
def encode : Read (List UInt8) := do
  let lastClientMessageId ← readIntLE
  let lastServerMessageId ← readIntLE
  let compressed ← readBoolean
  let (compressed, data) ← payload compress zipOrGzip compressed
  if 2 ^ 31 ≤ data.length + 8 then throw .illegalArgument
  else
    let data := intLE lastClientMessageId ++ (intLE lastServerMessageId ++ data)
    if 2 ^ 31 ≤ data.length + 6 then throw .indexOutOfBounds
    else return frame compressed data

/-- `allocateBuffer` and `encode`. -/
def write (message : Message) : Except Failure (List UInt8) :=
  if 2 ^ 31 ≤ message.content.length + 6 then .error .illegalArgument
  else
    match (encode compress zipOrGzip).run message.content with
    | .ok bytes _ => .ok bytes
    | .error failure _ => .error failure

/-- Writes messages one after another. -/
def writeAll : List Message → Except Failure (List UInt8)
  | [] => .ok []
  | message :: messages => do return (← write compress zipOrGzip message) ++ (← writeAll messages)

/-! ## What is written -/

variable {compress} {zipOrGzip}

/-- The data that is left is all taken. -/
lemma run_rawBytes (buffer : List UInt8) : rawBytes.run buffer = .ok buffer [] := by
  have hread := run_readBytes_of_le (le_refl buffer.length)
  rw [List.take_length, List.drop_length] at hread
  exact hread

/-- **What becomes of the data**: it is written as it is, or compressed. -/
lemma run_payload_eq_ok {compressed flag : Bool} {buffer data rest : List UInt8}
    (h : (payload compress zipOrGzip compressed).run buffer = .ok (flag, data) rest) :
    (flag = compressed ∧ data = buffer) ∨
      (compressed = false ∧ flag = true ∧ compress zipOrGzip buffer = .ok data) := by
  rw [payload] at h
  obtain ⟨length, buffer', hlength, hrest⟩ := EStateM.run_bind_eq_ok.mp h
  cases hlength
  split at hrest
  · next hlong =>
    obtain ⟨needZip, buffer'', hraw, hzip⟩ := EStateM.run_bind_eq_ok.mp hrest
    rw [run_rawBytes] at hraw
    cases hraw
    right
    split at hzip
    · cases hzip
    · next hcompress =>
      cases hzip
      exact ⟨by simpa using (Bool.and_eq_true_iff.mp hlong).1, rfl, hcompress⟩
  · obtain ⟨raw, buffer'', hraw, hpure⟩ := EStateM.run_bind_eq_ok.mp hrest
    rw [run_rawBytes] at hraw
    cases hraw
    cases hpure
    exact .inl ⟨rfl, rfl⟩

/-- **What is written of a message**: a frame with its ids, and its payload as it is or
compressed. -/
lemma write_eq_ok {message : Message} {bytes : List UInt8}
    (h : write compress zipOrGzip message = .ok bytes) :
    ∃ flag data, bytes = frame flag (intLE message.lastClientMessageId ++
        (intLE message.lastServerMessageId ++ data)) ∧ data.length + 14 < 2 ^ 31 ∧
      message.data.length + 15 < 2 ^ 31 ∧
      ((flag = message.compressed ∧ data = message.data) ∨
        (message.compressed = false ∧ flag = true ∧
          compress zipOrGzip message.data = .ok data)) := by
  rw [write] at h
  split at h
  · cases h
  next hsize =>
  split at h
  · next bytes' rest hrun =>
    cases h
    rw [← List.drop_zero (l := message.content), encode, run_readIntLE_bind,
      Nat.zero_add] at hrun
    split at hrun
    · rw [run_readIntLE_bind] at hrun
      split at hrun
      · rw [run_readBoolean_bind] at hrun
        split at hrun
        · next hlength =>
          obtain ⟨⟨flag, data⟩, rest', hpayload, hframe⟩ := EStateM.run_bind_eq_ok.mp hrun
          dsimp only at hframe
          split at hframe
          · cases hframe
          · split at hframe
            · cases hframe
            · next hfits =>
              cases hframe
              rw [List.length_append, List.length_append, length_intLE, length_intLE] at hfits
              refine ⟨flag, data, rfl, by omega, ?_, run_payload_eq_ok hpayload⟩
              rw [Message.data, List.length_drop]
              omega
        · cases hrun
      · cases hrun
    · cases hrun
  · cases h

end ClientMessageEncoder

/-! ## The stream of messages -/

section Stream

variable {compress decompress : Bool → List UInt8 → Except Failure (List UInt8)}
  {zipOrCustom : Bool} (malformed : List UInt8 → String)

/-- A flag is read from its byte. -/
lemma reads_readBoolean (flag : Bool) : Reads readBoolean [if flag then 1 else 0] flag := by
  intro rest
  cases flag <;> rfl

/-- **A frame is read** as the message with its ids and its data, decompressed if the flag is
set. -/
lemma reads_clientFrame {flag : Bool} {lastClientMessageId lastServerMessageId : Int32}
    {data payload : List UInt8} (hsize : data.length + 14 < 2 ^ 31)
    (hcontent : ClientMessageDecoder.content decompress zipOrCustom flag data = .ok payload)
    (hpayload : payload.length + 8 < 2 ^ 31) :
    Reads (ClientMessageDecoder.doDecode decompress zipOrCustom)
      (ClientMessageEncoder.frame flag
        (intLE lastClientMessageId ++ (intLE lastServerMessageId ++ data)))
      ⟨intLE lastClientMessageId ++ intLE lastServerMessageId ++ payload⟩ := by
  have hlen : (Int32.ofNat (data.length + 8)).toInt = data.length + 8 :=
    Int32.toInt_ofNat_of_lt (by omega)
  have htwo : (2 : Int32).toInt = 2 := rfl
  have hten : (10 : Int32).toInt = 10 := rfl
  have hlength : (Int32.ofNat (data.length + 8) + 2).toInt = data.length + 10 := by
    rw [Int32.toInt_add_of_fits (by omega) (by omega), hlen, htwo]
    omega
  have hdata : (Int32.ofNat (data.length + 8) + 2 - 10).toInt = data.length := by
    rw [Int32.toInt_sub_of_fits (by omega) (by omega), hlength, hten]
    omega
  have hneg : ¬Int32.ofNat (data.length + 8) + 2 - 10 < 0 := by
    rw [Int32.lt_zero_iff, hdata]
    omega
  have hids : (intLE lastClientMessageId ++ (intLE lastServerMessageId ++ data)).length =
      data.length + 8 := by
    rw [List.length_append, List.length_append, length_intLE, length_intLE]
    omega
  rw [ClientMessageEncoder.frame, hids]
  refine (reads_readIntLE _).bind ?_
  refine (reads_readBoolean false).bind ?_
  refine (reads_readBoolean flag).bind ?_
  refine (reads_readIntLE _).bind ?_
  refine (reads_readIntLE _).bind ?_
  dsimp only
  rw [if_neg hneg, hdata, Int.toNat_natCast, ← List.append_nil data]
  refine (reads_readBytes (by rw [List.append_nil])).bind ?_
  rw [hcontent]
  dsimp only
  rw [if_pos hpayload]
  exact Reads.pure _

/-- A frame is a unit of the stream. -/
lemma isUnit_clientFrame {flag : Bool} {lastClientMessageId lastServerMessageId : Int32}
    {data payload : List UInt8} (hsize : data.length + 14 < 2 ^ 31)
    (hcontent : ClientMessageDecoder.content decompress zipOrCustom flag data = .ok payload)
    (hpayload : payload.length + 8 < 2 ^ 31) :
    Incremental.IsUnit ((ClientMessageDecoder decompress zipOrCustom).parse malformed)
      Event.emitted true true
      (ClientMessageEncoder.frame flag
        (intLE lastClientMessageId ++ (intLE lastServerMessageId ++ data)))
      [.message ⟨intLE lastClientMessageId ++ intLE lastServerMessageId ++ payload⟩] := by
  have hids : (intLE lastClientMessageId ++ (intLE lastServerMessageId ++ data)).length =
      data.length + 8 := by
    rw [List.length_append, List.length_append, length_intLE, length_intLE]
    omega
  have hlen : (Int32.ofNat (data.length + 8)).toInt = data.length + 8 :=
    Int32.toInt_ofNat_of_lt (by omega)
  have htwo : (2 : Int32).toInt = 2 := rfl
  have hbody : ([0] ++ ([if flag then 1 else 0] ++
      (intLE lastClientMessageId ++ (intLE lastServerMessageId ++ data))) : List UInt8).length =
      data.length + 10 := by
    rw [List.length_append, List.length_append, hids]
    simp only [List.length_singleton]
    omega
  refine MessageDecoder.isUnit_frame ?_ ?_ ?_ ?_ (reads_clientFrame hsize hcontent hpayload)
  · change 4 ≤ 14
    decide
  · rw [hbody, hids, Int32.toInt_add_of_fits (by omega) (by omega), hlen, htwo]
    push_cast
    omega
  · omega
  · rw [hbody]
    change 14 ≤ _
    omega

/-- A message that is written is a unit of the stream, which stands for the message as it is
received. -/
lemma isUnit_write (hinverse : ∀ {data packed}, compress zipOrCustom data = .ok packed →
      decompress zipOrCustom packed = .ok data) {message : Message} {bytes : List UInt8}
    (hwrite : ClientMessageEncoder.write compress zipOrCustom message = .ok bytes)
    (hdecompresses : message.Decompresses decompress zipOrCustom) :
    Incremental.IsUnit ((ClientMessageDecoder decompress zipOrCustom).parse malformed)
      Event.emitted true true bytes [.message (message.received decompress zipOrCustom)] := by
  obtain ⟨flag, data, rfl, hsize, hraw, hdata⟩ := ClientMessageEncoder.write_eq_ok hwrite
  obtain ⟨rfl, rfl⟩ | ⟨hflag, rfl, hcompress⟩ := hdata
  · cases hcompressed : message.compressed with
    | false =>
      -- the payload is written as it is, and is not compressed
      rw [Message.received, hcompressed, if_neg Bool.false_ne_true]
      exact isUnit_clientFrame malformed hsize rfl (by omega)
    | true =>
      obtain ⟨payload, hpayload, hfits⟩ := hdecompresses hcompressed
      rw [Message.received, hcompressed, if_pos rfl, hpayload]
      exact isUnit_clientFrame malformed hsize hpayload hfits
  · -- the payload is compressed on the way
    rw [Message.received, hflag, if_neg Bool.false_ne_true]
    exact isUnit_clientFrame malformed hsize (hinverse hcompress) (by omega)

/-- Messages that are written are units of the stream. -/
lemma units_clientWriteAll (hinverse : ∀ {data packed}, compress zipOrCustom data = .ok packed →
      decompress zipOrCustom packed = .ok data) {messages : List Message} {stream : List UInt8}
    (hstream : ClientMessageEncoder.writeAll compress zipOrCustom messages = .ok stream)
    (hdecompresses : ∀ message ∈ messages, message.Decompresses decompress zipOrCustom) :
    ∃ us, us.flatten = stream ∧
      Incremental.Units ((ClientMessageDecoder decompress zipOrCustom).parse malformed)
        Event.emitted true us
        (messages.map fun message => .message (message.received decompress zipOrCustom)) := by
  induction messages generalizing stream with
  | nil =>
    obtain rfl := Except.ok.inj hstream
    exact ⟨[], rfl, .nil true⟩
  | cons message messages ih =>
    obtain ⟨bytes, hwrite, hrest⟩ := Except.bind_eq_ok.mp hstream
    obtain ⟨stream', hwriteAll, hpure⟩ := Except.bind_eq_ok.mp hrest
    obtain rfl := Except.ok.inj hpure
    rw [List.forall_mem_cons] at hdecompresses
    obtain ⟨us, rfl, hunits⟩ := ih hwriteAll hdecompresses.2
    exact ⟨bytes :: us, rfl,
      .cons (isUnit_write malformed hinverse hwrite hdecompresses.1) hunits⟩

/-- **Messages to the clients are received as they were written**, behind a handshake, whatever the
chunks in which they arrive: with their ids and their payload, and no byte is left. -/
theorem decode_clientWritten {name : List UInt8} (hname : name.length < 2 ^ 31)
    (hinverse : ∀ {data packed}, compress zipOrCustom data = .ok packed →
      decompress zipOrCustom packed = .ok data) {messages : List Message} {stream : List UInt8}
    (hstream : ClientMessageEncoder.writeAll compress zipOrCustom messages = .ok stream)
    (hdecompresses : ∀ message ∈ messages, message.Decompresses decompress zipOrCustom)
    {chunks : List (List UInt8)}
    (hchunks : chunks.flatten = MessageDecoder.handshake name ++ stream) :
    ((ClientMessageDecoder decompress zipOrCustom).run malformed chunks).2.flatMap Event.emitted =
        .handshake (Utf8.decode malformed name) ::
          messages.map (fun message => .message (message.received decompress zipOrCustom)) ∧
      ((ClientMessageDecoder decompress zipOrCustom).run malformed chunks).1.2 = [] := by
  obtain ⟨us, rfl, hunits⟩ := units_clientWriteAll malformed hinverse hstream hdecompresses
  have hsize : 0 < (ClientMessageDecoder decompress zipOrCustom).packageHeaderSize :=
    show 0 < 14 by decide
  have hhandshake : Incremental.IsUnit
      ((ClientMessageDecoder decompress zipOrCustom).parse malformed) Event.emitted false true
      (MessageDecoder.handshake name) [.handshake (Utf8.decode malformed name)] :=
    MessageDecoder.isUnit_handshake hname
  rw [MessageDecoder.run, MessageDecoder.channelRead_eq_feed hsize]
  exact (Incremental.Units.cons hhandshake hunits).run_feed (MessageDecoder.parse_nil hsize) hchunks

/-- Two bytes, and what zlib makes of them. -/
def hi : List UInt8 := [104, 105]

def hiPacked : List UInt8 := [120, 156, 203, 200, 4, 0, 1, 59, 0, 210]

def compressHi (_ : Bool) (data : List UInt8) : Except Failure (List UInt8) :=
  if data = hi then .ok hiPacked else .error .dataFormat

def decompressHi (_ : Bool) (packed : List UInt8) : Except Failure (List UInt8) :=
  if packed = hiPacked then .ok hi else .error .dataFormat

/-- The two bytes as they are, and compressed already. -/
def hiTwice : List Message :=
  [⟨intLE 1 ++ intLE 2 ++ [0] ++ hi⟩, ⟨intLE 3 ++ intLE 4 ++ [1] ++ hiPacked⟩]

/-- The second one has a decompression. -/
lemma decompresses_hiTwice : ∀ message ∈ hiTwice, message.Decompresses decompressHi true := by
  intro message hmessage hcompressed
  obtain rfl | rfl := List.mem_pair.mp hmessage
  · exact absurd hcompressed (by decide)
  · exact ⟨hi, by rfl, by decide⟩

/-- What is decompressed is what was compressed. -/
lemma decompressHi_compressHi {data packed : List UInt8} (h : compressHi true data = .ok packed) :
    decompressHi true packed = .ok data := by
  rw [compressHi] at h
  split at h
  · next hdata =>
    cases h
    rw [hdata]
    rfl
  · cases h

/-- They are received when every byte arrives alone. -/
theorem decode_hiTwice :
    ((ClientMessageDecoder decompressHi true).run (fun _ => "")
        ((MessageDecoder.handshake [103, 49] ++
          (ClientMessageEncoder.frame false (intLE 1 ++ (intLE 2 ++ hi)) ++
            (ClientMessageEncoder.frame true (intLE 3 ++ (intLE 4 ++ hiPacked)) ++ []))).map
          fun byte => [byte])).2.flatMap Event.emitted =
      [.handshake (Utf8.decode (fun _ => "") [103, 49]), .message ⟨intLE 1 ++ intLE 2 ++ hi⟩,
        .message ⟨intLE 3 ++ intLE 4 ++ hi⟩] :=
  (@decode_clientWritten compressHi decompressHi true (fun _ => "") [103, 49] (by decide)
    decompressHi_compressHi hiTwice _ (by rfl) decompresses_hiTwice _ (by decide)).1

end Stream

end SrgpGame.Gateway
