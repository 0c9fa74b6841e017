import SrgpGame.Gateway.MessageDecoder

set_option autoImplicit false

/-!
# Frames of the clients

The frame of a client has its length, two flags, the ids of the last messages, and its data, which
may be compressed. The message that is made of it keeps the ids and the data.

## Main definitions

* `ClientMessageDecoder` — reads the frame of a client.

## Implementation notes

Decompression is a parameter, `decompress`: whether the zlib or the custom format is expected, and
the bytes. It may fail.
-/

namespace SrgpGame.Gateway

open ByteBuf

/-- `Message`, as the decoder makes it: its type is `Message`, and it has no connection yet. -/
structure Message where
  content : List UInt8
  deriving DecidableEq, Repr

namespace ClientMessageDecoder

def packageHeaderSize : ℕ := 14

variable (decompress : Bool → List UInt8 → Except Failure (List UInt8)) (zipOrCustom : Bool)

/-- What a frame holds, decompressed if it is compressed. -/
def content (compressed : Bool) (data : List UInt8) : Except Failure (List UInt8) :=
  if compressed then decompress zipOrCustom data else .ok data

/-- Reads one message. -/
def doDecode : Read Message := do
  let length ← readIntLE
  let _isJM ← readBoolean
  let compressed ← readBoolean
  let lastClientMessageId ← readIntLE
  let lastServerMessageId ← readIntLE
  let dataLength := length - 10
  if dataLength < 0 then throw .negativeArraySize
  else
    let data ← readBytes dataLength.toInt.toNat
    match content decompress zipOrCustom compressed data with
    | .error failure => throw failure
    | .ok data =>
      -- the size of the buffer is an `int`
      if data.length + 8 < 2 ^ 31 then
        return ⟨intLE lastClientMessageId ++ intLE lastServerMessageId ++ data⟩
      else throw .illegalArgument

/-- A frame that is decoded takes some bytes. -/
lemma takes_doDecode : Takes 4 (doDecode decompress zipOrCustom) := by
  refine Takes.readIntLE.bind fun length => ?_
  refine Takes.readBoolean.zero.bind fun isJM => ?_
  refine Takes.readBoolean.zero.bind fun compressed => ?_
  refine Takes.readIntLE.zero.bind fun lastClientMessageId => ?_
  refine Takes.readIntLE.zero.bind fun lastServerMessageId => ?_
  refine .ite (.throw _) ?_
  refine (Takes.readBytes _).bind fun data => ?_
  split
  · exact .throw _
  · exact .ite (.pure _) (.throw _)

end ClientMessageDecoder

/-- The decoder of the messages of clients. -/
def ClientMessageDecoder (decompress : Bool → List UInt8 → Except Failure (List UInt8))
    (zipOrCustom : Bool) : MessageDecoder Message where
  packageHeaderSize := ClientMessageDecoder.packageHeaderSize
  doDecode := ClientMessageDecoder.doDecode decompress zipOrCustom
  shrinks := (ClientMessageDecoder.takes_doDecode decompress zipOrCustom).shrinks

end SrgpGame.Gateway
