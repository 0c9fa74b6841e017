import SrgpGame.Lib.Machine
import SrgpGame.Gateway.MessageDecoder
import SrgpGame.Login.StringUtil

set_option autoImplicit false

/-!
# The handshake of a connection

A gateway opens a connection to a game server with its id, and the game server answers with its own.
An id is written as UTF-8 behind its length, and the length that is written is the number of its
UTF-16 units. The decoder takes the length as a number of bytes.

## Main definitions

* `handshakeBuff` — the bytes that are written for an id.
* `ReadBack` — the decoder finds the id in them, and takes all of them.

## Main results

* `readBack_iff` — the ids that are read back: ASCII, and not too long.

## Implementation notes

The buffer is asked for with room for eight bytes a unit, which throws if that is a negative `int`.
Writing makes room for three bytes a unit, as netty does, which throws if a buffer cannot have it.
-/

namespace SrgpGame.Gateway

open ByteBuf Login

/-! ## Writing -/

/-- `connection.newBuffer(4 + getServerId().length() * 8)`. -/
def newBuffer (length : ℕ) : Except Failure Unit :=
  if 4 + Int32.ofNat length * 8 < 0 then .error .illegalArgument else .ok ()

/-- `writeCharSequence`, for UTF-8, behind the length. -/
def writeCharSequence (id : String) : Except Failure (List UInt8) :=
  if 4 + 3 * lengthUtf16 id < 2 ^ 31 then .ok (Utf8.encode id) else .error .indexOutOfBounds

/-- **The handshake of an id**: its length and its bytes. -/
def handshakeBuff (serverId : String) : Except Failure (List UInt8) := do
  newBuffer (lengthUtf16 serverId)
  return intLE (Int32.ofNat (lengthUtf16 serverId)) ++ (← writeCharSequence serverId)

/-- `GameServerConnector.Handler.connectionOpened`. -/
def GameServerConnector.connectionOpened (serverId : String) : Except Failure (List UInt8) :=
  handshakeBuff serverId

/-- `GameMessageHandler.handshakeMessage`. -/
def GameMessageHandler.handshakeMessage (serverId : String) : Except Failure (List UInt8) :=
  handshakeBuff serverId

/-! ## Reading -/

/-- **An id is read back**: the handshake is written, and the decoder reads it as the id, whatever
follows, and leaves what follows. -/
def ReadBack (malformed : List UInt8 → String) (handshakeBuff : Except Failure (List UInt8))
    (id : String) : Prop :=
  ∃ bytes, handshakeBuff = .ok bytes ∧ Reads (doHandshake malformed) bytes (some id)

/-- **There is a buffer for the handshake**: neither the room that is asked for nor the room that is
made for the text is too much. -/
def Fits (id : String) : Prop :=
  0 ≤ 4 + Int32.ofNat (lengthUtf16 id) * 8 ∧ 4 + 3 * lengthUtf16 id < 2 ^ 31

/-- An id without characters beyond ASCII. -/
def Ascii (id : String) : Prop := ∀ c ∈ id.toList, c.toNat < 128

lemma lengthUtf16_eq_sum (id : String) : lengthUtf16 id = (id.toList.map Utf8.utf16Size).sum := by
  have hfold : ∀ (cs : List Char) (n : ℕ),
      cs.foldl (fun n c => n + if c.toNat < 0x10000 then 1 else 2) n =
        n + (cs.map Utf8.utf16Size).sum := by
    intro cs
    induction cs with
    | nil => exact fun n => rfl
    | cons c cs ih =>
      intro n
      rw [List.foldl_cons, ih, List.map_cons, List.sum_cons, Nat.add_assoc]
      rfl
  rw [lengthUtf16, hfold, Nat.zero_add]

lemma lengthUtf16_le (id : String) : lengthUtf16 id ≤ (Utf8.encode id).length := by
  rw [lengthUtf16_eq_sum, Utf8.length_encode_eq_sum]
  exact Utf8.sum_utf16Size_le _

lemma lengthUtf16_eq_iff (id : String) :
    lengthUtf16 id = (Utf8.encode id).length ↔ Ascii id := by
  rw [lengthUtf16_eq_sum, Utf8.length_encode_eq_sum]
  exact Utf8.sum_utf16Size_eq_iff _

/-- What is written, if there is a buffer for it. -/
lemma handshakeBuff_eq_ok_iff (id : String) (bytes : List UInt8) :
    handshakeBuff id = .ok bytes ↔
      Fits id ∧ bytes = intLE (Int32.ofNat (lengthUtf16 id)) ++ Utf8.encode id := by
  rw [handshakeBuff, newBuffer, writeCharSequence, Fits]
  by_cases hroom : 4 + Int32.ofNat (lengthUtf16 id) * 8 < 0
  · have hneg : ¬0 ≤ 4 + Int32.ofNat (lengthUtf16 id) * 8 := Int32.not_le.mpr hroom
    rw [if_pos hroom]
    exact iff_of_false nofun fun h => hneg h.1.1
  · rw [if_neg hroom]
    by_cases htext : 4 + 3 * lengthUtf16 id < 2 ^ 31
    · rw [if_pos htext]
      refine ⟨fun h => ⟨⟨Int32.not_lt.mp hroom, htext⟩, (Except.ok.inj h).symm⟩, ?_⟩
      rintro ⟨-, rfl⟩
      rfl
    · rw [if_neg htext]
      exact iff_of_false nofun fun h => htext h.1.2

/-- What the decoder makes of a handshake: the id as far as the length reaches, which counts units
and not bytes. -/
lemma run_doHandshake_written (malformed : List UInt8 → String) {id : String} (hfits : Fits id)
    (rest : List UInt8) :
    (doHandshake malformed).run
        (intLE (Int32.ofNat (lengthUtf16 id)) ++ Utf8.encode id ++ rest) =
      .ok (some (Utf8.decode malformed ((Utf8.encode id).take (lengthUtf16 id))))
        ((Utf8.encode id).drop (lengthUtf16 id) ++ rest) := by
  have htext := hfits.2
  have hlen : (Int32.ofNat (lengthUtf16 id)).toInt = lengthUtf16 id :=
    Int32.toInt_ofNat_of_lt (by omega)
  have hneg : ¬Int32.ofNat (lengthUtf16 id) < 0 := by
    rw [Int32.lt_zero_iff, hlen]
    omega
  have hle := lengthUtf16_le id
  rw [run_doHandshake, List.append_assoc, List.take_left' (length_intLE _),
    List.drop_left' (length_intLE _), ofIntLE_intLE, hlen, if_neg hneg, Int.toNat_natCast,
    List.take_append_of_le_length hle, List.drop_append_of_le_length hle, if_neg, if_neg]
  · rw [List.length_append]
    push_cast
    omega
  · rw [List.length_append, length_intLE]
    omega

/-- A handshake is read back if its length counts bytes as well. -/
lemma readBack_handshakeBuff_iff (malformed : List UInt8 → String) (id : String) :
    ReadBack malformed (handshakeBuff id) id ↔ Ascii id ∧ Fits id := by
  constructor
  · rintro ⟨bytes, hbytes, hreads⟩
    obtain ⟨hfits, rfl⟩ := (handshakeBuff_eq_ok_iff id bytes).mp hbytes
    have hrun := hreads []
    rw [run_doHandshake_written malformed hfits] at hrun
    -- nothing of the id is left
    have hrest := List.append_eq_nil_iff.mp (EStateM.Result.ok.inj hrun).2
    have hlen := List.drop_eq_nil_iff.mp hrest.1
    exact ⟨(lengthUtf16_eq_iff id).mp (le_antisymm (lengthUtf16_le id) hlen), hfits⟩
  · rintro ⟨hascii, hfits⟩
    have hlen := (lengthUtf16_eq_iff id).mpr hascii
    refine ⟨_, (handshakeBuff_eq_ok_iff id _).mpr ⟨hfits, rfl⟩, fun rest => ?_⟩
    rw [run_doHandshake_written malformed hfits, hlen, List.take_length, List.drop_length,
      Utf8.decode_encode, List.nil_append]

/-- **The ids that are read back**, on both sides of a connection: the ASCII ids for which there is
a buffer. Of any other id some bytes are left in front of the first frame. -/
theorem readBack_iff (malformed : List UInt8 → String) (id : String) :
    (ReadBack malformed (GameServerConnector.connectionOpened id) id ∧
      ReadBack malformed (GameMessageHandler.handshakeMessage id) id) ↔ Ascii id ∧ Fits id :=
  and_self_iff.trans (readBack_handshakeBuff_iff malformed id)

/-- **Not every id**: of these two characters, which are six bytes, the decoder takes two bytes. -/
theorem not_readBack_chinese :
    ¬ReadBack (fun _ => "") (GameServerConnector.connectionOpened "一区") "一区" := by
  rintro ⟨bytes, hbytes, hreads⟩
  obtain ⟨hfits, rfl⟩ := (handshakeBuff_eq_ok_iff "一区" bytes).mp hbytes
  have hrun := hreads []
  rw [run_doHandshake_written _ hfits] at hrun
  have hrest := List.append_eq_nil_iff.mp (EStateM.Result.ok.inj hrun).2
  exact absurd (List.drop_eq_nil_iff.mp hrest.1) (by decide)

end SrgpGame.Gateway
