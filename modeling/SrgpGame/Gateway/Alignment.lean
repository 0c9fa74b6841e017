import SrgpGame.Gateway.ClientCodec
import SrgpGame.Gateway.ServerCodec

set_option autoImplicit false

/-!
# Frames and their lengths

The loop over the frames believes the length of a frame, and the decoder of a frame reads its fixed
fields whatever the length says. A frame that is too short for its fixed fields makes no message,
but the fields are read from the next frame, and the stream is out of step from there on. The header
that has to arrive before a frame is looked at does not prevent this: it does not bound the length,
and for the messages between gateway and game server it is shorter than the fixed fields.

## Main definitions

* `Frame.Aligned` — a frame takes its own bytes only, and all of them if it makes a message.
* `Frame.Overruns` — a frame is too short, and there are bytes behind it for its fixed fields.
* `Layout` — what a decoder does with a frame of any length.

## Main results

* `aligned_iff_not_overruns` — these are the frames that are not aligned.
* `aligned_run_iff` — on any stream in any chunks, all frames are aligned if and only if none of
  them overruns, for both decoders.
-/

namespace SrgpGame.Gateway

open ByteBuf

variable {μ : Type}

/-! ## Alignment -/

namespace Frame

/-- The value of the length field. -/
def length (frame : Frame μ) : Int32 := ofIntLE (frame.readable.take 4)

/-- How many bytes the decoder took. -/
def consumed (frame : Frame μ) : ℕ := frame.readable.length - frame.rest.length

/-- **A frame keeps the stream in step**: no more is taken than the frame has, and all it has if it
makes a message; if its body cannot hold `fixed` bytes it makes none. -/
structure Aligned (fixed : ℕ) (frame : Frame μ) : Prop where
  /-- What is left is what is behind the bytes that were taken. -/
  rest : frame.rest = frame.readable.drop frame.consumed
  emitted : ∀ message, frame.result = .ok message →
    (frame.consumed : ℤ) = 4 + frame.length.toInt
  within : (frame.consumed : ℤ) ≤ 4 + frame.length.toInt
  short : frame.length.toInt < fixed → ∀ message, frame.result ≠ .ok message

/-- One of the fixed fields ends behind the end of the frame, and what there is reaches to its
end. -/
def Overruns (fieldEnds : List ℕ) (frame : Frame μ) : Prop :=
  ∃ fieldEnd ∈ fieldEnds, 4 + frame.length.toInt < (fieldEnd : ℤ) ∧
    fieldEnd ≤ frame.readable.length

end Frame

/-- The frame that is decoded from a buffer. -/
def MessageDecoder.frame (decoder : MessageDecoder μ) (buffer : List UInt8) : Frame μ :=
  match decoder.doDecode.run buffer with
  | .ok message rest => ⟨buffer, rest, .ok message⟩
  | .error failure rest => ⟨buffer, rest, .error failure⟩

/-- **What a decoder does with a frame that has arrived**: if its length has room for the fixed
fields, `fixed` bytes, it takes as many bytes as the length says; if not, it throws behind the last
of the fields that it finds. -/
structure Layout (decoder : MessageDecoder μ) (fieldEnds : List ℕ) (fixed : ℕ) : Prop where
  le : ∀ fieldEnd ∈ fieldEnds, fieldEnd ≤ 4 + fixed
  long : ∀ {buffer}, decoder.decodable buffer → (fixed : ℤ) ≤ (ofIntLE (buffer.take 4)).toInt →
    (decoder.frame buffer).rest = buffer.drop (4 + (ofIntLE (buffer.take 4)).toInt.toNat)
  short : ∀ {buffer}, decoder.decodable buffer → (ofIntLE (buffer.take 4)).toInt < fixed →
    ∃ failure, ∃ fieldEnd ∈ fieldEnds, fieldEnd ≤ buffer.length ∧
      (∀ other ∈ fieldEnds, other ≤ buffer.length → other ≤ fieldEnd) ∧
      decoder.frame buffer = ⟨buffer, buffer.drop fieldEnd, .error failure⟩

lemma MessageDecoder.readable_frame (decoder : MessageDecoder μ) (buffer : List UInt8) :
    (decoder.frame buffer).readable = buffer := by
  rw [frame]
  split <;> rfl

lemma MessageDecoder.frame_of_ok (decoder : MessageDecoder μ) {buffer rest : List UInt8}
    {message : μ} (h : decoder.doDecode.run buffer = .ok message rest) :
    decoder.frame buffer = ⟨buffer, rest, .ok message⟩ := by
  rw [frame, h]

lemma MessageDecoder.frame_of_error (decoder : MessageDecoder μ) {buffer rest : List UInt8}
    {failure : Failure} (h : decoder.doDecode.run buffer = .error failure rest) :
    decoder.frame buffer = ⟨buffer, rest, .error failure⟩ := by
  rw [frame, h]

/-- **A frame that has arrived is aligned if and only if it does not overrun.** -/
theorem aligned_iff_not_overruns {decoder : MessageDecoder μ} {fieldEnds : List ℕ} {fixed : ℕ}
    (hlayout : Layout decoder fieldEnds fixed) {buffer : List UInt8}
    (hdecodable : decoder.decodable buffer) :
    (decoder.frame buffer).Aligned fixed ↔ ¬(decoder.frame buffer).Overruns fieldEnds := by
  have hreadable := decoder.readable_frame buffer
  obtain ⟨-, hpos, hlong⟩ := MessageDecoder.decodable_iff.mp hdecodable
  rw [List.length_drop] at hlong
  have hlength : (decoder.frame buffer).length = ofIntLE (buffer.take 4) := by
    rw [Frame.length, hreadable]
  by_cases hfixed : (fixed : ℤ) ≤ (ofIntLE (buffer.take 4)).toInt
  · -- the frame has room for its fixed fields
    have hrest := hlayout.long hdecodable hfixed
    have hconsumed : (decoder.frame buffer).consumed =
        4 + (ofIntLE (buffer.take 4)).toInt.toNat := by
      rw [Frame.consumed, hreadable, hrest, List.length_drop]
      omega
    refine iff_of_true ⟨?_, ?_, ?_, ?_⟩ ?_
    · rw [hreadable, hconsumed, hrest]
    · intro message _
      rw [hconsumed, hlength]
      omega
    · rw [hconsumed, hlength]
      omega
    · intro hshort
      rw [hlength] at hshort
      omega
    · rintro ⟨fieldEnd, hmem, hover, -⟩
      have hle := hlayout.le fieldEnd hmem
      rw [hlength] at hover
      omega
  · obtain ⟨failure, fieldEnd, hmem, hle, hmax, hframe⟩ :=
      hlayout.short hdecodable (not_le.mp hfixed)
    have hconsumed : (decoder.frame buffer).consumed = fieldEnd := by
      rw [Frame.consumed, hframe]
      dsimp only
      rw [List.length_drop]
      omega
    constructor
    · rintro haligned ⟨other, hother, hover, hthere⟩
      have hwithin := haligned.within
      rw [hconsumed] at hwithin
      rw [hreadable] at hthere
      have hother' := hmax other hother hthere
      omega
    · intro hover
      have hwithin : ((decoder.frame buffer).consumed : ℤ) ≤
          4 + (decoder.frame buffer).length.toInt := by
        rw [hconsumed]
        by_contra hgt
        exact hover ⟨fieldEnd, hmem, not_le.mp hgt, by rw [hreadable]; exact hle⟩
      have hresult : (decoder.frame buffer).result = .error failure := by rw [hframe]
      refine ⟨?_, ?_, hwithin, ?_⟩
      · rw [hconsumed, hframe]
      · intro message hok
        rw [hresult] at hok
        cases hok
      · intro _ message hok
        rw [hresult] at hok
        cases hok

/-! ## The layouts of the two decoders -/

/-- The ends of the fixed fields of a `ServerMessage`: its type, its channel, and two ids. -/
def ServerMessageDecoder.fieldEnds : List ℕ := [5, 9, 13, 17]

/-- The ends of the fixed fields of the frame of a client: two flags, and two ids. -/
def ClientMessageDecoder.fieldEnds : List ℕ := [5, 6, 10, 14]

/-- The data of a frame follow its fixed fields. -/
lemma toInt_length_sub {length fixed : Int32} (hlength : 0 < length.toInt)
    (hfixed : 0 ≤ fixed.toInt) : (length - fixed).toInt = length.toInt - fixed.toInt := by
  have hlt := length.toInt_lt
  have hlt' := fixed.toInt_lt
  rw [Int32.toInt_sub]
  exact Int.bmod_eq_of_le (by omega) (by omega)

/-- A server message that has its fixed fields is read as long as its length says. -/
lemma ServerMessageDecoder.run_doDecode_long {buffer : List UInt8}
    (hfixed : 13 ≤ (ofIntLE (buffer.take 4)).toInt)
    (hlong : (ofIntLE (buffer.take 4)).toInt + 4 ≤ buffer.length) :
    ∃ message, doDecode.run buffer =
      .ok message (buffer.drop (4 + (ofIntLE (buffer.take 4)).toInt.toNat)) := by
  have hsub : (ofIntLE (buffer.take 4) - 13).toInt = (ofIntLE (buffer.take 4)).toInt - 13 :=
    toInt_length_sub (by omega) (by decide)
  have hneg : ¬ofIntLE (buffer.take 4) - 13 < 0 := by
    rw [Int32.lt_zero_iff, hsub]
    omega
  rw [← buffer.drop_zero, doDecode, run_readIntLE_bind, if_pos (by omega), run_readByte_bind,
    if_pos (by omega), run_readIntLE_bind, if_pos (by omega), run_readIntLE_bind,
    if_pos (by omega), run_readIntLE_bind, if_pos (by omega), buffer.drop_zero]
  simp only [if_neg hneg]
  by_cases hdata : 0 < ofIntLE (buffer.take 4) - 13
  · rw [if_pos hdata, run_readBytes_bind, if_pos (by left; omega), hsub]
    refine ⟨_, congrArg (fun k => EStateM.Result.ok _ (buffer.drop k)) ?_⟩
    omega
  · have hzero : (ofIntLE (buffer.take 4)).toInt = 13 := by
      rw [Int32.lt_iff_toInt_lt, Int32.toInt_zero, hsub] at hdata
      omega
    rw [if_neg hdata, hzero]
    exact ⟨_, rfl⟩

/-- A server message that is too short throws behind the last of the fixed fields that are there. -/
lemma ServerMessageDecoder.run_doDecode_short {buffer : List UInt8} (hheader : 8 ≤ buffer.length)
    (hpos : 0 < (ofIntLE (buffer.take 4)).toInt) (hshort : (ofIntLE (buffer.take 4)).toInt < 13) :
    ∃ failure, doDecode.run buffer = .error failure (buffer.drop
      (if 17 ≤ buffer.length then 17 else if 13 ≤ buffer.length then 13
        else if 9 ≤ buffer.length then 9 else 5)) := by
  have hsub : (ofIntLE (buffer.take 4) - 13).toInt = (ofIntLE (buffer.take 4)).toInt - 13 :=
    toInt_length_sub hpos (by decide)
  have hneg : ofIntLE (buffer.take 4) - 13 < 0 := by
    rw [Int32.lt_zero_iff, hsub]
    omega
  have hdata : ¬0 < ofIntLE (buffer.take 4) - 13 := by
    rw [Int32.lt_iff_toInt_lt, Int32.toInt_zero, hsub]
    omega
  rw [← buffer.drop_zero, doDecode, run_readIntLE_bind, if_pos (by omega), run_readByte_bind,
    if_pos (by omega), buffer.drop_zero]
  by_cases h9 : 9 ≤ buffer.length
  · rw [run_readIntLE_bind, if_pos h9]
    by_cases h13 : 13 ≤ buffer.length
    · rw [run_readIntLE_bind, if_pos h13]
      by_cases h17 : 17 ≤ buffer.length
      · rw [run_readIntLE_bind, if_pos h17, if_pos h17]
        simp only [if_pos hneg]
        rw [if_neg hdata]
        exact ⟨.illegalArgument, rfl⟩
      · rw [run_readIntLE_bind, if_neg h17, if_neg h17, if_pos h13]
        exact ⟨.indexOutOfBounds, rfl⟩
    · rw [run_readIntLE_bind, if_neg h13, if_neg (by omega), if_neg h13, if_pos h9]
      exact ⟨.indexOutOfBounds, rfl⟩
  · rw [run_readIntLE_bind, if_neg h9, if_neg (by omega), if_neg (by omega), if_neg h9]
    exact ⟨.indexOutOfBounds, rfl⟩

/-- The layout of a `ServerMessage`. -/
lemma layout_server : Layout ServerMessageDecoder ServerMessageDecoder.fieldEnds 13 where
  le := by decide
  long := by
    intro buffer hdecodable hfixed
    obtain ⟨-, -, hlong⟩ := MessageDecoder.decodable_iff.mp hdecodable
    rw [List.length_drop] at hlong
    obtain ⟨message, hrun⟩ := ServerMessageDecoder.run_doDecode_long hfixed (by omega)
    rw [MessageDecoder.frame_of_ok ServerMessageDecoder hrun]
  short := by
    intro buffer hdecodable hshort
    obtain ⟨hheader, hpos, -⟩ := MessageDecoder.decodable_iff.mp hdecodable
    obtain ⟨failure, hrun⟩ := ServerMessageDecoder.run_doDecode_short hheader hpos hshort
    have hframe := MessageDecoder.frame_of_error ServerMessageDecoder hrun
    refine ⟨failure, _, ?_, ?_, ?_, hframe⟩
    · rw [ServerMessageDecoder.fieldEnds]
      split_ifs <;> simp
    · change 8 ≤ buffer.length at hheader
      split_ifs <;> omega
    · rw [ServerMessageDecoder.fieldEnds]
      intro other hother hle
      simp only [List.mem_cons, List.not_mem_nil, or_false] at hother
      split_ifs <;> omega

section Client

variable (decompress : Bool → List UInt8 → Except Failure (List UInt8)) (zipOrCustom : Bool)

/-- The frame of a client that has its fixed fields is read as long as its length says, whether or
not a message can be made of it. -/
lemma ClientMessageDecoder.run_doDecode_long {buffer : List UInt8}
    (hfixed : 10 ≤ (ofIntLE (buffer.take 4)).toInt)
    (hlong : (ofIntLE (buffer.take 4)).toInt + 4 ≤ buffer.length) :
    ∃ outcome : Except Failure Message, (doDecode decompress zipOrCustom).run buffer =
      match outcome with
      | .ok message => .ok message (buffer.drop (4 + (ofIntLE (buffer.take 4)).toInt.toNat))
      | .error failure =>
        .error failure (buffer.drop (4 + (ofIntLE (buffer.take 4)).toInt.toNat)) := by
  have hsub : (ofIntLE (buffer.take 4) - 10).toInt = (ofIntLE (buffer.take 4)).toInt - 10 :=
    toInt_length_sub (by omega) (by decide)
  have hneg : ¬ofIntLE (buffer.take 4) - 10 < 0 := by
    rw [Int32.lt_zero_iff, hsub]
    omega
  have hend : 14 + (ofIntLE (buffer.take 4) - 10).toInt.toNat =
      4 + (ofIntLE (buffer.take 4)).toInt.toNat := by
    rw [hsub]
    omega
  rw [← buffer.drop_zero, doDecode, run_readIntLE_bind, if_pos (by omega), run_readBoolean_bind,
    if_pos (by omega), run_readBoolean_bind, if_pos (by omega), run_readIntLE_bind,
    if_pos (by omega), run_readIntLE_bind, if_pos (by omega), buffer.drop_zero]
  dsimp only
  rw [if_neg hneg, run_readBytes_bind, if_pos (by left; omega), hend]
  split
  · next failure _ => exact ⟨.error failure, rfl⟩
  · split
    · exact ⟨.ok _, rfl⟩
    · exact ⟨.error .illegalArgument, rfl⟩

/-- The frame of a client that is too short throws behind its fixed fields. -/
lemma ClientMessageDecoder.run_doDecode_short {buffer : List UInt8} (hheader : 14 ≤ buffer.length)
    (hpos : 0 < (ofIntLE (buffer.take 4)).toInt) (hshort : (ofIntLE (buffer.take 4)).toInt < 10) :
    (doDecode decompress zipOrCustom).run buffer =
      .error .negativeArraySize (buffer.drop 14) := by
  have hsub : (ofIntLE (buffer.take 4) - 10).toInt = (ofIntLE (buffer.take 4)).toInt - 10 :=
    toInt_length_sub hpos (by decide)
  have hneg : ofIntLE (buffer.take 4) - 10 < 0 := by
    rw [Int32.lt_zero_iff, hsub]
    omega
  rw [← buffer.drop_zero, doDecode, run_readIntLE_bind, if_pos (by omega), run_readBoolean_bind,
    if_pos (by omega), run_readBoolean_bind, if_pos (by omega), run_readIntLE_bind,
    if_pos (by omega), run_readIntLE_bind, if_pos (by omega), buffer.drop_zero]
  dsimp only
  rw [if_pos hneg]
  rfl

/-- The layout of the frame of a client. -/
lemma layout_client :
    Layout (ClientMessageDecoder decompress zipOrCustom) ClientMessageDecoder.fieldEnds 10 where
  le := by decide
  long := by
    intro buffer hdecodable hfixed
    obtain ⟨-, -, hlong⟩ := MessageDecoder.decodable_iff.mp hdecodable
    rw [List.length_drop] at hlong
    obtain ⟨outcome, hrun⟩ :=
      ClientMessageDecoder.run_doDecode_long decompress zipOrCustom hfixed (by omega)
    cases outcome with
    | ok message =>
      rw [MessageDecoder.frame_of_ok (ClientMessageDecoder decompress zipOrCustom) hrun]
    | error failure =>
      rw [MessageDecoder.frame_of_error (ClientMessageDecoder decompress zipOrCustom) hrun]
  short := by
    intro buffer hdecodable hshort
    obtain ⟨hheader, hpos, -⟩ := MessageDecoder.decodable_iff.mp hdecodable
    have hrun := ClientMessageDecoder.run_doDecode_short decompress zipOrCustom hheader hpos hshort
    have hframe :=
      MessageDecoder.frame_of_error (ClientMessageDecoder decompress zipOrCustom) hrun
    refine ⟨.negativeArraySize, 14, by decide, hheader, ?_, hframe⟩
    intro other hother _
    rw [ClientMessageDecoder.fieldEnds] at hother
    simp only [List.mem_cons, List.not_mem_nil, or_false] at hother
    omega

end Client

/-! ## The frames of a stream -/

section Stream

/-- What is known of an event: a frame had arrived, and was decoded as it had arrived. -/
def Event.Sound (decoder : MessageDecoder μ) : Event μ → Prop
  | .frame decoded => decoder.decodable decoded.readable ∧ decoded = decoder.frame decoded.readable
  | .handshake _ => True
  | .refused _ => True

variable {decoder : MessageDecoder μ} (malformed : List UInt8 → String)

/-- The loop over the frames decodes frames that have arrived. -/
lemma sound_decodeFrames (fuel : ℕ) (buffer : List UInt8) :
    ∀ event ∈ (decoder.decodeFrames fuel buffer).events, event.Sound decoder := by
  induction fuel generalizing buffer with
  | zero =>
    intro event hevent
    exact absurd hevent List.not_mem_nil
  | succ fuel ih =>
    rw [MessageDecoder.decodeFrames]
    by_cases hdecodable : decoder.decodable buffer
    · rw [if_pos hdecodable]
      cases hrun : decoder.doDecode.run buffer with
      | ok message rest =>
        intro event hevent
        rcases List.mem_cons.mp hevent with rfl | hevent
        · exact ⟨hdecodable, (decoder.frame_of_ok hrun).symm⟩
        · exact ih rest event hevent
      | error failure rest =>
        intro event hevent
        rcases List.mem_singleton.mp hevent with rfl
        exact ⟨hdecodable, (decoder.frame_of_error hrun).symm⟩
    · rw [if_neg hdecodable]
      intro event hevent
      exact absurd hevent List.not_mem_nil

/-- So does a call of `decode`. -/
lemma sound_decode (handshake : Bool) (buffer : List UInt8) :
    ∀ event ∈ (decoder.decode malformed handshake buffer).events, event.Sound decoder := by
  rw [MessageDecoder.decode]
  cases handshake with
  | true => exact sound_decodeFrames _ buffer
  | false =>
    rw [if_neg Bool.false_ne_true]
    cases (doHandshake malformed).run buffer with
    | error failure rest =>
      intro event hevent
      rcases List.mem_singleton.mp hevent with rfl
      trivial
    | ok id rest =>
      cases id with
      | none =>
        intro event hevent
        exact absurd hevent List.not_mem_nil
      | some id =>
        intro event hevent
        rcases List.mem_cons.mp hevent with rfl | hevent
        · trivial
        · exact sound_decodeFrames _ rest event hevent

/-- So do the calls of `decode` after a chunk. -/
lemma sound_callDecode (fuel : ℕ) (state : Bool × List UInt8) :
    ∀ event ∈ (decoder.callDecode malformed fuel state).2, event.Sound decoder := by
  induction fuel generalizing state with
  | zero =>
    intro event hevent
    exact absurd hevent List.not_mem_nil
  | succ fuel ih =>
    obtain ⟨handshake, buffer⟩ := state
    rw [MessageDecoder.callDecode]
    split
    · intro event hevent
      exact absurd hevent List.not_mem_nil
    · dsimp only
      split
      · exact sound_decode malformed handshake buffer
      · intro event hevent
        rcases List.mem_append.mp hevent with hevent | hevent
        · exact sound_decode malformed handshake buffer event hevent
        · exact ih _ event hevent

/-- **Every frame of a stream** had arrived, and was decoded as it had arrived. -/
lemma sound_run (chunks : List (List UInt8)) :
    ∀ event ∈ (decoder.run malformed chunks).2, event.Sound decoder :=
  Transducer.forall_mem_run (fun _ _ => sound_callDecode malformed _ _) _ chunks

/-- On any stream all frames are aligned if and only if none of them overruns. -/
lemma aligned_run {fieldEnds : List ℕ} {fixed : ℕ} (hlayout : Layout decoder fieldEnds fixed)
    (chunks : List (List UInt8)) :
    (∀ frame, .frame frame ∈ (decoder.run malformed chunks).2 → frame.Aligned fixed) ↔
      ∀ frame, .frame frame ∈ (decoder.run malformed chunks).2 → ¬frame.Overruns fieldEnds := by
  have hpoint : ∀ frame, .frame frame ∈ (decoder.run malformed chunks).2 →
      (frame.Aligned fixed ↔ ¬frame.Overruns fieldEnds) := by
    intro frame hframe
    obtain ⟨hdecodable, heq⟩ := sound_run malformed chunks _ hframe
    rw [heq]
    exact aligned_iff_not_overruns hlayout hdecodable
  exact forall_congr' fun frame => forall_congr' fun hframe => hpoint frame hframe

variable (decompress : Bool → List UInt8 → Except Failure (List UInt8)) (zipOrCustom : Bool)

/-- **When the frames of a stream keep it in step.** Whatever the bytes and the chunks they arrive
in, the decoder of the game server's messages and the decoder of the clients' take from no frame
more than its length says, take all of it if they make a message, and make none if it has no room
for its fixed fields, if and only if no frame is so short that one of its fixed fields ends behind
it, while the bytes up to there have arrived. -/
theorem aligned_run_iff (chunks : List (List UInt8)) :
    ((∀ frame, .frame frame ∈ (ServerMessageDecoder.run malformed chunks).2 →
        frame.Aligned 13) ↔
      ∀ frame, .frame frame ∈ (ServerMessageDecoder.run malformed chunks).2 →
        ¬frame.Overruns ServerMessageDecoder.fieldEnds) ∧
    ((∀ frame, .frame frame ∈
          ((ClientMessageDecoder decompress zipOrCustom).run malformed chunks).2 →
        frame.Aligned 10) ↔
      ∀ frame, .frame frame ∈
          ((ClientMessageDecoder decompress zipOrCustom).run malformed chunks).2 →
        ¬frame.Overruns ClientMessageDecoder.fieldEnds) :=
  ⟨aligned_run malformed layout_server chunks,
    aligned_run malformed (layout_client decompress zipOrCustom) chunks⟩

end Stream

/-! ## A frame that overruns -/

/-- A frame whose body has five bytes, and a message behind it. -/
def shortFrame : List UInt8 :=
  intLE 5 ++ [2, 1, 0, 0, 0] ++ ServerMessageEncoder.encode ⟨.Message, 7, 1, 2, some [49, 50]⟩

/-- Eight bytes of the message are read as fields of the frame before it. -/
theorem shortFrame_not_aligned :
    ¬∀ (chunks : List (List UInt8)) (frame : Frame ServerMessage),
      .frame frame ∈ (ServerMessageDecoder.run (fun _ => "") chunks).2 → frame.Aligned 13 := by
  intro h
  have hmem : .frame (ServerMessageDecoder.frame shortFrame) ∈ (ServerMessageDecoder.run
      (fun _ => "") [MessageDecoder.handshake [103, 49] ++ shortFrame]).2 :=
    List.mem_of_getElem? (rfl : _[1]? = _)
  have hwithin := (h _ _ hmem).within
  revert hwithin
  decide

end SrgpGame.Gateway
