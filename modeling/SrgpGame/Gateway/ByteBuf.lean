import SrgpGame.Lib.Reader
import SrgpGame.Lib.Method

set_option autoImplicit false

/-!
# Reading from a buffer

The decoders of the gateway read from a `ByteBuf`. A read that finds too few bytes throws and leaves
the reader index where it is, but the reads before it have moved the index: what they took is gone.

## Main definitions

* `Failure` — the exceptions of decoding.
* `ByteBuf.Read` — a program that reads, on the readable bytes.
* `ByteBuf.Reads` — a program reads some bytes as a value, whatever follows.
* `ByteBuf.Takes` — how many bytes a program takes at least.

## Main results

* `ByteBuf.Reads.bind` — the rule for sequences.
-/

namespace SrgpGame.Gateway

/-- The exceptions that decoding and encoding throw. -/
inductive Failure where
  | indexOutOfBounds
  | illegalArgument
  | negativeArraySize
  /-- The data is not in the compressed format. -/
  | dataFormat
  deriving DecidableEq, Repr

namespace ByteBuf

/-- A program that reads from a buffer: the state is the bytes that are readable. -/
abbrev Read := EStateM Failure (List UInt8)

/-- Reads bytes; too few throw. -/
def readBytes (length : ℕ) : Read (List UInt8) := fun buffer =>
  if length ≤ buffer.length then .ok (buffer.take length) (buffer.drop length)
  else .error .indexOutOfBounds buffer

def readByte : Read Int8 := fun buffer =>
  match buffer with
  | [] => .error .indexOutOfBounds []
  | byte :: rest => .ok byte.toInt8 rest

def readBoolean : Read Bool := do
  return (← readByte) ≠ 0

def readIntLE : Read Int32 := do
  return ofIntLE (← readBytes 4)

variable {α β : Type}

/-- **The reading relation**: put before any bytes `rest`, the bytes `bytes` are read as `a`, and
exactly `rest` is left. -/
def Reads (r : Read α) (bytes : List UInt8) (a : α) : Prop :=
  ∀ rest, r.run (bytes ++ rest) = .ok a rest

lemma Reads.pure (a : α) : Reads (pure a : Read α) [] a := fun _ => rfl

/-- **Sequence rule**: what the second program reads follows what the first one reads. -/
theorem Reads.bind {r : Read α} {f : α → Read β} {bs cs : List UInt8} {a : α} {b : β}
    (hr : Reads r bs a) (hf : Reads (f a) cs b) : Reads (r >>= f) (bs ++ cs) b := by
  intro rest
  rw [EStateM.run_bind, List.append_assoc, hr (cs ++ rest)]
  exact hf rest

lemma reads_readBytes {bytes : List UInt8} {length : ℕ} (hlength : bytes.length = length) :
    Reads (readBytes length) bytes bytes := by
  intro rest
  subst hlength
  change (if bytes.length ≤ (bytes ++ rest).length then _ else _) = _
  rw [if_pos (by simp), List.take_left, List.drop_left]

lemma reads_readIntLE (i : Int32) : Reads readIntLE (intLE i) i := by
  intro rest
  have hbytes := reads_readBytes (length_intLE i) rest
  rw [readIntLE, EStateM.run_bind, hbytes]
  exact congrArg (EStateM.Result.ok · rest) (ofIntLE_intLE i)

lemma reads_readByte (byte : UInt8) : Reads readByte [byte] byte.toInt8 := fun _ => rfl

/-! ## Single reads -/

lemma run_readBytes_of_le {length : ℕ} {buffer : List UInt8} (h : length ≤ buffer.length) :
    (readBytes length).run buffer = .ok (buffer.take length) (buffer.drop length) := if_pos h

lemma run_readBytes_of_lt {length : ℕ} {buffer : List UInt8} (h : buffer.length < length) :
    (readBytes length).run buffer = .error .indexOutOfBounds buffer := if_neg (not_le.mpr h)

/-- An integer is read from four bytes. -/
lemma run_readIntLE_of_le {buffer : List UInt8} (h : 4 ≤ buffer.length) :
    readIntLE.run buffer = .ok (ofIntLE (buffer.take 4)) (buffer.drop 4) := by
  rw [readIntLE, EStateM.run_bind, run_readBytes_of_le h]
  rfl

lemma run_readIntLE_of_lt {buffer : List UInt8} (h : buffer.length < 4) :
    readIntLE.run buffer = .error .indexOutOfBounds buffer := by
  rw [readIntLE, EStateM.run_bind, run_readBytes_of_lt h]

/-- A byte is read from a buffer that has one. -/
lemma run_readByte_of_le {buffer : List UInt8} (h : 1 ≤ buffer.length) :
    readByte.run buffer = .ok (buffer.headD 0).toInt8 (buffer.drop 1) := by
  cases buffer with
  | nil => exact absurd h (by simp)
  | cons byte rest => rfl

/-! ## Fields one after another

A program that reads field after field has, after each of them, what is behind a position. -/

/-- An integer is read behind a position, if it is there. -/
lemma run_readIntLE_bind {f : Int32 → Read β} (buffer : List UInt8) (k : ℕ) :
    (readIntLE >>= f).run (buffer.drop k) =
      if k + 4 ≤ buffer.length then
        (f (ofIntLE ((buffer.drop k).take 4))).run (buffer.drop (k + 4))
      else .error .indexOutOfBounds (buffer.drop k) := by
  rw [EStateM.run_bind]
  by_cases hlength : k + 4 ≤ buffer.length
  · have hdrop : 4 ≤ (buffer.drop k).length := by
      rw [List.length_drop]
      omega
    rw [if_pos hlength, run_readIntLE_of_le hdrop, List.drop_drop]
  · have hdrop : (buffer.drop k).length < 4 := by
      rw [List.length_drop]
      omega
    rw [if_neg hlength, run_readIntLE_of_lt hdrop]

/-- A byte is read behind a position, if it is there. -/
lemma run_readByte_bind {f : Int8 → Read β} (buffer : List UInt8) (k : ℕ) :
    (readByte >>= f).run (buffer.drop k) =
      if k + 1 ≤ buffer.length then
        (f ((buffer.drop k).headD 0).toInt8).run (buffer.drop (k + 1))
      else .error .indexOutOfBounds (buffer.drop k) := by
  rw [EStateM.run_bind]
  by_cases hlength : k + 1 ≤ buffer.length
  · have hdrop : 1 ≤ (buffer.drop k).length := by
      rw [List.length_drop]
      omega
    rw [if_pos hlength, run_readByte_of_le hdrop, List.drop_drop]
  · have hdrop : buffer.drop k = [] := List.drop_eq_nil_of_le (by omega)
    rw [if_neg hlength, hdrop]
    rfl

/-- A flag is read behind a position, if it is there. -/
lemma run_readBoolean_bind {f : Bool → Read β} (buffer : List UInt8) (k : ℕ) :
    (readBoolean >>= f).run (buffer.drop k) =
      if k + 1 ≤ buffer.length then
        (f (((buffer.drop k).headD 0).toInt8 ≠ 0)).run (buffer.drop (k + 1))
      else .error .indexOutOfBounds (buffer.drop k) := by
  rw [readBoolean, bind_assoc, run_readByte_bind]
  simp only [pure_bind]

/-- Bytes are read behind a position, if they are there. -/
lemma run_readBytes_bind {f : List UInt8 → Read β} (buffer : List UInt8) (k length : ℕ) :
    (readBytes length >>= f).run (buffer.drop k) =
      if k + length ≤ buffer.length ∨ length = 0 then
        (f ((buffer.drop k).take length)).run (buffer.drop (k + length))
      else .error .indexOutOfBounds (buffer.drop k) := by
  rw [EStateM.run_bind]
  by_cases hlength : k + length ≤ buffer.length ∨ length = 0
  · have hdrop : length ≤ (buffer.drop k).length := by
      rw [List.length_drop]
      omega
    rw [if_pos hlength, run_readBytes_of_le hdrop, List.drop_drop]
  · have hdrop : (buffer.drop k).length < length := by
      rw [List.length_drop]
      omega
    rw [if_neg hlength, run_readBytes_of_lt hdrop]

/-! ## How much is read -/

/-- A program that takes at least `k` bytes whenever it returns. -/
def Takes (k : ℕ) (r : Read α) : Prop :=
  ∀ ⦃buffer a rest⦄, r.run buffer = .ok a rest → rest.length + k ≤ buffer.length

namespace Takes

lemma pure (a : α) : Takes 0 (pure a : Read α) := by
  rintro buffer b rest h
  cases h
  exact le_rfl

lemma throw (failure : Failure) : Takes 0 (throw failure : Read α) := by
  intro buffer a rest h
  cases h

/-- A sequence takes what its first part takes. -/
lemma bind {k : ℕ} {r : Read α} {f : α → Read β} (hr : Takes k r) (hf : ∀ a, Takes 0 (f a)) :
    Takes k (r >>= f) := by
  intro buffer b rest h
  obtain ⟨a, middle, hfirst, hsecond⟩ := EStateM.run_bind_eq_ok.mp h
  have hr' := hr hfirst
  have hf' := hf a hsecond
  omega

lemma zero {k : ℕ} {r : Read α} (hr : Takes k r) : Takes 0 r := by
  intro buffer a rest h
  have hr' := hr h
  omega

/-- A program that takes some bytes leaves fewer. -/
lemma shrinks {k : ℕ} {r : Read α} (hr : Takes (k + 1) r) {buffer : List UInt8} {a : α}
    {rest : List UInt8} (h : r.run buffer = .ok a rest) : rest.length < buffer.length := by
  have htakes := hr h
  omega

lemma ite {k : ℕ} {c : Prop} [Decidable c] {r r' : Read α} (hr : Takes k r) (hr' : Takes k r') :
    Takes k (if c then r else r') := by
  split
  · exact hr
  · exact hr'

lemma readBytes (length : ℕ) : Takes 0 (readBytes length) := by
  intro buffer bytes rest h
  by_cases hlength : length ≤ buffer.length
  · rw [run_readBytes_of_le hlength] at h
    cases h
    rw [List.length_drop]
    omega
  · rw [run_readBytes_of_lt (not_le.mp hlength)] at h
    cases h

lemma readByte : Takes 1 readByte := by
  intro buffer byte rest h
  cases buffer with
  | nil => cases h
  | cons byte rest =>
    cases h
    exact le_rfl

lemma readBoolean : Takes 1 readBoolean := readByte.bind fun _ => .pure _

lemma readIntLE : Takes 4 readIntLE := by
  intro buffer i rest h
  by_cases hlength : 4 ≤ buffer.length
  · rw [run_readIntLE_of_le hlength] at h
    cases h
    rw [List.length_drop]
    omega
  · rw [run_readIntLE_of_lt (not_le.mp hlength)] at h
    cases h

end Takes

/-! ## Beginnings of what is behind its length -/

/-- The beginning of what is behind an integer, if the integer is in it. -/
lemma take_drop_of_prefix {p bytes : List UInt8} {i : Int32} (hbegins : p <+: intLE i ++ bytes)
    (hlength : 4 ≤ p.length) : p.take 4 = intLE i ∧ p.drop 4 <+: bytes := by
  obtain ⟨rest, hp⟩ := hbegins
  have htake := congrArg (List.take 4) hp
  have hdrop := congrArg (List.drop 4) hp
  rw [List.take_append_of_le_length hlength, List.take_left' (length_intLE i)] at htake
  rw [List.drop_append_of_le_length hlength, List.drop_left' (length_intLE i)] at hdrop
  exact ⟨htake, rest, hdrop⟩

end ByteBuf

end SrgpGame.Gateway
