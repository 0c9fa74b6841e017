import SrgpGame.Buffer.RoundTrip

set_option autoImplicit false

/-!
# Typed writers and readers

Beside `write_object` and `read_object`, the buffers have a writer and a reader for each of several
types, which callers use in pairs. This file asks of a sequence of typed writes whether the typed
readers, called in the same order, return what was written and end where the writing ended, and
whether `read_object` does so too.

## Main definitions

* `Call` — a call of a typed writer.
* `Typed.read` — the typed readers.
* `ReturnsWritten` — the written values are read back, by either kind of reader.

## Main results

* `reads_write_iff` — the typed reader of one call.
* `returnsWritten_iff` — exactly which sequences of calls are read back.

## Design notes

A null argument makes the typed writers for `byte[]` and `Map` throw before they write anything,
so such a call leaves nothing to read and is not among the calls.
-/

namespace SrgpGame

namespace Buffer

open Reader

/-! ## Typed writers -/

/-- `write_bytes`. -/
def writeBytes (b : List UInt8) : List UInt8 := TYPE_BYTES :: (lenLE b.length ++ b)

/-- `write_table(Map)`. -/
def writeTable (v : List (Value × Value)) : List UInt8 :=
  TYPE_TABLE :: (lenLE v.length ++ writeEntries v)

/-- **A call of a typed writer**, with an argument that the virtual machine can hold. -/
inductive Call where
  | write_bool (v : Bool)
  | write_int (v : Int32)
  | write_long (v : Int64)
  | write_bytes (b : List UInt8) (hlen : b.length < 2 ^ 31)
  | write_table (v : List (Value × Value)) (hv : (Value.map v).Valid)

namespace Call

/-- The bytes that the call appends. -/
def write : Call → List UInt8
  | write_bool v => writeBool v
  | write_int v => writeInt v
  | write_long v => writeLong v
  | write_bytes b _ => writeBytes b
  | write_table v _ => writeTable v

/-- The argument. -/
def value : Call → Value
  | write_bool v => .bool v
  | write_int v => .int v
  | write_long v => .long v
  | write_bytes b _ => .bytes b
  | write_table v _ => .map v

lemma valid_value (c : Call) : c.value.Valid := by
  cases c with
  | write_bool v => exact .bool v
  | write_int v => exact .int v
  | write_long v => exact .long v
  | write_bytes b hlen => exact .bytes hlen
  | write_table v hv => exact hv

/-- **The writers agree**: a typed writer writes what `write_object` writes. -/
theorem write_eq (c : Call) : c.write = writeObject c.value := by
  cases c with
  | write_bool v => rfl
  | write_int v => rfl
  | write_long v => rfl
  | write_bytes b _ => rw [write, value, writeObject, writeBytes]
  | write_table v _ => rw [write, value, writeObject, writeTable]

end Call

/-! ## Typed readers -/

/-- How a typed reader fails. -/
inductive TypedError where
  /-- `IOException`, with its message. -/
  | ioException (message : String)
  /-- A failure of the buffer or of `read_object`. -/
  | read (e : ReadError)
  /-- `NullPointerException`. -/
  | nullPointer
  deriving DecidableEq, Repr

/-- `read_byte`. -/
def readByte : Reader TypedError UInt8 := byte (.read .bufferUnderflow)

/-- `read_bool`. -/
def readBool : Reader TypedError Bool := do
  let b ← readByte
  return b == 1

/-- `read_int`. -/
def readInt : Reader TypedError Int32 := do
  let tag ← readByte
  if tag ≠ TYPE_INT then throw (.ioException "read_int:type error")
  else int (.read .bufferUnderflow)

/-- `read_long`. -/
def readLong : Reader TypedError Int64 := do
  let tag ← readByte
  if tag ≠ TYPE_LONG then throw (.ioException "read_int:type error")
  else long (.read .bufferUnderflow)

/-- `read_bytes`, which expects the length at once. -/
def readBytes : Reader TypedError (List UInt8) := do
  let len ← int (.read .bufferUnderflow)
  (getBytes len).mapError .read

/-- `Hashtable.put`, which accepts neither a null key nor a null value. -/
def putTable (vs : List (Value × Value)) (key var : Value) :
    Reader TypedError (List (Value × Value)) :=
  if var.isNull || key.isNull then throw .nullPointer
  else pure (Value.putEntry vs key var)

section Read

variable (malformed : List UInt8 → String)

/-- A round of `read_table`: a key and a value are read and put into the table. -/
def readEntry (vs : List (Value × Value)) : Reader TypedError (List (Value × Value)) := do
  let key ← (readObject malformed).mapError .read
  let var ← (readObject malformed).mapError .read
  putTable vs key var

/-- `read_table`: the table, or null. -/
def readTable : Reader TypedError (Option (List (Value × Value))) := do
  let tag ← readByte
  if tag = TYPE_NIL then pure none
  else if tag ≠ TYPE_TABLE then throw (.ioException "read_table:type error")
  else do
    let len ← int (.read .bufferUnderflow)
    some <$> foldTimes (readEntry malformed) len.toInt.toNat []

/-- The typed readers. -/
inductive Typed where
  | read_bool
  | read_int
  | read_long
  | read_bytes
  | read_table
  deriving DecidableEq, Repr

/-- The result of a typed reader, as a value. -/
def Typed.read : Typed → Reader TypedError Value
  | read_bool => .bool <$> readBool
  | read_int => .int <$> readInt
  | read_long => .long <$> readLong
  | read_bytes => .bytes <$> readBytes
  | read_table => (fun vs => vs.elim .null .map) <$> readTable malformed

/-- The reader that corresponds to a writer. -/
def Call.typed : Call → Typed
  | write_bool _ => .read_bool
  | write_int _ => .read_int
  | write_long _ => .read_long
  | write_bytes _ _ => .read_bytes
  | write_table _ _ => .read_table

/-- **The written values are returned**: the typed readers, called in the order of the writers,
return the written values in normal form and consume exactly the bytes that were written, and
`read_object`, called as often, does the same. -/
def ReturnsWritten (calls : List Call) : Prop :=
  Reads (calls.mapM fun c => c.typed.read malformed) (calls.flatMap Call.write)
      (calls.map fun c => c.value.normal) ∧
    Reads (times (readObject malformed) calls.length) (calls.flatMap Call.write)
      (calls.map fun c => c.value.normal)

end Read

/-! ## The scalar readers -/

/-- A tag is read first. -/
lemma reads_readByte (b : UInt8) : Reads readByte [b] b := reads_byte _ b

lemma reads_readBool (v : Bool) : Reads readBool (writeBool v) v := by
  cases v
  · exact (reads_readByte TYPE_FALSE).bind (Reads.pure _)
  · exact (reads_readByte TYPE_TRUE).bind (Reads.pure _)

lemma reads_readInt (v : Int32) : Reads readInt (writeInt v) v :=
  (reads_readByte TYPE_INT).bind (reads_int _ v)

lemma reads_readLong (v : Int64) : Reads readLong (writeLong v) v :=
  (reads_readByte TYPE_LONG).bind (reads_long _ v)

/-! ## Byte arrays -/

/-- `read_bytes` takes four bytes for the length and none for a tag. -/
lemma length_of_readBytes {buf bs rest : List UInt8} (h : readBytes.run buf = .ok (bs, rest)) :
    buf.length = 4 + bs.length + rest.length := by
  obtain ⟨len, tail, hint, hget⟩ := run_bind_eq_ok h
  have hbuf := run_int_eq_ok hint
  have hbytes := run_mapError_eq_ok hget
  unfold getBytes at hbytes
  split at hbytes
  · cases hbytes
  · obtain ⟨rfl, -⟩ := run_take_eq_ok hbytes
    rw [List.length_append] at hbuf
    omega

/-- **Byte arrays are not read back**: the tag that was written is never read, so `read_bytes`
does not return the array and end behind it, whatever its length is. -/
theorem not_reads_readBytes (b : List UInt8) : ¬Reads readBytes (writeBytes b) b := by
  intro hread
  have hlen := length_of_readBytes (hread [])
  have hint : (lenLE b.length).length = 4 := length_intLE _
  rw [List.append_nil, writeBytes, List.length_cons, List.length_append, hint,
    List.length_nil] at hlen
  omega

/-! ## Tables -/

variable {malformed : List UInt8 → String}

variable (malformed) in
/-- A valid value is read back inside a typed reader. -/
lemma reads_object {v : Value} (hv : v.Valid) :
    Reads ((readObject malformed).mapError TypedError.read) (writeObject v) v.readBack :=
  (reads_readObject malformed hv).mapError _

/-- What a round does is decided by the table that takes the entry. -/
lemma reads_readEntry {e : Value × Value} (hkey : e.1.Valid) (hval : e.2.Valid)
    (hnull : (e.2.isNull || e.1.isNull) = false) (vs : List (Value × Value)) :
    Reads (readEntry malformed vs) (writeEntry e)
      (Value.putEntry vs e.1.readBack e.2.readBack) := by
  have hput : putTable vs e.1.readBack e.2.readBack =
      pure (Value.putEntry vs e.1.readBack e.2.readBack) := by
    rw [putTable, Value.isNull_readBack, Value.isNull_readBack, hnull]
    rfl
  have hpair := (reads_object malformed hkey).bind (f := fun key => do
    let var ← (readObject malformed).mapError TypedError.read
    putTable vs key var) ((reads_object malformed hval).bind (hput ▸ Reads.pure _))
  rwa [List.append_nil] at hpair

/-- The table refuses an entry with a null key or a null value. -/
lemma fails_readEntry {e : Value × Value} (hkey : e.1.Valid) (hval : e.2.Valid)
    (hnull : (e.2.isNull || e.1.isNull) = true) (vs : List (Value × Value)) :
    Fails (readEntry malformed vs) (writeEntry e) .nullPointer := by
  have hput : putTable vs e.1.readBack e.2.readBack = throw .nullPointer := by
    rw [putTable, Value.isNull_readBack, Value.isNull_readBack, hnull]
    rfl
  have hpair := (reads_object malformed hkey).bind_fails (f := fun key => do
    let var ← (readObject malformed).mapError TypedError.read
    putTable vs key var) ((reads_object malformed hval).bind_fails (hput ▸ fails_throw _))
  rwa [List.append_nil] at hpair

/-- The loop of `read_table` starts behind the tag and the number of entries. -/
lemma reads_readTable {v : List (Value × Value)} (hlen : v.length < 2 ^ 31)
    {vs : List (Value × Value)}
    (h : Reads (foldTimes (readEntry malformed) v.length []) (v.flatMap writeEntry) vs) :
    Reads (readTable malformed) (writeTable v) (some vs) := by
  rw [writeTable, writeEntries_eq]
  refine (reads_readByte TYPE_TABLE).bind ((reads_int _ (Int32.ofNat v.length)).bind ?_)
  rw [toInt_ofNat_len hlen]
  exact h.map some

lemma fails_readTable {v : List (Value × Value)} (hlen : v.length < 2 ^ 31) {e : TypedError}
    (h : Fails (foldTimes (readEntry malformed) v.length []) (v.flatMap writeEntry) e) :
    Fails (readTable malformed) (writeTable v) e := by
  rw [writeTable, writeEntries_eq]
  refine (reads_readByte TYPE_TABLE).bind_fails
    ((reads_int _ (Int32.ofNat v.length)).bind_fails ?_)
  rw [toInt_ofNat_len hlen]
  exact h.map some

/-- No key and no value of the table itself is null. -/
def NoNull (v : List (Value × Value)) : Prop := ∀ e ∈ v, (e.2.isNull || e.1.isNull) = false

/-- **A table without null is read back.** -/
theorem reads_readTable_of_noNull {v : List (Value × Value)} (hv : (Value.map v).Valid)
    (hnull : NoNull v) :
    Reads (readTable malformed) (writeTable v)
      (some (Value.fill (Value.readBackEntries v))) := by
  cases hv with
  | map hlen hkeys hvals _ =>
    have hloop := Reads.foldTimes (fun e he =>
      @reads_readEntry malformed e (hkeys e he) (hvals e he) (hnull e he)) []
    rw [← Value.fill_readBackEntries] at hloop
    exact reads_readTable hlen hloop

/-- **A table with null is not read back**: the round that puts the null fails. -/
theorem fails_readTable_of_null {v : List (Value × Value)} (hv : (Value.map v).Valid)
    (hnull : ¬NoNull v) : Fails (readTable malformed) (writeTable v) .nullPointer := by
  cases hv with
  | map hlen hkeys hvals _ =>
    have hround : ∀ e ∈ v, ∀ vs, Reads (readEntry malformed vs) (writeEntry e)
        (Value.putEntry vs e.1.readBack e.2.readBack) ∨
          Fails (readEntry malformed vs) (writeEntry e) .nullPointer := by
      intro e he vs
      cases hne : e.2.isNull || e.1.isNull with
      | false => exact Or.inl (reads_readEntry (hkeys e he) (hvals e he) hne vs)
      | true => exact Or.inr (fails_readEntry (hkeys e he) (hvals e he) hne vs)
    rw [NoNull] at hnull
    push Not at hnull
    obtain ⟨e, he, hne⟩ := hnull
    have hfail : ∃ e ∈ v, ∀ vs, Fails (readEntry malformed vs) (writeEntry e) .nullPointer :=
      ⟨e, he, fails_readEntry (hkeys e he) (hvals e he) (eq_true_of_ne_false hne)⟩
    exact fails_readTable hlen (Fails.foldTimes hround hfail [])

/-! ## One call -/

/-- The calls that are read back: those of scalars, and those of tables without null whose keys
stay different when they are written. -/
def Call.Kept : Call → Prop
  | write_bool _ | write_int _ | write_long _ => True
  | write_bytes _ _ => False
  | write_table v _ => NoNull v ∧ (Value.map v).KeepsKeys

/-- **The typed reader of a call** returns the normal form of the written value and ends where the
writing ended just if the call is one of those. -/
theorem reads_write_iff (malformed : List UInt8 → String) (c : Call) :
    Reads (c.typed.read malformed) c.write c.value.normal ↔ c.Kept := by
  cases c with
  | write_bool v => exact iff_of_true ((reads_readBool v).map Value.bool) trivial
  | write_int v => exact iff_of_true ((reads_readInt v).map Value.int) trivial
  | write_long v => exact iff_of_true ((reads_readLong v).map Value.long) trivial
  | write_bytes b _ =>
    refine iff_of_false (fun h => not_reads_readBytes b fun rest => ?_) not_false
    obtain ⟨bs, hrun, hbs⟩ := run_map_eq_ok (h rest)
    rwa [Value.bytes.inj hbs] at hrun
  | write_table v hv =>
    by_cases hnull : NoNull v
    · have hread := (@reads_readTable_of_noNull malformed v hv hnull).map
        fun vs => vs.elim Value.null Value.map
      have hiff := Value.readBack_eq_normal_iff hv
      refine ⟨fun h => ⟨hnull, hiff.mp (hread.unique h)⟩, fun h => ?_⟩
      have hback := hiff.mpr h.2
      rw [Value.readBack] at hback
      rw [Call.value, ← hback]
      exact hread
    · have hfail := (@fails_readTable_of_null malformed v hv hnull).map
        fun vs => vs.elim Value.null Value.map
      exact iff_of_false hfail.not_reads fun h => hnull h.1

/-- The keys of a call that is read back are kept. -/
lemma Call.Kept.keepsKeys {c : Call} (h : c.Kept) : c.value.KeepsKeys := by
  cases c with
  | write_table v hv => exact h.2
  | _ => trivial

/-! ## Sequences of calls -/

/-- **Sequences of calls.** The written values are returned for all beginnings of a sequence of
calls just if each of its calls is read back.

**Proof sketch.** From right to left the rules for sequences compose the calls. From left to right,
the calls before a call are read up to its first byte, so the sequence up to and with it says what
its own reader does. -/
theorem returnsWritten_iff (malformed : List UInt8 → String) (calls : List Call) :
    (∀ cs, cs <+: calls → ReturnsWritten malformed cs) ↔ ∀ c ∈ calls, c.Kept := by
  constructor
  · intro h c hc
    obtain ⟨before, after, rfl⟩ := List.append_of_mem hc
    have hbefore := (h before (List.prefix_append _ _)).1
    have hupto := (h (before ++ [c]) (by simp)).1
    exact (reads_write_iff malformed c).mp (hbefore.of_mapM_concat hupto)
  · intro h cs hcs
    have hkept : ∀ c ∈ cs, c.Kept := fun c hc => h c (hcs.subset hc)
    refine ⟨Reads.mapM fun c hc => (reads_write_iff malformed c).mpr (hkept c hc), ?_⟩
    refine Reads.times fun c hc => ?_
    rw [← (Value.readBack_eq_normal_iff c.valid_value).mpr (hkept c hc).keepsKeys, c.write_eq]
    exact reads_readObject malformed c.valid_value

/-- A table that maps a string to the given value. -/
def sampleTable (var : Value) : List (Value × Value) := [(.str "a", var)]

lemma valid_sampleTable {var : Value} (hvar : var.Valid) : (Value.map (sampleTable var)).Valid := by
  refine .map (by simp [sampleTable]) ?_ ?_ ?_
  · simp only [sampleTable, List.forall_mem_singleton]
    exact .str (by decide)
  · simp only [sampleTable, List.forall_mem_singleton]
    exact hvar
  · exact List.pairwise_singleton _ _

/-- Neither an empty byte array nor a table with a null value is read back. -/
theorem not_returnsWritten_bytes_null :
    ¬ReturnsWritten (fun _ => "") [.write_bytes [] (by decide)] ∧
      ¬ReturnsWritten (fun _ => "")
        [.write_table (sampleTable .null) (valid_sampleTable .null)] := by
  constructor
  · rintro ⟨h, -⟩
    have hrun := h []
    cases hrun
  · rintro ⟨h, -⟩
    have hrun := h []
    cases hrun

end Buffer

end SrgpGame
