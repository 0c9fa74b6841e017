import SrgpGame.Buffer.ReadBuffer

set_option autoImplicit false

/-!
# Reading back what was written

`read_object` applied to what `write_object` wrote for a value, followed by any bytes, returns the
normal form of the value and leaves exactly those bytes. The proof composes the rules for readers
(`Reader.Reads`) along the structure of the value.

## Main results

* `reads_scalar`, `reads_array`, `reads_table` — the scalars, the typed arrays and the tables.
* `reads_writeObject`, `reads_readObject` — every valid value, with enough depth and with the depth
  that the reader starts with.
* `readObject_writeObject` — the round trip.
-/

namespace SrgpGame

namespace Buffer

open Reader

variable {malformed : List UInt8 → String}

/-! ## Tags and sizes -/

/-- The tag is read first and selects what follows. -/
lemma reads_tagged (tag : UInt8) {depth : ℕ} {bs : List UInt8} {v : Value}
    (h : Reads (readTagged malformed (readObjectAux malformed depth) tag) bs v) :
    Reads (readObjectAux malformed (depth + 1)) (tag :: bs) v :=
  (reads_byte .bufferUnderflow tag).bind h

/-- A size below `2 ^ 31` is written and read exactly. -/
lemma toInt_ofNat_len {len : ℕ} (hlen : len < 2 ^ 31) : (Int32.ofNat len).toInt.toNat = len := by
  rw [Int32.toInt_ofNat_of_lt hlen, Int.toNat_natCast]

lemma not_ofNat_lt_zero {len : ℕ} (hlen : len < 2 ^ 31) : ¬Int32.ofNat len < 0 := by
  rw [Int32.lt_zero_iff, Int32.toInt_ofNat_of_lt hlen]
  omega

/-- The size is read first and given to what follows. -/
lemma reads_sized {α : Type} {f : Int32 → Reader ReadError α} {len : ℕ} {bs : List UInt8} {a : α}
    (h : Reads (f (Int32.ofNat len)) bs a) :
    Reads (int .bufferUnderflow >>= f) (lenLE len ++ bs) a :=
  (reads_int .bufferUnderflow (Int32.ofNat len)).bind h

/-! ## Scalars -/

variable (malformed) in
/-- The bytes of a string are read as the string. -/
lemma reads_readStringImpl {s : String} (hlen : s.utf8ByteSize < 2 ^ 31) :
    Reads (readStringImpl malformed (Int32.ofNat (Utf8.encode s).length)) (Utf8.encode s) s := by
  have hb : (Utf8.encode s).length < 2 ^ 31 := by rwa [Utf8.length_encode]
  unfold readStringImpl
  by_cases hempty : Int32.ofNat (Utf8.encode s).length ≤ 0
  · have hzero : (Utf8.encode s).length = 0 := by
      rw [Int32.le_iff_toInt_le, Int32.toInt_zero, Int32.toInt_ofNat_of_lt hb] at hempty
      omega
    have hs : s = "" := by
      rw [Utf8.length_encode] at hzero
      exact String.utf8ByteSize_eq_zero_iff.mp hzero
    rw [if_pos hempty, List.length_eq_zero_iff.mp hzero, hs]
    exact Reads.pure ""
  · rw [if_neg hempty, toInt_ofNat_len hb]
    have htake : Reads (take ReadError.bufferUnderflow (Utf8.encode s).length) (Utf8.encode s)
        (Utf8.encode s) := reads_take _ rfl
    have h := htake.map (Utf8.decode malformed)
    rwa [Utf8.decode_encode] at h

/-- A string is read under the tag that its length selects. -/
lemma reads_writeStr {s : String} (hlen : s.utf8ByteSize < 2 ^ 31) (depth : ℕ) :
    Reads (readObjectAux malformed (depth + 1)) (writeStr s) (.str s) := by
  unfold writeStr
  have himpl := (reads_readStringImpl malformed hlen).map Value.str
  cases htag : strTag (Utf8.encode s).length with
  | none =>
    simp only [htag]
    exact reads_tagged TYPE_STRING (reads_sized himpl)
  | some tag =>
    simp only [htag]
    refine reads_tagged _ ?_
    have hread := strLength_strTag htag
    -- a string tag is none of the other tags
    have hother : readTagged malformed (readObjectAux malformed depth) tag =
        .str <$> readStringImpl malformed (Int32.ofNat (Utf8.encode s).length) := by
      have hne : ∀ other : UInt8, strLength other = none → tag ≠ other := by
        rintro other hnone rfl
        rw [hread] at hnone
        cases hnone
      unfold readTagged
      rw [if_neg (hne _ rfl), if_neg (hne _ rfl), if_neg (hne _ rfl), if_neg (hne _ rfl),
        if_neg (hne _ rfl), if_neg (hne _ rfl), if_neg (hne _ rfl), if_neg (hne _ rfl),
        if_neg (hne _ rfl), if_neg (hne _ rfl), if_neg (hne _ rfl), if_neg (hne _ rfl),
        if_neg (hne _ rfl), hread]
    rw [hother]
    exact himpl

/-- **Scalars**: a scalar is read back at every depth. -/
theorem reads_scalar {v : Value} (hv : v.Valid) (hs : v.IsScalar) (depth : ℕ) :
    Reads (readObjectAux malformed (depth + 1)) (writeObject v) v := by
  cases hv with
  | null => exact reads_tagged _ (Reads.pure _)
  | bool b =>
    cases b
    · exact reads_tagged TYPE_FALSE (Reads.pure _)
    · exact reads_tagged TYPE_TRUE (Reads.pure _)
  | int v => exact reads_tagged TYPE_INT ((reads_int _ v).map _)
  | long v => exact reads_tagged TYPE_LONG ((reads_long _ v).map _)
  | double bits => exact reads_tagged TYPE_DOUBLE ((reads_word _ bits).map _)
  | str hlen => exact reads_writeStr hlen depth
  | _ => exact hs.elim

/-! ## Arrays -/

/-- An element that may be null, as a value. -/
def ofNullable {α : Type} (inj : α → Value) : Option α → Value
  | none => .null
  | some v => inj v

variable (malformed) in
/-- **Typed arrays**: if every element is written as a scalar that the cast accepts, the elements
are read back.

**Proof sketch.** The loop rule, with one object and one cast in each round. -/
theorem reads_array {α β : Type} (inj : α → Value) (dec : α → β) (cast : Value → Option β)
    {xs : List α} (hlen : xs.length < 2 ^ 31)
    (hinj : ∀ x ∈ xs, (inj x).IsScalar ∧ (inj x).Valid)
    (hcast : ∀ x, cast (inj x) = some (dec x)) (depth : ℕ) :
    Reads (readArray (readObjectAux malformed (depth + 1)) cast (Int32.ofNat xs.length))
      (xs.flatMap fun x => writeObject (inj x)) (xs.map dec) := by
  unfold readArray
  rw [if_neg (not_ofNat_lt_zero hlen), toInt_ofNat_len hlen]
  refine Reads.times fun x hx => ?_
  obtain ⟨hs, hw⟩ := hinj x hx
  rw [← List.append_nil (writeObject (inj x))]
  refine (reads_scalar hw hs depth).bind ?_
  rw [hcast x]
  exact Reads.pure _

/-! ## Tables -/

/-- **Tables**: the entries of a map are read back one after another and fill a map.

**Proof sketch.** The accumulating loop rule, with one key and one value in each round. -/
theorem reads_table {read : Reader ReadError Value} {es : List (Value × Value)}
    (hlen : es.length < 2 ^ 31)
    (hkeys : ∀ e ∈ es, Reads read (writeObject e.1) e.1.readBack)
    (hvals : ∀ e ∈ es, Reads read (writeObject e.2) e.2.readBack) :
    Reads (readTagged malformed read TYPE_TABLE) (lenLE es.length ++ es.flatMap writeEntry)
      (.map (Value.fill (Value.readBackEntries es))) := by
  have hround : ∀ e ∈ es, ∀ vs, Reads (do
      let key ← read
      let var ← read
      return Value.putEntry vs key var) (writeEntry e)
        (Value.putEntry vs e.1.readBack e.2.readBack) := by
    intro e he vs
    have hpair := (hkeys e he).bind (f := fun key => do
      let var ← read
      return Value.putEntry vs key var) ((hvals e he).bind (Reads.pure _))
    rwa [List.append_nil] at hpair
  have hloop := Reads.foldTimes hround []
  rw [← Value.fill_readBackEntries] at hloop
  refine reads_sized ?_
  rw [toInt_ofNat_len hlen]
  exact hloop.map Value.map

/-! ## The round trip -/

/-- The bytes of a part of a container fit into the depth that its tag leaves. -/
lemma length_le_flatMap {α : Type} (enc : α → List UInt8) {x : α} {xs : List α} (hx : x ∈ xs) :
    (enc x).length ≤ (xs.flatMap enc).length := by
  obtain ⟨ys, zs, rfl⟩ := List.append_of_mem hx
  rw [List.flatMap_append, List.flatMap_cons, List.length_append, List.length_append]
  omega

/-- The depth that a tag leaves. -/
lemma exists_depth {tag : UInt8} {len depth : ℕ} {bs : List UInt8}
    (h : (tag :: (lenLE len ++ bs)).length ≤ depth) : ∃ d, depth = d + 2 ∧ bs.length ≤ d + 1 := by
  have hlen : (lenLE len).length = 4 := length_intLE _
  rw [List.length_cons, List.length_append, hlen] at h
  exact ⟨depth - 2, by omega, by omega⟩

/-- A scalar is read back when the depth is at least the number of its bytes. -/
lemma reads_scalar_of_le {v : Value} (hv : v.Valid) (hs : v.IsScalar) {depth : ℕ}
    (hdepth : (writeObject v).length ≤ depth) :
    Reads (readObjectAux malformed depth) (writeObject v) v := by
  have hpos := List.length_pos_of_ne_nil (writeObject_ne_nil v)
  obtain ⟨d, rfl⟩ : ∃ d, depth = d + 1 := ⟨depth - 1, by omega⟩
  exact reads_scalar hv hs d

/-- The elements of an array that may be null are scalars when the others are. -/
lemma isScalar_ofNullable {α : Type} {inj : α → Value} (o : Option α)
    (h : ∀ v, o = some v → (inj v).IsScalar ∧ (inj v).Valid) :
    (ofNullable inj o).IsScalar ∧ (ofNullable inj o).Valid := by
  cases o with
  | none => exact ⟨trivial, .null⟩
  | some v => exact h v rfl

lemma writeObject_ofNullable {α : Type} {inj : α → Value} (write : α → List UInt8)
    (h : ∀ v, writeObject (inj v) = write v) :
    writeNullable write = fun o => writeObject (ofNullable inj o) := by
  funext o
  cases o with
  | none => rfl
  | some v => exact (h v).symm

/-- **Every valid value is read back**, when the depth is at least the number of bytes.

**Proof sketch.** Induction on validity. Each case reads the tag, the size and then the parts,
which are shorter than the whole. -/
theorem reads_writeObject {v : Value} (hv : v.Valid) {depth : ℕ}
    (hdepth : (writeObject v).length ≤ depth) :
    Reads (readObjectAux malformed depth) (writeObject v) v.readBack := by
  induction hv generalizing depth with
  | null => exact reads_scalar_of_le .null trivial hdepth
  | bool b => exact reads_scalar_of_le (.bool b) trivial hdepth
  | int v => exact reads_scalar_of_le (.int v) trivial hdepth
  | long v => exact reads_scalar_of_le (.long v) trivial hdepth
  | double bits => exact reads_scalar_of_le (.double bits) trivial hdepth
  | str hlen => exact reads_scalar_of_le (.str hlen) trivial hdepth
  | @bytes bs hlen =>
    obtain ⟨d, rfl, -⟩ := exists_depth hdepth
    refine reads_tagged _ (reads_sized ?_)
    refine Reads.map ?_ _
    unfold getBytes
    rw [if_neg (not_ofNat_lt_zero hlen)]
    exact reads_take _ (toInt_ofNat_len hlen).symm
  | @intArray vs hlen =>
    obtain ⟨d, rfl, -⟩ := exists_depth hdepth
    have h := reads_array malformed .int some castInteger hlen
      (fun v _ => ⟨trivial, .int v⟩) (fun _ => rfl) d
    exact reads_tagged _ (reads_sized (h.map Value.integerArray))
  | @integerArray vs hlen =>
    obtain ⟨d, rfl, -⟩ := exists_depth hdepth
    have h := reads_array malformed (ofNullable .int) id castInteger hlen
      (fun o _ => isScalar_ofNullable o fun v _ => ⟨trivial, .int v⟩)
      (fun o => by cases o <;> rfl) d
    rw [← writeObject_ofNullable writeInt fun _ => rfl, List.map_id] at h
    exact reads_tagged _ (reads_sized (h.map Value.integerArray))
  | @longArray vs hlen =>
    obtain ⟨d, rfl, -⟩ := exists_depth hdepth
    have h := reads_array malformed .long some castLong hlen
      (fun v _ => ⟨trivial, .long v⟩) (fun _ => rfl) d
    exact reads_tagged _ (reads_sized (h.map Value.boxedLongArray))
  | @boxedLongArray vs hlen =>
    obtain ⟨d, rfl, -⟩ := exists_depth hdepth
    have h := reads_array malformed (ofNullable .long) id castLong hlen
      (fun o _ => isScalar_ofNullable o fun v _ => ⟨trivial, .long v⟩)
      (fun o => by cases o <;> rfl) d
    rw [← writeObject_ofNullable writeLong fun _ => rfl, List.map_id] at h
    exact reads_tagged _ (reads_sized (h.map Value.boxedLongArray))
  | @stringArray vs hlen hstr =>
    obtain ⟨d, rfl, -⟩ := exists_depth hdepth
    have h := reads_array malformed (ofNullable .str) id castString hlen
      (fun o ho => isScalar_ofNullable o fun s hs => ⟨trivial, .str (hstr s (hs ▸ ho))⟩)
      (fun o => by cases o <;> rfl) d
    rw [← writeObject_ofNullable writeStr fun _ => rfl, List.map_id] at h
    exact reads_tagged _ (reads_sized (h.map Value.stringArray))
  | @boolArray vs hlen =>
    obtain ⟨d, rfl, -⟩ := exists_depth hdepth
    have h : Reads (times (readObjectAux malformed (d + 1)) vs.length) (vs.flatMap writeBool)
        (vs.map Value.bool) :=
      Reads.times fun b _ => reads_scalar (.bool b) trivial d
    refine reads_tagged _ (reads_sized ?_)
    rw [toInt_ofNat_len hlen]
    exact h.map Value.list
  | @list vs hlen hvs ih =>
    obtain ⟨d, rfl, hd⟩ := exists_depth hdepth
    rw [writeElements_eq] at hd
    have h : Reads (times (readObjectAux malformed (d + 1)) vs.length) (vs.flatMap writeObject)
        (vs.map Value.readBack) :=
      Reads.times fun v hv => ih v hv ((length_le_flatMap _ hv).trans hd)
    rw [writeObject, Value.readBack, writeElements_eq, Value.readBackList_eq]
    refine reads_tagged _ (reads_sized ?_)
    rw [toInt_ofNat_len hlen]
    exact h.map Value.list
  | @set vs hlen hvs ih =>
    obtain ⟨d, rfl, hd⟩ := exists_depth hdepth
    have hone : (1 : Int32).toInt = 1 := rfl
    have hfit : (1 : Int32).toInt + vs.length ≤ 2 ^ 31 := by omega
    rw [writeNumbered_eq] at hd
    rw [writeObject, Value.readBack, writeNumbered_eq, Value.readBackNumbered_eq,
      ← Value.length_numbered 1 vs]
    rw [← Value.length_numbered 1 vs] at hlen
    refine reads_tagged _ (reads_table hlen (fun e he => ?_) (fun e he => ?_))
    · obtain ⟨q, hq, -⟩ := Value.mem_numbered hfit he
      rw [hq]
      exact reads_scalar (.int q) trivial d
    · obtain ⟨q, -, -, hmem⟩ := Value.mem_numbered hfit he
      have hle := (length_le_flatMap writeEntry he).trans hd
      rw [writeEntry, List.length_append] at hle
      exact ih e.2 hmem (by omega)
  | @map es hlen hkeys hvals hdistinct ihk ihv =>
    obtain ⟨d, rfl, hd⟩ := exists_depth hdepth
    rw [writeEntries_eq] at hd
    rw [writeObject, Value.readBack, writeEntries_eq]
    have hle : ∀ e ∈ es, (writeObject e.1).length + (writeObject e.2).length ≤ d + 1 := by
      intro e he
      have h := (length_le_flatMap writeEntry he).trans hd
      rwa [writeEntry, List.length_append] at h
    refine reads_tagged _ (reads_table hlen (fun e he => ?_) (fun e he => ?_))
    · exact ihk e he (by have := hle e he; omega)
    · exact ihv e he (by have := hle e he; omega)

variable (malformed) in
/-- **`read_object` reads what `write_object` wrote** for a valid value. -/
theorem reads_readObject {v : Value} (hv : v.Valid) :
    Reads (readObject malformed) (writeObject v) v.readBack := by
  intro rest
  have hdepth : (writeObject v).length ≤ (writeObject v ++ rest).length := by
    rw [List.length_append]
    omega
  exact reads_writeObject hv hdepth rest

/-- **The round trip.** `read_object` applied to the bytes that `write_object` writes for a
well-formed value, followed by any bytes, returns the normal form of the value and leaves exactly
those bytes. -/
theorem readObject_writeObject (malformed : List UInt8 → String) {v : Value} (hv : v.WellFormed)
    (rest : List UInt8) :
    (readObject malformed).run (writeObject v ++ rest) = .ok (v.normal, rest) := by
  rw [← (Value.readBack_eq_normal_iff hv.valid).mpr hv.keepsKeys]
  exact reads_readObject malformed hv.valid rest

/-- A map with a set, a list and two arrays in it. -/
def sampleValue : Value :=
  .map [(.str "a", .set [.list [.int 5, .null], .boolArray [true]]),
    (.int 3, .stringArray [some "b", none])]

lemma wellFormed_sampleValue : sampleValue.WellFormed := by
  refine .map (by decide) ?_ ?_ ?_ ?_
  · simp [Value.IsScalar]
  · simp only [List.forall_mem_cons]
    exact ⟨.str (by decide), .int 3, by simp⟩
  · simp only [List.forall_mem_cons]
    refine ⟨.set (by decide) ?_, .stringArray (by decide) ?_, by simp⟩
    · simp only [List.forall_mem_cons]
      refine ⟨.list (by decide) ?_, .boolArray (by decide), by simp⟩
      simp only [List.forall_mem_cons]
      exact ⟨.int 5, .null, by simp⟩
    · simp
      decide
  · simp [Value.equals]

/-- The sample is read back with its set keyed from one on, in front of one more byte. -/
theorem readObject_writeObject_sampleValue :
    (readObject fun _ => "").run (writeObject sampleValue ++ [7]) =
      .ok (.map [(.str "a", .map [(.int 1, .list [.int 5, .null]), (.int 2, .list [.bool true])]),
        (.int 3, .stringArray [some "b", none])], [7]) :=
  readObject_writeObject (fun _ => "") wellFormed_sampleValue [7]

end Buffer

end SrgpGame
