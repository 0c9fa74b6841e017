import SrgpGame.Lib.Machine

set_option autoImplicit false

/-!
# The values of the buffer format

The buffer format carries dynamically typed Java values. This file has the values that the writer
accepts and the reader returns, the equality under which a hash map identifies its keys, and the
normal form to which a value is changed by writing and reading it.

## Main definitions

* `Value` — a Java value.
* `Value.equals` — `Object.equals`, as it identifies the keys of a hash map.
* `Value.WellFormed` — what the virtual machine guarantees of a value, with scalar map keys.
* `Value.normal` — the normal form of a value.
* `Value.Valid`, `Value.readBack` — with any keys, what the virtual machine guarantees of a value
  and the value that is read back.
* `Value.KeepsKeys` — keys that differ also differ in normal form.

## Main results

* `Value.readBack_eq_normal_iff` — the normal form is read back just if the keys are kept.

## Design notes

A map is the list of its entries in iteration order, a set the list of its elements. A `double`
is its bit pattern.
-/

namespace SrgpGame

/-- A value that the buffer format can carry. -/
inductive Value where
  | null
  | bool (b : Bool)
  | int (v : Int32)
  | long (v : Int64)
  /-- A `double`, as its bits. -/
  | double (bits : UInt64)
  | str (s : String)
  /-- `byte[]`. -/
  | bytes (bs : List UInt8)
  /-- `int[]`. -/
  | intArray (vs : List Int32)
  /-- `Integer[]`, whose elements can be null. -/
  | integerArray (vs : List (Option Int32))
  /-- `long[]`. -/
  | longArray (vs : List Int64)
  /-- `Long[]`, whose elements can be null. -/
  | boxedLongArray (vs : List (Option Int64))
  /-- `String[]`, whose elements can be null. -/
  | stringArray (vs : List (Option String))
  /-- `boolean[]`. -/
  | boolArray (vs : List Bool)
  | list (vs : List Value)
  | set (vs : List Value)
  | map (es : List (Value × Value))

namespace Value

/-! ## Equality of keys -/

/-- The bits by which `Double.equals` compares: all patterns that are not a number are one. -/
def doubleToLongBits (bits : UInt64) : UInt64 :=
  if bits &&& 0x7ff0000000000000 = 0x7ff0000000000000 ∧ bits &&& 0x000fffffffffffff ≠ 0 then
    0x7ff8000000000000
  else bits

mutual

/-- `Object.equals` of values held by different objects: arrays are equal only to themselves. -/
def equals : Value → Value → Bool
  | .null, .null => true
  | .bool a, .bool b => a == b
  | .int a, .int b => a == b
  | .long a, .long b => a == b
  | .double a, .double b => doubleToLongBits a == doubleToLongBits b
  | .str a, .str b => a == b
  | .list as, .list bs => equalsList as bs
  | .set as, .set bs => as.length == bs.length && elementsIn as bs
  | .map es, .map fs => es.length == fs.length && entriesIn es fs
  | _, _ => false

/-- `List.equals`. -/
def equalsList : List Value → List Value → Bool
  | [], [] => true
  | a :: as, b :: bs => a.equals b && equalsList as bs
  | _, _ => false

/-- `Set.containsAll`. -/
def elementsIn : List Value → List Value → Bool
  | [], _ => true
  | a :: as, bs => bs.any (fun b => a.equals b) && elementsIn as bs

/-- Every entry of the first map is an entry of the second. -/
def entriesIn : List (Value × Value) → List (Value × Value) → Bool
  | [], _ => true
  | (k, v) :: es, fs => fs.any (fun f => k.equals f.1 && v.equals f.2) && entriesIn es fs

end

/-- `HashMap.put`: replaces the value of an equal key, or adds an entry. -/
def putEntry (es : List (Value × Value)) (key val : Value) : List (Value × Value) :=
  match es with
  | [] => [(key, val)]
  | (k, v) :: es => if key.equals k then (k, val) :: es else (k, v) :: putEntry es key val

/-- Whether a reference is null. -/
def isNull : Value → Bool
  | .null => true
  | _ => false

/-! ## Normal forms -/

mutual

/-- **The normal form** of a value: sets become maps keyed `1..n`, primitive arrays become boxed
arrays, and boolean arrays become lists. -/
def normal : Value → Value
  | .intArray vs => .integerArray (vs.map some)
  | .longArray vs => .boxedLongArray (vs.map some)
  | .boolArray vs => .list (vs.map .bool)
  | .list vs => .list (normalList vs)
  | .set vs => .map (normalNumbered 1 vs)
  | .map es => .map (normalEntries es)
  | v => v

/-- The normal forms of the elements of a list. -/
def normalList : List Value → List Value
  | [] => []
  | v :: vs => v.normal :: normalList vs

/-- The normal forms of the elements of a set, numbered from `p` on. -/
def normalNumbered (p : Int32) : List Value → List (Value × Value)
  | [] => []
  | v :: vs => (.int p, v.normal) :: normalNumbered (p + 1) vs

/-- The normal forms of the entries of a map. -/
def normalEntries : List (Value × Value) → List (Value × Value)
  | [] => []
  | (k, v) :: es => (k.normal, v.normal) :: normalEntries es

end

lemma normalList_eq (vs : List Value) : normalList vs = vs.map normal := by
  induction vs with
  | nil => rfl
  | cons v vs ih => rw [normalList, ih, List.map_cons]

lemma normalEntries_eq (es : List (Value × Value)) :
    normalEntries es = es.map fun e => (e.1.normal, e.2.normal) := by
  induction es with
  | nil => rfl
  | cons e es ih => rw [normalEntries, ih, List.map_cons]

/-- The elements of a set with their numbers, from `p` on. -/
def numbered (p : Int32) : List Value → List (Value × Value)
  | [] => []
  | v :: vs => (.int p, v) :: numbered (p + 1) vs

@[simp] lemma length_numbered (p : Int32) (vs : List Value) :
    (numbered p vs).length = vs.length := by
  induction vs generalizing p with
  | nil => rfl
  | cons v vs ih => rw [numbered, List.length_cons, ih, List.length_cons]

/-- The numbers run upwards from `p`, as long as they fit. -/
lemma mem_numbered {p : Int32} {vs : List Value} (hfit : p.toInt + vs.length ≤ 2 ^ 31)
    {e : Value × Value} (he : e ∈ numbered p vs) :
    ∃ q : Int32, e.1 = .int q ∧ p.toInt ≤ q.toInt ∧ e.2 ∈ vs := by
  induction vs generalizing p with
  | nil => cases he
  | cons v vs ih =>
    rcases List.mem_cons.mp he with rfl | he
    · exact ⟨p, rfl, le_rfl, List.mem_cons_self⟩
    · cases vs with
      | nil => cases he
      | cons w ws =>
        rw [List.length_cons, List.length_cons] at hfit
        push_cast at hfit
        have hnext : (p + 1).toInt = p.toInt + 1 := Int32.toInt_succ_of_fits (by omega)
        obtain ⟨q, hq, hle, hmem⟩ := ih (p := p + 1)
          (by rw [hnext, List.length_cons]; push_cast; omega) he
        exact ⟨q, hq, by omega, List.mem_cons_of_mem v hmem⟩

/-- The numbers of a set are pairwise different keys. -/
lemma pairwise_numbered {p : Int32} {vs : List Value} (hfit : p.toInt + vs.length ≤ 2 ^ 31) :
    (numbered p vs).Pairwise fun e f => f.1.equals e.1 = false := by
  induction vs generalizing p with
  | nil => exact List.Pairwise.nil
  | cons v vs ih =>
    cases vs with
    | nil => simp [numbered]
    | cons w ws =>
      rw [List.length_cons, List.length_cons] at hfit
      push_cast at hfit
      have hnext : (p + 1).toInt = p.toInt + 1 := Int32.toInt_succ_of_fits (by omega)
      have hfit' : (p + 1).toInt + (w :: ws).length ≤ 2 ^ 31 := by
        rw [hnext, List.length_cons]
        push_cast
        omega
      refine List.pairwise_cons.mpr ⟨fun e he => ?_, ih hfit'⟩
      obtain ⟨q, hq, hle, -⟩ := mem_numbered hfit' he
      have hne : q ≠ p := by
        rintro rfl
        omega
      simp [hq, equals, hne]

/-! ## Well-formed values -/

/-- The scalar values. -/
def IsScalar : Value → Prop
  | .null | .bool _ | .int _ | .long _ | .double _ | .str _ => True
  | _ => False

lemma IsScalar.normal_eq {v : Value} (h : v.IsScalar) : v.normal = v := by
  cases v <;> first | rfl | exact h.elim

/-- Scalar keys stay different in the normal form. -/
lemma pairwise_normalEntries {es : List (Value × Value)} (hscalar : ∀ e ∈ es, e.1.IsScalar)
    (h : es.Pairwise fun e f => f.1.equals e.1 = false) :
    (normalEntries es).Pairwise fun e f => f.1.equals e.1 = false := by
  rw [normalEntries_eq]
  refine List.pairwise_map.mpr (h.imp_of_mem fun he hf hne => ?_)
  rwa [(hscalar _ he).normal_eq, (hscalar _ hf).normal_eq]

/-- **Well-formed values**: no collection, array or string is longer than the virtual machine
allows, and the keys of a map are scalar and pairwise different. -/
inductive WellFormed : Value → Prop
  | null : WellFormed .null
  | bool (b : Bool) : WellFormed (.bool b)
  | int (v : Int32) : WellFormed (.int v)
  | long (v : Int64) : WellFormed (.long v)
  | double (bits : UInt64) : WellFormed (.double bits)
  | str {s : String} (hlen : s.utf8ByteSize < 2 ^ 31) : WellFormed (.str s)
  | bytes {bs : List UInt8} (hlen : bs.length < 2 ^ 31) : WellFormed (.bytes bs)
  | intArray {vs : List Int32} (hlen : vs.length < 2 ^ 31) : WellFormed (.intArray vs)
  | integerArray {vs : List (Option Int32)} (hlen : vs.length < 2 ^ 31) :
      WellFormed (.integerArray vs)
  | longArray {vs : List Int64} (hlen : vs.length < 2 ^ 31) : WellFormed (.longArray vs)
  | boxedLongArray {vs : List (Option Int64)} (hlen : vs.length < 2 ^ 31) :
      WellFormed (.boxedLongArray vs)
  | stringArray {vs : List (Option String)} (hlen : vs.length < 2 ^ 31)
      (hstr : ∀ s, some s ∈ vs → s.utf8ByteSize < 2 ^ 31) : WellFormed (.stringArray vs)
  | boolArray {vs : List Bool} (hlen : vs.length < 2 ^ 31) : WellFormed (.boolArray vs)
  | list {vs : List Value} (hlen : vs.length < 2 ^ 31) (hvs : ∀ v ∈ vs, WellFormed v) :
      WellFormed (.list vs)
  | set {vs : List Value} (hlen : vs.length < 2 ^ 31) (hvs : ∀ v ∈ vs, WellFormed v) :
      WellFormed (.set vs)
  | map {es : List (Value × Value)} (hlen : es.length < 2 ^ 31)
      (hscalar : ∀ e ∈ es, e.1.IsScalar) (hkeys : ∀ e ∈ es, WellFormed e.1)
      (hvals : ∀ e ∈ es, WellFormed e.2)
      (hdistinct : es.Pairwise fun e f => f.1.equals e.1 = false) : WellFormed (.map es)

/-- **Valid values**: no collection, array or string is longer than the virtual machine allows,
and the keys of a map are pairwise different. -/
inductive Valid : Value → Prop
  | null : Valid .null
  | bool (b : Bool) : Valid (.bool b)
  | int (v : Int32) : Valid (.int v)
  | long (v : Int64) : Valid (.long v)
  | double (bits : UInt64) : Valid (.double bits)
  | str {s : String} (hlen : s.utf8ByteSize < 2 ^ 31) : Valid (.str s)
  | bytes {bs : List UInt8} (hlen : bs.length < 2 ^ 31) : Valid (.bytes bs)
  | intArray {vs : List Int32} (hlen : vs.length < 2 ^ 31) : Valid (.intArray vs)
  | integerArray {vs : List (Option Int32)} (hlen : vs.length < 2 ^ 31) : Valid (.integerArray vs)
  | longArray {vs : List Int64} (hlen : vs.length < 2 ^ 31) : Valid (.longArray vs)
  | boxedLongArray {vs : List (Option Int64)} (hlen : vs.length < 2 ^ 31) :
      Valid (.boxedLongArray vs)
  | stringArray {vs : List (Option String)} (hlen : vs.length < 2 ^ 31)
      (hstr : ∀ s, some s ∈ vs → s.utf8ByteSize < 2 ^ 31) : Valid (.stringArray vs)
  | boolArray {vs : List Bool} (hlen : vs.length < 2 ^ 31) : Valid (.boolArray vs)
  | list {vs : List Value} (hlen : vs.length < 2 ^ 31) (hvs : ∀ v ∈ vs, Valid v) :
      Valid (.list vs)
  | set {vs : List Value} (hlen : vs.length < 2 ^ 31) (hvs : ∀ v ∈ vs, Valid v) :
      Valid (.set vs)
  | map {es : List (Value × Value)} (hlen : es.length < 2 ^ 31) (hkeys : ∀ e ∈ es, Valid e.1)
      (hvals : ∀ e ∈ es, Valid e.2)
      (hdistinct : es.Pairwise fun e f => f.1.equals e.1 = false) : Valid (.map es)

/-- Scalar keys are a special case. -/
lemma WellFormed.valid {v : Value} (h : v.WellFormed) : v.Valid := by
  induction h with
  | null => exact .null
  | bool b => exact .bool b
  | int v => exact .int v
  | long v => exact .long v
  | double bits => exact .double bits
  | str hlen => exact .str hlen
  | bytes hlen => exact .bytes hlen
  | intArray hlen => exact .intArray hlen
  | integerArray hlen => exact .integerArray hlen
  | longArray hlen => exact .longArray hlen
  | boxedLongArray hlen => exact .boxedLongArray hlen
  | stringArray hlen hstr => exact .stringArray hlen hstr
  | boolArray hlen => exact .boolArray hlen
  | list hlen _ ih => exact .list hlen ih
  | set hlen _ ih => exact .set hlen ih
  | map hlen _ _ _ hdistinct ihk ihv => exact .map hlen ihk ihv hdistinct

/-! ## Filling a map -/

/-- A key that equals no key of the map is added at the end. -/
lemma putEntry_of_new {es : List (Value × Value)} {key val : Value}
    (h : ∀ e ∈ es, key.equals e.1 = false) : putEntry es key val = es ++ [(key, val)] := by
  induction es with
  | nil => rfl
  | cons e es ih =>
    have hhead : key.equals e.1 = false := h e List.mem_cons_self
    have htail := ih fun f hf => h f (List.mem_cons_of_mem e hf)
    rw [putEntry, hhead, htail]
    rfl

/-- **Entries with pairwise different keys fill a map in order.** -/
theorem foldl_putEntry {es acc : List (Value × Value)}
    (h : (acc ++ es).Pairwise fun e f => f.1.equals e.1 = false) :
    es.foldl (fun vs e => putEntry vs e.1 e.2) acc = acc ++ es := by
  induction es generalizing acc with
  | nil => simp
  | cons e es ih =>
    have hnew : ∀ f ∈ acc, e.1.equals f.1 = false := fun f hf =>
      (List.pairwise_append.mp h).2.2 f hf e List.mem_cons_self
    rw [List.foldl_cons, putEntry_of_new hnew, ih]
    · rw [List.append_assoc, List.singleton_append]
    · rwa [List.append_assoc, List.singleton_append]

/-- The map that the entries fill, put one after another. -/
def fill (es : List (Value × Value)) : List (Value × Value) :=
  es.foldl (fun vs e => putEntry vs e.1 e.2) []

lemma fill_eq {es : List (Value × Value)}
    (h : es.Pairwise fun e f => f.1.equals e.1 = false) : fill es = es :=
  @foldl_putEntry es [] h

/-- A key that equals a key of the map takes no new place. -/
lemma length_putEntry_le (es : List (Value × Value)) (key val : Value) :
    (putEntry es key val).length ≤ es.length + 1 ∧
      ((∃ e ∈ es, key.equals e.1 = true) → (putEntry es key val).length ≤ es.length) := by
  induction es with
  | nil =>
    refine ⟨le_rfl, ?_⟩
    rintro ⟨e, he, -⟩
    cases he
  | cons e es ih =>
    rw [putEntry]
    by_cases hkey : key.equals e.1 = true
    · rw [if_pos hkey]
      simp
    · rw [if_neg hkey, List.length_cons, List.length_cons]
      refine ⟨by omega, ?_⟩
      rintro ⟨f, hf, hfk⟩
      rcases List.mem_cons.mp hf with rfl | hf
      · exact absurd hfk hkey
      · have hle := ih.2 ⟨f, hf, hfk⟩
        omega

/-- Putting entries adds at most one place for each. -/
lemma length_foldl_putEntry_le (es acc : List (Value × Value)) :
    (es.foldl (fun vs e => putEntry vs e.1 e.2) acc).length ≤ acc.length + es.length := by
  induction es generalizing acc with
  | nil => simp
  | cons e es ih =>
    have hput := (length_putEntry_le acc e.1 e.2).1
    have hrest := ih (putEntry acc e.1 e.2)
    rw [List.foldl_cons, List.length_cons]
    omega

/-- **Only entries with pairwise different keys fill as many places as they are.**

**Proof sketch.** Induction on the entries, for every map to begin with: a key that is there
already leaves a place too few for the entries after it. -/
theorem pairwise_of_length_foldl {es acc : List (Value × Value)}
    (hacc : acc.Pairwise fun e f => f.1.equals e.1 = false)
    (h : acc.length + es.length ≤ (es.foldl (fun vs e => putEntry vs e.1 e.2) acc).length) :
    (acc ++ es).Pairwise fun e f => f.1.equals e.1 = false := by
  induction es generalizing acc with
  | nil => rwa [List.append_nil]
  | cons e es ih =>
    rw [List.foldl_cons, List.length_cons] at h
    have hrest := length_foldl_putEntry_le es (putEntry acc e.1 e.2)
    have hnew : ∀ f ∈ acc, e.1.equals f.1 = false := by
      intro f hf
      by_contra hne
      have hle := (length_putEntry_le acc e.1 e.2).2 ⟨f, hf, by simpa using hne⟩
      omega
    have hput : putEntry acc e.1 e.2 = acc ++ [e] := putEntry_of_new hnew
    rw [hput] at h
    have hacc' : (acc ++ [e]).Pairwise fun e f => f.1.equals e.1 = false := by
      refine List.pairwise_append.mpr ⟨hacc, List.pairwise_singleton _ e, fun f hf g hg => ?_⟩
      rw [List.mem_singleton.mp hg]
      exact hnew f hf
    have happ := ih hacc' (by rw [List.length_append, List.length_singleton]; omega)
    rwa [List.append_assoc, List.singleton_append] at happ

/-- Entries fill as many places as they are just if their keys are pairwise different. -/
lemma pairwise_of_length_fill {es : List (Value × Value)} (h : es.length ≤ (fill es).length) :
    es.Pairwise fun e f => f.1.equals e.1 = false := by
  refine @pairwise_of_length_foldl es [] List.Pairwise.nil ?_
  rw [List.length_nil, Nat.zero_add]
  exact h

/-! ## What is read back -/

mutual

/-- **The value that is read back**: the normal form, but that the entries of a map are put into
the map one after another. -/
def readBack : Value → Value
  | .intArray vs => .integerArray (vs.map some)
  | .longArray vs => .boxedLongArray (vs.map some)
  | .boolArray vs => .list (vs.map .bool)
  | .list vs => .list (readBackList vs)
  | .set vs => .map (fill (readBackNumbered 1 vs))
  | .map es => .map (fill (readBackEntries es))
  | v => v

/-- The elements of a list, as they are read back. -/
def readBackList : List Value → List Value
  | [] => []
  | v :: vs => v.readBack :: readBackList vs

/-- The elements of a set with their numbers from `p` on, as they are read back. -/
def readBackNumbered (p : Int32) : List Value → List (Value × Value)
  | [] => []
  | v :: vs => (.int p, v.readBack) :: readBackNumbered (p + 1) vs

/-- The entries of a map, as they are read back. -/
def readBackEntries : List (Value × Value) → List (Value × Value)
  | [] => []
  | (k, v) :: es => (k.readBack, v.readBack) :: readBackEntries es

end

lemma readBackList_eq (vs : List Value) : readBackList vs = vs.map readBack := by
  induction vs with
  | nil => rfl
  | cons v vs ih => rw [readBackList, ih, List.map_cons]

/-- Only null is read back as null. -/
@[simp] lemma isNull_readBack (v : Value) : v.readBack.isNull = v.isNull := by
  cases v <;> simp [readBack, isNull]

lemma readBackEntries_eq (es : List (Value × Value)) :
    readBackEntries es = es.map fun e => (e.1.readBack, e.2.readBack) := by
  induction es with
  | nil => rfl
  | cons e es ih => rw [readBackEntries, ih, List.map_cons]

/-- The entries of a map fill the map that is read back. -/
lemma fill_readBackEntries (es : List (Value × Value)) : fill (readBackEntries es) =
    es.foldl (fun vs e => putEntry vs e.1.readBack e.2.readBack) [] := by
  rw [fill, readBackEntries_eq, List.foldl_map]

lemma readBackNumbered_eq (p : Int32) (vs : List Value) :
    readBackNumbered p vs = readBackEntries (numbered p vs) := by
  induction vs generalizing p with
  | nil => rfl
  | cons v vs ih =>
    rw [readBackNumbered, ih, numbered, readBackEntries]
    rfl

mutual

/-- **The keys are kept**: in every map in the value, keys are also different in normal form. -/
def KeepsKeys : Value → Prop
  | .list vs => KeepsKeysList vs
  | .set vs => KeepsKeysList vs
  | .map es => KeepsKeysEntries es ∧
      (normalEntries es).Pairwise fun e f => f.1.equals e.1 = false
  | _ => True

/-- The keys are kept in every element. -/
def KeepsKeysList : List Value → Prop
  | [] => True
  | v :: vs => v.KeepsKeys ∧ KeepsKeysList vs

/-- The keys are kept in every key and every value. -/
def KeepsKeysEntries : List (Value × Value) → Prop
  | [] => True
  | (k, v) :: es => (k.KeepsKeys ∧ v.KeepsKeys) ∧ KeepsKeysEntries es

end

lemma keepsKeysList_iff (vs : List Value) : KeepsKeysList vs ↔ ∀ v ∈ vs, v.KeepsKeys := by
  induction vs with
  | nil => simp [KeepsKeysList]
  | cons v vs ih => rw [KeepsKeysList, ih, List.forall_mem_cons]

lemma keepsKeysEntries_iff (es : List (Value × Value)) :
    KeepsKeysEntries es ↔ ∀ e ∈ es, e.1.KeepsKeys ∧ e.2.KeepsKeys := by
  induction es with
  | nil => simp [KeepsKeysEntries]
  | cons e es ih => rw [KeepsKeysEntries, ih, List.forall_mem_cons]

/-- Scalar keys are kept. -/
lemma WellFormed.keepsKeys {v : Value} (h : v.WellFormed) : v.KeepsKeys := by
  induction h with
  | list _ _ ih => exact (keepsKeysList_iff _).mpr ih
  | set _ _ ih => exact (keepsKeysList_iff _).mpr ih
  | map _ hscalar _ _ hdistinct ihk ihv =>
    exact ⟨(keepsKeysEntries_iff _).mpr fun e he => ⟨ihk e he, ihv e he⟩,
      pairwise_normalEntries hscalar hdistinct⟩
  | _ => trivial

/-- Number keys are pairwise different, read back as written. -/
lemma pairwise_readBackNumbered {vs : List Value} (hlen : vs.length < 2 ^ 31) :
    (readBackEntries (numbered 1 vs)).Pairwise fun e f => f.1.equals e.1 = false := by
  have hone : (1 : Int32).toInt = 1 := rfl
  have hfit : (1 : Int32).toInt + vs.length ≤ 2 ^ 31 := by omega
  rw [readBackEntries_eq]
  refine List.pairwise_map.mpr ((pairwise_numbered hfit).imp_of_mem fun he hf hne => ?_)
  obtain ⟨p, hp, -⟩ := mem_numbered hfit he
  obtain ⟨q, hq, -⟩ := mem_numbered hfit hf
  rw [hp, hq] at hne ⊢
  exact hne

/-- Elements with the same numbers agree just if the elements do. -/
lemma normalNumbered_inj (p : Int32) (vs : List Value) :
    readBackNumbered p vs = normalNumbered p vs ↔ ∀ v ∈ vs, v.readBack = v.normal := by
  induction vs generalizing p with
  | nil => simp [readBackNumbered, normalNumbered]
  | cons v vs ih => simp [readBackNumbered, normalNumbered, ih]

/-- **The normal form is read back just if the keys are kept.**

**Proof sketch.** Induction on the value. Where keys coincide in normal form, the map that is read
back has fewer entries than the normal form; otherwise the entries are put in order. -/
theorem readBack_eq_normal_iff {v : Value} (hv : v.Valid) :
    v.readBack = v.normal ↔ v.KeepsKeys := by
  induction hv with
  | @list vs _ _ ih =>
    rw [readBack, normal, KeepsKeys, readBackList_eq, normalList_eq, keepsKeysList_iff,
      Value.list.injEq, List.map_inj_left]
    exact forall₂_congr ih
  | @set vs hlen _ ih =>
    have hfill := fill_eq (pairwise_readBackNumbered hlen)
    rw [← readBackNumbered_eq] at hfill
    rw [readBack, normal, KeepsKeys, hfill, keepsKeysList_iff, Value.map.injEq,
      normalNumbered_inj]
    exact forall₂_congr ih
  | @map es _ _ _ _ ihk ihv =>
    have hparts : readBackEntries es = normalEntries es ↔ KeepsKeysEntries es := by
      rw [readBackEntries_eq, normalEntries_eq, keepsKeysEntries_iff, List.map_inj_left]
      refine forall₂_congr fun e he => ?_
      rw [Prod.mk.injEq, ihk e he, ihv e he]
    rw [readBack, normal, KeepsKeys, Value.map.injEq]
    constructor
    · intro h
      have hlen : (readBackEntries es).length ≤ (fill (readBackEntries es)).length := by
        rw [h, readBackEntries_eq, normalEntries_eq, List.length_map, List.length_map]
      have hdistinct := pairwise_of_length_fill hlen
      rw [fill_eq hdistinct] at h
      exact ⟨hparts.mp h, h ▸ hdistinct⟩
    · rintro ⟨hkeep, hdistinct⟩
      rw [hparts.mpr hkeep, fill_eq hdistinct]
  | _ => simp [readBack, normal, KeepsKeys]

end Value

end SrgpGame
