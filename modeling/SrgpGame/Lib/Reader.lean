import Mathlib.Data.List.Basic
import Mathlib.Tactic.Common
import Mathlib.Tactic.Ring

set_option autoImplicit false

/-!
# Readers of byte strings

A reader takes bytes from the front of a byte string and returns a value with the bytes it left,
or fails. A format is proved right by showing that its reader, put before what its writer wrote,
takes exactly that and returns the value; this file has that relation and its rules, one for each
way of building a reader.

## Main definitions

* `Reader` — a reader, as a state monad over the remaining bytes.
* `Reader.Reads` — `r` reads the bytes `bs` as the value `a`, whatever follows.
* `Reader.Fails` — `r` fails on the bytes `bs`, whatever follows.
* `Reader.take`, `Reader.times`, `Reader.foldTimes` — the next `k` bytes; a reader repeated, with
  its results collected or accumulated.
* `toLE`, `ofLE` — little-endian numbers.

## Main results

* `Reader.Reads.bind`, `Reader.Reads.times`, `Reader.Reads.mapM`, `Reader.Reads.foldTimes` — the
  rules for sequences and loops.
* `Reader.Fails.foldTimes` — a loop fails in the round that fails.
* `ofLE_toLE` — a little-endian number is read back.
-/

/-- A reader: it takes bytes from the front and returns a value, or fails with an `ε`. -/
abbrev Reader (ε : Type) := StateT (List UInt8) (Except ε)

namespace Reader

variable {ε α β γ : Type}

/-- **The reading relation**: put before any bytes `rest`, the bytes `bs` are read as `a`, and
exactly `rest` is left. -/
def Reads (r : Reader ε α) (bs : List UInt8) (a : α) : Prop :=
  ∀ rest, r.run (bs ++ rest) = .ok (a, rest)

lemma Reads.pure (a : α) : Reads (pure a : Reader ε α) [] a := fun _ => rfl

/-- **Sequence rule**: what the second reader reads follows what the first one reads. -/
theorem Reads.bind {r : Reader ε α} {f : α → Reader ε β} {bs cs : List UInt8} {a : α} {b : β}
    (hr : Reads r bs a) (hf : Reads (f a) cs b) : Reads (r >>= f) (bs ++ cs) b := by
  intro rest
  rw [StateT.run_bind, List.append_assoc, hr (cs ++ rest)]
  exact hf rest

lemma Reads.map {r : Reader ε α} {bs : List UInt8} {a : α} (hr : Reads r bs a) (f : α → β) :
    Reads (f <$> r) bs (f a) := by
  intro rest
  rw [StateT.run_map, hr rest]
  rfl

/-- What is read and what is left are determined by the bytes. -/
lemma Reads.unique {r : Reader ε α} {bs : List UInt8} {a b : α} (ha : Reads r bs a)
    (hb : Reads r bs b) : a = b := by
  have h := (ha []).symm.trans (hb [])
  simpa using h

/-- The second reader of a sequence reads what the first one leaves. -/
lemma Reads.of_bind {r : Reader ε α} {f : α → Reader ε β} {bs cs : List UInt8} {a : α} {b : β}
    (hr : Reads r bs a) (h : Reads (r >>= f) (bs ++ cs) b) : Reads (f a) cs b := by
  intro rest
  have hrun := h rest
  rw [StateT.run_bind, List.append_assoc, hr (cs ++ rest)] at hrun
  exact hrun

/-- **The failing relation**: put before any bytes, the bytes `bs` make the reader fail with `e`. -/
def Fails (r : Reader ε α) (bs : List UInt8) (e : ε) : Prop :=
  ∀ rest, r.run (bs ++ rest) = .error e

lemma fails_throw (e : ε) : Fails (throw e : Reader ε α) [] e := fun _ => rfl

/-- A reader that fails does not read. -/
lemma Fails.not_reads {r : Reader ε α} {bs : List UInt8} {e : ε} {a : α} (hf : Fails r bs e) :
    ¬Reads r bs a := by
  intro hr
  have h := (hf []).symm.trans (hr [])
  cases h

/-- What fails first fails the sequence. -/
lemma Fails.bind {r : Reader ε α} {bs : List UInt8} {e : ε} (hr : Fails r bs e)
    (f : α → Reader ε β) (cs : List UInt8) : Fails (r >>= f) (bs ++ cs) e := by
  intro rest
  rw [StateT.run_bind, List.append_assoc, hr (cs ++ rest)]
  rfl

/-- What fails after the first reader fails the sequence. -/
lemma Reads.bind_fails {r : Reader ε α} {f : α → Reader ε β} {bs cs : List UInt8} {a : α} {e : ε}
    (hr : Reads r bs a) (hf : Fails (f a) cs e) : Fails (r >>= f) (bs ++ cs) e := by
  intro rest
  rw [StateT.run_bind, List.append_assoc, hr (cs ++ rest)]
  exact hf rest

lemma Fails.map {r : Reader ε α} {bs : List UInt8} {e : ε} (hr : Fails r bs e) (f : α → β) :
    Fails (f <$> r) bs e := by
  intro rest
  rw [StateT.run_map, hr rest]
  rfl

/-- A reader with its failures put as failures of another kind. -/
def mapError {ε' : Type} (g : ε → ε') (r : Reader ε α) : Reader ε' α := fun buf =>
  (r.run buf).mapError g

lemma Reads.mapError {ε' : Type} {r : Reader ε α} {bs : List UInt8} {a : α} (hr : Reads r bs a)
    (g : ε → ε') : Reads (r.mapError g) bs a := by
  intro rest
  change (r.run (bs ++ rest)).mapError g = _
  rw [hr rest]
  rfl

/-! ## Successful runs -/

/-- A sequence succeeds when both readers do, one after the other. -/
lemma run_bind_eq_ok {r : Reader ε α} {f : α → Reader ε β} {buf rest : List UInt8} {b : β}
    (h : (r >>= f).run buf = .ok (b, rest)) :
    ∃ a mid, r.run buf = .ok (a, mid) ∧ (f a).run mid = .ok (b, rest) := by
  rw [StateT.run_bind] at h
  cases hr : r.run buf with
  | error e =>
    rw [hr] at h
    cases h
  | ok p =>
    rw [hr] at h
    exact ⟨p.1, p.2, rfl, h⟩

lemma run_map_eq_ok {r : Reader ε α} {f : α → β} {buf rest : List UInt8} {b : β}
    (h : (f <$> r).run buf = .ok (b, rest)) : ∃ a, r.run buf = .ok (a, rest) ∧ f a = b := by
  rw [StateT.run_map] at h
  cases hr : r.run buf with
  | error e =>
    rw [hr] at h
    cases h
  | ok p =>
    rw [hr] at h
    have hpair : (f p.1, p.2) = (b, rest) := Except.ok.inj h
    obtain ⟨hb, rfl⟩ := Prod.mk.inj hpair
    exact ⟨p.1, rfl, hb⟩

lemma run_mapError_eq_ok {ε' : Type} {r : Reader ε α} {g : ε → ε'} {buf rest : List UInt8} {a : α}
    (h : (r.mapError g).run buf = .ok (a, rest)) : r.run buf = .ok (a, rest) := by
  change (r.run buf).mapError g = _ at h
  cases hr : r.run buf with
  | error e =>
    rw [hr] at h
    cases h
  | ok p =>
    rw [hr] at h
    exact congrArg Except.ok (Except.ok.inj h)

/-! ## Bytes -/

/-- The next `k` bytes; fails with `e` and takes nothing when there are fewer. -/
def take (e : ε) (k : ℕ) : Reader ε (List UInt8) := fun buf =>
  if buf.length < k then .error e else .ok (buf.take k, buf.drop k)

/-- The next byte. -/
def byte (e : ε) : Reader ε UInt8 := fun buf =>
  match buf with
  | [] => .error e
  | b :: rest => .ok (b, rest)

lemma reads_take (e : ε) {bs : List UInt8} {k : ℕ} (hk : bs.length = k) :
    Reads (take e k) bs bs := by
  intro rest
  subst hk
  change (if (bs ++ rest).length < bs.length then _ else _) = _
  rw [if_neg (by simp)]
  simp

/-- What is taken was in front, and has the length that was asked for. -/
lemma run_take_eq_ok {e : ε} {k : ℕ} {buf bs rest : List UInt8}
    (h : (take e k).run buf = .ok (bs, rest)) : buf = bs ++ rest ∧ bs.length = k := by
  change (if buf.length < k then _ else _) = _ at h
  split at h
  · cases h
  · next hlt =>
    have hpair : (buf.take k, buf.drop k) = (bs, rest) := Except.ok.inj h
    obtain ⟨rfl, rfl⟩ := Prod.mk.inj hpair
    refine ⟨(List.take_append_drop k buf).symm, ?_⟩
    rw [List.length_take]
    omega

lemma reads_byte (e : ε) (b : UInt8) : Reads (byte e) [b] b := fun _ => rfl

/-! ## Loops -/

/-- Reads `k` values one after another. -/
def times (r : Reader ε α) : ℕ → Reader ε (List α)
  | 0 => pure []
  | k + 1 => do
    let a ← r
    let as ← times r k
    return a :: as

/-- **Loop rule**: if `r` reads the encoding of each value of a list, then `r` repeated reads the
concatenation of the encodings.

**Proof sketch.** Induction on the list; the first round takes the first encoding and leaves the
rest in place for the others. -/
theorem Reads.times {r : Reader ε β} {enc : α → List UInt8} {dec : α → β} {as : List α}
    (h : ∀ a ∈ as, Reads r (enc a) (dec a)) :
    Reads (Reader.times r as.length) (as.flatMap enc) (as.map dec) := by
  induction as with
  | nil => exact Reads.pure []
  | cons a as ih =>
    have hhead := h a List.mem_cons_self
    have htail := ih fun b hb => h b (List.mem_cons_of_mem a hb)
    rw [List.flatMap_cons, List.map_cons, List.length_cons]
    have hrest : Reads (do let bs ← Reader.times r as.length; return dec a :: bs)
        (as.flatMap enc ++ []) (dec a :: as.map dec) := htail.bind (Reads.pure _)
    rw [List.append_nil] at hrest
    exact hhead.bind hrest

/-- **Sequence of readers**: if the reader of each item reads its encoding, the readers one after
another read the concatenation of the encodings. -/
theorem Reads.mapM {read : α → Reader ε β} {enc : α → List UInt8} {dec : α → β} {as : List α}
    (h : ∀ a ∈ as, Reads (read a) (enc a) (dec a)) :
    Reads (as.mapM read) (as.flatMap enc) (as.map dec) := by
  induction as with
  | nil => exact Reads.pure []
  | cons a as ih =>
    have hhead := h a List.mem_cons_self
    have htail := ih fun b hb => h b (List.mem_cons_of_mem a hb)
    rw [List.mapM_cons, List.flatMap_cons, List.map_cons]
    have hrest : Reads (do let bs ← as.mapM read; return dec a :: bs)
        (as.flatMap enc ++ []) (dec a :: as.map dec) := htail.bind (Reads.pure _)
    rw [List.append_nil] at hrest
    exact hhead.bind hrest

/-- The last reader of a sequence reads what the others leave. -/
theorem Reads.of_mapM_concat {read : α → Reader ε β} {enc : α → List UInt8} {dec : α → β}
    {as : List α} {a : α} (has : Reads (as.mapM read) (as.flatMap enc) (as.map dec))
    (h : Reads ((as ++ [a]).mapM read) ((as ++ [a]).flatMap enc) ((as ++ [a]).map dec)) :
    Reads (read a) (enc a) (dec a) := by
  rw [List.mapM_append, List.flatMap_append, List.map_append] at h
  intro rest
  obtain ⟨bs, mid, hlast, hpure⟩ := run_bind_eq_ok (has.of_bind h rest)
  obtain ⟨hbs, rfl⟩ := Prod.mk.inj (Except.ok.inj hpure)
  rw [List.mapM_cons] at hlast
  obtain ⟨b, mid', hread, htail⟩ := run_bind_eq_ok hlast
  obtain ⟨rfl, rfl⟩ := Prod.mk.inj (Except.ok.inj htail)
  have hb : b = dec a := by simpa using hbs
  rw [← hb]
  simpa using hread

/-- Runs `body` `k` times on an accumulator. -/
def foldTimes (body : β → Reader ε β) : ℕ → β → Reader ε β
  | 0, acc => pure acc
  | k + 1, acc => do
    let acc ← body acc
    foldTimes body k acc

/-- **Accumulating loop rule**: if a round started with any accumulator reads the encoding of a
value and updates the accumulator with it, the loop reads the concatenation of the encodings and
folds the values. -/
theorem Reads.foldTimes {body : β → Reader ε β} {enc : α → List UInt8} {upd : β → α → β}
    {as : List α} (h : ∀ a ∈ as, ∀ acc, Reads (body acc) (enc a) (upd acc a)) (acc : β) :
    Reads (Reader.foldTimes body as.length acc) (as.flatMap enc) (as.foldl upd acc) := by
  induction as generalizing acc with
  | nil => exact Reads.pure acc
  | cons a as ih =>
    have hhead := h a List.mem_cons_self acc
    rw [List.flatMap_cons, List.length_cons]
    exact hhead.bind (ih (fun b hb => h b (List.mem_cons_of_mem a hb)) (upd acc a))

/-- **Failing loop rule**: if a round reads each value up to one at which it fails, the loop fails
there. -/
theorem Fails.foldTimes {body : β → Reader ε β} {enc : α → List UInt8} {upd : β → α → β}
    {as : List α} {e : ε} (h : ∀ a ∈ as, ∀ acc,
      Reads (body acc) (enc a) (upd acc a) ∨ Fails (body acc) (enc a) e)
    (hfail : ∃ a ∈ as, ∀ acc, Fails (body acc) (enc a) e) (acc : β) :
    Fails (Reader.foldTimes body as.length acc) (as.flatMap enc) e := by
  induction as generalizing acc with
  | nil =>
    obtain ⟨a, ha, -⟩ := hfail
    cases ha
  | cons a as ih =>
    rw [List.flatMap_cons, List.length_cons]
    rcases h a List.mem_cons_self acc with hread | hhead
    · refine hread.bind_fails (ih (fun b hb => h b (List.mem_cons_of_mem a hb)) ?_ (upd acc a))
      obtain ⟨b, hb, hbf⟩ := hfail
      rcases List.mem_cons.mp hb with rfl | hb
      · exact absurd hread (hbf acc).not_reads
      · exact ⟨b, hb, hbf⟩
    · exact hhead.bind _ _

end Reader

/-! ## Little-endian numbers -/

/-- The `k` little-endian digits of `n` to the base 256. -/
def toLE : ℕ → ℕ → List UInt8
  | 0, _ => []
  | k + 1, n => UInt8.ofNat n :: toLE k (n / 256)

/-- The number with the given little-endian digits. -/
def ofLE : List UInt8 → ℕ
  | [] => 0
  | b :: bs => b.toNat + 256 * ofLE bs

@[simp] lemma length_toLE (k n : ℕ) : (toLE k n).length = k := by
  induction k generalizing n with
  | zero => rfl
  | succ k ih => rw [toLE, List.length_cons, ih]

/-- **A little-endian number is read back**, up to the digits that were written. -/
theorem ofLE_toLE (k n : ℕ) : ofLE (toLE k n) = n % 256 ^ k := by
  induction k generalizing n with
  | zero => simp [toLE, ofLE, Nat.mod_one]
  | succ k ih =>
    have hbyte : (UInt8.ofNat n).toNat = n % 256 := UInt8.toNat_ofNat'
    rw [toLE, ofLE, ih, hbyte, pow_succ, Nat.mul_comm (256 ^ k) 256, Nat.mod_mul]

/-- The four bytes of a 32-bit integer. -/
def intLE (v : Int32) : List UInt8 := toLE 4 v.toUInt32.toNat

/-- The eight bytes of a 64-bit integer. -/
def longLE (v : Int64) : List UInt8 := toLE 8 v.toUInt64.toNat

/-- The eight bytes of a 64-bit pattern. -/
def wordLE (v : UInt64) : List UInt8 := toLE 8 v.toNat

@[simp] lemma length_intLE (v : Int32) : (intLE v).length = 4 := length_toLE 4 _

@[simp] lemma length_longLE (v : Int64) : (longLE v).length = 8 := length_toLE 8 _

@[simp] lemma length_wordLE (v : UInt64) : (wordLE v).length = 8 := length_toLE 8 _

/-- The 32-bit integer with the given bytes. -/
def ofIntLE (bs : List UInt8) : Int32 := (UInt32.ofNat (ofLE bs)).toInt32

/-- The 64-bit integer with the given bytes. -/
def ofLongLE (bs : List UInt8) : Int64 := (UInt64.ofNat (ofLE bs)).toInt64

/-- The 64-bit pattern with the given bytes. -/
def ofWordLE (bs : List UInt8) : UInt64 := UInt64.ofNat (ofLE bs)

@[simp] lemma ofIntLE_intLE (v : Int32) : ofIntLE (intLE v) = v := by
  have hlt : v.toUInt32.toNat < 256 ^ 4 := v.toUInt32.toNat_lt
  rw [ofIntLE, intLE, ofLE_toLE, Nat.mod_eq_of_lt hlt, UInt32.ofNat_toNat]
  simp

@[simp] lemma ofLongLE_longLE (v : Int64) : ofLongLE (longLE v) = v := by
  have hlt : v.toUInt64.toNat < 256 ^ 8 := v.toUInt64.toNat_lt
  rw [ofLongLE, longLE, ofLE_toLE, Nat.mod_eq_of_lt hlt, UInt64.ofNat_toNat]
  simp

@[simp] lemma ofWordLE_wordLE (v : UInt64) : ofWordLE (wordLE v) = v := by
  have hlt : v.toNat < 256 ^ 8 := v.toNat_lt
  rw [ofWordLE, wordLE, ofLE_toLE, Nat.mod_eq_of_lt hlt, UInt64.ofNat_toNat]

namespace Reader

variable {ε : Type}

/-- The next 32-bit integer. -/
def int (e : ε) : Reader ε Int32 := ofIntLE <$> take e 4

/-- The next 64-bit integer. -/
def long (e : ε) : Reader ε Int64 := ofLongLE <$> take e 8

/-- The next 64-bit pattern. -/
def word (e : ε) : Reader ε UInt64 := ofWordLE <$> take e 8

lemma reads_int (e : ε) (v : Int32) : Reads (int e) (intLE v) v := by
  have h := (reads_take e (length_intLE v)).map ofIntLE
  rwa [ofIntLE_intLE] at h

/-- An integer takes four bytes. -/
lemma run_int_eq_ok {e : ε} {v : Int32} {buf rest : List UInt8}
    (h : (int e).run buf = .ok (v, rest)) : buf.length = 4 + rest.length := by
  obtain ⟨bs, htake, -⟩ := run_map_eq_ok h
  obtain ⟨rfl, hlen⟩ := run_take_eq_ok htake
  rw [List.length_append, hlen]

lemma reads_long (e : ε) (v : Int64) : Reads (long e) (longLE v) v := by
  have h := (reads_take e (length_longLE v)).map ofLongLE
  rwa [ofLongLE_longLE] at h

lemma reads_word (e : ε) (v : UInt64) : Reads (word e) (wordLE v) v := by
  have h := (reads_take e (length_wordLE v)).map ofWordLE
  rwa [ofWordLE_wordLE] at h

end Reader
