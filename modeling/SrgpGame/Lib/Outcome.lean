import SrgpGame.Lib.Reader

set_option autoImplicit false

/-!
# Outcomes of readers

`Reader.Reads` and `Reader.Fails` say what a reader does with bytes that are known. Put before
bytes that somebody else chose, a reader has two good outcomes: it takes bytes from the front and
returns what they stand for, or it fails in one of the ways it may fail in. This file has that
triple and its rules, one for each way of building a reader, and the equations that bring different
loops to the form `Reader.times`.

## Main definitions

* `Reader.Yields` — `r`, put before `buf`, returns a value for the bytes it takes or fails as it
  may.
* `Reader.Refines` — what one reader returns another returns too.
* `pairUp` — a list taken two by two.

## Main results

* `Reader.Yields.bind`, `Reader.Yields.times` — the rules for sequences and loops.
* `Reader.Refines.bind`, `Reader.Refines.times` — refinement goes through them.
* `Reader.times_map`, `Reader.times_pairs`, `Reader.foldTimes_eq` — loops as `Reader.times`.
* `toLE_ofLE` — bytes are the digits of the number they make.
-/

/-- The list taken two by two; a last single value is left out. -/
def pairUp {α : Type} : List α → List (α × α)
  | a :: b :: as => (a, b) :: pairUp as
  | _ => []

namespace Reader

variable {ε α β γ : Type}

/-! ## Outcomes -/

/-- **The outcome triple**: put before `buf`, the reader takes bytes `bs` from the front and
returns a value `a` with `P bs a`, or it fails with an error in `E`. -/
def Yields (r : Reader ε α) (buf : List UInt8) (P : List UInt8 → α → Prop) (E : ε → Prop) : Prop :=
  match r.run buf with
  | .ok (a, rest) => ∃ bs, buf = bs ++ rest ∧ P bs a
  | .error e => E e

variable {r : Reader ε α} {buf : List UInt8} {P : List UInt8 → α → Prop} {E : ε → Prop}

lemma Yields.of_ok {a : α} {rest : List UInt8} (h : Yields r buf P E)
    (hrun : r.run buf = .ok (a, rest)) : ∃ bs, buf = bs ++ rest ∧ P bs a := by
  unfold Yields at h
  rwa [hrun] at h

lemma Yields.of_error {e : ε} (h : Yields r buf P E) (hrun : r.run buf = .error e) : E e := by
  unfold Yields at h
  rwa [hrun] at h

/-- A triple is shown for either outcome. -/
lemma yields_of (hok : ∀ a rest, r.run buf = .ok (a, rest) → ∃ bs, buf = bs ++ rest ∧ P bs a)
    (herror : ∀ e, r.run buf = .error e → E e) : Yields r buf P E := by
  unfold Yields
  cases hrun : r.run buf with
  | ok p => exact hok p.1 p.2 hrun
  | error e => exact herror e hrun

lemma Yields.mono {Q : List UInt8 → α → Prop} (h : Yields r buf P E)
    (hPQ : ∀ bs a, P bs a → Q bs a) : Yields r buf Q E := by
  refine yields_of (fun a rest hrun => ?_) fun e hrun => h.of_error hrun
  obtain ⟨bs, hbuf, hP⟩ := h.of_ok hrun
  exact ⟨bs, hbuf, hPQ bs a hP⟩

lemma yields_pure {a : α} (h : P [] a) : Yields (pure a) buf P E := ⟨[], rfl, h⟩

lemma yields_throw {e : ε} (h : E e) : Yields (throw e : Reader ε α) buf P E := h

/-- **Sequence rule**: the second reader is put before what the first one leaves. -/
theorem Yields.bind {f : α → Reader ε β} {Q : List UInt8 → β → Prop} (h : Yields r buf P E)
    (hf : ∀ bs a rest, buf = bs ++ rest → P bs a →
      Yields (f a) rest (fun cs b => Q (bs ++ cs) b) E) :
    Yields (r >>= f) buf Q E := by
  unfold Yields
  rw [StateT.run_bind]
  cases hrun : r.run buf with
  | error e => exact h.of_error hrun
  | ok p =>
    obtain ⟨bs, hbuf, hP⟩ := h.of_ok hrun
    have hnext := hf bs p.1 p.2 hbuf hP
    change match (f p.1).run p.2 with
      | .ok (b, rest) => ∃ cs, buf = cs ++ rest ∧ Q cs b
      | .error e => E e
    cases hrun' : (f p.1).run p.2 with
    | error e => exact hnext.of_error hrun'
    | ok q =>
      obtain ⟨cs, hmid, hQ⟩ := hnext.of_ok hrun'
      refine ⟨bs ++ cs, ?_, hQ⟩
      rw [hbuf, hmid, List.append_assoc]

lemma Yields.map {f : α → β} {Q : List UInt8 → β → Prop}
    (h : Yields r buf (fun bs a => Q bs (f a)) E) : Yields (f <$> r) buf Q E := by
  rw [← bind_pure_comp]
  refine h.bind fun bs a rest _ hQ => yields_pure ?_
  rwa [List.append_nil]

lemma yields_take {e : ε} (he : E e) (k : ℕ) (buf : List UInt8) :
    Yields (take e k) buf (fun bs a => a = bs ∧ bs.length = k) E := by
  refine yields_of (fun a rest hrun => ?_) fun e' hrun => ?_
  · obtain ⟨hbuf, hlen⟩ := run_take_eq_ok hrun
    exact ⟨a, hbuf, rfl, hlen⟩
  · change (if buf.length < k then Except.error e else _) = _ at hrun
    split at hrun
    · cases hrun
      exact he
    · cases hrun

lemma yields_byte {e : ε} (he : E e) (buf : List UInt8) :
    Yields (byte e) buf (fun bs b => bs = [b]) E := by
  cases buf with
  | nil => exact he
  | cons b rest => exact ⟨[b], rfl, rfl⟩

/-- **Loop rule**: an invariant of the bytes taken and the values returned so far that every round
keeps holds when the loop ends, and a loop ends only after all its rounds or when one fails.

**Proof sketch.** Induction on the rounds that are left, for any bytes already taken. -/
theorem Yields.times {I : List UInt8 → List α → Prop} {k : ℕ} (hstart : I [] [])
    (hstep : ∀ bs as rest, buf = bs ++ rest → as.length < k → I bs as →
      Yields r rest (fun cs a => I (bs ++ cs) (as ++ [a])) E) :
    Yields (Reader.times r k) buf (fun bs as => I bs as ∧ as.length = k) E := by
  suffices hleft : ∀ left bs as rest, buf = bs ++ rest → as.length + left = k → I bs as →
      Yields (Reader.times r left) rest
        (fun cs vs => I (bs ++ cs) (as ++ vs) ∧ (as ++ vs).length = k) E from
    hleft k [] [] buf rfl (Nat.zero_add k) hstart
  intro left
  induction left with
  | zero =>
    intro bs as rest _ hk hI
    apply yields_pure
    rw [List.append_nil, List.append_nil]
    exact ⟨hI, hk⟩
  | succ left ih =>
    intro bs as rest hbuf hk hI
    refine (hstep bs as rest hbuf (by omega) hI).bind fun cs a rest' hrest hI' => ?_
    have hbuf' : buf = (bs ++ cs) ++ rest' := by rw [hbuf, hrest, List.append_assoc]
    have hk' : (as ++ [a]).length + left = k := by
      rw [List.length_append, List.length_singleton]
      omega
    refine (ih (bs ++ cs) (as ++ [a]) rest' hbuf' hk' hI').bind fun ds vs _ _ hend => ?_
    apply yields_pure
    simpa only [List.append_nil, List.append_assoc, List.singleton_append] using hend

/-! ## Loops -/

lemma times_zero (r : Reader ε α) : Reader.times r 0 = pure [] := rfl

lemma times_succ (r : Reader ε α) (k : ℕ) :
    Reader.times r (k + 1) = do
      let a ← r
      let as ← Reader.times r k
      return a :: as := rfl

/-- A loop is its first rounds and then the others. -/
lemma times_add (r : Reader ε α) (j k : ℕ) :
    Reader.times r (j + k) = do
      let as ← Reader.times r j
      let bs ← Reader.times r k
      return as ++ bs := by
  induction j with
  | zero => simp [times_zero]
  | succ j ih =>
    rw [Nat.add_right_comm, times_succ, times_succ, ih]
    simp

/-- Results changed in every round are results changed at the end. -/
theorem times_map (f : α → β) (r : Reader ε α) (k : ℕ) :
    Reader.times (f <$> r) k = List.map f <$> Reader.times r k := by
  induction k with
  | zero => simp [times_zero]
  | succ k ih =>
    rw [times_succ, times_succ, ih]
    simp

/-- **Rounds of two**: a loop that reads two values in a round is the loop that reads twice as many
values. -/
theorem times_pairs (r : Reader ε α) (k : ℕ) :
    Reader.times (do let a ← r; let b ← r; return (a, b)) k =
      pairUp <$> Reader.times r (2 * k) := by
  induction k with
  | zero => simp [times_zero, pairUp]
  | succ k ih =>
    rw [Nat.mul_succ, times_succ, times_succ, times_succ, ih]
    simp [pairUp]

/-- **Accumulating loops**: a loop whose rounds update an accumulator with what they read collects
what it reads and folds it. -/
theorem foldTimes_eq (upd : β → α → β) (r : Reader ε α) (k : ℕ) (acc : β) :
    Reader.foldTimes (fun acc => upd acc <$> r) k acc =
      List.foldl upd acc <$> Reader.times r k := by
  induction k generalizing acc with
  | zero => simp [Reader.foldTimes, times_zero]
  | succ k ih =>
    rw [Reader.foldTimes, times_succ]
    simp [ih]

/-- A loop fails in a round that fails after rounds that read. -/
theorem fails_times {bs cs : List UInt8} {as : List α} {e : ε} {k : ℕ}
    (hbegins : Reads (Reader.times r as.length) bs as) (hfail : Fails r cs e)
    (hk : as.length < k) : Fails (Reader.times r k) (bs ++ cs) e := by
  obtain ⟨left, rfl⟩ : ∃ left, k = as.length + (left + 1) := ⟨k - as.length - 1, by omega⟩
  rw [times_add]
  refine hbegins.bind_fails ?_
  have hrest := (hfail.bind fun a => do let vs ← Reader.times r left; return a :: vs) []
  rw [List.append_nil] at hrest
  have hloop := (hrest.bind fun vs => pure (as ++ vs)) []
  rwa [List.append_nil] at hloop

/-! ## Refinement -/

/-- **Refinement**: before at most `n` bytes, whatever `r` returns `r'` returns, with the same bytes
left, and no more of them than before; where `r` fails, `r'` may do anything. -/
def Refines {ε' : Type} (n : ℕ) (r : Reader ε α) (r' : Reader ε' α) : Prop :=
  ∀ buf p, buf.length ≤ n → r.run buf = .ok p → r'.run buf = .ok p ∧ p.2.length ≤ buf.length

section Refines

variable {ε' : Type} {n : ℕ} {r : Reader ε α} {r' : Reader ε' α}

lemma refines_pure (n : ℕ) (a : α) : Refines n (pure a : Reader ε α) (pure a : Reader ε' α) := by
  intro buf p _ h
  cases h
  exact ⟨rfl, le_rfl⟩

/-- What fails refines everything. -/
lemma refines_throw (n : ℕ) (e : ε) (r' : Reader ε' α) :
    Refines n (throw e : Reader ε α) r' := by
  intro buf p _ h
  cases h

lemma refines_take (n : ℕ) (e : ε) (e' : ε') (k : ℕ) : Refines n (take e k) (take e' k) := by
  intro buf p _ h
  change (if buf.length < k then Except.error e else .ok (buf.take k, buf.drop k)) = _ at h
  change (if buf.length < k then Except.error e' else .ok (buf.take k, buf.drop k)) = _ ∧ _
  split at h
  · cases h
  · next hlong =>
    cases h
    rw [if_neg hlong]
    exact ⟨rfl, by rw [List.length_drop]; omega⟩

/-- Refinement goes through sequences. -/
theorem Refines.bind {f : α → Reader ε β} {f' : α → Reader ε' β} (h : Refines n r r')
    (hf : ∀ a, Refines n (f a) (f' a)) : Refines n (r >>= f) (r' >>= f') := by
  intro buf p hn hrun
  obtain ⟨a, mid, hr, hfa⟩ := run_bind_eq_ok hrun
  obtain ⟨hr', hmid⟩ := h buf _ hn hr
  obtain ⟨hfa', hrest⟩ := hf a mid p (hmid.trans hn) hfa
  rw [StateT.run_bind, hr']
  exact ⟨hfa', hrest.trans hmid⟩

/-- What comes after a byte has one byte fewer before it. -/
lemma Refines.byte_bind (e : ε) (e' : ε') {f : UInt8 → Reader ε β} {f' : UInt8 → Reader ε' β}
    (hf : ∀ b, Refines n (f b) (f' b)) :
    Refines (n + 1) (byte e >>= f) (byte e' >>= f') := by
  intro buf p hn hrun
  cases buf with
  | nil => cases hrun
  | cons b rest =>
    obtain ⟨hrun', hrest⟩ := hf b rest p (Nat.le_of_succ_le_succ hn) hrun
    exact ⟨hrun', hrest.trans (Nat.le_succ _)⟩

lemma Refines.map (h : Refines n r r') (f : α → β) : Refines n (f <$> r) (f <$> r') := by
  rw [← bind_pure_comp, ← bind_pure_comp]
  exact h.bind fun a => refines_pure n (f a)

lemma Refines.times (h : Refines n r r') (k : ℕ) :
    Refines n (Reader.times r k) (Reader.times r' k) := by
  induction k with
  | zero => exact refines_pure n []
  | succ k ih => exact h.bind fun a => ih.bind fun as => refines_pure n (a :: as)

lemma Refines.foldTimes {body : β → Reader ε β} {body' : β → Reader ε' β}
    (h : ∀ acc, Refines n (body acc) (body' acc)) (k : ℕ) (acc : β) :
    Refines n (Reader.foldTimes body k acc) (Reader.foldTimes body' k acc) := by
  induction k generalizing acc with
  | zero => exact refines_pure n acc
  | succ k ih => exact (h acc).bind ih

/-- Two choices with the same test. -/
lemma Refines.ite {c : Prop} [Decidable c] {s : Reader ε α} {s' : Reader ε' α}
    (hthen : Refines n r r') (helse : Refines n s s') :
    Refines n (if c then r else s) (if c then r' else s') := by
  by_cases hc : c
  · rwa [if_pos hc, if_pos hc]
  · rwa [if_neg hc, if_neg hc]

end Refines

end Reader

/-! ## Little-endian numbers -/

/-- **Bytes are digits**: the digits of the number that bytes make are the bytes. -/
theorem toLE_ofLE (bs : List UInt8) : toLE bs.length (ofLE bs) = bs := by
  induction bs with
  | nil => rfl
  | cons b bs ih =>
    have hbyte := b.toNat_lt
    have hhead : UInt8.ofNat (b.toNat + 256 * ofLE bs) = b := by
      apply UInt8.toNat_inj.mp
      rw [UInt8.toNat_ofNat']
      omega
    have htail : (b.toNat + 256 * ofLE bs) / 256 = ofLE bs := by omega
    rw [List.length_cons, ofLE, toLE, hhead, htail, ih]

lemma ofLE_lt (bs : List UInt8) : ofLE bs < 256 ^ bs.length := by
  induction bs with
  | nil => simp [ofLE]
  | cons b bs ih =>
    have hbyte := b.toNat_lt
    rw [ofLE, List.length_cons, pow_succ]
    omega

lemma intLE_ofIntLE {bs : List UInt8} (h : bs.length = 4) : intLE (ofIntLE bs) = bs := by
  have hlt := ofLE_lt bs
  rw [h] at hlt
  rw [intLE, ofIntLE, UInt32.toUInt32_toInt32, UInt32.toNat_ofNat_of_lt' hlt, ← h, toLE_ofLE]

lemma longLE_ofLongLE {bs : List UInt8} (h : bs.length = 8) : longLE (ofLongLE bs) = bs := by
  have hlt := ofLE_lt bs
  rw [h] at hlt
  rw [longLE, ofLongLE, UInt64.toUInt64_toInt64, UInt64.toNat_ofNat_of_lt' hlt, ← h, toLE_ofLE]

lemma wordLE_ofWordLE {bs : List UInt8} (h : bs.length = 8) : wordLE (ofWordLE bs) = bs := by
  have hlt := ofLE_lt bs
  rw [h] at hlt
  rw [wordLE, ofWordLE, UInt64.toNat_ofNat_of_lt' hlt, ← h, toLE_ofLE]

lemma intLE_injective {v w : Int32} (h : intLE v = intLE w) : v = w := by
  rw [← ofIntLE_intLE v, h, ofIntLE_intLE]

namespace Reader

variable {ε : Type} {E : ε → Prop}

lemma yields_int {e : ε} (he : E e) (buf : List UInt8) :
    Yields (int e) buf (fun bs v => bs = intLE v) E := by
  refine ((yields_take he 4 buf).mono fun bs a h => ?_).map
  rw [h.1, intLE_ofIntLE h.2]

lemma yields_long {e : ε} (he : E e) (buf : List UInt8) :
    Yields (long e) buf (fun bs v => bs = longLE v) E := by
  refine ((yields_take he 8 buf).mono fun bs a h => ?_).map
  rw [h.1, longLE_ofLongLE h.2]

lemma yields_word {e : ε} (he : E e) (buf : List UInt8) :
    Yields (word e) buf (fun bs v => bs = wordLE v) E := by
  refine ((yields_take he 8 buf).mono fun bs a h => ?_).map
  rw [h.1, wordLE_ofWordLE h.2]

end Reader
